/-
Expansion of includes as a walk, one step at a time.

A `Provider` answers for files like a library, but its answers may depend on what it was asked before, and it may have
files without end. A `Walk` is what is held while a file is flattened: the provider's state, one guard set for the whole
walk, the stack of open files, and what is to happen next. `Provider.step` is one step: an include is asked for, the
innermost open file is read on by a piece, a file that is read to its end leaves the guard and the stack, an answer is
written into the file that asked. A walk need not end.

`Provider.Expands` says the same without steps: the lines that pieces of a file expand to, with a guard that each open
file adds to for its own includes only.
- `Expands.passes`: what `Expands` describes, the walk does, and it comes back to the guard it started with;
- `expands_of_left`: a file that the walk has left was expanded;
- `answers_iff`: so a flattening ends with an answer exactly when the answer is an expansion.
-/
import Mathlib.Data.Finset.Basic
import Mathlib.Logic.Function.Iterate
import GlslInspect.Include.Expansion

namespace GlslInspect

/-! ## Providers -/

/-- a supply of files whose answers may depend on what it was asked before -/
structure Provider (σ ι κ : Type) where
  /-- the meaning of a path in a context, or why it has none -/
  resolve : σ → (context : κ) → (path : Text) → Except Text (Resolved ι κ) × σ
  /-- the text of a file, or why it cannot be read -/
  read : σ → ι → Except Text Text × σ

/-- a library is a provider whose answers never change -/
def Library.provider {ι κ : Type} (library : Library ι κ) : Provider Unit ι κ where
  resolve := fun _ context path => (library.resolve context path, ())
  read := fun _ identity => (library.read identity, ())

/-- an include between its markers; what follows it starts on a fresh line -/
def Source.group (path : Text) (child : Source) : Source :=
  .includeStart path :: (Source.closeLast child ++ [.includeEnd path])

/-! ## Walks -/

structure OpenFile (ι κ : Type) where
  /-- the path of the include that opened it, as spelled -/
  path : Text
  identity : ι
  context : κ
  /-- how many files are open up to this one -/
  depth : ℕ
  /-- the pieces that are not read yet -/
  pending : List Text
  /-- the lines so far -/
  output : Source

inductive Walk.Phase where
  /-- an include is asked for -/
  | asking (path : Text)
  /-- the innermost file is read on -/
  | reading
  /-- an include is answered -/
  | answered (path : Text) (child : Source)

/-- a walk: the provider, the guard, the open files from the innermost on, and what happens next -/
structure Walk (σ ι κ : Type) where
  state : σ
  guard : Finset ι
  files : List (OpenFile ι κ)
  phase : Walk.Phase

namespace Walk

variable {σ ι κ : Type}

/-- nothing is open, and a file is asked for -/
def start (state : σ) (path : Text) : Walk σ ι κ := ⟨state, ∅, [], .asking path⟩

/-- how many files are open, as the innermost file counts them -/
def depth (w : Walk σ ι κ) : ℕ :=
  match w.files with
  | [] => 0
  | file :: _ => file.depth

/-- where includes are looked up: in the context of the innermost file, or in that of the walk -/
def context (root : κ) (w : Walk σ ι κ) : κ :=
  match w.files with
  | [] => root
  | file :: _ => file.context

def identities (w : Walk σ ι κ) : List ι := w.files.map OpenFile.identity

/-- the answer to the first include, once it is there -/
def answer? (w : Walk σ ι κ) : Option Source :=
  match w.files, w.phase with
  | [], .answered _ child => some child
  | _, _ => none

end Walk

namespace Provider

variable {σ ι κ : Type} [DecidableEq ι]

/-- open a file for an include, or give the line that stands for it; and what becomes of the provider -/
def enter (provider : Provider σ ι κ) (limit : Option ℕ) (guard : Finset ι) (depth : ℕ) (state : σ)
    (ask : Request κ) : Except Line (Opened ι κ) × σ :=
  match provider.resolve state ask.context ask.path with
  | (.error _, next) => (.error (.missing ask.path), next)
  | (.ok file, next) =>
    if file.identity ∈ guard then (.error (.circular file.display), next)
    else
      match limit.filter (· < depth) with
      | some n => (.error (.depthLimit file.display n), next)
      | none =>
        match provider.read next file.identity with
        | (.error _, last) => (.error (.missing file.display), last)
        | (.ok text, last) => (.ok { file with text := text }, last)

/-- one step of a walk whose first include is looked up in `root` -/
def step (provider : Provider σ ι κ) (limit : Option ℕ) (root : κ) (w : Walk σ ι κ) : Walk σ ι κ :=
  match w.phase, w.files with
  | .asking path, files =>
    match provider.enter limit w.guard w.depth w.state ⟨path, w.context root⟩ with
    | (.error line, next) => ⟨next, w.guard, files, .answered path [line]⟩
    | (.ok file, next) =>
      ⟨next, insert file.identity w.guard,
        ⟨path, file.identity, file.context, w.depth + 1, Text.pieces file.text, []⟩ :: files, .reading⟩
  | .reading, file :: files =>
    match file.pending with
    | [] => ⟨w.state, w.guard.erase file.identity, files, .answered file.path file.output⟩
    | piece :: rest =>
      match includePath? piece with
      | none =>
        ⟨w.state, w.guard, { file with pending := rest, output := file.output ++ [.code piece] } :: files, .reading⟩
      | some path => ⟨w.state, w.guard, { file with pending := rest } :: files, .asking path⟩
  | .answered path child, file :: files =>
    ⟨w.state, w.guard, { file with output := file.output ++ Source.group path child } :: files, .reading⟩
  | _, [] => w

/-- a walk after a number of steps -/
def run (provider : Provider σ ι κ) (limit : Option ℕ) (root : κ) (w : Walk σ ι κ) (n : ℕ) : Walk σ ι κ :=
  (provider.step limit root)^[n] w

/-- a walk ends: there is an answer, with the provider in a final state -/
def Ends (provider : Provider σ ι κ) (limit : Option ℕ) (root : κ) (w : Walk σ ι κ) (answer : Source) (final : σ) :
    Prop :=
  ∃ n, (provider.run limit root w n).answer? = some answer ∧ (provider.run limit root w n).state = final

def Answers (provider : Provider σ ι κ) (limit : Option ℕ) (state : σ) (context : κ) (path : Text)
    (answer : Source) : Prop :=
  ∃ final, provider.Ends limit context (Walk.start state path) answer final

variable {provider : Provider σ ι κ} {limit : Option ℕ} {root : κ} {guard : Finset ι} {depth : ℕ} {state : σ}

/-! ## What an include can lead to -/

theorem enter_eq_ok {ask : Request κ} {file : Opened ι κ} {next : σ}
    (h : provider.enter limit guard depth state ask = (.ok file, next)) :
    ∃ mid, provider.resolve state ask.context ask.path = (.ok file.toResolved, mid) ∧ file.identity ∉ guard ∧
      provider.read mid file.identity = (.ok file.text, next) := by
  unfold enter at h
  split at h
  · cases h
  · rename_i mid hresolve
    split_ifs at h with hin
    · cases h
    · split at h
      · cases h
      · split at h
        · cases h
        · rename_i hread
          cases h
          exact ⟨mid, hresolve, hin, hread⟩

/-- the line that stands for an include shows the path as spelled, or how the provider shows the file -/
theorem enter_eq_error {ask : Request κ} {line : Line} {next : σ}
    (h : provider.enter limit guard depth state ask = (.error line, next)) :
    line = .missing ask.path ∨ ∃ file mid, provider.resolve state ask.context ask.path = (.ok file, mid) ∧
      (line = .circular file.display ∨ (∃ n, line = .depthLimit file.display n) ∨ line = .missing file.display) := by
  unfold enter at h
  split at h
  · cases h
    exact Or.inl rfl
  · rename_i file mid hresolve
    refine Or.inr ⟨file, mid, hresolve, ?_⟩
    split_ifs at h with hin
    · cases h
      exact Or.inl rfl
    · split at h
      · rename_i n _
        cases h
        exact Or.inr (Or.inl ⟨n, rfl⟩)
      · split at h
        · cases h
          exact Or.inr (Or.inr rfl)
        · cases h

/-! ## Steps and runs -/

theorem step_refused {files : List (OpenFile ι κ)} {path : Text} {line : Line} {next : σ}
    (h : provider.enter limit guard (Walk.depth ⟨state, guard, files, .asking path⟩) state
      ⟨path, Walk.context root ⟨state, guard, files, .asking path⟩⟩ = (.error line, next)) :
    provider.step limit root ⟨state, guard, files, .asking path⟩ = ⟨next, guard, files, .answered path [line]⟩ := by
  simp only [step, h]

theorem step_opened {files : List (OpenFile ι κ)} {path : Text} {file : Opened ι κ} {next : σ}
    (h : provider.enter limit guard (Walk.depth ⟨state, guard, files, .asking path⟩) state
      ⟨path, Walk.context root ⟨state, guard, files, .asking path⟩⟩ = (.ok file, next)) :
    provider.step limit root ⟨state, guard, files, .asking path⟩ =
      ⟨next, insert file.identity guard,
        ⟨path, file.identity, file.context, Walk.depth ⟨state, guard, files, .asking path⟩ + 1,
          Text.pieces file.text, []⟩ :: files, .reading⟩ := by
  simp only [step, h]

theorem step_code {file : OpenFile ι κ} {files : List (OpenFile ι κ)} {piece : Text} {rest : List Text}
    (hp : file.pending = piece :: rest) (h : includePath? piece = none) :
    provider.step limit root ⟨state, guard, file :: files, .reading⟩ =
      ⟨state, guard, { file with pending := rest, output := file.output ++ [.code piece] } :: files, .reading⟩ := by
  simp only [step, hp, h]

theorem step_include {file : OpenFile ι κ} {files : List (OpenFile ι κ)} {piece path : Text} {rest : List Text}
    (hp : file.pending = piece :: rest) (h : includePath? piece = some path) :
    provider.step limit root ⟨state, guard, file :: files, .reading⟩ =
      ⟨state, guard, { file with pending := rest } :: files, .asking path⟩ := by
  simp only [step, hp, h]

theorem step_closed {file : OpenFile ι κ} {files : List (OpenFile ι κ)} (hp : file.pending = []) :
    provider.step limit root ⟨state, guard, file :: files, .reading⟩ =
      ⟨state, guard.erase file.identity, files, .answered file.path file.output⟩ := by
  simp only [step, hp]

theorem run_of_answer {w : Walk σ ι κ} {answer : Source} (h : w.answer? = some answer) (n : ℕ) :
    provider.run limit root w n = w := by
  refine Function.iterate_fixed ?_ n
  obtain ⟨state, guard, files, phase⟩ := w
  cases files with
  | cons file files => simp [Walk.answer?] at h
  | nil =>
    cases phase with
    | asking path => simp [Walk.answer?] at h
    | reading => simp [Walk.answer?] at h
    | answered path child => rfl

theorem run_add (w : Walk σ ι κ) (n m : ℕ) :
    provider.run limit root w (n + m) = provider.run limit root (provider.run limit root w n) m := by
  unfold run
  rw [Nat.add_comm, Function.iterate_add_apply]

theorem run_succ (w : Walk σ ι κ) (n : ℕ) :
    provider.run limit root w (n + 1) = provider.run limit root (provider.step limit root w) n :=
  Function.iterate_succ_apply _ n w

/-- the end of a walk does not depend on when one looks -/
theorem Ends.unique {w : Walk σ ι κ} {a b : Source} {s t : σ} (ha : provider.Ends limit root w a s)
    (hb : provider.Ends limit root w b t) : a = b ∧ s = t := by
  obtain ⟨n, hn, rfl⟩ := ha
  obtain ⟨m, hm, rfl⟩ := hb
  have hsame : provider.run limit root w n = provider.run limit root w m := by
    rcases Nat.le_total n m with hle | hle
    · obtain ⟨k, rfl⟩ := Nat.exists_eq_add_of_le hle
      rw [run_add, run_of_answer hn]
    · obtain ⟨k, rfl⟩ := Nat.exists_eq_add_of_le hle
      rw [run_add, run_of_answer hm]
  rw [hsame] at hn ⊢
  exact ⟨Option.some_injective _ (hn.symm.trans hm), rfl⟩

/-- `m` steps lead from a walk to another, with more than `above` files open all the way -/
structure Passes (provider : Provider σ ι κ) (limit : Option ℕ) (root : κ) (above m : ℕ) (w w' : Walk σ ι κ) :
    Prop where
  run_eq : provider.run limit root w m = w'
  stays : ∀ k ≤ m, above < (provider.run limit root w k).files.length

theorem Passes.refl {above : ℕ} {w : Walk σ ι κ} (h : above < w.files.length) :
    provider.Passes limit root above 0 w w := by
  refine ⟨rfl, fun k hk => ?_⟩
  obtain rfl : k = 0 := by omega
  exact h

theorem Passes.head {above m : ℕ} {w w' : Walk σ ι κ} (h : above < w.files.length)
    (hp : provider.Passes limit root above m (provider.step limit root w) w') :
    provider.Passes limit root above (m + 1) w w' := by
  refine ⟨by rw [run_succ, hp.run_eq], fun k hk => ?_⟩
  cases k with
  | zero => exact h
  | succ k =>
    rw [run_succ]
    exact hp.stays k (by omega)

theorem Passes.trans {above m n : ℕ} {w w' w'' : Walk σ ι κ} (h : provider.Passes limit root above m w w')
    (h' : provider.Passes limit root above n w' w'') : provider.Passes limit root above (m + n) w w'' := by
  refine ⟨by rw [run_add, h.run_eq, h'.run_eq], fun k hk => ?_⟩
  rcases Nat.le_total k m with hle | hle
  · exact h.stays k hle
  · obtain ⟨j, rfl⟩ := Nat.exists_eq_add_of_le hle
    rw [run_add, h.run_eq]
    exact h'.stays j (by omega)

theorem Passes.mono {above above' m : ℕ} {w w' : Walk σ ι κ} (h : provider.Passes limit root above m w w')
    (hle : above' ≤ above) : provider.Passes limit root above' m w w' :=
  ⟨h.run_eq, fun k hk => hle.trans_lt (h.stays k hk)⟩

/-- a walk that has gone below a height did so after all that passes above it -/
theorem Passes.rest {above m n : ℕ} {w w' : Walk σ ι κ} (h : provider.Passes limit root above m w w')
    (hn : (provider.run limit root w n).files.length ≤ above) :
    ∃ k, n = m + (k + 1) ∧ (provider.run limit root w' (k + 1)).files.length ≤ above := by
  have hlt : m < n := by
    by_contra hle
    exact absurd (h.stays n (by omega)) (by omega)
  obtain ⟨k, rfl⟩ := Nat.exists_eq_add_of_lt hlt
  refine ⟨k, by omega, ?_⟩
  rwa [show m + k + 1 = m + (k + 1) by omega, run_add, h.run_eq] at hn

/-! ## Expansion without steps -/

/-- the lines that pieces of a file expand to, and what becomes of the provider -/
inductive Expands (provider : Provider σ ι κ) (limit : Option ℕ) :
    Finset ι → ℕ → κ → σ → List Text → Source → σ → Prop where
  | done {guard : Finset ι} {depth : ℕ} {context : κ} {state : σ} :
    Expands provider limit guard depth context state [] [] state
  | code {guard : Finset ι} {depth : ℕ} {context : κ} {state final : σ} {piece : Text} {rest : List Text}
      {out : Source} (h : includePath? piece = none)
      (later : Expands provider limit guard depth context state rest out final) :
    Expands provider limit guard depth context state (piece :: rest) (.code piece :: out) final
  | refused {guard : Finset ι} {depth : ℕ} {context : κ} {state next final : σ} {piece path : Text}
      {rest : List Text} {line : Line} {out : Source} (h : includePath? piece = some path)
      (entered : provider.enter limit guard depth state ⟨path, context⟩ = (.error line, next))
      (later : Expands provider limit guard depth context next rest out final) :
    Expands provider limit guard depth context state (piece :: rest) (Source.group path [line] ++ out) final
  | nested {guard : Finset ι} {depth : ℕ} {context : κ} {state next mid final : σ} {piece path : Text}
      {rest : List Text} {file : Opened ι κ} {child out : Source} (h : includePath? piece = some path)
      (entered : provider.enter limit guard depth state ⟨path, context⟩ = (.ok file, next))
      (inside : Expands provider limit (insert file.identity guard) (depth + 1) file.context next
        (Text.pieces file.text) child mid)
      (later : Expands provider limit guard depth context mid rest out final) :
    Expands provider limit guard depth context state (piece :: rest) (Source.group path child ++ out) final

/-- the answer to an include that is asked for with a guard, at a depth and in a context -/
def Includes (provider : Provider σ ι κ) (limit : Option ℕ) (guard : Finset ι) (depth : ℕ) (context : κ) (state : σ)
    (path : Text) (child : Source) (final : σ) : Prop :=
  (∃ line, provider.enter limit guard depth state ⟨path, context⟩ = (.error line, final) ∧ child = [line]) ∨
  ∃ file next, provider.enter limit guard depth state ⟨path, context⟩ = (.ok file, next) ∧
    provider.Expands limit (insert file.identity guard) (depth + 1) file.context next (Text.pieces file.text) child
      final

/-- expansion goes through a list of pieces from the left -/
theorem expands_append {context : κ} {ps qs : List Text} {out : Source} {final : σ} :
    provider.Expands limit guard depth context state (ps ++ qs) out final ↔
      ∃ first mid second, provider.Expands limit guard depth context state ps first mid ∧
        provider.Expands limit guard depth context mid qs second final ∧ out = first ++ second := by
  constructor
  · intro h
    induction ps generalizing state out with
    | nil => exact ⟨[], state, out, .done, h, rfl⟩
    | cons piece ps ih =>
      cases h with
      | code hcode later =>
        obtain ⟨first, mid, second, h1, h2, rfl⟩ := ih later
        exact ⟨_, mid, second, .code hcode h1, h2, rfl⟩
      | refused hpath hentered later =>
        obtain ⟨first, mid, second, h1, h2, rfl⟩ := ih later
        exact ⟨_, mid, second, .refused hpath hentered h1, h2, (List.append_assoc ..).symm⟩
      | nested hpath hentered inside later =>
        obtain ⟨first, mid, second, h1, h2, rfl⟩ := ih later
        exact ⟨_, mid, second, .nested hpath hentered inside h1, h2, (List.append_assoc ..).symm⟩
  · rintro ⟨first, mid, second, h1, h2, rfl⟩
    induction h1 with
    | done => exact h2
    | code hcode _ ih => exact .code hcode (ih h2)
    | refused hpath hentered _ ih =>
      rw [List.append_assoc]
      exact .refused hpath hentered (ih h2)
    | nested hpath hentered inside _ _ ih =>
      rw [List.append_assoc]
      exact .nested hpath hentered inside (ih h2)

/-! ## The walk does what expansion says -/

/-- pieces of an open file are read, a step or more for each, whatever is open below it and whatever follows them; and
the guard is what it was -/
theorem Expands.passes {context : κ} {pending : List Text} {out : Source} {final : σ}
    (h : provider.Expands limit guard depth context state pending out final) (root : κ) (path : Text) (identity : ι)
    (output : Source) (more : List Text) (files : List (OpenFile ι κ)) :
    ∃ m, pending.length ≤ m ∧ provider.Passes limit root files.length m
      ⟨state, guard, ⟨path, identity, context, depth, pending ++ more, output⟩ :: files, .reading⟩
      ⟨final, guard, ⟨path, identity, context, depth, more, output ++ out⟩ :: files, .reading⟩ := by
  induction h generalizing path identity output more files with
  | done =>
    rw [List.append_nil]
    exact ⟨0, le_rfl, .refl (by simp)⟩
  | code hcode _ ih =>
    obtain ⟨m, hle, hm⟩ := ih path identity (output ++ [.code _]) more files
    rw [List.append_assoc, List.singleton_append] at hm
    refine ⟨m + 1, Nat.succ_le_succ hle, .head (by simp) ?_⟩
    rwa [List.cons_append, step_code rfl hcode]
  | refused hpath hentered _ ih =>
    obtain ⟨m, hle, hm⟩ := ih path identity (output ++ Source.group _ [_]) more files
    rw [List.append_assoc] at hm
    refine ⟨m + 1 + 1 + 1, by rw [List.length_cons]; omega, .head (by simp) ?_⟩
    rw [List.cons_append, step_include rfl hpath]
    refine .head (by simp) ?_
    rw [step_refused hentered]
    exact .head (by simp) hm
  | @nested guard depth context state next mid final piece spelled rest file child out hpath hentered _ _ ihin ih =>
    -- down into the file that is opened, back out of it, and on
    obtain ⟨m, hle, hm⟩ := ih path identity (output ++ Source.group spelled child) more files
    rw [List.append_assoc] at hm
    obtain ⟨k, -, hk⟩ :=
      ihin spelled file.identity [] [] (⟨path, identity, context, depth, rest ++ more, output⟩ :: files)
    rw [List.append_nil] at hk
    have hback : (insert file.identity guard).erase file.identity = guard := by
      obtain ⟨_, _, hfresh, _⟩ := enter_eq_ok hentered
      exact Finset.erase_insert hfresh
    have hout : provider.Passes limit root files.length (m + 1 + 1)
        ⟨mid, insert file.identity guard, ⟨spelled, file.identity, file.context, depth + 1, [], [] ++ child⟩ ::
          ⟨path, identity, context, depth, rest ++ more, output⟩ :: files, .reading⟩
        ⟨final, guard, ⟨path, identity, context, depth, more, output ++ (Source.group spelled child ++ out)⟩ :: files,
          .reading⟩ := by
      refine .head (by simp only [List.length_cons]; omega) ?_
      rw [step_closed rfl, hback]
      exact .head (by simp) hm
    refine ⟨k + (m + 1 + 1) + 1 + 1, by rw [List.length_cons]; omega, .head (by simp) ?_⟩
    rw [List.cons_append, step_include rfl hpath]
    refine .head (by simp) ?_
    rw [step_opened hentered]
    exact (hk.mono (by simp)).trans hout

/-- a file that is left was read to its end: its pieces expanded -/
theorem expands_of_left {n : ℕ} {path : Text} {identity : ι} {context : κ} {pending : List Text} {output : Source}
    {files : List (OpenFile ι κ)}
    (h : (provider.run limit root
      ⟨state, guard, ⟨path, identity, context, depth, pending, output⟩ :: files, .reading⟩ n).files.length ≤
        files.length) :
    ∃ out final, provider.Expands limit guard depth context state pending out final := by
  -- on the number of steps: what the walk goes on with, inside an include or behind a piece, takes fewer
  induction n using Nat.strong_induction_on generalizing state guard path identity context depth pending output files
    with
  | _ n ih =>
    cases pending with
    | nil => exact ⟨[], state, .done⟩
    | cons piece rest =>
      have hone : ∃ out mid, provider.Expands limit guard depth context state [piece] out mid := by
        cases hpath : includePath? piece with
        | none => exact ⟨_, state, .code hpath .done⟩
        | some spelled =>
          cases hentered : provider.enter limit guard depth state ⟨spelled, context⟩ with
          | mk result next =>
            cases result with
            | error line => exact ⟨_, next, .refused hpath hentered .done⟩
            | ok file =>
              have hdown : provider.Passes limit root files.length (0 + 1 + 1)
                  ⟨state, guard, ⟨path, identity, context, depth, piece :: rest, output⟩ :: files, .reading⟩
                  ⟨next, insert file.identity guard,
                    ⟨spelled, file.identity, file.context, depth + 1, Text.pieces file.text, []⟩ ::
                      ⟨path, identity, context, depth, rest, output⟩ :: files, .reading⟩ := by
                refine .head (by simp) ?_
                rw [step_include rfl hpath]
                refine .head (by simp) ?_
                rw [step_opened hentered]
                exact .refl (by simp only [List.length_cons]; omega)
              obtain ⟨k, rfl, hk⟩ := hdown.rest h
              obtain ⟨child, mid, inside⟩ := ih (k + 1) (by omega) (hk.trans (by simp))
              exact ⟨_, mid, .nested hpath hentered inside .done⟩
      obtain ⟨first, mid, hfirst⟩ := hone
      obtain ⟨m, hle, hm⟩ := hfirst.passes root path identity output rest files
      obtain ⟨k, rfl, hk⟩ := hm.rest h
      rw [List.length_singleton] at hle
      obtain ⟨second, final, hsecond⟩ := ih (k + 1) (by omega) hk
      exact ⟨first ++ second, final, expands_append.2 ⟨first, mid, second, hfirst, hsecond, rfl⟩⟩

/-! ## Ends of walks -/

theorem ends_step_iff {w : Walk σ ι κ} {answer : Source} {final : σ} (h : w.answer? = none) :
    provider.Ends limit root (provider.step limit root w) answer final ↔
      provider.Ends limit root w answer final := by
  constructor
  · rintro ⟨n, hn⟩
    exact ⟨n + 1, by rwa [run_succ]⟩
  · rintro ⟨n, hn⟩
    cases n with
    | zero => simp [run, h] at hn
    | succ n =>
      rw [run_succ] at hn
      exact ⟨n, hn⟩

theorem Passes.ends {above m : ℕ} {w w' : Walk σ ι κ} {answer : Source} {final : σ}
    (h : provider.Passes limit root above m w w') (he : provider.Ends limit root w' answer final) :
    provider.Ends limit root w answer final := by
  obtain ⟨n, hn⟩ := he
  exact ⟨m + n, by rwa [run_add, h.run_eq]⟩

theorem ends_of_answered {path : Text} {child answer : Source} {final : σ} :
    provider.Ends limit root ⟨state, guard, [], .answered path child⟩ answer final ↔
      answer = child ∧ final = state := by
  constructor
  · intro h
    exact h.unique ⟨0, rfl, rfl⟩
  · rintro ⟨rfl, rfl⟩
    exact ⟨0, rfl, rfl⟩

theorem ends_reading_iff {path : Text} {identity : ι} {context : κ} {pending : List Text} {answer : Source}
    {final : σ} :
    provider.Ends limit root ⟨state, guard, [⟨path, identity, context, depth, pending, []⟩], .reading⟩ answer final ↔
      provider.Expands limit guard depth context state pending answer final := by
  have hsound : ∀ {out : Source} {last : σ}, provider.Expands limit guard depth context state pending out last →
      provider.Ends limit root ⟨state, guard, [⟨path, identity, context, depth, pending, []⟩], .reading⟩ out last := by
    intro out last h
    obtain ⟨m, -, hm⟩ := h.passes root path identity [] [] []
    rw [List.append_nil, List.nil_append] at hm
    refine hm.ends ((ends_step_iff rfl).1 ?_)
    rw [step_closed rfl, ends_of_answered]
    exact ⟨rfl, rfl⟩
  refine ⟨fun h => ?_, hsound⟩
  obtain ⟨n, hn, -⟩ := id h
  have hempty : (provider.run limit root
      ⟨state, guard, [⟨path, identity, context, depth, pending, []⟩], .reading⟩ n).files.length ≤
        ([] : List (OpenFile ι κ)).length := by
    unfold Walk.answer? at hn
    split at hn
    · simp [*]
    · cases hn
  obtain ⟨out, last, hout⟩ := expands_of_left hempty
  obtain ⟨rfl, rfl⟩ := h.unique (hsound hout)
  exact hout

/-- flattening ends exactly with the answer to the include of the file, with nothing open -/
theorem ends_start_iff {path : Text} {context : κ} {answer : Source} {final : σ} :
    provider.Ends limit context (Walk.start state path) answer final ↔
      provider.Includes limit ∅ 0 context state path answer final := by
  rw [← ends_step_iff rfl]
  unfold Walk.start Includes
  cases hentered : provider.enter limit ∅ 0 state ⟨path, context⟩ with
  | mk result next =>
    cases result with
    | error line =>
      rw [step_refused hentered, ends_of_answered]
      constructor
      · rintro ⟨rfl, rfl⟩
        exact Or.inl ⟨line, rfl, rfl⟩
      · rintro (⟨_, h, rfl⟩ | ⟨_, _, h, _⟩)
        · cases h
          exact ⟨rfl, rfl⟩
        · cases h
    | ok file =>
      rw [step_opened hentered, ends_reading_iff]
      constructor
      · intro h
        exact Or.inr ⟨file, next, rfl, h⟩
      · rintro (⟨_, h, _⟩ | ⟨_, _, h, hout⟩)
        · cases h
        · cases h
          exact hout

theorem answers_iff {path : Text} {context : κ} {answer : Source} :
    provider.Answers limit state context path answer ↔
      ∃ final, provider.Includes limit ∅ 0 context state path answer final := by
  unfold Answers
  simp only [ends_start_iff]

theorem Answers.unique {path : Text} {context : κ} {a b : Source} (ha : provider.Answers limit state context path a)
    (hb : provider.Answers limit state context path b) : a = b := by
  obtain ⟨s, hs⟩ := ha
  obtain ⟨t, ht⟩ := hb
  exact (hs.unique ht).1

end Provider

end GlslInspect
