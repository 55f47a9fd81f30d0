/-
The guard of a walk.

One guard set serves a whole walk: a file is put in when it is opened and taken out when it is left, and an include that
is refused does neither.
- `Guarded`, `step_guarded`, `run_guarded`: at every moment the guard is the set of open files, no file is open twice,
  and the innermost file knows how many are open. The walk need not end for this;
- `run_of_returns`: where an include is answered, the open files and the guard are those of the moment it was asked
  for, however it was answered;
- `ends_append_iff`, `Library.lines_expand_append`: so a text expands line by line. What stands above a directive
  changes nothing in what it expands to.
-/
import GlslInspect.Include.Catalog
import GlslInspect.Proofs.Expansion
import GlslInspect.Proofs.Pieces

namespace GlslInspect

/-! ## The guard is the set of open files -/

namespace Walk

variable {σ ι κ : Type} [DecidableEq ι]

/-- each open file knows how many are open up to it -/
def Counted : List (OpenFile ι κ) → Prop
  | [] => True
  | file :: files => file.depth = files.length + 1 ∧ Counted files

/-- the guard is the set of open files, no file is open twice, and the files are counted -/
structure Guarded (w : Walk σ ι κ) : Prop where
  guard_eq : w.guard = w.identities.toFinset
  nodup : w.identities.Nodup
  counted : Counted w.files

omit [DecidableEq ι] in
theorem depth_of_counted {w : Walk σ ι κ} (h : Counted w.files) : w.depth = w.files.length := by
  obtain ⟨state, guard, files, phase⟩ := w
  cases files with
  | nil => rfl
  | cons file files => exact h.1

/-- a text is expanded in the context and at the depth of a file, with a guard, and nothing else is open -/
def expanding (state : σ) (guard : Finset ι) (file : OpenFile ι κ) (input : Text) : Walk σ ι κ :=
  ⟨state, guard, [{ file with pending := Text.pieces input, output := [] }], .reading⟩

theorem guarded_start (state : σ) (path : Text) : Guarded (start state path : Walk σ ι κ) :=
  ⟨rfl, List.nodup_nil, trivial⟩

end Walk

namespace Provider

variable {σ ι κ : Type} [DecidableEq ι] {provider : Provider σ ι κ} {limit : Option ℕ} {root : κ}

/-- a file is put into the guard when it is opened, taken out when it is left, and left alone otherwise -/
theorem step_guarded {w : Walk σ ι κ} (h : w.Guarded) : (provider.step limit root w).Guarded := by
  obtain ⟨state, guard, files, phase⟩ := w
  obtain ⟨hguard, hnodup, hcounted⟩ := h
  change guard = (files.map OpenFile.identity).toFinset at hguard
  cases phase with
  | asking path =>
    cases hentered : provider.enter limit guard (Walk.depth ⟨state, guard, files, .asking path⟩) state
        ⟨path, Walk.context root ⟨state, guard, files, .asking path⟩⟩ with
    | mk result next =>
      cases result with
      | error line =>
        rw [step_refused hentered]
        exact ⟨hguard, hnodup, hcounted⟩
      | ok file =>
        obtain ⟨_, -, hfresh, -⟩ := enter_eq_ok hentered
        have hdepth := Walk.depth_of_counted hcounted
        rw [step_opened hentered]
        refine ⟨?_, ?_, ?_, hcounted⟩
        · change insert file.identity guard = (file.identity :: files.map OpenFile.identity).toFinset
          rw [List.toFinset_cons, hguard]
        · refine List.nodup_cons.2 ⟨fun hin => hfresh ?_, hnodup⟩
          rw [hguard]
          exact List.mem_toFinset.2 hin
        · exact congrArg (· + 1) hdepth
  | reading =>
    cases files with
    | nil => exact ⟨hguard, hnodup, hcounted⟩
    | cons file files =>
      cases hpending : file.pending with
      | nil =>
        rw [step_closed hpending]
        obtain ⟨hfresh, hrest⟩ := List.nodup_cons.1 hnodup
        refine ⟨?_, hrest, hcounted.2⟩
        change guard.erase file.identity = (files.map OpenFile.identity).toFinset
        rw [hguard, List.map_cons, List.toFinset_cons]
        exact Finset.erase_insert fun hin => hfresh (List.mem_toFinset.1 hin)
      | cons piece rest =>
        cases hpath : includePath? piece with
        | none =>
          rw [step_code hpending hpath]
          exact ⟨hguard, hnodup, hcounted⟩
        | some path =>
          rw [step_include hpending hpath]
          exact ⟨hguard, hnodup, hcounted⟩
  | answered path child =>
    cases files with
    | nil => exact ⟨hguard, hnodup, hcounted⟩
    | cons file files => exact ⟨hguard, hnodup, hcounted⟩

theorem run_guarded {w : Walk σ ι κ} (h : w.Guarded) (n : ℕ) : (provider.run limit root w n).Guarded := by
  induction n with
  | zero => exact h
  | succ n ih =>
    rw [run, Function.iterate_succ_apply']
    exact step_guarded ih

/-! ## Answers leave the guard as it was -/

/-- an include that is asked for at time `n` is answered at time `m`: no more files are open than then, for the first
time since -/
structure Returns (provider : Provider σ ι κ) (limit : Option ℕ) (root : κ) (w : Walk σ ι κ) (n m : ℕ) : Prop where
  later : n < m
  back : (provider.run limit root w m).files.length ≤ (provider.run limit root w n).files.length
  inside : ∀ k, n < k → k < m →
    (provider.run limit root w n).files.length < (provider.run limit root w k).files.length

/-- an include that is answered at once, or after the file it opened is left -/
theorem run_of_asking {state : σ} {guard : Finset ι} {files : List (OpenFile ι κ)} {path : Text} {m : ℕ}
    (h : provider.Returns limit root ⟨state, guard, files, .asking path⟩ 0 m) :
    ∃ final child, provider.run limit root ⟨state, guard, files, .asking path⟩ m =
      ⟨final, guard, files, .answered path child⟩ := by
  obtain ⟨hlater, hback, hinside⟩ := h
  -- the first moment at which the include is answered is the moment of the answer
  have hfirst : ∀ {k : ℕ} {final : σ} {child : Source}, 0 < k → k ≤ m →
      provider.run limit root ⟨state, guard, files, .asking path⟩ k = ⟨final, guard, files, .answered path child⟩ →
      ∃ final child, provider.run limit root ⟨state, guard, files, .asking path⟩ m =
        ⟨final, guard, files, .answered path child⟩ := by
    intro k final child hk hkm hrun
    rcases Nat.eq_or_lt_of_le hkm with rfl | hlt
    · exact ⟨final, child, hrun⟩
    · have hmore := hinside k hk hlt
      rw [hrun] at hmore
      exact absurd hmore (lt_irrefl _)
  obtain ⟨n, rfl⟩ := Nat.exists_eq_add_of_lt hlater
  rw [Nat.zero_add] at hback hfirst ⊢
  cases hentered : provider.enter limit guard (Walk.depth ⟨state, guard, files, .asking path⟩) state
      ⟨path, Walk.context root ⟨state, guard, files, .asking path⟩⟩ with
  | mk result next =>
    cases result with
    | error line => exact hfirst Nat.one_pos (by omega) (step_refused hentered)
    | ok file =>
      obtain ⟨_, -, hfresh, -⟩ := enter_eq_ok hentered
      rw [run_succ, step_opened hentered] at hback
      obtain ⟨child, final, hchild⟩ := expands_of_left hback
      obtain ⟨k, -, hpasses⟩ := hchild.passes root path file.identity [] [] files
      rw [List.append_nil] at hpasses
      obtain ⟨j, rfl, -⟩ := hpasses.rest hback
      have hrun : provider.run limit root ⟨state, guard, files, .asking path⟩ (k + 1 + 1) =
          ⟨final, guard, files, .answered path child⟩ := by
        rw [run_succ, step_opened hentered, run_add, hpasses.run_eq, run_succ, step_closed rfl,
          Finset.erase_insert hfresh]
        rfl
      exact hfirst (Nat.succ_pos _) (by omega) hrun

/-- where an include is answered, the guard and the open files are those of the moment it was asked for -/
theorem run_of_returns {w : Walk σ ι κ} {n m : ℕ} {path : Text}
    (hasking : (provider.run limit root w n).phase = .asking path) (h : provider.Returns limit root w n m) :
    ∃ final child, provider.run limit root w m =
      ⟨final, (provider.run limit root w n).guard, (provider.run limit root w n).files, .answered path child⟩ := by
  obtain ⟨j, rfl⟩ := Nat.exists_eq_add_of_le h.later.le
  have hfrom : provider.Returns limit root (provider.run limit root w n) 0 j := by
    refine ⟨by have := h.later; omega, ?_, fun k hk hkj => ?_⟩
    · have hback := h.back
      rwa [run_add] at hback
    · have hin := h.inside (n + k) (by omega) (by omega)
      rwa [run_add] at hin
  obtain ⟨state, guard, files, phase, hw⟩ : ∃ state guard files phase,
      provider.run limit root w n = ⟨state, guard, files, phase⟩ := ⟨_, _, _, _, rfl⟩
  rw [hw] at hasking hfrom
  obtain rfl : phase = .asking path := hasking
  obtain ⟨final, child, hrun⟩ := run_of_asking hfrom
  exact ⟨final, child, by rw [run_add, hw, hrun]⟩

/-! ## Texts expand line by line -/

theorem ends_append_iff {state final : σ} {guard : Finset ι} {file : OpenFile ι κ} {a b : Text} {lines : Source}
    (h : Text.EndsFresh a) :
    provider.Ends limit root (Walk.expanding state guard file (a ++ b)) lines final ↔
      ∃ first mid second, provider.Ends limit root (Walk.expanding state guard file a) first mid ∧
        provider.Ends limit root (Walk.expanding mid guard file b) second final ∧ lines = first ++ second := by
  unfold Walk.expanding
  rw [Text.pieces_append h]
  simp only [ends_reading_iff]
  exact expands_append

end Provider

theorem Library.lines_expand_append {ι κ : Type} [DecidableEq ι] (library : Library ι κ) (limit : Option ℕ)
    (stack : List ι) (context : κ) (ps qs : List Text) :
    (library.expand limit stack context (ps ++ qs)).lines =
      (library.expand limit stack context ps).lines ++ (library.expand limit stack context qs).lines := by
  induction ps with
  | nil =>
    rw [expand_nil]
    rfl
  | cons piece ps ih =>
    rw [List.cons_append]
    cases hpath : includePath? piece with
    | none => rw [expand_code hpath, expand_code hpath, Expansion.lines, ih, Expansion.lines, List.cons_append]
    | some path =>
      cases hentered : library.enter limit stack ⟨path, context⟩ with
      | error why =>
        rw [expand_skipped hpath hentered, expand_skipped hpath hentered, Expansion.lines, ih, Expansion.lines]
        rfl
      | ok file =>
        rw [expand_nested hpath hentered, expand_nested hpath hentered, Expansion.lines, ih, Expansion.lines,
          List.cons_append, List.append_assoc]
        rfl

/-- **Guard discipline.** In every walk that flattens a file, ended or not:
whenever an include is asked for, the guard is the set of open files, these are distinct, and their number is the depth;
whenever an include is answered, the guard is what it was when it was asked for.
So a text that starts behind a fresh line expands to the same lines there as on its own, in any context, guard and
depth: only what the provider has become in between can make a difference, and in a library nothing. -/
theorem guard_discipline {σ ι κ : Type} [DecidableEq ι] (provider : Provider σ ι κ) (limit : Option ℕ) (state : σ)
    (context : κ) (path : Text) :
    (∀ n asked, (provider.run limit context (Walk.start state path) n).phase = .asking asked →
      let w := provider.run limit context (Walk.start state path) n
      w.guard = w.identities.toFinset ∧ w.identities.Nodup ∧ w.identities.length = w.depth) ∧
    (∀ n m asked, (provider.run limit context (Walk.start state path) n).phase = .asking asked →
      provider.Returns limit context (Walk.start state path) n m →
      (provider.run limit context (Walk.start state path) m).guard =
        (provider.run limit context (Walk.start state path) n).guard ∧
      ∃ child, (provider.run limit context (Walk.start state path) m).phase = .answered asked child) ∧
    (∀ (guard : Finset ι) (file : OpenFile ι κ) (before final : σ) (a b : Text) (lines : Source), Text.EndsFresh a →
      (provider.Ends limit context (Walk.expanding before guard file (a ++ b)) lines final ↔
        ∃ first mid second, provider.Ends limit context (Walk.expanding before guard file a) first mid ∧
          provider.Ends limit context (Walk.expanding mid guard file b) second final ∧ lines = first ++ second)) ∧
    ∀ (library : Library ι κ) (stack : List ι) (around : κ) (a b : Text), Text.EndsFresh a →
      (library.expand limit stack around (Text.pieces (a ++ b))).lines =
        (library.expand limit stack around (Text.pieces a)).lines ++
          (library.expand limit stack around (Text.pieces b)).lines := by
  refine ⟨fun n asked _ => ?_, fun n m asked hasking hreturns => ?_, fun guard file before final a b lines hfresh => ?_,
    fun library stack around a b hfresh => ?_⟩
  · obtain ⟨hguard, hnodup, hcounted⟩ :=
      provider.run_guarded (Walk.guarded_start state path) n
    refine ⟨hguard, hnodup, ?_⟩
    rw [Walk.depth_of_counted hcounted, Walk.identities, List.length_map]
  · obtain ⟨final, child, hrun⟩ := Provider.run_of_returns hasking hreturns
    rw [hrun]
    exact ⟨rfl, child, rfl⟩
  · exact Provider.ends_append_iff hfresh
  · rw [Text.pieces_append hfresh, library.lines_expand_append]

/-- two files that include each other: the second is asked for after two steps and answered after seven -/
theorem guard_discipline_cycle :
    let library := (⟨[("a", "#include \"b\"\n"), ("b", "#include \"a\"")], [], []⟩ : Catalog).library
    let walk := library.provider.run none [] (Walk.start () "a")
    (walk 2).phase = .asking "b" ∧ library.provider.Returns none [] (Walk.start () "a") 2 7 ∧
      (walk 2).guard = (walk 2).identities.toFinset ∧ (walk 7).guard = (walk 2).guard := by
  intro library walk
  have hasking : (walk 2).phase = .asking "b" := by rfl
  have hinside : ∀ k < 7, 2 < k → (walk 2).files.length < (walk k).files.length := by decide +kernel
  have hreturns : library.provider.Returns none [] (Walk.start () "a") 2 7 :=
    ⟨by omega, by decide +kernel, fun k hlater hbefore => hinside k hbefore hlater⟩
  obtain ⟨hopen, hback, -⟩ := guard_discipline library.provider none () [] "a"
  exact ⟨hasking, hreturns, (hopen 2 _ hasking).1, (hback 2 7 _ hasking hreturns).1⟩

end GlslInspect
