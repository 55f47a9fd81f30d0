/-
Flattening ends, and how deep its includes can nest.

No limit on the depth is needed. A file that is opened is readable and not in the guard, and while it is read the guard
holds it too; so each file inside another leaves fewer readable files to open (`card_sdiff_insert_lt`), though the
guard shrinks again behind it, paths and contexts are without end, and a provider may give another text each time.
- `Provider.exists_expands`: with finitely many readable files, all pieces expand, in any guard and context;
- `Provider.Expands.nests`: includes nest at most once more often than there are readable files outside the guard;
- `Library.answers_iff` and `Provider.answers_iff` carry both to the walk and to flattening.
-/
import Mathlib.Data.Finset.Card
import Mathlib.Data.Set.Finite.Basic
import GlslInspect.Include.Catalog
import GlslInspect.Proofs.Expansion

namespace GlslInspect

/-! ## How deep includes nest -/

/-- how many includes are begun and not ended behind a line, when there were `n` in front of it -/
def Line.level (n : ℕ) : Line → ℕ
  | .includeStart _ => n + 1
  | .includeEnd _ => n - 1
  | _ => n

namespace Source

/-- how many includes are begun and not ended behind some lines -/
def levelAfter (n : ℕ) (source : Source) : ℕ := source.foldl Line.level n

/-- the most includes that are begun and not ended anywhere in some lines, when there were `n` in front of them -/
def nestingFrom (n : ℕ) : Source → ℕ
  | [] => n
  | line :: rest => max n (nestingFrom (line.level n) rest)

/-- how deep the includes of a source nest -/
def nesting (source : Source) : ℕ := source.nestingFrom 0

theorem le_nestingFrom (n : ℕ) (s : Source) : n ≤ nestingFrom n s := by
  cases s with
  | nil => exact le_rfl
  | cons line s => exact le_max_left _ _

theorem nestingFrom_append (n : ℕ) (a b : Source) :
    nestingFrom n (a ++ b) = max (nestingFrom n a) (nestingFrom (levelAfter n a) b) := by
  induction a generalizing n with
  | nil => exact (max_eq_right (le_nestingFrom n b)).symm
  | cons line a ih =>
    rw [List.cons_append, nestingFrom, ih, nestingFrom, max_assoc]
    rfl

/-- closing the last line begins and ends nothing -/
theorem level_closed (n : ℕ) (line : Line) : line.closed.level n = line.level n := by
  cases line <;> rfl

theorem levelAfter_closeLast (n : ℕ) (s : Source) : levelAfter n (closeLast s) = levelAfter n s := by
  induction s using closeLast.induct generalizing n with
  | case1 => rfl
  | case2 line => exact level_closed n line
  | case3 line next rest ih => exact ih (line.level n)

theorem nestingFrom_closeLast (n : ℕ) (s : Source) : nestingFrom n (closeLast s) = nestingFrom n s := by
  induction s using closeLast.induct generalizing n with
  | case1 => rfl
  | case2 line => simp only [closeLast, nestingFrom, level_closed]
  | case3 line next rest ih =>
    rw [closeLast, nestingFrom, ih]
    rfl

/-- every include that begins in some lines ends there, and at most `h` of them are inside each other -/
structure Nests (h : ℕ) (s : Source) : Prop where
  balanced : ∀ n, levelAfter n s = n
  height : ∀ n, nestingFrom n s ≤ n + h

theorem Nests.nil (h : ℕ) : Nests h [] := ⟨fun _ => rfl, fun n => Nat.le_add_right n h⟩

theorem Nests.mono {h h' : ℕ} {s : Source} (hs : Nests h s) (hle : h ≤ h') : Nests h' s :=
  ⟨hs.balanced, fun n => (hs.height n).trans (by omega)⟩

/-- a line that begins and ends nothing nests nothing -/
theorem Nests.singleton {line : Line} (hline : ∀ n, line.level n = n) : Nests 0 [line] := by
  refine ⟨hline, fun n => ?_⟩
  rw [nestingFrom, nestingFrom, hline]
  omega

theorem Nests.append {h : ℕ} {a b : Source} (ha : Nests h a) (hb : Nests h b) : Nests h (a ++ b) := by
  refine ⟨fun n => ?_, fun n => ?_⟩
  · have hsplit : levelAfter n (a ++ b) = levelAfter (levelAfter n a) b := List.foldl_append
    rw [hsplit, ha.balanced, hb.balanced]
  · rw [nestingFrom_append, ha.balanced]
    exact max_le (ha.height n) (hb.height n)

/-- an include nests once more than what it holds -/
theorem Nests.group {h : ℕ} {child : Source} (hchild : Nests h child) (path : Text) :
    Nests (h + 1) (group path child) := by
  have hlevel : ∀ n, levelAfter n (closeLast child) = n := fun n => (levelAfter_closeLast n child).trans
    (hchild.balanced n)
  refine ⟨fun n => ?_, fun n => ?_⟩
  · have hsplit : levelAfter n (Source.group path child) = levelAfter (n + 1) (closeLast child) - 1 := by
      unfold Source.group levelAfter
      rw [List.foldl_cons, List.foldl_append]
      rfl
    rw [hsplit, hlevel]
    omega
  · have hinside := hchild.height (n + 1)
    unfold Source.group
    rw [nestingFrom, Line.level, nestingFrom_append, hlevel, nestingFrom_closeLast]
    simp only [nestingFrom, Line.level]
    omega

end Source

/-! ## Providers with finitely many readable files -/

namespace Provider

variable {σ ι κ : Type} [DecidableEq ι] {provider : Provider σ ι κ} {limit : Option ℕ} {readable : Finset ι}

/-- whatever a provider was asked before, it reads no files but these -/
def ReadsOnly (provider : Provider σ ι κ) (readable : Finset ι) : Prop :=
  ∀ {state : σ} {identity : ι} {text : Text} {next : σ}, provider.read state identity = (.ok text, next) →
    identity ∈ readable

theorem card_sdiff_insert_lt (hreads : provider.ReadsOnly readable) {guard : Finset ι} {depth : ℕ} {state next : σ}
    {ask : Request κ} {file : Opened ι κ} (h : provider.enter limit guard depth state ask = (.ok file, next)) :
    (readable \ insert file.identity guard).card < (readable \ guard).card := by
  obtain ⟨_, -, hfresh, hread⟩ := enter_eq_ok h
  refine Finset.card_lt_card ⟨?_, fun hback => ?_⟩
  · exact Finset.sdiff_subset_sdiff le_rfl (Finset.subset_insert _ _)
  · have hin : file.identity ∈ readable \ guard := Finset.mem_sdiff.2 ⟨hreads hread, hfresh⟩
    exact (Finset.mem_sdiff.1 (hback hin)).2 (Finset.mem_insert_self _ _)

theorem exists_expands (limit : Option ℕ) (hreads : provider.ReadsOnly readable) (guard : Finset ι) (depth : ℕ)
    (context : κ) (state : σ) (pieces : List Text) :
    ∃ out final, provider.Expands limit guard depth context state pieces out final := by
  -- on the readable files outside the guard, and in one file on its pieces
  induction hn : (readable \ guard).card using Nat.strong_induction_on
    generalizing guard depth context state pieces with
  | _ n ih =>
    induction pieces generalizing state with
    | nil => exact ⟨[], state, .done⟩
    | cons piece rest ihrest =>
      cases hpath : includePath? piece with
      | none =>
        obtain ⟨out, final, hout⟩ := ihrest state
        exact ⟨_, final, .code hpath hout⟩
      | some path =>
        cases hentered : provider.enter limit guard depth state ⟨path, context⟩ with
        | mk result next =>
          cases result with
          | error line =>
            obtain ⟨out, final, hout⟩ := ihrest next
            exact ⟨_, final, .refused hpath hentered hout⟩
          | ok file =>
            have hfewer := card_sdiff_insert_lt hreads hentered
            obtain ⟨child, mid, hchild⟩ :=
              ih _ (hn ▸ hfewer) (insert file.identity guard) (depth + 1) file.context next _ rfl
            obtain ⟨out, final, hout⟩ := ihrest mid
            exact ⟨_, final, .nested hpath hentered hchild hout⟩

theorem exists_includes (limit : Option ℕ) (hreads : provider.ReadsOnly readable) (guard : Finset ι) (depth : ℕ)
    (context : κ) (state : σ) (path : Text) :
    ∃ answer final, provider.Includes limit guard depth context state path answer final := by
  cases hentered : provider.enter limit guard depth state ⟨path, context⟩ with
  | mk result next =>
    cases result with
    | error line => exact ⟨[line], next, Or.inl ⟨line, hentered, rfl⟩⟩
    | ok file =>
      obtain ⟨out, final, hout⟩ := exists_expands limit hreads (insert file.identity guard) (depth + 1)
        file.context next (Text.pieces file.text)
      exact ⟨out, final, Or.inr ⟨file, next, hentered, hout⟩⟩

/-- the line that stands for an include begins and ends nothing -/
theorem level_of_enter {guard : Finset ι} {depth : ℕ} {state next : σ} {ask : Request κ} {line : Line}
    (h : provider.enter limit guard depth state ask = (.error line, next)) (n : ℕ) : line.level n = n := by
  rcases enter_eq_error h with rfl | ⟨file, mid, -, rfl | ⟨m, rfl⟩ | rfl⟩ <;> rfl

/-- each include inside another holds a file more, so includes nest at most once more often than there are readable
files outside the guard -/
theorem Expands.nests (hreads : provider.ReadsOnly readable) {guard : Finset ι} {depth : ℕ} {context : κ}
    {state final : σ} {pieces : List Text} {out : Source}
    (h : provider.Expands limit guard depth context state pieces out final) :
    out.Nests ((readable \ guard).card + 1) := by
  induction h with
  | done => exact .nil _
  | code _ _ ih => exact ((Source.Nests.singleton fun _ => rfl).mono (Nat.zero_le _)).append ih
  | refused _ hentered _ ih =>
    have hline : Source.Nests 0 [_] := .singleton (level_of_enter hentered)
    exact ((hline.mono (Nat.zero_le _)).group _).append ih
  | nested _ hentered _ _ ihin ih =>
    have hfewer := card_sdiff_insert_lt hreads hentered
    exact ((ihin.mono hfewer).group _).append ih

theorem Includes.nests (hreads : provider.ReadsOnly readable) {guard : Finset ι} {depth : ℕ} {context : κ}
    {state final : σ} {path : Text} {answer : Source}
    (h : provider.Includes limit guard depth context state path answer final) :
    answer.Nests (readable \ guard).card := by
  rcases h with ⟨line, hentered, rfl⟩ | ⟨file, next, hentered, hexpands⟩
  · exact (Source.Nests.singleton (level_of_enter hentered)).mono (Nat.zero_le _)
  · exact (hexpands.nests hreads).mono (card_sdiff_insert_lt hreads hentered)

/-- a walk over finitely many readable files ends, and its includes nest no deeper than there are files -/
theorem exists_answer (limit : Option ℕ) (hreads : provider.ReadsOnly readable) (state : σ) (context : κ)
    (path : Text) :
    ∃ answer, provider.Answers limit state context path answer ∧ answer.nesting ≤ readable.card := by
  obtain ⟨answer, final, hanswer⟩ := exists_includes limit hreads ∅ 0 context state path
  refine ⟨answer, answers_iff.2 ⟨final, hanswer⟩, ?_⟩
  have hheight := (hanswer.nests hreads).height 0
  rwa [Finset.sdiff_empty, Nat.zero_add] at hheight

end Provider

/-- the files that a library can read make a finite set, because only so many can be read -/
theorem Library.exists_readable {ι κ : Type} (library : Library ι κ) :
    ∃ readable : Finset ι, ∀ identity, identity ∈ readable ↔ ∃ text, library.read identity = .ok text := by
  have hfinite : {identity : ι | ∃ text, library.read identity = .ok text}.Finite := by
    by_contra hinfinite
    obtain ⟨files, hfiles, hcard⟩ := Set.Infinite.exists_subset_card_eq hinfinite (library.most + 1)
    have hbound := library.bounded files.nodup_toList fun identity hidentity => by
      obtain ⟨text, hread⟩ := hfiles (Finset.mem_toList.1 hidentity)
      rw [hread]
      rfl
    rw [Finset.length_toList, hcard] at hbound
    omega
  exact ⟨hfinite.toFinset, fun identity => hfinite.mem_toFinset⟩

/-- **Flattening ends.** Every provider that can read only finitely many files gives an answer to every path, in every
context and whatever the depth limit, and includes nest at most as deep as there are such files. For a library there
are only finitely many, and the answer is what it is flattened to. -/
theorem flatten_ends {ι κ : Type} [DecidableEq ι] (limit : Option ℕ) (context : κ) (path : Text) :
    (∀ {σ : Type} (provider : Provider σ ι κ) (readable : Finset ι) (state : σ), provider.ReadsOnly readable →
      ∃ answer, provider.Answers limit state context path answer ∧ answer.nesting ≤ readable.card) ∧
    ∀ library : Library ι κ,
      library.provider.Answers limit () context path (library.flatten limit context path).source ∧
        ∃ readable : Finset ι, (∀ identity, identity ∈ readable ↔ ∃ text, library.read identity = .ok text) ∧
          (library.flatten limit context path).source.nesting ≤ readable.card := by
  refine ⟨fun provider readable state hreads => provider.exists_answer limit hreads state context path,
    fun library => ⟨Library.answers_iff.2 rfl, ?_⟩⟩
  obtain ⟨readable, hreadable⟩ := library.exists_readable
  have honly : library.provider.ReadsOnly readable := fun h => (hreadable _).2 ⟨_, congrArg Prod.fst h⟩
  obtain ⟨answer, hanswer, hnesting⟩ := library.provider.exists_answer limit honly () context path
  rw [Library.answers_iff.1 hanswer] at hnesting
  exact ⟨readable, hreadable, hnesting⟩

/-- a file that includes itself under a longer name each time it is read, and a file that cannot be read -/
theorem flatten_ends_changing :
    let provider : Provider ℕ Bool Text :=
      ⟨fun n context path => (.ok ⟨path ≠ "gone", path, path ++ context⟩, n + 1),
        fun n identity =>
          (if identity then .ok ("#include \"" ++ List.replicate n 'a' ++ "\"\n#include \"gone\"") else .error [], n + 1)⟩
    provider.ReadsOnly {true} ∧ ∃ answer, provider.Answers none 0 [] "main" answer ∧ answer.nesting ≤ 1 := by
  intro provider
  have hreads : provider.ReadsOnly {true} := by
    intro state identity text next h
    cases identity with
    | true => exact Finset.mem_singleton_self true
    | false => exact absurd (congrArg Prod.fst h) (by simp [provider])
  exact ⟨hreads, (flatten_ends none [] "main").1 provider {true} 0 hreads⟩

-- the bound is reached: of two files that include each other, the second include of the first is still begun
example :
    ((⟨[("a", "#include \"b\"\n"), ("b", "#include \"a\"")], [], []⟩ : Catalog).library.flatten none []
      "a").source.nesting = 2 := by
  decide +kernel

end GlslInspect
