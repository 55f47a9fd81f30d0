/-
The expansions of a library.

`Library.expand_induction` is the one induction on an expansion: it follows the pieces of a file, and the file that a
directive opens. With it the expansion of a library is shown to be the walk of its provider
(`Library.expands_provider`), so flattening gives the one answer of that walk (`Library.answers_iff`): the walk of a
library always ends.
-/
import GlslInspect.Proofs.Walk

namespace GlslInspect

namespace Source

theorem closeLast_append_of_ne_nil (a : Source) {b : Source} (h : b ≠ []) :
    closeLast (a ++ b) = a ++ closeLast b := by
  induction a with
  | nil => rfl
  | cons line a ih =>
    obtain ⟨next, rest, hab⟩ := List.exists_cons_of_ne_nil (List.append_ne_nil_of_right_ne_nil a h)
    rw [List.cons_append, List.cons_append, ← ih, hab]
    rfl

@[simp] theorem closeLast_skip {ι κ : Type} (ask : Request κ) (why : Skip ι κ) :
    closeLast [why.line ask] = [why.line ask] := by
  cases why <;> rfl

/-- what holds of all lines, and of a line when it is closed, holds of all lines with the last one closed -/
theorem forall_mem_closeLast {P : Line → Prop} (hclosed : ∀ line, P line → P line.closed) {source : Source}
    (h : ∀ line ∈ source, P line) : ∀ line ∈ source.closeLast, P line := by
  induction source using closeLast.induct with
  | case1 => exact h
  | case2 line =>
    intro last hlast
    rw [closeLast, List.mem_singleton] at hlast
    rw [hlast]
    exact hclosed line (h line List.mem_cons_self)
  | case3 line next rest ih =>
    intro other hother
    rcases List.mem_cons.1 hother with rfl | hother
    · exact h _ List.mem_cons_self
    · exact ih (fun l hl => h l (List.mem_cons_of_mem line hl)) other hother

theorem forall₂_closeLast {R : Line → Line → Prop} (hclosed : ∀ a b, R a b → R a.closed b.closed) {s t : Source}
    (h : List.Forall₂ R s t) : List.Forall₂ R s.closeLast t.closeLast := by
  induction h with
  | nil => exact .nil
  | cons hline hrest ih =>
    cases hrest with
    | nil => exact .cons (hclosed _ _ hline) .nil
    | cons hnext hlater => exact .cons hline ih

end Source

namespace Library

variable {ι κ : Type}

theorem pastLimit_eq_filter (limit : Option ℕ) (stack : List ι) :
    pastLimit limit stack = limit.filter (· < stack.length) := by
  cases limit with
  | none => rfl
  | some n => by_cases h : n < stack.length <;> simp [pastLimit, Option.filter, h]

variable [DecidableEq ι] (library : Library ι κ) (limit : Option ℕ)

/-- what holds of each way to expand a piece, given what follows and what is inside, holds of every expansion -/
theorem expand_induction {motive : List ι → κ → List Text → Expansion ι κ → Prop}
    (done : ∀ stack context, motive stack context [] .done)
    (code : ∀ stack context piece rest tree, includePath? piece = none → motive stack context rest tree →
      motive stack context (piece :: rest) (.code piece tree))
    (skipped : ∀ stack context piece rest path why tree, includePath? piece = some path →
      library.enter limit stack ⟨path, context⟩ = .error why → motive stack context rest tree →
      motive stack context (piece :: rest) (.skipped ⟨path, context⟩ why tree))
    (nested : ∀ stack context piece rest path file body tree, includePath? piece = some path →
      library.enter limit stack ⟨path, context⟩ = .ok file →
      motive (file.identity :: stack) file.context (Text.pieces file.text) body → motive stack context rest tree →
      motive stack context (piece :: rest) (.nested ⟨path, context⟩ file body tree))
    (stack : List ι) (context : κ) (pieces : List Text) :
    motive stack context pieces (library.expand limit stack context pieces) := by
  -- each file that is opened leaves fewer to open; inside one file the pieces get fewer
  induction hn : library.unopened stack using Nat.strong_induction_on generalizing stack context pieces with
  | _ n ih =>
    induction pieces with
    | nil =>
      rw [expand_nil]
      exact done stack context
    | cons piece rest ihrest =>
      cases hpath : includePath? piece with
      | none =>
        rw [expand_code hpath]
        exact code stack context piece rest _ hpath ihrest
      | some path =>
        cases hentered : library.enter limit stack ⟨path, context⟩ with
        | error why =>
          rw [expand_skipped hpath hentered]
          exact skipped stack context piece rest path why _ hpath hentered ihrest
        | ok file =>
          have hfile := enter_eq_ok hentered
          have hfewer : library.unopened (file.identity :: stack) < n :=
            hn ▸ unopened_cons_lt hfile.2 hfile.1
          rw [expand_nested hpath hentered]
          exact nested stack context piece rest path file _ _ hpath hentered (ih _ hfewer _ _ _ rfl) ihrest

/-! ## A library as a provider -/

/-- the guard of a walk is the stack of an expansion as a set, and its depth the length of the stack -/
theorem enter_provider (stack : List ι) (ask : Request κ) :
    library.provider.enter limit stack.toFinset stack.length () ask =
      (match library.enter limit stack ask with
        | .error why => .error (why.line ask)
        | .ok file => .ok file, ()) := by
  unfold Provider.enter enter
  rw [pastLimit_eq_filter]
  simp only [provider, List.mem_toFinset]
  cases library.resolve ask.context ask.path with
  | error reason => rfl
  | ok file =>
    by_cases hin : file.identity ∈ stack
    · simp only [hin, if_true]
      rfl
    · simp only [hin, if_false]
      cases limit.filter (· < stack.length) with
      | some n => rfl
      | none => cases library.read file.identity <;> rfl

theorem expands_provider (stack : List ι) (context : κ) (pieces : List Text) :
    library.provider.Expands limit stack.toFinset stack.length context () pieces
      (library.expand limit stack context pieces).lines () := by
  refine expand_induction library limit
    (motive := fun stack context pieces tree =>
      library.provider.Expands limit stack.toFinset stack.length context () pieces tree.lines ())
    ?_ ?_ ?_ ?_ stack context pieces
  · intro stack context
    exact .done
  · intro stack context piece rest tree hpath later
    exact .code hpath later
  · intro stack context piece rest path why tree hpath hentered later
    have hrefused := library.enter_provider limit stack ⟨path, context⟩
    rw [hentered] at hrefused
    simpa [Expansion.lines, Source.group] using Provider.Expands.refused hpath hrefused later
  · intro stack context piece rest path file body tree hpath hentered inside later
    have hopened := library.enter_provider limit stack ⟨path, context⟩
    rw [hentered] at hopened
    rw [List.toFinset_cons] at inside
    simpa [Expansion.lines, Source.group] using Provider.Expands.nested hpath hopened inside later

variable {library limit}

/-- flattening a file of a library gives the answer of its walk, and there is no other -/
theorem answers_iff {context : κ} {path : Text} {answer : Source} :
    library.provider.Answers limit () context path answer ↔ answer = (library.flatten limit context path).source := by
  have hflatten : library.provider.Answers limit () context path (library.flatten limit context path).source := by
    have hroot := library.enter_provider limit [] ⟨path, context⟩
    rw [Provider.answers_iff]
    refine ⟨(), ?_⟩
    unfold flatten Flattening.source
    cases hentered : library.enter limit [] ⟨path, context⟩ with
    | error why =>
      rw [hentered] at hroot
      exact Or.inl ⟨_, hroot, rfl⟩
    | ok file =>
      rw [hentered] at hroot
      refine Or.inr ⟨file, (), hroot, ?_⟩
      simpa using library.expands_provider limit [file.identity] file.context (Text.pieces file.text)
  constructor
  · intro h
    exact h.unique hflatten
  · rintro rfl
    exact hflatten

end Library

end GlslInspect
