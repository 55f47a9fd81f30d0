/-
Where included files come from.

A `Library` says what a spelled path means in a context and what a file holds. A context is whatever the library hands
back with a file, for that file's own includes; it is a text where nothing else is said. Files are told apart by their
identity: two spellings of one file must resolve to one identity, because an open file is recognised by it. Only
finitely many identities can be read, and `Library.most` bounds how many; `unopened` is what the bound leaves for those
that are not open, and it falls with every file that is opened (`unopened_cons_lt`), which is why expansion ends.
-/
import GlslInspect.Text.Basic

namespace GlslInspect

/-- what a spelled path means -/
structure Resolved (ι : Type) (κ : Type := Text) where
  /-- which file it is -/
  identity : ι
  /-- how the file is shown -/
  display : Text
  /-- where the file's own includes are looked up -/
  context : κ
  deriving DecidableEq, Repr

structure Library (ι : Type) (κ : Type := Text) where
  /-- the meaning of a path in a context, or why it has none -/
  resolve : (context : κ) → (path : Text) → Except Text (Resolved ι κ)
  /-- the text of a file, or why it cannot be read -/
  read : ι → Except Text Text
  /-- how many files can be read at most -/
  most : Nat
  /-- no more files can be read -/
  bounded : ∀ {files : List ι}, files.Nodup → (∀ identity ∈ files, (read identity).isOk = true) → files.length ≤ most

namespace Library

variable {ι κ : Type} [DecidableEq ι]

/-- the readable files of a stack, each once -/
def opened (library : Library ι κ) : List ι → List ι
  | [] => []
  | identity :: stack =>
    if (library.read identity).isOk ∧ identity ∉ stack then identity :: library.opened stack
    else library.opened stack

/-- how many readable files there may be that are not open -/
def unopened (library : Library ι κ) (stack : List ι) : Nat := library.most - (library.opened stack).length

theorem mem_opened_iff {library : Library ι κ} {stack : List ι} {identity : ι} :
    identity ∈ library.opened stack ↔ identity ∈ stack ∧ (library.read identity).isOk = true := by
  induction stack with
  | nil => simp [opened]
  | cons other stack ih =>
    rw [opened]
    split <;> simp only [List.mem_cons, ih] <;> grind

theorem nodup_opened (library : Library ι κ) (stack : List ι) : (library.opened stack).Nodup := by
  induction stack with
  | nil => exact List.nodup_nil
  | cons other stack ih =>
    rw [opened]
    split
    · rename_i fresh
      exact List.nodup_cons.2 ⟨fun h => fresh.2 (mem_opened_iff.1 h).1, ih⟩
    · exact ih

/-- opening a readable file leaves fewer to open -/
theorem unopened_cons_lt {library : Library ι κ} {stack : List ι} {identity : ι} {text : Text}
    (readable : library.read identity = .ok text) (fresh : identity ∉ stack) :
    library.unopened (identity :: stack) < library.unopened stack := by
  have ok : (library.read identity).isOk = true := by rw [readable]; rfl
  have grown : library.opened (identity :: stack) = identity :: library.opened stack := by
    rw [opened, if_pos ⟨ok, fresh⟩]
  have bound : (library.opened (identity :: stack)).length ≤ library.most :=
    library.bounded (library.nodup_opened _) fun _ h => (mem_opened_iff.1 h).2
  unfold unopened
  rw [grown, List.length_cons] at bound ⊢
  omega

end Library

end GlslInspect
