/-
The pieces of a text.

Cutting a text after each newline gives pieces of one shape (`WellCut`): none is empty, a newline stands only at the
end of a piece, and all but the last piece have one.
- `wellCut_pieces`: the pieces of every text have this shape;
- `pieces_flatten`: texts of this shape, written one after the other, are cut into themselves again, so a text has
  exactly one such cut;
- `pieces_append`: cutting goes on at a fresh line as if nothing stood before it.
-/
import GlslInspect.Text.Basic

namespace GlslInspect.Text

/-- a text that ends in its only newline -/
def IsLine (t : Text) : Prop := ∃ body, '\n' ∉ body ∧ t = body ++ ['\n']

/-- a text that is not empty and has a newline at most as its last character -/
def IsPiece (t : Text) : Prop := t ≠ [] ∧ '\n' ∉ t.dropLast

/-- texts that are lines, up to a last one that may lack its newline -/
def WellCut : List Text → Prop
  | [] => True
  | [t] => IsPiece t
  | t :: u :: rest => IsLine t ∧ WellCut (u :: rest)

/-- whether what follows a text starts on a fresh line -/
def EndsFresh (t : Text) : Prop := t = [] ∨ t.getLast? = some '\n'

theorem IsLine.isPiece {t : Text} (h : IsLine t) : IsPiece t := by
  obtain ⟨body, hbody, rfl⟩ := h
  exact ⟨by simp, by simpa using hbody⟩

theorem IsLine.getLast? {t : Text} (h : IsLine t) : t.getLast? = some '\n' := by
  obtain ⟨body, -, rfl⟩ := h
  simp

/-- a piece is a line as soon as it ends in a newline -/
theorem IsPiece.isLine {t : Text} (h : IsPiece t) (hend : t.getLast? = some '\n') : IsLine t := by
  obtain ⟨before, rfl⟩ := List.getLast?_eq_some_iff.1 hend
  exact ⟨before, by simpa using h.2, rfl⟩

/-- closing a piece that lacks its newline gives a line -/
theorem IsPiece.isLine_append {t : Text} (h : IsPiece t) (hend : t.getLast? ≠ some '\n') : IsLine (t ++ ['\n']) := by
  refine ⟨t, fun hmem => ?_, rfl⟩
  rcases List.eq_nil_or_concat t with hnil | ⟨before, last, heq⟩
  · exact h.1 hnil
  · rw [List.concat_eq_append] at heq
    subst heq
    rcases List.mem_append.1 hmem with hin | hlast
    · exact h.2 (by simpa using hin)
    · rw [List.mem_singleton] at hlast
      exact hend (by simp [← hlast])

theorem wellCut_cons {t : Text} {ps : List Text} (ht : IsLine t) (hps : WellCut ps) : WellCut (t :: ps) := by
  cases ps with
  | nil => exact ht.isPiece
  | cons u rest => exact ⟨ht, hps⟩

theorem wellCut_append {ls ps : List Text} (hls : ∀ t ∈ ls, IsLine t) (hps : WellCut ps) : WellCut (ls ++ ps) := by
  induction ls with
  | nil => exact hps
  | cons t ls ih => exact wellCut_cons (hls t List.mem_cons_self) (ih fun u hu => hls u (List.mem_cons_of_mem t hu))

theorem WellCut.tail {t : Text} {ps : List Text} (h : WellCut (t :: ps)) : WellCut ps := by
  cases ps with
  | nil => trivial
  | cons u rest => exact h.2

theorem WellCut.head {t : Text} {ps : List Text} (h : WellCut (t :: ps)) : IsPiece t := by
  cases ps with
  | nil => exact h
  | cons u rest => exact h.1.isPiece

theorem WellCut.isPiece {ps : List Text} (h : WellCut ps) : ∀ t ∈ ps, IsPiece t := by
  induction ps with
  | nil => simp
  | cons t ps ih =>
    intro u hu
    rcases List.mem_cons.1 hu with rfl | hu
    · exact h.head
    · exact ih h.tail u hu

theorem WellCut.isLine_of_mem_dropLast {ps : List Text} (h : WellCut ps) : ∀ t ∈ ps.dropLast, IsLine t := by
  induction ps with
  | nil => simp
  | cons t ps ih =>
    cases ps with
    | nil => simp
    | cons u rest =>
      intro v hv
      rw [List.dropLast_cons_cons] at hv
      rcases List.mem_cons.1 hv with rfl | hv
      · exact h.1
      · exact ih h.2 v hv

theorem pieces_eq_singleton {t : Text} (hne : t ≠ []) (h : '\n' ∉ t) : pieces t = [t] := by
  induction t with
  | nil => exact absurd rfl hne
  | cons c t ih =>
    have hc : c ≠ '\n' := fun e => h (e ▸ List.mem_cons_self)
    have ht : '\n' ∉ t := fun m => h (List.mem_cons_of_mem c m)
    cases t with
    | nil => simp [pieces, hc, consHead]
    | cons d t =>
      rw [pieces, if_neg hc, ih (by simp) ht]
      rfl

theorem pieces_line_append {l t : Text} (h : IsLine l) : pieces (l ++ t) = l :: pieces t := by
  obtain ⟨body, hbody, rfl⟩ := h
  induction body with
  | nil => simp [pieces]
  | cons c body ih =>
    have hc : c ≠ '\n' := fun e => hbody (e ▸ List.mem_cons_self)
    have hrest : '\n' ∉ body := fun m => hbody (List.mem_cons_of_mem c m)
    rw [List.cons_append, List.cons_append, pieces, if_neg hc, ih hrest]
    rfl

/-- well-cut texts are the pieces of what they make up together -/
theorem pieces_flatten {ps : List Text} (h : WellCut ps) : pieces ps.flatten = ps := by
  induction ps with
  | nil => rfl
  | cons t ps ih =>
    cases ps with
    | nil =>
      have ht : IsPiece t := h
      rw [List.flatten_singleton]
      by_cases hend : t.getLast? = some '\n'
      · simpa [pieces] using pieces_line_append (t := []) (ht.isLine hend)
      · obtain ⟨body, hbody, heq⟩ := ht.isLine_append hend
        have hsame : t = body := List.append_cancel_right heq
        exact pieces_eq_singleton ht.1 (hsame ▸ hbody)
    | cons u rest => rw [List.flatten_cons, pieces_line_append h.1, ih h.2]

theorem wellCut_pieces (t : Text) : WellCut (pieces t) := by
  induction t with
  | nil => trivial
  | cons c t ih =>
    by_cases hc : c = '\n'
    · rw [pieces, if_pos hc]
      exact wellCut_cons ⟨[], by simp, by simp [hc]⟩ ih
    · rw [pieces, if_neg hc]
      -- the character joins the first piece, which stays a line if it was one
      cases hp : pieces t with
      | nil => exact ⟨by simp, by simp⟩
      | cons p rest =>
        rw [hp] at ih
        cases rest with
        | nil =>
          have hpiece : IsPiece p := ih
          refine ⟨by simp, ?_⟩
          rw [List.dropLast_cons_of_ne_nil hpiece.1]
          simp [Ne.symm hc, hpiece.2]
        | cons q rest =>
          obtain ⟨body, hbody, rfl⟩ := ih.1
          exact ⟨⟨c :: body, by simp [Ne.symm hc, hbody], rfl⟩, ih.2⟩

theorem isLine_of_mem_pieces {t u : Text} (h : EndsFresh t) (hu : u ∈ pieces t) : IsLine u := by
  have hcut := wellCut_pieces t
  rcases List.eq_nil_or_concat (pieces t) with hnil | ⟨before, last, heq⟩
  · simp [hnil] at hu
  · rw [List.concat_eq_append] at heq
    rw [heq] at hcut hu
    rcases List.mem_append.1 hu with hin | hlast
    · exact hcut.isLine_of_mem_dropLast u (by simpa using hin)
    · rw [List.mem_singleton] at hlast
      subst hlast
      have hpiece : IsPiece u := hcut.isPiece u (by simp)
      have hflat : t = before.flatten ++ u := by rw [← flatten_pieces t, heq]; simp
      rcases h with rfl | hend
      · simp [pieces] at heq
      · refine hpiece.isLine ?_
        rwa [hflat, List.getLast?_append, List.getLast?_eq_some_getLast hpiece.1, Option.some_or,
          ← List.getLast?_eq_some_getLast hpiece.1] at hend

/-- behind a text that ends fresh, cutting starts anew -/
theorem pieces_append {a b : Text} (h : EndsFresh a) : pieces (a ++ b) = pieces a ++ pieces b := by
  have hcut : WellCut (pieces a ++ pieces b) :=
    wellCut_append (fun t ht => isLine_of_mem_pieces h ht) (wellCut_pieces b)
  have hflat : (pieces a ++ pieces b).flatten = a ++ b := by
    rw [List.flatten_append, flatten_pieces, flatten_pieces]
  rw [← hflat, pieces_flatten hcut]

end GlslInspect.Text
