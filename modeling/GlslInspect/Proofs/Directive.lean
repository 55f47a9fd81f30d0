/-
The grammar of include directives.

A `Directive` is a directive in its parts, and `Directive.text` writes it. What is read as a directive is what can be
written so (`includePath?_eq_some_iff`). Each part ends where the next begins with a character that it cannot have, so
no two directives are written alike (`Directive.text_injective`). A directive ends at its second quote, so a text
without quotes can be put behind a line, or taken away, and the answer stays the same
(`includePath?_append_of_not_mem`): this is how a newline, with a carriage return or without, does not count. Nor can a
path hold a newline that ends its line (`newline_not_mem_of_includePath?`).
Main result: `directive_grammar`.
-/
import Mathlib.Data.List.Basic
import GlslInspect.Include.Directive
import GlslInspect.Proofs.Pieces
import GlslInspect.Proofs.Reading

namespace GlslInspect

open Text Pattern

namespace Pattern

theorem exists_of_blanks1? {t rest : Text} (h : blanks1? t = some rest) :
    ∃ gap, gap ≠ [] ∧ gap.all isBlank = true ∧ t = gap ++ rest := by
  cases t with
  | nil => cases h
  | cons c t =>
    simp only [blanks1?] at h
    split_ifs at h with hc
    cases h
    refine ⟨c :: t.takeWhile isBlank, by simp, ?_, ?_⟩
    · rw [List.all_cons, hc, Bool.true_and, List.all_takeWhile]
    · exact congrArg (c :: ·) List.takeWhile_append_dropWhile.symm

/-- what is read up to a mark is not empty and does not have the mark -/
theorem run_of_upTo? {stop : Char} {t run rest : Text} (h : upTo? stop t = some (run, rest)) :
    run ≠ [] ∧ stop ∉ run := by
  have hsplit := eq_of_upTo? h
  have hpast := past?_eq_of_upTo? h
  unfold upTo? at h
  split_ifs at h with hhead
  rw [hpast, Option.map_some, Option.some.injEq, Prod.mk.injEq] at h
  refine ⟨?_, fun hmem => ?_⟩
  · rintro rfl
    exact hhead (by rw [hsplit]; rfl)
  · rw [← h.1] at hmem
    simpa using List.all_eq_true.1 List.all_takeWhile stop hmem

end Pattern

structure Directive where
  /-- the blanks in front of the keyword -/
  lead : Text
  /-- the blanks behind it -/
  gap : Text
  path : Text
  /-- what stands behind the closing quote -/
  rest : Text
  lead_blank : lead.all isBlank = true
  gap_blank : gap.all isBlank = true
  gap_ne_nil : gap ≠ []
  path_ne_nil : path ≠ []
  unquoted : '"' ∉ path

namespace Directive

/-- a directive up to its closing quote -/
def front (d : Directive) : Text := d.lead ++ ("#include" ++ (d.gap ++ '"' :: d.path))

/-- a directive as it is written -/
def text (d : Directive) : Text := d.front ++ '"' :: d.rest

theorem includePath?_text (d : Directive) : includePath? d.text = some d.path := by
  have hsplit : d.text = d.lead ++ ("#include" ++ (d.gap ++ '"' :: (d.path ++ '"' :: d.rest))) := by
    simp [text, front]
  have hlead : blanks d.text = "#include" ++ (d.gap ++ '"' :: (d.path ++ '"' :: d.rest)) := by
    rw [hsplit, blanks_append (List.all_eq_true.1 d.lead_blank)]
    exact blanks_cons (by decide) _
  have hgap : blanks1? (d.gap ++ '"' :: (d.path ++ '"' :: d.rest)) = some ('"' :: (d.path ++ '"' :: d.rest)) := by
    rw [blanks1?_append d.gap_ne_nil (List.all_eq_true.1 d.gap_blank), blanks_cons (by decide)]
  have hpath : upTo? '"' (d.path ++ '"' :: d.rest) = some (d.path, d.rest) :=
    upTo?_append d.path_ne_nil d.unquoted d.rest
  unfold includePath?
  rw [hlead, after?_append, Option.bind_eq_bind, Option.bind_some, hgap, Option.bind_eq_bind, Option.bind_some]
  change (upTo? '"' (d.path ++ '"' :: d.rest)).bind _ = _
  rw [hpath]
  rfl

/-- there is one way to read a directive -/
theorem text_injective : Function.Injective text := by
  intro d e h
  have hparts : d.lead ++ ("#include" ++ (d.gap ++ '"' :: (d.path ++ '"' :: d.rest))) =
      e.lead ++ ("#include" ++ (e.gap ++ '"' :: (e.path ++ '"' :: e.rest))) := by
    simpa [text, front] using h
  have hkeyword : ∀ t : Text, ∀ c ∈ (("#include" : Text) ++ t).head?, isBlank c = false := by
    rintro t c ⟨⟩
    decide
  have hquote : ∀ t : Text, ∀ c ∈ ('"' :: t).head?, isBlank c = false := by
    rintro t c ⟨⟩
    decide
  have hclosing : ∀ t : Text, ∀ c ∈ ('"' :: t).head?, (c != '"') = false := by
    rintro t c ⟨⟩
    rfl
  have hunquoted : ∀ f : Directive, f.path.all (· != '"') = true := by
    intro f
    exact List.all_eq_true.2 fun c hc => bne_iff_ne.2 fun heq => f.unquoted (heq ▸ hc)
  obtain ⟨hlead, hparts⟩ := append_inj_of_head? d.lead_blank e.lead_blank (hkeyword _) (hkeyword _) hparts
  obtain ⟨hgap, hparts⟩ := append_inj_of_head? d.gap_blank e.gap_blank (hquote _) (hquote _)
    (List.append_cancel_left hparts)
  obtain ⟨hpath, hparts⟩ := append_inj_of_head? (hunquoted d) (hunquoted e) (hclosing _) (hclosing _)
    (List.cons.inj hparts).2
  have hrest : d.rest = e.rest := (List.cons.inj hparts).2
  cases d
  cases e
  simp_all

end Directive

theorem exists_directive_of_includePath? {line path : Text} (h : includePath? line = some path) :
    ∃ d : Directive, d.text = line ∧ d.path = path := by
  simp only [includePath?, Option.bind_eq_bind, Option.bind_eq_some_iff, after?_eq_some_iff] at h
  obtain ⟨keyword, hkeyword, blank, hblank, quoted, hquoted, ⟨spelled, after⟩, hspelled, hsame⟩ := h
  cases hsame
  obtain ⟨gap, hgap, hall, hbehind⟩ := exists_of_blanks1? hblank
  obtain ⟨hne, hunquoted⟩ := run_of_upTo? hspelled
  refine ⟨⟨line.takeWhile isBlank, gap, spelled, after, List.all_takeWhile .., hall, hgap, hne, hunquoted⟩, ?_, rfl⟩
  calc _ = line.takeWhile isBlank ++ ("#include" ++ (gap ++ ("\"" ++ (spelled ++ '"' :: after)))) := by
        simp [Directive.text, Directive.front]
    _ = line.takeWhile isBlank ++ blanks line := by rw [← eq_of_upTo? hspelled, ← hquoted, ← hbehind, ← hkeyword]
    _ = line := List.takeWhile_append_dropWhile

theorem includePath?_eq_some_iff {line path : Text} :
    includePath? line = some path ↔ ∃ d : Directive, d.text = line ∧ d.path = path := by
  constructor
  · exact exists_directive_of_includePath?
  · rintro ⟨d, rfl, rfl⟩
    exact d.includePath?_text

/-- what stands behind a directive does not count -/
theorem includePath?_append {line path : Text} (h : includePath? line = some path) (t : Text) :
    includePath? (line ++ t) = some path := by
  obtain ⟨d, rfl, rfl⟩ := exists_directive_of_includePath? h
  have hlonger : d.text ++ t = { d with rest := d.rest ++ t : Directive }.text := by
    simp [Directive.text, Directive.front]
  rw [hlonger, Directive.includePath?_text]

/-- a text without quotes makes no difference behind a line -/
theorem includePath?_append_of_not_mem (line : Text) {t : Text} (h : '"' ∉ t) :
    includePath? (line ++ t) = includePath? line := by
  cases hline : includePath? line with
  | some path => exact includePath?_append hline t
  | none =>
    refine Option.eq_none_iff_forall_ne_some.2 fun path hpath => ?_
    obtain ⟨d, hd, rfl⟩ := exists_directive_of_includePath? hpath
    -- the closing quote is in the line, so the line is a directive already
    rcases List.append_eq_append_iff.1 hd with ⟨more, hmore, hrest⟩ | ⟨more, hmore, hrest⟩
    · cases more with
      | nil =>
        rw [← show '"' :: d.rest = t from hrest] at h
        exact h List.mem_cons_self
      | cons c more =>
        obtain ⟨rfl, -⟩ := List.cons.inj hrest
        have hshorter : line = { d with rest := more : Directive }.text := hmore
        rw [hshorter, Directive.includePath?_text] at hline
        cases hline
    · rw [hrest] at h
      exact h (List.mem_append_right _ List.mem_cons_self)

/-- the path of a directive stands in front of its second quote, so it does not reach the end of the line -/
theorem newline_not_mem_of_includePath? {line path : Text} (hline : IsPiece line)
    (h : includePath? line = some path) : '\n' ∉ path := by
  obtain ⟨d, rfl, rfl⟩ := exists_directive_of_includePath? h
  intro hmem
  refine hline.2 ?_
  rw [Directive.text, List.dropLast_append_of_ne_nil (by simp)]
  exact List.mem_append_left _ (by simp [Directive.front, hmem])

/-- **The grammar of directives.** A path is read on a line exactly if the line is a directive with that path: blanks,
maybe none, `#include`, blanks, at least one, a quote, the path, which is not empty and has no quote, a quote, and
anything. No line is a directive in two ways. And on a line of a text no path has a newline, and the end of the line, a
newline with a carriage return or without, makes no difference. -/
theorem directive_grammar :
    (∀ line path : Text, includePath? line = some path ↔ ∃ d : Directive, d.text = line ∧ d.path = path) ∧
    (∀ d e : Directive, d.text = e.text → d = e) ∧
    ∀ t : Text, ∀ piece ∈ pieces t,
      (∀ path, includePath? piece = some path → '\n' ∉ path) ∧
      ∀ bare : Text, piece = bare ++ "\n" ∨ piece = bare ++ "\r\n" → includePath? bare = includePath? piece := by
  refine ⟨fun line path => includePath?_eq_some_iff, fun d e h => Directive.text_injective h, ?_⟩
  intro t piece hpiece
  have hcut : IsPiece piece := (wellCut_pieces t).isPiece piece hpiece
  refine ⟨fun path hpath => newline_not_mem_of_includePath? hcut hpath, ?_⟩
  rintro bare (rfl | rfl)
  · exact (includePath?_append_of_not_mem bare (by decide)).symm
  · exact (includePath?_append_of_not_mem bare (by decide)).symm

/-- wide blanks, a second pair of quotes behind the path, and a carriage return in front of the newline -/
theorem directive_grammar_returned :
    let bare : Text := "\u2003\t#include\u00a0 \"a b\" \"c\""
    let piece : Text := bare ++ "\r\n"
    piece ∈ pieces (piece ++ "x") ∧ includePath? piece = some "a b".toList ∧ '\n' ∉ "a b".toList ∧
      includePath? bare = includePath? piece := by
  intro bare piece
  have hpiece : piece ∈ pieces (piece ++ "x") := by decide +kernel
  have hpath : includePath? piece = some "a b".toList := by decide +kernel
  obtain ⟨hnewline, hbare⟩ := directive_grammar.2.2 (piece ++ "x") piece hpiece
  exact ⟨hpiece, hpath, hnewline _ hpath, hbare bare (Or.inr rfl)⟩

end GlslInspect
