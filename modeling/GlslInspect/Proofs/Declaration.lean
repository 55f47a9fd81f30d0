/-
The grammar of member declarations.

A `Statement` is a declaration in its parts, and `Statement.text` writes it. What is read as a declaration is what can
be written so (`declaration?_eq_some_iff`). A declaration ends at its semicolon, so what stands behind it counts only as
far as it is a comment: a text without one can be cut at a brace behind it, and trimmed
(`declaration?_trim_append_brace`).
-/
import Mathlib.Data.List.Basic
import GlslInspect.Block.Scan
import GlslInspect.Proofs.Directive
import GlslInspect.Proofs.Reading

namespace GlslInspect

open Text Pattern

namespace Pattern

theorem exists_of_blanks (t : Text) : ∃ b, b.all isBlank = true ∧ t = b ++ blanks t :=
  ⟨t.takeWhile isBlank, List.all_takeWhile .., List.takeWhile_append_dropWhile.symm⟩

theorem exists_of_word? {t run rest : Text} (h : word? t = some (run, rest)) :
    ∃ w : Word, w.text = run ∧ t = run ++ rest := by
  obtain ⟨hne, hword, hsplit⟩ := eq_of_run1? h
  exact ⟨⟨run, hne, hword⟩, rfl, hsplit⟩

/-- blanks are passed up to the first character that is none -/
theorem blanks_append_cons {c : Char} (hc : isBlank c = false) (t rest : Text) :
    blanks (t ++ c :: rest) = blanks t ++ c :: rest :=
  dropWhile_append_cons hc t rest

/-- trimming does not pass a character that is no blank, from either side -/
theorem trim_append_cons {c : Char} (hc : isBlank c = false) (t rest : Text) :
    trim (t ++ c :: rest) = blanks t ++ c :: dropEndWhile isBlank rest := by
  have hstart : trimStart (t ++ c :: rest) = blanks t ++ c :: rest := blanks_append_cons hc t rest
  rw [trim, hstart, dropEndWhile_append_cons hc]

end Pattern

/-- a declaration in its parts -/
structure Statement where
  type : GlslType
  /-- the blanks between the type and the name -/
  gap : Text
  name : Word
  /-- the blanks in front of the semicolon -/
  trail : Text
  /-- what stands behind the semicolon -/
  rest : Text
  gap_blank : gap.all isBlank = true
  gap_ne_nil : gap ≠ []
  trail_blank : trail.all isBlank = true

namespace Statement

/-- a declaration up to its semicolon -/
def front (s : Statement) : Text := s.type.keyword ++ (s.gap ++ (s.name.text ++ s.trail))

/-- a declaration as it is written -/
def text (s : Statement) : Text := s.front ++ ';' :: s.rest

def declaration (s : Statement) : Declaration := ⟨s.type, s.name.text, trailingComment s.rest⟩

theorem text_eq (s : Statement) :
    s.text = s.type.keyword ++ (s.gap ++ (s.name.text ++ (s.trail ++ ';' :: s.rest))) := by
  simp [text, front]

theorem brace_not_mem_front (s : Statement) : '\x7d' ∉ s.front := by
  have hkeyword : '\x7d' ∉ s.type.keyword := by cases s.type <;> decide
  have hgap : '\x7d' ∉ s.gap := not_mem_of_all s.gap_blank (by decide)
  have htrail : '\x7d' ∉ s.trail := not_mem_of_all s.trail_blank (by decide)
  have hname : '\x7d' ∉ s.name.text := s.name.not_mem (by decide)
  simp [front, hkeyword, hgap, hname, htrail]

theorem declarationOf?_text (s : Statement) : declarationOf? s.type s.text = some s.declaration := by
  have hname : word? (s.name.text ++ (s.trail ++ ';' :: s.rest)) = some (s.name.text, s.trail ++ ';' :: s.rest) := by
    refine word?_append s.name fun c hc => ?_
    cases htrail : s.trail with
    | nil =>
      rw [htrail] at hc
      cases hc
      decide
    | cons d rest =>
      rw [htrail] at hc
      cases hc
      exact isWord_of_isBlank (List.all_eq_true.1 s.trail_blank _ (by simp [htrail]))
  have hend : blanks (s.trail ++ ';' :: s.rest) = ';' :: s.rest := by
    rw [blanks_append (List.all_eq_true.1 s.trail_blank), blanks_cons (by decide)]
  unfold declarationOf?
  rw [text_eq, after?_append, Option.bind_eq_bind, Option.bind_some,
    blanks1?_append s.gap_ne_nil (List.all_eq_true.1 s.gap_blank), blanks_word, Option.bind_eq_bind, Option.bind_some,
    hname, Option.bind_some]
  dsimp only
  rw [hend]
  rfl

/-- no keyword begins with another, so a declaration is one of its own type only -/
theorem declarationOf?_of_ne (s : Statement) {type : GlslType} (h : type ≠ s.type) :
    declarationOf? type s.text = none := by
  have hapart : ∀ a b : GlslType, a ≠ b → ¬ a.keyword <+: b.keyword ∧ ¬ b.keyword <+: a.keyword := by
    intro a b
    cases a <;> cases b <;> decide
  have hkeyword : after? type.keyword s.text = none := by
    refine Option.eq_none_iff_forall_ne_some.2 fun rest hrest => ?_
    rw [text_eq] at hrest
    have hprefix : type.keyword <+: s.type.keyword ++ _ := ⟨rest, (after?_eq_some_iff.1 hrest).symm⟩
    rcases List.prefix_or_prefix_of_prefix hprefix (List.prefix_append _ _) with hshort | hlong
    · exact (hapart _ _ h).1 hshort
    · exact (hapart _ _ h).2 hlong
  rw [declarationOf?, hkeyword]
  rfl

theorem declaration?_text (s : Statement) : declaration? s.text = some s.declaration := by
  have hmem : s.type ∈ [GlslType.mat4, .float, .vec2, .vec3, .vec4] := by cases s.type <;> decide
  obtain ⟨before, after, hlist, hnot⟩ := List.eq_append_cons_of_mem hmem
  refine List.findSome?_eq_some_iff.2 ⟨before, s.type, after, hlist, s.declarationOf?_text, fun type htype => ?_⟩
  exact s.declarationOf?_of_ne fun heq => hnot (heq ▸ htype)

end Statement

theorem exists_statement_of_declarationOf? {type : GlslType} {t : Text} {d : Declaration}
    (h : declarationOf? type t = some d) : ∃ s : Statement, s.text = t ∧ s.declaration = d := by
  simp only [declarationOf?, Option.bind_eq_bind, Option.bind_eq_some_iff, after?_eq_some_iff] at h
  obtain ⟨behind, hkeyword, start, hgap, ⟨run, ending⟩, hname, rest, hend, hd⟩ := h
  obtain ⟨gap, hne, hblank, rfl⟩ := exists_of_blanks1? hgap
  obtain ⟨name, rfl, rfl⟩ := exists_of_word? hname
  obtain ⟨trail, htrail, hending⟩ := exists_of_blanks ending
  cases hd
  refine ⟨⟨type, gap, name, trail, rest, hblank, hne, htrail⟩, ?_, rfl⟩
  rw [Statement.text_eq, hkeyword]
  dsimp only at hend ⊢
  rw [hending, hend]
  rfl

theorem declaration?_eq_some_iff {t : Text} {d : Declaration} :
    declaration? t = some d ↔ ∃ s : Statement, s.text = t ∧ s.declaration = d := by
  constructor
  · intro h
    obtain ⟨type, -, hd⟩ := List.exists_of_findSome?_eq_some h
    exact exists_statement_of_declarationOf? hd
  · rintro ⟨s, rfl, rfl⟩
    exact s.declaration?_text

/-! ## What stands behind a declaration -/

theorem trailingComment_eq_nil {t : Text} (h : startsWith "//" (blanks t) = false) : trailingComment t = [] := by
  unfold startsWith at h
  unfold trailingComment
  rw [Option.isSome_eq_false_iff, Option.isNone_iff_eq_none] at h
  rw [h]

def Text.Uncommented (t : Text) : Prop := ¬ ("//" : Text) <:+: t

theorem Text.Uncommented.mono {t u : Text} (h : Uncommented t) (hu : u <:+: t) : Uncommented u :=
  fun hcomment => h (hcomment.trans hu)

theorem Text.Uncommented.startsWith_blanks {t : Text} (h : Uncommented t) : startsWith "//" (blanks t) = false := by
  refine Bool.eq_false_iff.2 fun hstarts => ?_
  exact h ((startsWith_iff_isPrefix.1 hstarts).isInfix.trans (List.dropWhile_suffix isBlank).isInfix)

theorem Statement.declaration_of_rest (s : Statement) {rest : Text} (h : startsWith "//" (blanks s.rest) = false)
    (hrest : startsWith "//" (blanks rest) = false) :
    { s with rest := rest : Statement }.declaration = s.declaration := by
  simp [declaration, trailingComment_eq_nil h, trailingComment_eq_nil hrest]

/-- the semicolon stands in front of a brace, or there is no declaration -/
theorem Statement.exists_of_text_eq {s : Statement} {t rest : Text} (h : s.text = t ++ '\x7d' :: rest) :
    ∃ more, t = s.front ++ ';' :: more ∧ s.rest = more ++ '\x7d' :: rest := by
  have hsplit : (s.front ++ [';']) ++ s.rest = t ++ '\x7d' :: rest := by rw [← h]; simp [text]
  rcases List.append_eq_append_iff.1 hsplit with ⟨more, ht, hrest⟩ | ⟨more, hfront, hrest⟩
  · exact ⟨more, by simp [ht], hrest⟩
  · cases more with
    | nil => exact ⟨[], by simpa using hfront.symm, by simpa using hrest.symm⟩
    | cons c more =>
      obtain ⟨rfl, -⟩ := List.cons.inj hrest
      have hmem : '\x7d' ∈ s.front ++ [';'] := by rw [hfront]; simp
      simp [s.brace_not_mem_front] at hmem

/-- a brace behind a text without comment does not count, and nothing behind it -/
theorem declaration?_append_brace {t : Text} (h : t.Uncommented) (rest : Text) :
    declaration? (t ++ '\x7d' :: rest) = declaration? t := by
  have hlonger : ∀ more, more <:+: t → startsWith "//" (blanks (more ++ '\x7d' :: rest)) = false := by
    intro more hmore
    rw [blanks_append_cons (by decide), startsWith_append_cons_of_not_mem (by decide)]
    exact (h.mono hmore).startsWith_blanks
  refine Option.ext fun d => ?_
  rw [declaration?_eq_some_iff, declaration?_eq_some_iff]
  constructor
  · rintro ⟨s, htext, rfl⟩
    obtain ⟨more, ht, hrest⟩ := s.exists_of_text_eq htext
    have hmore : more <:+: t := ⟨s.front ++ [';'], [], by simp [ht]⟩
    exact ⟨{ s with rest := more }, ht.symm,
      s.declaration_of_rest (hrest ▸ hlonger more hmore) (h.mono hmore).startsWith_blanks⟩
  · rintro ⟨s, rfl, rfl⟩
    have hrest : s.rest <:+: s.text := ⟨s.front ++ [';'], [], by simp [Statement.text]⟩
    exact ⟨{ s with rest := s.rest ++ '\x7d' :: rest }, by simp [Statement.text, Statement.front],
      s.declaration_of_rest (h.mono hrest).startsWith_blanks (hlonger _ hrest)⟩

theorem declaration?_dropEndWhile {t : Text} (h : t.Uncommented) :
    declaration? (dropEndWhile isBlank t) = declaration? t := by
  refine Option.ext fun d => ?_
  rw [declaration?_eq_some_iff, declaration?_eq_some_iff]
  constructor
  · rintro ⟨s, htext, rfl⟩
    obtain ⟨b, hb⟩ := dropEndWhile_isPrefix isBlank t
    have ht : t = s.front ++ ';' :: (s.rest ++ b) := by rw [← hb, ← htext]; simp [Statement.text]
    have hrest : s.rest <:+: t := ⟨s.front ++ [';'], b, by simp [ht]⟩
    have hlonger : s.rest ++ b <:+: t := ⟨s.front ++ [';'], [], by simp [ht]⟩
    exact ⟨{ s with rest := s.rest ++ b }, ht.symm,
      s.declaration_of_rest (h.mono hrest).startsWith_blanks (h.mono hlonger).startsWith_blanks⟩
  · rintro ⟨s, rfl, rfl⟩
    have hdrop : dropEndWhile isBlank s.text = s.front ++ ';' :: dropEndWhile isBlank s.rest :=
      dropEndWhile_append_cons (by decide) s.front s.rest
    have hrest : s.rest <:+: s.text := ⟨s.front ++ [';'], [], by simp [Statement.text]⟩
    have hshorter := (dropEndWhile_isPrefix isBlank s.rest).isInfix.trans hrest
    exact ⟨{ s with rest := dropEndWhile isBlank s.rest }, hdrop.symm,
      s.declaration_of_rest (h.mono hrest).startsWith_blanks (h.mono hshorter).startsWith_blanks⟩

theorem declaration?_trim_append_brace {t : Text} (h : t.Uncommented) (rest : Text) :
    declaration? (trim (t ++ '\x7d' :: rest)) = declaration? (trim t) := by
  have hstart : Uncommented (blanks t) := h.mono (List.dropWhile_suffix isBlank).isInfix
  rw [trim_append_cons (by decide), declaration?_append_brace hstart]
  exact (declaration?_dropEndWhile hstart).symm

end GlslInspect
