/-
Colours and the text under them.

An escape code of a colour is the escape character, a bracket, digits and an `m` (`afterCode?_eq_some_iff`), and
`withoutCodes` leaves all codes of a text out. The source that is shown may have escape characters of its own, so a code
that is written must not join with what stands beside it. It cannot: no code goes on across a character that a code has
at most at its beginning (`afterCode?_append`), so what stands in front of such a character and what stands behind it
lose their codes apart (`withoutCodes_append`). The escape character is one of these, and so is the newline behind a
text in colour.
So a text in colour is the text, up to codes (`withoutCodes_paint_append`); then this is so for a line of a window
(`withoutCodes_lineShown_append`), and for all its lines (`withoutCodes_linesShown`).
Main result: `tinting_keeps_text`.
-/
import GlslInspect.Diagnostic
import GlslInspect.Proofs.Reading

namespace GlslInspect

open Text Pattern

/-! ## Escape codes -/

namespace Text

/-- the character that begins an escape code -/
def escape : Char := '\x1b'

/-- the rest after the code of a colour: the escape character, a bracket, one or more digits, and an `m` -/
def afterCode? (t : Text) : Option Text := do
  let rest ← after? [escape, '['] t
  let (_, rest) ← run1? Char.isDigit rest
  after? "m" rest

/-- what follows the escape character in the code with some digits -/
def codeTail (digits : Text) : Text := '[' :: (digits ++ ['m'])

theorem afterCode?_eq_some_iff {t rest : Text} :
    afterCode? t = some rest ↔
      ∃ digits : Text, digits ≠ [] ∧ digits.all Char.isDigit = true ∧ t = escape :: (codeTail digits ++ rest) := by
  simp only [afterCode?, Option.bind_eq_bind, Option.bind_eq_some_iff, after?_eq_some_iff]
  constructor
  · rintro ⟨behind, rfl, ⟨digits, last⟩, hrun, rfl⟩
    obtain ⟨hne, hdigits, rfl⟩ := eq_of_run1? hrun
    exact ⟨digits, hne, hdigits, by simp [codeTail]⟩
  · rintro ⟨digits, hne, hdigits, rfl⟩
    refine ⟨digits ++ 'm' :: rest, by simp [codeTail], (digits, 'm' :: rest), ?_, rfl⟩
    exact run1?_append hne (List.all_eq_true.1 hdigits) (by simp)

theorem length_of_afterCode? {t rest : Text} (h : afterCode? t = some rest) : rest.length < t.length := by
  obtain ⟨digits, -, -, rfl⟩ := afterCode?_eq_some_iff.1 h
  simp only [List.length_cons, List.length_append]
  omega

/-- a text without the codes in it, which are left out from the left and in one pass -/
def withoutCodes (t : Text) : Text :=
  match _code : afterCode? t with
  | some rest => withoutCodes rest
  | none =>
    match t with
    | [] => []
    | c :: t => c :: withoutCodes t
termination_by t.length
decreasing_by
  · exact length_of_afterCode? _code
  · simp

theorem withoutCodes_nil : withoutCodes [] = [] := by
  rw [withoutCodes]
  rfl

theorem withoutCodes_of_code {t rest : Text} (h : afterCode? t = some rest) : withoutCodes t = withoutCodes rest := by
  rw [withoutCodes]
  split
  · rename_i hcode
    cases h.symm.trans hcode
    rfl
  · rename_i hcode
    cases h.symm.trans hcode

theorem withoutCodes_cons {c : Char} {t : Text} (h : afterCode? (c :: t) = none) :
    withoutCodes (c :: t) = c :: withoutCodes t := by
  rw [withoutCodes]
  split
  · rename_i hcode
    cases h.symm.trans hcode
  · rfl

/-- without an escape character there is nothing to leave out -/
theorem withoutCodes_append_of_not_mem {t : Text} (h : escape ∉ t) (u : Text) :
    withoutCodes (t ++ u) = t ++ withoutCodes u := by
  induction t with
  | nil => rfl
  | cons c t ih =>
    have hplain : afterCode? (c :: (t ++ u)) = none := by
      refine Option.eq_none_iff_forall_ne_some.2 fun rest hcode => ?_
      obtain ⟨digits, -, -, htext⟩ := afterCode?_eq_some_iff.1 hcode
      exact h ((List.cons.inj htext).1 ▸ List.mem_cons_self)
    rw [List.cons_append, withoutCodes_cons hplain, ih fun hmem => h (List.mem_cons_of_mem c hmem)]
    rfl

theorem withoutCodes_of_not_mem {t : Text} (h : escape ∉ t) : withoutCodes t = t := by
  have hall := withoutCodes_append_of_not_mem h []
  rwa [withoutCodes_nil, List.append_nil] at hall

theorem withoutCodes_newline (t : Text) : withoutCodes ('\n' :: t) = '\n' :: withoutCodes t :=
  withoutCodes_append_of_not_mem (t := ['\n']) (by decide) t

/-- a text that cannot be more of a code: it begins with none of the characters that follow the escape character -/
def EndsCode (t : Text) : Prop := ∀ c ∈ t.head?, c ≠ '[' ∧ c.isDigit = false ∧ c ≠ 'm'

theorem endsCode_escape (t : Text) : EndsCode (escape :: t) := by
  rintro c ⟨⟩
  decide

theorem endsCode_newline (t : Text) : EndsCode ('\n' :: t) := by
  rintro c ⟨⟩
  decide

theorem afterCode?_append {t u : Text} (ht : t ≠ []) (hu : EndsCode u) :
    afterCode? (t ++ u) = (afterCode? t).map (· ++ u) := by
  cases hcode : afterCode? t with
  | some rest =>
    obtain ⟨digits, hne, hdigits, rfl⟩ := afterCode?_eq_some_iff.1 hcode
    exact afterCode?_eq_some_iff.2 ⟨digits, hne, hdigits, by simp⟩
  | none =>
    refine Option.eq_none_iff_forall_ne_some.2 fun rest hlonger => ?_
    obtain ⟨digits, hne, hdigits, hsplit⟩ := afterCode?_eq_some_iff.1 hlonger
    obtain ⟨c, t, rfl⟩ := List.exists_cons_of_ne_nil ht
    obtain ⟨rfl, htail⟩ := List.cons.inj hsplit
    -- the code lies in the text, or it reaches into what follows
    rcases List.append_eq_append_iff.1 htail with ⟨more, hmore, hrest⟩ | ⟨more, rfl, -⟩
    · cases more with
      | nil =>
        have hwhole : afterCode? (escape :: t) = some [] :=
          afterCode?_eq_some_iff.2 ⟨digits, hne, hdigits, by simp [hmore]⟩
        cases hcode.symm.trans hwhole
      | cons d more =>
        have hmem : d ∈ codeTail digits := hmore ▸ List.mem_append_right t List.mem_cons_self
        obtain ⟨hbracket, hdigit, hm⟩ := hu d (by simp [hrest])
        rcases List.mem_cons.1 hmem with heq | hmem
        · exact hbracket heq
        · rcases List.mem_append.1 hmem with hmem | hmem
          · exact not_mem_of_all hdigits hdigit hmem
          · exact hm (List.mem_singleton.1 hmem)
    · have hwithin : afterCode? (escape :: (codeTail digits ++ more)) = some more :=
        afterCode?_eq_some_iff.2 ⟨digits, hne, hdigits, rfl⟩
      cases hcode.symm.trans hwithin

/-- what ends codes loses its own apart from what stands in front of it -/
theorem withoutCodes_append (t : Text) {u : Text} (hu : EndsCode u) :
    withoutCodes (t ++ u) = withoutCodes t ++ withoutCodes u := by
  fun_induction withoutCodes t with
  | case1 t rest hcode ih =>
    have hne : t ≠ [] := by
      rintro rfl
      cases hcode
    have hlonger : afterCode? (t ++ u) = some (rest ++ u) := by rw [afterCode?_append hne hu, hcode]; rfl
    rw [withoutCodes_of_code hlonger, ih]
  | case2 => rfl
  | case3 c t hcode ih =>
    have hlonger : afterCode? (c :: (t ++ u)) = none := by
      rw [← List.cons_append, afterCode?_append (List.cons_ne_nil c t) hu, hcode]
      rfl
    rw [List.cons_append, withoutCodes_cons hlonger, ih]
    rfl

end Text

/-! ## Texts in colour -/

theorem withoutCodes_code_append (tint : Tint) (t : Text) : withoutCodes (tint.code ++ t) = withoutCodes t := by
  refine withoutCodes_of_code ?_
  cases tint <;> rfl

theorem withoutCodes_tintReset_append (t : Text) : withoutCodes (tintReset ++ t) = withoutCodes t :=
  withoutCodes_of_code rfl

theorem Palette.withoutCodes_paint_append (palette : Palette) (tint : Tint) (t : Text) {rest : Text}
    (h : EndsCode rest) : withoutCodes (palette.paint tint t ++ rest) = withoutCodes t ++ withoutCodes rest := by
  cases palette with
  | plain => exact withoutCodes_append t h
  | coloured =>
    calc withoutCodes (tint.code ++ t ++ tintReset ++ rest)
      _ = withoutCodes (t ++ (tintReset ++ rest)) := by
        rw [List.append_assoc, List.append_assoc, withoutCodes_code_append]
      _ = withoutCodes t ++ withoutCodes (tintReset ++ rest) := withoutCodes_append t (endsCode_escape _)
      _ = withoutCodes t ++ withoutCodes rest := by rw [withoutCodes_tintReset_append]

/-! ## Windows -/

namespace ContextWindow

/-- without colours, what is shown on a terminal is what is shown otherwise -/
theorem lineShown_plain (line : ContextLine) : lineShown .plain line = linePlain line := by
  unfold lineShown linePlain
  split <;> rfl

theorem shown_plain (window : ContextWindow) : window.shown .plain = window.plain := by
  have hlines : lineShown .plain = linePlain := funext lineShown_plain
  rw [shown, plain, hlines]
  rfl

theorem escape_not_mem_mark (line : ContextLine) : escape ∉ mark line := by
  unfold mark
  split <;> decide

/-- a line of a window, without the codes in its text -/
def lineBare (line : ContextLine) : Text := "   " ++ mark line ++ " " ++ withoutCodes (numbered line) ++ "\n"

theorem withoutCodes_lineShown_append (palette : Palette) (line : ContextLine) (rest : Text) :
    withoutCodes (lineShown palette line ++ rest) = lineBare line ++ withoutCodes rest := by
  have hmargin : escape ∉ ("   " ++ mark line ++ " " : Text) :=
    List.not_mem_append (List.not_mem_append (by decide) (escape_not_mem_mark line)) (by decide)
  have htext : withoutCodes ((if line.isTarget then palette.paint .red (numbered line) else numbered line) ++
      '\n' :: rest) = withoutCodes (numbered line) ++ '\n' :: withoutCodes rest := by
    rw [← withoutCodes_newline]
    split
    · exact palette.withoutCodes_paint_append .red (numbered line) (endsCode_newline rest)
    · exact withoutCodes_append (numbered line) (endsCode_newline rest)
  calc withoutCodes (lineShown palette line ++ rest)
    _ = withoutCodes (("   " ++ mark line ++ " ") ++
          ((if line.isTarget then palette.paint .red (numbered line) else numbered line) ++ '\n' :: rest)) := by
      simp [lineShown]
    _ = ("   " ++ mark line ++ " ") ++ (withoutCodes (numbered line) ++ '\n' :: withoutCodes rest) := by
      rw [withoutCodes_append_of_not_mem hmargin, htext]
    _ = lineBare line ++ withoutCodes rest := by simp [lineBare]

theorem withoutCodes_linesShown (palette : Palette) (lines : List ContextLine) :
    withoutCodes (lines.flatMap (lineShown palette)) = lines.flatMap lineBare := by
  induction lines with
  | nil => exact withoutCodes_nil
  | cons line lines ih => rw [List.flatMap_cons, withoutCodes_lineShown_append, ih, List.flatMap_cons]

theorem withoutCodes_shown (palette : Palette) (window : ContextWindow) :
    withoutCodes (window.shown palette) = withoutCodes window.heading ++ '\n' :: window.lines.flatMap lineBare := by
  have hsplit : window.shown palette =
      palette.paint .yellow window.heading ++ '\n' :: window.lines.flatMap (lineShown palette) := by simp [shown]
  rw [hsplit, palette.withoutCodes_paint_append .yellow window.heading (endsCode_newline _), withoutCodes_newline,
    withoutCodes_linesShown]

theorem escape_not_mem_plain {window : ContextWindow} (h : ∀ line ∈ window.lines, escape ∉ line.text) :
    escape ∉ window.plain := by
  have hheading : escape ∉ window.heading :=
    List.not_mem_append (List.not_mem_append (by decide) (not_mem_ofNat (by decide))) (by decide)
  have hlines : escape ∉ window.lines.flatMap linePlain := by
    intro hmem
    obtain ⟨line, hline, hmem⟩ := List.mem_flatMap.1 hmem
    have hnumbered : escape ∉ numbered line :=
      List.not_mem_append (List.not_mem_append (not_mem_ofNat (by decide)) (by decide)) (h line hline)
    revert hmem
    exact List.not_mem_append (List.not_mem_append (List.not_mem_append (List.not_mem_append (by decide)
      (escape_not_mem_mark line)) (by decide)) hnumbered) (by decide)
  exact List.not_mem_append (List.not_mem_append hheading (by decide)) hlines

end ContextWindow

/-- **Tinting keeps the text.** Without the escape codes in them, the lines around an error are the same in colours as
without, whatever codes, or parts of codes, stand in the source. Where the source has no escape character, what is left
of the tinted lines is the plain ones. As soon as `NO_COLOR` is set, both are the same; as long as it is not, they
differ. -/
theorem tinting_keeps_text (window : ContextWindow) :
    (∀ palette, withoutCodes (window.shown palette) = withoutCodes window.plain) ∧
    ((∀ line ∈ window.lines, escape ∉ line.text) →
      ∀ palette, withoutCodes (window.shown palette) = window.plain) ∧
    (∀ value, window.shown (Palette.ofNoColor (some value)) = window.plain) ∧
    window.shown (Palette.ofNoColor none) ≠ window.plain := by
  have hsame : ∀ palette, withoutCodes (window.shown palette) = withoutCodes window.plain := by
    intro palette
    rw [← window.shown_plain, ContextWindow.withoutCodes_shown, ContextWindow.withoutCodes_shown]
  refine ⟨hsame, fun hescape palette => ?_, fun value => window.shown_plain, fun heq => ?_⟩
  · rw [hsame palette, withoutCodes_of_not_mem (ContextWindow.escape_not_mem_plain hescape)]
  · -- the tinted text begins with a code, the plain one with a blank
    have hhead : some escape = some ' ' := congrArg List.head? heq
    cases hhead

/-- a code in the line that an error names, with the beginning of another in front of the code that ends the colour; and
a line without codes -/
theorem tinting_keeps_text_fragments :
    let window : ContextWindow := ⟨3, [⟨2, "x \x1b[9", false⟩, ⟨3, "\x1b[1my \x1b[3", true⟩]⟩
    let plain : ContextWindow := ⟨1, [⟨1, "float x;", true⟩]⟩
    (withoutCodes (window.shown .coloured) = withoutCodes window.plain ∧
      withoutCodes window.plain = "   -> Context around line 3:\n      2: x \x1b[9\n   >> 3: y \x1b[3\n") ∧
      (∀ line ∈ plain.lines, escape ∉ line.text) ∧ withoutCodes (plain.shown .coloured) = plain.plain := by
  intro window plain
  have hwindow := tinting_keeps_text window
  have hplain := tinting_keeps_text plain
  have hescape : ∀ line ∈ plain.lines, escape ∉ line.text := by decide
  exact ⟨⟨hwindow.1 .coloured, by decide +kernel⟩, hescape, hplain.2.1 hescape .coloured⟩

end GlslInspect
