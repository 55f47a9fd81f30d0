/-
Blocks with annotations, and their classification.

A parameter is written on four lines: a divider, the label of its section, the comment with its slot, and its
declaration with its note (`Parameter.lines`). The label and the note are any texts on one line, so they can look like
slots, dividers or declarations; what keeps them apart is where they stand:
- a line that begins as a comment declares nothing, and a slot in a label is overwritten by the slot line below it
  (`feed_comment`, `exists_feed_label`, `feed_slot`);
- a divider in a note looks at the line below for a label, and finds a divider or the end of the block
  (`exists_feed_declaration`, `exists_next`).
So the four lines add the parameter they are written from, whatever was read before (`exists_run_lines`).
Main result: `classify_annotatedBlock`, a block is classified as the parameters it is written from.
-/
import GlslInspect.Proofs.LogLine
import GlslInspect.Proofs.ScanStates

namespace GlslInspect

open Text Pattern

/-! ## How a block is written -/

/-- the slots of a matrix, as its comment says them first -/
def matrixNote : Text := "(4 slots) "

def slotComment (digits : Text) : Text := "// vec4 " ++ (digits ++ ":")

namespace Parameter

/-- the comment of a parameter as it is written, without the slots of a matrix -/
def note (p : Parameter) : Text := if p.type = .mat4 then p.comment.drop matrixNote.length else p.comment

def declarationLine (p : Parameter) : Text := p.type.keyword ++ (" " ++ (p.name ++ ("; // " ++ p.note)))

def lines (p : Parameter) : List Text :=
  ["// " ++ divider, "// " ++ p.sectionLabel, slotComment (Text.ofNat p.slot), p.declarationLine]

/-- a parameter that can be written: it is proper, its slot has 64 bits, and its label and its note are on one line -/
structure Writable (p : Parameter) : Prop extends p.Proper where
  fits : p.slot < 2 ^ 64
  label_inline : '\n' ∉ p.sectionLabel
  note_trimmed : trim p.note = p.note
  note_inline : '\n' ∉ p.note

end Parameter

def annotatedHeader (name : Word) : Text := "layout(std140) uniform " ++ (name.text ++ " \x7b")

/-- lines, each with its newline -/
def Text.closedLines (lines : List Text) : Text := lines.flatMap (· ++ ['\n'])

/-- an annotated block, up to its closing brace and the semicolon -/
def annotatedBlock (name : Word) (ps : List Parameter) : Text :=
  closedLines (annotatedHeader name :: ps.flatMap Parameter.lines) ++ "\x7d;"

/-! ## What is read on a line -/

/-- a text behind the slashes of a comment stays when the line is trimmed -/
theorem trim_comment {t : Text} (hne : t ≠ []) (h : trim t = t) : trim ("// " ++ t) = "// " ++ t := by
  refine trim_of_ends (fun c hc => ?_) fun c hc => ?_
  · cases hc
    decide
  · rw [List.getLast?_append_of_ne_nil _ hne, ← h] at hc
    exact getLast?_trim t c hc

theorem labelOf?_comment {label : Text} (h : IsLabel label) : labelOf? (trim ("// " ++ label)) = some label := by
  have htrim : trim (' ' :: label) = label := by
    rw [← List.singleton_append, trim_blank_append label (by simp [isBlank]), h.trimmed]
  have hnot : ¬ (label.isEmpty || label.contains '═') = true := by
    simp [h.ne_nil, h.plain]
  rw [trim_comment h.ne_nil h.trimmed]
  change (if (trim (' ' :: label)).isEmpty || (trim (' ' :: label)).contains '═' then none
    else some (trim (' ' :: label))) = some label
  rw [htrim, if_neg hnot]

theorem labelOf?_divider : labelOf? (trim ("// " ++ divider)) = none := by decide +kernel

theorem labelOf?_of_brace {line : Text} (h : startsWithBrace line = true) : labelOf? (trim line) = none := by
  obtain ⟨rest, hrest⟩ := startsWith_iff_isPrefix.1 h
  rw [← hrest]
  rfl

theorem sectionLabel?_plain {line : Text} (h : '═' ∉ line) (next : Option Text) : sectionLabel? line next = none := by
  have hplain : occursIn divider line = false := by
    refine Bool.eq_false_iff.2 fun hoccurs => h ?_
    exact (occursIn_iff_isInfix.1 hoccurs).subset (by decide)
  unfold sectionLabel?
  rw [hplain]
  rfl

theorem isDecimal_of_isDigit {c : Char} (h : c.isDigit = true) : isDecimal c = true := by
  have hrange : 48 ≤ c.toNat ∧ c.toNat ≤ 57 := by
    simpa [Char.isDigit, Char.le_def, UInt32.le_iff_toNat_le] using h
  have hascii : c.toNat < 128 := by omega
  rw [isDecimal, if_pos hascii, h]

theorem ofNat_ne_nil (n : ℕ) : Text.ofNat n ≠ [] := Nat.toDigits_ne_nil

theorem readWord_ofNat {n : ℕ} (h : n < 2 ^ 64) : readWord (Text.ofNat n) = .ok n := by
  have hvalue : Nat.ofDigitChars 10 (Text.ofNat n) 0 = n := Nat.ofDigitChars_ten_toDigits
  rw [readWord_of_digits (ofNat_ne_nil n) (isDigit_of_mem_ofNat n) (hvalue.symm ▸ h), hvalue]

theorem trim_slotComment (digits : Text) : trim (slotComment digits) = slotComment digits :=
  trim_cons_append_cons (by decide) (by decide) ("/ vec4 " ++ digits) []

theorem slotDigits?_slotComment {digits : Text} (hne : digits ≠ []) (h : ∀ c ∈ digits, c.isDigit = true) :
    slotDigits? (slotComment digits) = some digits := by
  have hstart : blanks (digits ++ [':']) = digits ++ [':'] := by
    obtain ⟨c, rest, rfl⟩ := List.exists_cons_of_ne_nil hne
    exact blanks_cons (isBlank_of_isDigit (h c List.mem_cons_self)) _
  have hdigits : digits? (digits ++ [':']) = some (digits, [':']) := by
    refine run1?_append hne (fun c hc => isDecimal_of_isDigit (h c hc)) fun c hc => ?_
    cases hc
    decide
  have hvector : vectorSlot? (slotComment digits) = some digits := by
    change ((digits? (blanks (digits ++ [':']))).bind fun p => (after? ":" p.2).bind fun _ => some p.1) = some digits
    rw [hstart, hdigits]
    rfl
  rw [slotDigits?, hvector]
  rfl

theorem GlslType.exists_keyword (type : GlslType) :
    ∃ c rest, type.keyword = c :: rest ∧ isBlank c = false ∧ c ≠ '\x7d' ∧ c ≠ '/' := by
  cases type <;> exact ⟨_, _, rfl, by decide, by decide, by decide⟩

namespace Parameter

variable {p : Parameter}

/-- the comment is the note again, behind the slots of a matrix -/
theorem Proper.comment_eq (h : p.Proper) : p.comment = if p.type = .mat4 then matrixNote ++ p.note else p.note := by
  unfold note
  split_ifs with hmatrix
  · obtain ⟨rest, hrest⟩ := h.matrix hmatrix
    rw [← hrest, show "(4 slots) ".toList = matrixNote from rfl, List.drop_left]
  · rfl

/-- the name of a proper parameter -/
def Proper.word (h : p.Proper) : Word := ⟨p.name, h.name_ne_nil, List.all_eq_true.2 h.name_word⟩

theorem trailingComment_note {note : Text} (htrim : trim note = note) (hline : '\n' ∉ note) :
    trailingComment (dropEndWhile isBlank (" // " ++ note)) = note := by
  have hcut : dropEndWhile isBlank (" // " ++ note) = " //" ++ dropEndWhile isBlank (' ' :: note) :=
    dropEndWhile_append_cons (by decide) [' ', '/'] (' ' :: note)
  have hall : ∀ c ∈ note, (c != '\n') = true := fun c hc => by simpa using fun heq : c = '\n' => hline (heq ▸ hc)
  rw [hcut]
  change trim ((blanks (dropEndWhile isBlank (' ' :: note))).takeWhile (· != '\n')) = note
  cases note with
  | nil => rfl
  | cons c rest =>
    have hc : isBlank c = false := by
      refine head?_trim (c :: rest) c ?_
      rw [htrim]
      rfl
    have hlast : ∀ d ∈ (' ' :: c :: rest).getLast?, isBlank d = false := by
      intro d hd
      rw [List.getLast?_cons_cons, ← htrim] at hd
      exact getLast?_trim (c :: rest) d hd
    have hblanks : blanks (' ' :: c :: rest) = c :: rest := blanks_cons hc rest
    rw [dropEndWhile_eq_self hlast, hblanks, ← List.append_nil (c :: rest), List.takeWhile_append_of_pos hall,
      List.takeWhile_nil, List.append_nil, htrim]

/-- the declaration of a parameter in its parts -/
def Proper.statement (h : p.Proper) : Statement where
  type := p.type
  gap := [' ']
  name := h.word
  trail := []
  rest := dropEndWhile isBlank (" // " ++ p.note)
  gap_blank := rfl
  gap_ne_nil := List.cons_ne_nil ' ' []
  trail_blank := List.all_nil

theorem Proper.trim_declarationLine (h : p.Proper) : trim p.declarationLine = h.statement.text := by
  have hsplit : p.declarationLine = h.statement.front ++ ';' :: (" // " ++ p.note) := by
    simp [declarationLine, Statement.front, Proper.statement, Proper.word]
  have hfront : blanks h.statement.front = h.statement.front := by
    obtain ⟨c, rest, hkeyword, hc, -⟩ := p.type.exists_keyword
    have hstart : h.statement.front = c :: (rest ++ ([' '] ++ (p.name ++ []))) := by
      rw [Statement.front, Proper.statement, hkeyword]
      rfl
    rw [hstart, blanks_cons hc]
  rw [hsplit, trim_append_cons (by decide), hfront]
  rfl

theorem Writable.declaration?_declarationLine (h : p.Writable) :
    declaration? (trim p.declarationLine) = some ⟨p.type, p.name, p.note⟩ := by
  rw [h.trim_declarationLine, Statement.declaration?_text, Statement.declaration]
  have hcomment : trailingComment h.statement.rest = p.note := trailingComment_note h.note_trimmed h.note_inline
  rw [hcomment]
  rfl

end Parameter

/-! ## What a scan does on the lines of a parameter -/

namespace Scan

variable {target : Option Text} {s : Scan} {p : Parameter}

theorem feed_comment (hs : s.phase = .inBlock) {line rest : Text} (hline : trim line = '/' :: '/' :: rest)
    (next : Option Text) :
    s.feed target line next = (s.setSection (sectionLabel? line next)).setSlot (slotDigits? (trim line)) := by
  have hbrace : startsWith "\x7d" (trim line) = false := by
    rw [hline]
    rfl
  have hnone : declaration? (trim line) = none := by
    rw [hline]
    rfl
  unfold feed
  rw [hs]
  dsimp only
  rw [hbrace, hnone]
  rfl

theorem feed_divider (hs : s.phase = .inBlock) {label : Text} (h : IsLabel label) :
    s.feed target ("// " ++ divider) (some ("// " ++ label)) = { s with sectionLabel := label } := by
  have htrim : trim ("// " ++ divider) = "// " ++ divider := trim_comment (by decide) (by decide +kernel)
  have hsection : sectionLabel? ("// " ++ divider) (some ("// " ++ label)) = some label := labelOf?_comment h
  rw [feed_comment hs htrim, hsection, htrim]
  rfl

/-- a label that looks like a slot sets one, and nothing else happens on its line -/
theorem exists_feed_label (target : Option Text) (hs : s.phase = .inBlock) {label : Text} (h : IsLabel label)
    (next : Option Text) :
    ∃ slot, s.feed target ("// " ++ label) next = { s with slot := slot } := by
  have hplain : '═' ∉ "// " ++ label := by simp [h.plain]
  rw [feed_comment hs (trim_comment h.ne_nil h.trimmed), sectionLabel?_plain hplain]
  exact ⟨_, setSlot_eq s _⟩

theorem feed_slot (hs : s.phase = .inBlock) {slot : ℕ} (h : slot < 2 ^ 64) (next : Option Text) :
    s.feed target (slotComment (Text.ofNat slot)) next = { s with slot := slot } := by
  have hdigits : '═' ∉ Text.ofNat slot := not_mem_ofNat (by decide)
  have hplain : '═' ∉ slotComment (Text.ofNat slot) :=
    List.not_mem_append (by decide) (List.not_mem_append hdigits (by decide))
  rw [feed_comment hs (trim_slotComment _), sectionLabel?_plain hplain, trim_slotComment,
    slotDigits?_slotComment (ofNat_ne_nil slot) (isDigit_of_mem_ofNat slot)]
  dsimp only [setSection, setSlot]
  rw [readWord_ofNat h]

/-- what is declared in the section and at the slot of a parameter is that parameter -/
theorem exists_declare (hlabel : s.sectionLabel = p.sectionLabel) (hslot : s.slot = p.slot) (hp : p.Proper) :
    ∃ slot, s.declare (some ⟨p.type, p.name, p.note⟩) = { s with slot := slot, latest := p :: s.latest } := by
  have hcomment := hp.comment_eq
  by_cases hmatrix : p.type = .mat4
  · rw [if_pos hmatrix] at hcomment
    refine ⟨min (s.slot + matrixSlots) maxWord, ?_⟩
    rw [declare, if_pos hmatrix, hlabel, hslot, show ("(4 slots) " ++ p.note : Text) = p.comment from hcomment.symm]
  · rw [if_neg hmatrix] at hcomment
    refine ⟨s.slot, ?_⟩
    rw [declare, if_neg hmatrix, hlabel, hslot, ← hcomment]

/-- a parameter is added on the line of its declaration, if its section and its slot are set and no label follows -/
theorem exists_feed_declaration (target : Option Text) (hs : s.phase = .inBlock) (hp : p.Writable)
    (hlabel : s.sectionLabel = p.sectionLabel) (hslot : s.slot = p.slot) {next : Text}
    (hnext : labelOf? (trim next) = none) :
    ∃ slot, s.feed target p.declarationLine (some next) = { s with slot := slot, latest := p :: s.latest } := by
  have hsection : sectionLabel? p.declarationLine (some next) = none := by
    unfold sectionLabel?
    split_ifs
    · exact hnext
    · rfl
  obtain ⟨c, rest, hkeyword, -, hbrace, hslash⟩ := p.type.exists_keyword
  have htrim : ∃ more, trim p.declarationLine = c :: more := by
    rw [hp.trim_declarationLine, Statement.text_eq, Parameter.Proper.statement, hkeyword]
    exact ⟨_, rfl⟩
  obtain ⟨more, htrim⟩ := htrim
  have hopen : startsWith "\x7d" (trim p.declarationLine) = false := by
    rw [htrim]
    simp [startsWith, after?, hbrace.symm]
  have hdigits : slotDigits? (trim p.declarationLine) = none := by
    rw [htrim]
    simp [slotDigits?, vectorSlot?, matrixSlot?, after?, hslash.symm]
  have hfeed : s.feed target p.declarationLine (some next) = s.declare (some ⟨p.type, p.name, p.note⟩) := by
    unfold feed
    rw [hs]
    dsimp only
    rw [hopen, hsection, hdigits, hp.declaration?_declarationLine]
    rfl
  rw [hfeed]
  exact exists_declare hlabel hslot hp.toProper

/-- the lines of a parameter add it, whatever was read before, if no label follows -/
theorem exists_run_lines (target : Option Text) (hs : s.phase = .inBlock) (hp : p.Writable) {next : Text}
    (hnext : labelOf? (trim next) = none) (rest : List Text) :
    ∃ slot, s.run target (p.lines ++ next :: rest) =
      { s with sectionLabel := p.sectionLabel, slot := slot, latest := p :: s.latest }.run target (next :: rest) := by
  obtain ⟨early, hlabel⟩ := exists_feed_label target (s := { s with sectionLabel := p.sectionLabel }) hs hp.labelled
    (some (slotComment (Text.ofNat p.slot)))
  obtain ⟨late, hdeclared⟩ := exists_feed_declaration target
    (s := { s with sectionLabel := p.sectionLabel, slot := p.slot }) hs hp rfl rfl hnext
  refine ⟨late, ?_⟩
  change run target (feed target (feed target (feed target (feed target s _ (some _)) _ (some _)) _ (some _)) _
    (some next)) (next :: rest) = _
  rw [feed_divider hs hp.labelled, hlabel, feed_slot (s := { s with sectionLabel := p.sectionLabel, slot := early }) hs
    hp.fits, hdeclared]

/-- behind the lines of any parameters no label follows -/
theorem exists_next {closing : Text} (h : startsWithBrace closing = true) (ps : List Parameter) (rest : List Text) :
    ∃ next more, ps.flatMap Parameter.lines ++ closing :: rest = next :: more ∧ labelOf? (trim next) = none := by
  cases ps with
  | nil => exact ⟨closing, rest, rfl, labelOf?_of_brace h⟩
  | cons p ps => exact ⟨"// " ++ divider, _, rfl, labelOf?_divider⟩

/-- the lines of parameters add them in order, up to the end of the block -/
theorem result_run_lines (hs : s.phase = .inBlock) {ps : List Parameter} (hps : ∀ p ∈ ps, p.Writable) {closing : Text}
    (hclosing : startsWithBrace closing = true) (rest : List Text) :
    (s.run target (ps.flatMap Parameter.lines ++ closing :: rest)).result = ⟨s.blockName, s.parameters ++ ps⟩ := by
  induction ps generalizing s with
  | nil =>
    rw [List.flatMap_nil, List.nil_append, run, feed_of_brace target hs hclosing, run_of_done rfl, List.append_nil]
    rfl
  | cons p ps ih =>
    obtain ⟨next, more, hmore, hnext⟩ := exists_next hclosing ps rest
    obtain ⟨slot, hrun⟩ := exists_run_lines target hs (hps p List.mem_cons_self) hnext more
    rw [List.flatMap_cons, List.append_assoc, hmore, hrun, ← hmore]
    rw [ih (s := { s with sectionLabel := p.sectionLabel, slot := slot, latest := p :: s.latest }) hs
      fun q hq => hps q (List.mem_cons_of_mem p hq)]
    simp [parameters]

end Scan

/-! ## Whole blocks -/

theorem scanLines_closedLines {lines : List Text} (h : ∀ line ∈ lines, '\n' ∉ line) (t : Text) :
    scanLines (closedLines lines ++ t) = lines ++ scanLines t := by
  induction lines with
  | nil => rfl
  | cons line lines ih =>
    have hsplit : closedLines (line :: lines) ++ t = line ++ '\n' :: (closedLines lines ++ t) := by
      simp [closedLines]
    rw [hsplit, scanLines, splitOn_append_cons _ (h line List.mem_cons_self), ← scanLines,
      ih fun other hother => h other (List.mem_cons_of_mem line hother)]
    rfl

theorem Parameter.Writable.newline_not_mem {p : Parameter} (h : p.Writable) : ∀ line ∈ p.lines, '\n' ∉ line := by
  have hkeyword : '\n' ∉ p.type.keyword := by cases p.type <;> decide
  have hname : '\n' ∉ p.name := h.word.not_mem (by decide)
  have hdigits : '\n' ∉ Text.ofNat p.slot := not_mem_ofNat (by decide)
  rw [Parameter.lines, List.forall_mem_cons, List.forall_mem_cons, List.forall_mem_cons, List.forall_mem_cons]
  refine ⟨by decide, ?_, ?_, ?_, by simp⟩
  · exact List.not_mem_append (by decide) h.label_inline
  · exact List.not_mem_append (by decide) (List.not_mem_append hdigits (by decide))
  · exact List.not_mem_append hkeyword (List.not_mem_append (by decide) (List.not_mem_append hname
      (List.not_mem_append (by decide) h.note_inline)))

theorem blockHeader?_annotatedHeader (name : Word) : blockHeader? (trim (annotatedHeader name)) = some name.text := by
  have htrim : trim (annotatedHeader name) = annotatedHeader name := by
    have hsplit : annotatedHeader name = 'l' :: (("ayout(std140) uniform " ++ (name.text ++ " ")) ++ ['\x7b']) := by
      rw [List.append_assoc, List.append_assoc]
      rfl
    rw [hsplit]
    exact trim_cons_append_cons (by decide) (by decide) _ []
  have hname : word? (name.text ++ [' ', '\x7b']) = some (name.text, [' ', '\x7b']) :=
    word?_append name fun c hc => by cases hc; decide
  rw [htrim]
  change ((word? (blanks (name.text ++ [' ', '\x7b']))).bind fun p =>
    (after? "\x7b" (blanks p.2)).bind fun _ => some p.1) = some name.text
  rw [blanks_word, hname]
  rfl

theorem newline_not_mem_annotatedHeader (name : Word) : '\n' ∉ annotatedHeader name := by
  have hname : '\n' ∉ name.text := name.not_mem (by decide)
  exact List.not_mem_append (by decide) (List.not_mem_append hname (by decide))

theorem Scan.entered?_annotatedHeader {target : Option Text} {name : Word} (h : wanted target name.text = true) :
    entered? target (trim (annotatedHeader name)) = some name.text := by
  rw [entered?, blockHeader?_annotatedHeader, Option.filter_some, if_pos h]

theorem exists_scanLines_closing (rest : Text) :
    ∃ closing more, scanLines ("\x7d;" ++ rest) = closing :: more ∧ startsWithBrace closing = true := by
  have hline : ∀ t, startsWithBrace ('\x7d' :: t) = true := by
    intro t
    have htrim : trim ('\x7d' :: t) = '\x7d' :: dropEndWhile isBlank t := trim_append_cons (by decide) [] t
    rw [startsWithBrace, htrim]
    rfl
  change ∃ closing more, consHead '\x7d' (splitOn '\n' (';' :: rest)) = closing :: more ∧ _
  cases splitOn '\n' (';' :: rest) with
  | nil => exact ⟨_, _, rfl, hline []⟩
  | cons part parts => exact ⟨_, _, rfl, hline part⟩

/-- whether the block is wanted by its name or by none, what is scanned is found -/
theorem classify_of_wanted {target : Option Text} {name : Word} {ps : List Parameter} (hps : ∀ p ∈ ps, p.Writable)
    (htarget : Scan.wanted target name.text = true) (rest : Text) :
    classify target (annotatedBlock name ps ++ rest) = ⟨some name.text, ps⟩ := by
  have hlines : ∀ line ∈ annotatedHeader name :: ps.flatMap Parameter.lines, '\n' ∉ line := by
    intro line hline
    rcases List.mem_cons.1 hline with rfl | hline
    · exact newline_not_mem_annotatedHeader name
    · obtain ⟨p, hp, hline⟩ := List.mem_flatMap.1 hline
      exact (hps p hp).newline_not_mem line hline
  obtain ⟨closing, more, hmore, hclosing⟩ := exists_scanLines_closing rest
  rw [classify, annotatedBlock, List.append_assoc, scanLines_closedLines hlines, hmore, List.cons_append, Scan.run,
    Scan.feed_start_of_entered (Scan.entered?_annotatedHeader htarget), Scan.result_run_lines rfl hps hclosing]
  rfl

/-- **Annotated blocks are read back.** For every block name and every list of parameters that can be written (names
are words, slots have 64 bits, labels are trimmed texts on one line without the mark of dividers, notes are trimmed
texts on one line), the annotated block is classified as that name and exactly those parameters, with the block's name
for a target or with none, and whatever follows the closing brace. -/
theorem classify_annotatedBlock (name : Word) (ps : List Parameter) (hps : ∀ p ∈ ps, p.Writable) (rest : Text) :
    classify none (annotatedBlock name ps ++ rest) = ⟨some name.text, ps⟩ ∧
      classify (some name.text) (annotatedBlock name ps ++ rest) = ⟨some name.text, ps⟩ :=
  ⟨classify_of_wanted hps rfl rest, classify_of_wanted hps (by simp [Scan.wanted]) rest⟩

/-- a matrix at the largest slot, in a section that looks like a slot comment and with a divider for a note, and a
member behind it without a note, in a section that looks like a declaration -/
theorem classify_annotatedBlock_misleading :
    let name : Word := ⟨"B", by decide, by decide⟩
    let view : Parameter :=
      ⟨18446744073709551615, "view", .mat4, "vec4 7:", "(4 slots) ═══ float x; // \x7d"⟩
    let float : Parameter := ⟨0, "float", .float, "/ vec2 y;", ""⟩
    (∀ p ∈ [view, float], p.Writable) ∧
      classify none (annotatedBlock name [view, float] ++ "\n") = ⟨some "B", [view, float]⟩ ∧
      classify (some "B") (annotatedBlock name [view, float] ++ "\n") = ⟨some "B", [view, float]⟩ := by
  intro name view float
  have hview : view.Proper :=
    ⟨by decide, List.all_eq_true.1 (by decide), ⟨by decide, by decide +kernel, by decide⟩, by decide⟩
  have hfloat : float.Proper :=
    ⟨by decide, List.all_eq_true.1 (by decide), ⟨by decide, by decide +kernel, by decide⟩, by decide⟩
  have hwritable : ∀ p ∈ [view, float], p.Writable := by
    refine List.forall_mem_cons.2 ⟨?_, List.forall_mem_cons.2 ⟨?_, by simp⟩⟩
    · exact ⟨hview, by decide, by decide, by decide +kernel, by decide⟩
    · exact ⟨hfloat, by decide, by decide, by decide +kernel, by decide⟩
  exact ⟨hwritable, classify_annotatedBlock name [view, float] hwritable "\n"⟩

end GlslInspect
