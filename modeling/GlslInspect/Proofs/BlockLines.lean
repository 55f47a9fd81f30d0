/-
The lines of a block, and the lines that are read for it.

A block ends at the first closing brace behind its opening brace that stands in no comment. A scan does not look for
that brace: it goes on to the first line that starts with one. `insideBlock` is what stands in front of the closing
brace, line by line, and `overrun` what is read behind it; `declarations_readLines` says that together they hold the
declarations that a scan reads. From the step of a scan inside a block (`Scan.feed_inBlock`) comes what a whole
scan finds (`Scan.run_inBlock`): one parameter for each declaration, in order.
Main result: `parameters_inside_or_overrun`. Nothing is overrun where the closing brace is the first on its line;
elsewhere parameters can come from behind the block (`classify_leaves_block`).
-/
import Mathlib.Data.List.Forall2
import Mathlib.Data.List.TakeWhile
import GlslInspect.Block.Scan
import GlslInspect.Proofs.Declaration

namespace GlslInspect

open Text Pattern

/-! ## Where a block ends -/

def Text.beforeComment : Text → Text
  | [] => []
  | c :: rest => if startsWith "//" (c :: rest) then [] else c :: beforeComment rest

def hasClosingBrace (line : Text) : Bool := (beforeComment line).contains '\x7d'

/-- whether a closing brace is the first on its line -/
def startsWithBrace (line : Text) : Bool := startsWith "\x7d" (trim line)

/-- what stands in front of the closing brace, line by line -/
def insideBlock : List Text → List Text
  | [] => []
  | line :: rest => if hasClosingBrace line then [line.takeWhile (· != '\x7d')] else line :: insideBlock rest

def readLines (lines : List Text) : List Text := lines.takeWhile fun line => !startsWithBrace line

/-- the lines behind the one with the closing brace that are read nevertheless -/
def overrun : List Text → List Text
  | [] => []
  | line :: rest =>
    if hasClosingBrace line then
      if startsWithBrace line then [] else readLines rest
    else overrun rest

def declarations (lines : List Text) : List Declaration := lines.filterMap fun line => declaration? (trim line)

theorem readLines_cons {line : Text} (h : startsWithBrace line = false) (rest : List Text) :
    readLines (line :: rest) = line :: readLines rest :=
  List.takeWhile_cons_of_pos (by simp [h])

theorem readLines_cons_of_brace {line : Text} (h : startsWithBrace line = true) (rest : List Text) :
    readLines (line :: rest) = [] :=
  List.takeWhile_cons_of_neg (by simp [h])

@[simp] theorem declarations_nil : declarations [] = [] := rfl

theorem declarations_cons (line : Text) (rest : List Text) :
    declarations (line :: rest) = (declaration? (trim line)).toList ++ declarations rest := by
  unfold declarations
  cases h : declaration? (trim line) <;> simp [h]

/-- a closing brace in front of the comment is one with no comment in front of it -/
theorem hasClosingBrace_iff {line : Text} :
    hasClosingBrace line = true ↔ ∃ x rest, line = x ++ '\x7d' :: rest ∧ '\x7d' ∉ x ∧ x.Uncommented := by
  rw [hasClosingBrace, List.contains_iff_mem]
  constructor
  · intro h
    induction line with
    | nil => cases h
    | cons c line ih =>
      rw [beforeComment] at h
      split_ifs at h with hcomment
      · cases h
      by_cases hc : c = '\x7d'
      · exact ⟨[], line, by rw [hc]; rfl, by simp, by simp [Uncommented]⟩
      · obtain ⟨x, rest, rfl, hx, hplain⟩ := ih ((List.mem_cons.1 h).resolve_left (Ne.symm hc))
        refine ⟨c :: x, rest, rfl, by simp [Ne.symm hc, hx], fun hwithin => ?_⟩
        rcases List.infix_cons_iff.1 hwithin with hfirst | hlater
        · exact hcomment (startsWith_iff_isPrefix.2 (hfirst.trans (List.prefix_append (c :: x) _)))
        · exact hplain hlater
  · rintro ⟨x, rest, rfl, -, hplain⟩
    induction x with
    | nil => exact List.mem_cons_self
    | cons c x ih =>
      have hcomment : startsWith "//" (c :: (x ++ '\x7d' :: rest)) = false := by
        rw [← List.cons_append, startsWith_append_cons_of_not_mem (by decide)]
        exact Bool.eq_false_iff.2 fun hstarts => hplain (startsWith_iff_isPrefix.1 hstarts).isInfix
      rw [List.cons_append, beforeComment, hcomment]
      exact List.mem_cons_of_mem c (ih (hplain.mono (List.suffix_cons c x).isInfix))

theorem hasClosingBrace_of_startsWithBrace {line : Text} (h : startsWithBrace line = true) :
    hasClosingBrace line = true := by
  obtain ⟨lead, hlead, hline⟩ := exists_of_blanks line
  have hmark : ∀ mark, isBlank mark = false → mark ∉ lead := fun mark => not_mem_of_all hlead
  obtain ⟨rest, hrest⟩ := (startsWith_iff_isPrefix.1 h).trans (dropEndWhile_isPrefix isBlank (trimStart line))
  refine hasClosingBrace_iff.2 ⟨lead, rest, ?_, hmark _ (by decide), fun hwithin => ?_⟩
  · rw [hline, blanks, ← hrest]
    rfl
  · exact hmark '/' (by decide) (hwithin.subset List.mem_cons_self)

/-- in front of a brace that is the first on its line there are blanks only -/
theorem trim_eq_nil_of_startsWithBrace {x rest : Text} (h : startsWithBrace (x ++ '\x7d' :: rest) = true)
    (hx : '\x7d' ∉ x) : trim x = [] := by
  have hfirst : ['\x7d'] <+: trim (x ++ '\x7d' :: rest) := startsWith_iff_isPrefix.1 h
  rw [trim_append_cons (by decide)] at hfirst
  have hblank : blanks x = [] := by
    cases hblanks : blanks x with
    | nil => rfl
    | cons c more =>
      rw [hblanks, List.cons_append] at hfirst
      have hmem : '\x7d' ∈ blanks x := by
        rw [hblanks, (List.cons_prefix_cons.1 hfirst).1]
        exact List.mem_cons_self
      exact absurd ((List.dropWhile_suffix isBlank).subset hmem) hx
  exact congrArg (dropEndWhile isBlank) hblank

theorem declarations_readLines (lines : List Text) :
    declarations (readLines lines) = declarations (insideBlock lines) ++ declarations (overrun lines) := by
  induction lines with
  | nil => rfl
  | cons line rest ih =>
    cases hclosing : hasClosingBrace line with
    | false =>
      have hstart : startsWithBrace line = false := by
        refine Bool.eq_false_iff.2 fun hstart => ?_
        rw [hasClosingBrace_of_startsWithBrace hstart] at hclosing
        cases hclosing
      rw [readLines_cons hstart, insideBlock, overrun, hclosing, declarations_cons, ih]
      simp [declarations_cons]
    | true =>
      obtain ⟨x, behind, rfl, hx, hplain⟩ := hasClosingBrace_iff.1 hclosing
      have hcut : (x ++ '\x7d' :: behind).takeWhile (· != '\x7d') = x := by
        rw [List.takeWhile_append_of_pos fun c hc => by simpa using fun heq : c = '\x7d' => hx (heq ▸ hc)]
        simp
      rw [insideBlock, overrun, hclosing, if_pos rfl, if_pos rfl, hcut]
      cases hstart : startsWithBrace (x ++ '\x7d' :: behind) with
      | false =>
        rw [readLines_cons hstart, declarations_cons, declaration?_trim_append_brace hplain, declarations_cons]
        simp
      | true =>
        rw [readLines_cons_of_brace hstart, declarations_cons, trim_eq_nil_of_startsWithBrace hstart hx]
        rfl

/-- where the closing brace is the first on its line, nothing is overrun -/
theorem overrun_eq_nil {lines : List Text}
    (h : ∀ line ∈ lines.find? hasClosingBrace, startsWithBrace line = true) : overrun lines = [] := by
  induction lines with
  | nil => rfl
  | cons line rest ih =>
    cases hclosing : hasClosingBrace line with
    | false =>
      rw [List.find?_cons, hclosing] at h
      rw [overrun, hclosing]
      exact ih h
    | true =>
      rw [List.find?_cons, hclosing] at h
      rw [overrun, hclosing, h line rfl]
      rfl

/-! ## What a scan finds -/

/-- a parameter is what is declared, up to its place -/
def Parameter.ComesFrom (p : Parameter) (d : Declaration) : Prop :=
  p.name = d.name ∧ p.type = d.type ∧ p.comment = if d.type = .mat4 then "(4 slots) " ++ d.comment else d.comment

instance (p : Parameter) (d : Declaration) : Decidable (p.ComesFrom d) := inferInstanceAs (Decidable (_ ∧ _))

/-- the parameter that a declaration makes at a slot and in a section -/
def Declaration.parameter (d : Declaration) (slot : ℕ) (label : Text) : Parameter :=
  ⟨slot, d.name, d.type, label, if d.type = .mat4 then "(4 slots) " ++ d.comment else d.comment⟩

theorem Declaration.comesFrom_parameter (d : Declaration) (slot : ℕ) (label : Text) :
    (d.parameter slot label).ComesFrom d :=
  ⟨rfl, rfl, rfl⟩

theorem Parameter.exists_comesFrom {ps : List Parameter} {ds : List Declaration}
    (h : List.Forall₂ Parameter.ComesFrom ps ds) : ∀ p ∈ ps, ∃ d ∈ ds, p.ComesFrom d := by
  induction h with
  | nil =>
    intro p hp
    cases hp
  | @cons p d ps ds hfirst _ ih =>
    intro q hq
    rcases List.mem_cons.1 hq with rfl | hq
    · exact ⟨d, List.mem_cons_self, hfirst⟩
    · obtain ⟨d', hd', hcomes⟩ := ih q hq
      exact ⟨d', List.mem_cons_of_mem d hd', hcomes⟩

def annotatedSlot? (line : Text) : Option ℕ := (slotDigits? (trim line)).bind fun digits => (readWord digits).toOption

namespace Scan

variable {target : Option Text}

theorem setSection_eq (s : Scan) (label : Option Text) :
    s.setSection label = { s with sectionLabel := label.getD s.sectionLabel } := by
  cases label <;> rfl

theorem setSlot_eq (s : Scan) (line : Text) :
    s.setSlot (slotDigits? (trim line)) = { s with slot := (annotatedSlot? line).getD s.slot } := by
  unfold annotatedSlot?
  cases slotDigits? (trim line) with
  | none => rfl
  | some digits =>
    dsimp only [setSlot, Option.bind_some]
    cases readWord digits <;> rfl

/-- one step inside a block: a divider sets the section, a comment the slot, and what is declared is added -/
theorem feed_inBlock (target : Option Text) {s : Scan} (hs : s.phase = .inBlock) {line : Text}
    (hline : startsWithBrace line = false) (next : Option Text) :
    s.feed target line next =
      { s with
        sectionLabel := (sectionLabel? line next).getD s.sectionLabel
        slot := (annotatedSlot? line).getD s.slot }.declare (declaration? (trim line)) := by
  have hbrace : startsWith "\x7d" (trim line) = false := hline
  unfold feed
  rw [hs]
  dsimp only
  rw [hbrace, setSection_eq, setSlot_eq, hs]
  rfl

/-- a label and a slot may be set, and what is declared is added -/
theorem exists_feed_inBlock (target : Option Text) {s : Scan} (hs : s.phase = .inBlock) {line : Text}
    (hline : startsWithBrace line = false) (next : Option Text) :
    ∃ label slot, s.feed target line next =
        { s with sectionLabel := label, slot := slot }.declare (declaration? (trim line)) ∧
      (label = s.sectionLabel ∨ sectionLabel? line next = some label) := by
  refine ⟨_, _, feed_inBlock target hs hline next, ?_⟩
  cases sectionLabel? line next with
  | none => exact Or.inl rfl
  | some label => exact Or.inr rfl

theorem feed_of_brace (target : Option Text) {s : Scan} (hs : s.phase = .inBlock) {line : Text}
    (hline : startsWithBrace line = true) (next : Option Text) :
    s.feed target line next = { s with phase := .done } := by
  have hbrace : startsWith "\x7d" (trim line) = true := hline
  unfold feed
  rw [hs]
  dsimp only
  rw [hbrace]
  rfl

/-- what is declared is added at the slot and in the section of the scan, and a matrix moves the slot on -/
theorem declare_some (s : Scan) (d : Declaration) :
    s.declare (some d) =
      { s with
        slot := if d.type = .mat4 then min (s.slot + matrixSlots) maxWord else s.slot
        latest := d.parameter s.slot s.sectionLabel :: s.latest } := by
  dsimp only [declare, Declaration.parameter]
  split_ifs <;> rfl

/-- what a line inside a block adds is what it declares, at the slot and in the section that hold on that line -/
theorem parameters_feed_inBlock (target : Option Text) {s : Scan} (hs : s.phase = .inBlock) {line : Text}
    (hline : startsWithBrace line = false) (next : Option Text) :
    (s.feed target line next).parameters = s.parameters ++ ((declaration? (trim line)).map fun d =>
      d.parameter ((annotatedSlot? line).getD s.slot) ((sectionLabel? line next).getD s.sectionLabel)).toList := by
  rw [feed_inBlock target hs hline]
  cases declaration? (trim line) with
  | none => exact (List.append_nil _).symm
  | some d =>
    rw [declare_some]
    exact List.reverse_cons ..

theorem sectionLabel_feed_inBlock (target : Option Text) {s : Scan} (hs : s.phase = .inBlock) {line : Text}
    (hline : startsWithBrace line = false) (next : Option Text) :
    (s.feed target line next).sectionLabel = (sectionLabel? line next).getD s.sectionLabel := by
  rw [feed_inBlock target hs hline]
  cases declaration? (trim line) with
  | none => rfl
  | some d => rw [declare_some]

theorem exists_declare_some (s : Scan) (d : Declaration) :
    ∃ slot p, s.declare (some d) = { s with slot := slot, latest := p :: s.latest } ∧ p.ComesFrom d ∧
      p.sectionLabel = s.sectionLabel :=
  ⟨_, _, s.declare_some d, d.comesFrom_parameter _ _, rfl⟩

theorem feed_of_done {s : Scan} (hs : s.phase = .done) (line : Text) (next : Option Text) :
    s.feed target line next = s := by
  unfold feed
  rw [hs]

theorem run_of_done {s : Scan} (hs : s.phase = .done) (lines : List Text) : s.run target lines = s := by
  induction lines with
  | nil => rfl
  | cons line rest ih => rw [run, feed_of_done hs, ih]

/-- a scan inside a block keeps the name, and finds a parameter for each declaration that is read -/
theorem run_inBlock (target : Option Text) {s : Scan} (hs : s.phase = .inBlock) (lines : List Text) :
    (s.run target lines).blockName = s.blockName ∧ ∃ found, (s.run target lines).parameters = s.parameters ++ found ∧
      List.Forall₂ Parameter.ComesFrom found (declarations (readLines lines)) := by
  induction lines generalizing s with
  | nil => exact ⟨rfl, [], (List.append_nil _).symm, .nil⟩
  | cons line rest ih =>
    rw [run]
    cases hline : startsWithBrace line with
    | true =>
      rw [feed_of_brace target hs hline, run_of_done rfl, readLines_cons_of_brace hline]
      exact ⟨rfl, [], (List.append_nil _).symm, .nil⟩
    | false =>
      obtain ⟨label, slot, hfeed, -⟩ := exists_feed_inBlock target hs hline rest.head?
      rw [hfeed, readLines_cons hline, declarations_cons]
      cases declaration? (trim line) with
      | none =>
        exact ih hs
      | some d =>
        obtain ⟨slot', p, hdeclare, hp, -⟩ := exists_declare_some { s with sectionLabel := label, slot := slot } d
        rw [hdeclare]
        obtain ⟨hname, found, hfound, hall⟩ :=
          ih (s := { s with sectionLabel := label, slot := slot', latest := p :: s.latest }) hs
        refine ⟨hname, p :: found, ?_, .cons hp hall⟩
        rw [hfound]
        simp [parameters]

/-- the search passes over a line without a header that is wanted -/
theorem feed_start_of_passed {line : Text} (h : entered? target (trim line) = none) (next : Option Text) :
    start.feed target line next = start := by
  simp only [feed, start, h]

theorem feed_start_of_entered {line name : Text} (h : entered? target (trim line) = some name)
    (next : Option Text) :
    start.feed target line next = { start with phase := .inBlock, blockName := some name } := by
  simp only [feed, start, h]

/-- a block that is found begins on the first line with a header that is wanted -/
theorem exists_header {lines : List Text} {name : Text} (h : (start.run target lines).blockName = some name) :
    ∃ before header rest, lines = before ++ header :: rest ∧ (∀ line ∈ before, entered? target (trim line) = none) ∧
      entered? target (trim header) = some name ∧
      start.run target lines = { start with phase := .inBlock, blockName := some name }.run target rest := by
  induction lines with
  | nil => cases h
  | cons line rest ih =>
    rw [run] at h ⊢
    cases hentered : entered? target (trim line) with
    | none =>
      rw [feed_start_of_passed hentered] at h ⊢
      obtain ⟨before, header, behind, rfl, hbefore, hheader, hrun⟩ := ih h
      refine ⟨line :: before, header, behind, rfl, fun other hother => ?_, hheader, hrun⟩
      rcases List.mem_cons.1 hother with rfl | hother
      · exact hentered
      · exact hbefore other hother
    | some found =>
      rw [feed_start_of_entered hentered] at h ⊢
      have hname := (run_inBlock target
        (s := { start with phase := .inBlock, blockName := some found }) rfl rest).1
      obtain rfl : found = name := Option.some.inj (hname.symm.trans h)
      exact ⟨[], line, rest, rfl, by simp, hentered, rfl⟩

end Scan

/-! ## Headers -/

/-- the characters that can stand in front of the brace of a header -/
def isHeaderChar (c : Char) : Bool := isBlank c || isWord c || c = '(' || c = ')'

/-- a rest is reached past what can stand in a header -/
def PassesHeader (t rest : Text) : Prop := ∃ passed : Text, passed.all isHeaderChar = true ∧ t = passed ++ rest

theorem PassesHeader.trans {t u v : Text} (h : PassesHeader t u) (h' : PassesHeader u v) : PassesHeader t v := by
  obtain ⟨first, hfirst, rfl⟩ := h
  obtain ⟨second, hsecond, rfl⟩ := h'
  exact ⟨first ++ second, by rw [List.all_append, hfirst, hsecond]; rfl, (List.append_assoc ..).symm⟩

theorem all_isHeaderChar_of_blank {b : Text} (h : b.all isBlank = true) : b.all isHeaderChar = true :=
  List.all_eq_true.2 fun c hc => by simp [isHeaderChar, List.all_eq_true.1 h c hc]

theorem passesHeader_blanks (t : Text) : PassesHeader t (blanks t) := by
  obtain ⟨b, hb, ht⟩ := exists_of_blanks t
  exact ⟨b, all_isHeaderChar_of_blank hb, ht⟩

theorem passesHeader_blanks1? {t rest : Text} (h : blanks1? t = some rest) : PassesHeader t rest := by
  obtain ⟨gap, -, hgap, ht⟩ := exists_of_blanks1? h
  exact ⟨gap, all_isHeaderChar_of_blank hgap, ht⟩

theorem passesHeader_word? {t run rest : Text} (h : word? t = some (run, rest)) : PassesHeader t rest := by
  obtain ⟨w, rfl, ht⟩ := exists_of_word? h
  exact ⟨w.text, List.all_eq_true.2 fun c hc => by simp [isHeaderChar, w.letters c hc], ht⟩

theorem passesHeader_after? {start t rest : Text} (hstart : start.all isHeaderChar = true)
    (h : after? start t = some rest) : PassesHeader t rest :=
  ⟨start, hstart, after?_eq_some_iff.1 h⟩

theorem passesHeader_after?_blanks {start t rest : Text} (hstart : start.all isHeaderChar = true)
    (h : after? start (blanks t) = some rest) : PassesHeader t rest :=
  (passesHeader_blanks t).trans (passesHeader_after? hstart h)

/-- in front of its brace a header has letters, blanks and parentheses, and it begins with a keyword -/
theorem exists_of_blockHeader? {stripped name : Text} (h : blockHeader? stripped = some name) :
    (∃ behind, PassesHeader stripped ('\x7b' :: behind)) ∧ ∃ rest, stripped = "layout" ++ rest := by
  simp only [blockHeader?, Option.bind_eq_bind, Option.bind_eq_some_iff] at h
  obtain ⟨_, hlayout, _, hopen, _, hstd140, _, hclose, _, huniform, _, hgap, ⟨_, after⟩, hname, behind, hbrace, -⟩ := h
  have hstop : PassesHeader after ('\x7b' :: behind) := by
    have hmark : blanks after = '\x7b' :: behind := after?_eq_some_iff.1 hbrace
    rw [← hmark]
    exact passesHeader_blanks after
  refine ⟨⟨behind, ?_⟩, _, after?_eq_some_iff.1 hlayout⟩
  exact (passesHeader_after? (by decide) hlayout).trans <| (passesHeader_after?_blanks (by decide) hopen).trans <|
    (passesHeader_after?_blanks (by decide) hstd140).trans <| (passesHeader_after?_blanks (by decide) hclose).trans <|
    (passesHeader_after?_blanks (by decide) huniform).trans <| (passesHeader_blanks1? hgap).trans <|
    (passesHeader_word? hname).trans hstop

/-- a block begins on a line: it is the first with a header that is wanted, and what stands in front of its opening
brace has no closing brace and no comment -/
structure BlockAt (target : Option Text) (source name : Text) (before : List Text) (header : Text)
    (rest : List Text) : Prop where
  lines : scanLines source = before ++ header :: rest
  passed : ∀ line ∈ before, Scan.entered? target (trim line) = none
  entered : Scan.entered? target (trim header) = some name
  opening : ∃ front behind, header = front ++ '\x7b' :: behind ∧ '\x7b' ∉ front ∧ '\x7d' ∉ front ∧ '/' ∉ front

theorem exists_opening {header name : Text} (h : blockHeader? (trim header) = some name) :
    ∃ front behind, header = front ++ '\x7b' :: behind ∧ '\x7b' ∉ front ∧ '\x7d' ∉ front ∧ '/' ∉ front := by
  obtain ⟨⟨behind, head, hhead, hstripped⟩, -⟩ := exists_of_blockHeader? h
  obtain ⟨trail, htrail⟩ := dropEndWhile_isPrefix isBlank (trimStart header)
  have hrest : blanks header = head ++ ('\x7b' :: behind ++ trail) := by
    rw [← List.append_assoc, ← hstripped]
    exact htrail.symm
  have hline : PassesHeader header ('\x7b' :: behind ++ trail) :=
    (passesHeader_blanks header).trans ⟨head, hhead, hrest⟩
  obtain ⟨front, hfront, hheader⟩ := hline
  exact ⟨front, behind ++ trail, hheader, not_mem_of_all hfront (by decide), not_mem_of_all hfront (by decide),
    not_mem_of_all hfront (by decide)⟩

theorem declarations_readLines_header {header name : Text} (h : blockHeader? (trim header) = some name)
    (rest : List Text) : declarations (readLines (header :: rest)) = declarations (readLines rest) := by
  obtain ⟨-, after, hstripped⟩ := exists_of_blockHeader? h
  have hbrace : startsWithBrace header = false := by
    rw [startsWithBrace, hstripped]
    rfl
  have hnone : declaration? (trim header) = none := by
    rw [hstripped]
    rfl
  rw [readLines_cons hbrace, declarations_cons, hnone]
  rfl

/-- **Inside the block, and behind it.** For every text and every wanted block, if a block is found, its parameters come
one by one from the declarations in front of its closing brace and from those of the overrun, the lines behind the one
with the closing brace that are read nevertheless. Where the closing brace, if there is one, is the first on its line,
every parameter comes from a declaration in front of it. -/
theorem parameters_inside_or_overrun (target : Option Text) (source name : Text)
    (h : (classify target source).name = some name) :
    ∃ before header rest, BlockAt target source name before header rest ∧
      List.Forall₂ Parameter.ComesFrom (classify target source).parameters
        (declarations (insideBlock (header :: rest)) ++ declarations (overrun (header :: rest))) ∧
      ((∀ line ∈ (header :: rest).find? hasClosingBrace, startsWithBrace line = true) →
        ∀ p ∈ (classify target source).parameters,
          ∃ d ∈ declarations (insideBlock (header :: rest)), p.ComesFrom d) := by
  obtain ⟨before, header, rest, hlines, hbefore, hentered, hrun⟩ := Scan.exists_header h
  have hheader : blockHeader? (trim header) = some name := (Option.filter_eq_some_iff.1 hentered).1
  obtain ⟨-, found, hfound, hall⟩ := Scan.run_inBlock target
    (s := { Scan.start with phase := .inBlock, blockName := some name }) rfl rest
  have hparameters : (classify target source).parameters = found := by
    change (Scan.start.run target (scanLines source)).parameters = found
    rw [hrun, hfound]
    rfl
  rw [← declarations_readLines_header hheader, declarations_readLines] at hall
  have hblock : BlockAt target source name before header rest :=
    ⟨hlines, hbefore, hentered, exists_opening hheader⟩
  refine ⟨before, header, rest, hblock, hparameters ▸ hall, fun hfirst => ?_⟩
  rw [overrun_eq_nil hfirst, declarations_nil, List.append_nil] at hall
  rw [hparameters]
  exact Parameter.exists_comesFrom hall

/-- a block with braces in comments and a member on the line of the closing brace: the member behind that line is
reported too -/
theorem parameters_inside_or_overrun_late :
    let source : Text :=
      "layout(std140) uniform B \x7b // \x7d\nfloat a; // \x7d\nmat4 m; \x7d // end\nvec2 b;\n\x7d\nvec3 c;\n"
    (classify (some "B") source).name = some "B" ∧
      (∃ before header rest, BlockAt (some "B") source "B" before header rest ∧
        List.Forall₂ Parameter.ComesFrom (classify (some "B") source).parameters
          (declarations (insideBlock (header :: rest)) ++ declarations (overrun (header :: rest))) ∧
        ((∀ line ∈ (header :: rest).find? hasClosingBrace, startsWithBrace line = true) →
          ∀ p ∈ (classify (some "B") source).parameters,
            ∃ d ∈ declarations (insideBlock (header :: rest)), p.ComesFrom d)) ∧
      (classify (some "B") source).parameters.map Parameter.name = ["a", "m", "b"] := by
  intro source
  have hname : (classify (some "B") source).name = some "B" := by decide +kernel
  exact ⟨hname, parameters_inside_or_overrun (some "B") source "B" hname, by decide +kernel⟩

/-- a block that is closed on the line of its header, and one that is closed behind a member: what is declared behind
the closing brace is reported as a parameter -/
theorem classify_leaves_block :
    let empty : Text := "layout(std140) uniform B \x7b\x7d;\nfloat b;\n"
    let late : Text := "layout(std140) uniform B \x7b\nfloat a; \x7d;\nfloat b;\n"
    let stays (source : Text) : Prop := ∀ p ∈ (classify none source).parameters,
      ∃ d ∈ declarations (insideBlock (scanLines source)), p.ComesFrom d
    ((classify none empty).name = some "B" ∧ ¬ stays empty) ∧ (classify none late).name = some "B" ∧ ¬ stays late := by
  decide +kernel

end GlslInspect
