/-
The rows of the parameter table, and their columns.

A row of a table is cut into cells at its bars, but for those with a backslash directly in front of them (`cells`,
`openBars`). The row of a parameter is made from six columns with blanks around them (`Report.row_eq`), so no bar of the
row is escaped by what a column ends in, and the row has the bars of the table and those of its columns
(`openBars_padded`, `cells_flatMap_padded`).
Slots are digits, names are words, and what is guessed from a name is one of a few texts; the label of a section and the
comment are free text. They are parts of lines of the block, as they stand there (`Scan.Carries`, `carries_feed`,
`carries_run`), and nothing is done about the bars in them.
Main result: `row_splits_into_columns`. A bar in a comment or in a label makes one column more
(`row_gains_columns`).
-/
import GlslInspect.Report
import GlslInspect.Proofs.Slots

namespace GlslInspect

open Text Pattern

/-! ## Cells -/

namespace Text

/-- how many bars cut a text, given whether a backslash stands in front of it -/
def openBarsFrom (escaped : Bool) : Text → ℕ
  | [] => 0
  | c :: rest =>
    if c = '|' ∧ escaped = false then openBarsFrom false rest + 1 else openBarsFrom (c = '\\') rest

/-- how many bars of a text have no backslash directly in front of them -/
def openBars (t : Text) : ℕ := openBarsFrom false t

/-- a text cut at its bars, given whether a backslash stands in front of it -/
def cellsFrom (escaped : Bool) : Text → List Text
  | [] => [[]]
  | c :: rest =>
    if c = '|' ∧ escaped = false then [] :: cellsFrom false rest else consHead c (cellsFrom (c = '\\') rest)

/-- a text cut at each bar that has no backslash directly in front of it -/
def cells (t : Text) : List Text := cellsFrom false t

theorem length_consHead {ps : List Text} (h : ps ≠ []) (c : Char) : (consHead c ps).length = ps.length := by
  cases ps with
  | nil => exact absurd rfl h
  | cons p ps => rfl

theorem length_cellsFrom (escaped : Bool) (t : Text) :
    (cellsFrom escaped t).length = openBarsFrom escaped t + 1 := by
  induction t generalizing escaped with
  | nil => rfl
  | cons c t ih =>
    rw [cellsFrom, openBarsFrom]
    split_ifs
    · rw [List.length_cons, ih]
    · have hne : cellsFrom (c = '\\') t ≠ [] := List.ne_nil_of_length_pos (by rw [ih]; omega)
      rw [length_consHead hne, ih]

theorem openBarsFrom_of_not_mem {t : Text} (h : '|' ∉ t) (escaped : Bool) : openBarsFrom escaped t = 0 := by
  induction t generalizing escaped with
  | nil => rfl
  | cons c t ih =>
    have hc : ¬ (c = '|' ∧ escaped = false) := fun hbar => h (hbar.1 ▸ List.mem_cons_self)
    rw [openBarsFrom, if_neg hc, ih fun hmem => h (List.mem_cons_of_mem c hmem)]

theorem openBars_of_not_mem {t : Text} (h : '|' ∉ t) : openBars t = 0 := openBarsFrom_of_not_mem h false

theorem openBarsFrom_append_space (escaped : Bool) (t rest : Text) :
    openBarsFrom escaped (t ++ ' ' :: rest) = openBarsFrom escaped t + openBars rest := by
  induction t generalizing escaped with
  | nil => exact (Nat.zero_add _).symm
  | cons c t ih =>
    rw [List.cons_append, openBarsFrom, openBarsFrom]
    split_ifs
    · rw [ih]
      omega
    · exact ih _

theorem cellsFrom_append_bar {escaped : Bool} {t : Text} (h : openBarsFrom escaped t = 0) (rest : Text) :
    cellsFrom escaped (t ++ ' ' :: '|' :: rest) = (t ++ [' ']) :: cells rest := by
  induction t generalizing escaped with
  | nil => rfl
  | cons c t ih =>
    rw [openBarsFrom] at h
    rw [List.cons_append, cellsFrom]
    split_ifs at h ⊢
    rw [ih h]
    rfl

end Text

namespace Report

/-- a column as it stands in a row -/
def padded (column : Text) : Text := ' ' :: (column ++ [' '])

/-- the six columns of a parameter: its slot, its name, its section, the domain and the frequency that are guessed, and
its comment -/
def columns (p : Parameter) : List Text :=
  [Text.ofNat p.slot, "`" ++ (p.name ++ "`"), p.sectionLabel, p.domain.label, p.frequency.label, p.comment]

theorem row_eq (p : Parameter) : row p = '|' :: (columns p).flatMap fun column => padded column ++ ['|'] := by
  unfold row columns padded
  simp only [List.flatMap_cons, List.flatMap_nil, List.append_assoc, List.cons_append, List.append_nil]
  rfl

/-- a column and the bar behind it -/
theorem openBars_padded (column rest : Text) :
    openBars (padded column ++ ['|'] ++ rest) = openBars column + 1 + openBars rest := by
  have hsplit : padded column ++ ['|'] ++ rest = ' ' :: (column ++ ' ' :: '|' :: rest) := by simp [padded]
  have hbar : openBars ('|' :: rest) = openBars rest + 1 := rfl
  rw [hsplit]
  change openBarsFrom false (column ++ ' ' :: '|' :: rest) = _
  rw [openBarsFrom_append_space, hbar, ← openBars]
  omega

theorem cells_padded {column : Text} (h : openBars column = 0) (rest : Text) :
    cells (padded column ++ ['|'] ++ rest) = padded column :: cells rest := by
  have hsplit : padded column ++ ['|'] ++ rest = (' ' :: column) ++ ' ' :: '|' :: rest := by simp [padded]
  have hcolumn : openBarsFrom false (' ' :: column) = 0 := h
  rw [hsplit, cells, cellsFrom_append_bar hcolumn]
  rfl

/-- columns without bars to cut at are the cells of a row, and behind its last bar there is nothing -/
theorem cells_flatMap_padded {columns : List Text} (h : ∀ column ∈ columns, openBars column = 0) :
    cells (columns.flatMap fun column => padded column ++ ['|']) = columns.map padded ++ [[]] := by
  induction columns with
  | nil => rfl
  | cons column columns ih =>
    rw [List.flatMap_cons, cells_padded (h column List.mem_cons_self),
      ih fun other hother => h other (List.mem_cons_of_mem column hother)]
    rfl

theorem openBars_slot (slot : ℕ) : openBars (Text.ofNat slot) = 0 := openBars_of_not_mem (not_mem_ofNat (by decide))

theorem openBars_name {p : Parameter} (hp : p.Proper) : openBars ("`" ++ (p.name ++ "`")) = 0 := by
  have hname : '|' ∉ p.name := hp.word.not_mem (by decide)
  exact openBars_of_not_mem (List.not_mem_append (by decide) (List.not_mem_append hname (by decide)))

theorem openBars_domain (domain : Domain) : openBars domain.label = 0 := by cases domain <;> decide

theorem openBars_frequency (frequency : Frequency) : openBars frequency.label = 0 := by cases frequency <;> decide

theorem openBars_row {p : Parameter} (hp : p.Proper) :
    openBars (row p) = 7 + openBars p.sectionLabel + openBars p.comment := by
  have hfirst : ∀ t, openBars ('|' :: t) = openBars t + 1 := fun t => rfl
  have hlast : openBars ([] : Text) = 0 := rfl
  rw [row_eq, hfirst, columns]
  simp only [List.flatMap_cons, List.flatMap_nil, openBars_padded, openBars_slot, openBars_name hp, openBars_domain,
    openBars_frequency, hlast]
  omega

/-- without bars to cut at in the free texts, a row is cut into its six columns -/
theorem cells_row {p : Parameter} (hp : p.Proper) (hlabel : openBars p.sectionLabel = 0)
    (hcomment : openBars p.comment = 0) : cells (row p) = [] :: ((columns p).map padded ++ [[]]) := by
  have hcolumns : ∀ column ∈ columns p, openBars column = 0 := by
    simp only [columns, List.forall_mem_cons]
    exact ⟨openBars_slot p.slot, openBars_name hp, hlabel, openBars_domain _, openBars_frequency _, hcomment, by simp⟩
  rw [row_eq, ← cells_flatMap_padded hcolumns]
  rfl

theorem row_mem_rowsAfter {p : Parameter} {ps : List Parameter} (h : p ∈ ps) (slot : ℕ) :
    row p ∈ rowsAfter slot ps := by
  induction ps generalizing slot with
  | nil => cases h
  | cons q ps ih =>
    rw [rowsAfter]
    rcases List.mem_cons.1 h with rfl | h
    · split_ifs <;> simp
    · have hrest := ih h q.slot
      split_ifs <;> simp [hrest]

theorem row_mem_rows {p : Parameter} {ps : List Parameter} (h : p ∈ ps) : row p ∈ rows ps := by
  cases ps with
  | nil => cases h
  | cons q ps =>
    rw [rows]
    rcases List.mem_cons.1 h with rfl | h
    · exact List.mem_cons_self
    · exact List.mem_cons_of_mem _ (row_mem_rowsAfter h q.slot)

end Report

/-! ## Where free text comes from -/

theorem Text.trim_isInfix (t : Text) : trim t <:+: t :=
  (dropEndWhile_isPrefix isBlank (trimStart t)).isInfix.trans (List.dropWhile_suffix isBlank).isInfix

theorem isInfix_of_labelOf? {stripped label : Text} (h : labelOf? stripped = some label) : label <:+: stripped := by
  obtain ⟨-, rfl, -⟩ := labelOf?_eq_some_iff.1 h
  exact (trim_isInfix _).trans (List.dropWhile_suffix _).isInfix

theorem isInfix_of_sectionLabel? {line label : Text} {next : Option Text} (h : sectionLabel? line next = some label) :
    ∃ below ∈ next, label <:+: below := by
  unfold sectionLabel? at h
  split_ifs at h with hdivider
  obtain ⟨below, hbelow, hlabel⟩ := Option.bind_eq_some_iff.1 h
  exact ⟨below, hbelow, (isInfix_of_labelOf? hlabel).trans (trim_isInfix below)⟩

theorem trailingComment_isInfix (t : Text) : trailingComment t <:+: t := by
  unfold trailingComment
  split
  · rename_i rest hrest
    have hblanks : rest <:+ blanks t := ⟨_, (after?_eq_some_iff.1 hrest).symm⟩
    exact (trim_isInfix _).trans <| (List.takeWhile_prefix _).isInfix.trans <|
      (List.dropWhile_suffix isBlank).isInfix.trans <| (hblanks.trans (List.dropWhile_suffix isBlank)).isInfix
  · exact List.nil_infix

theorem comment_isInfix {line : Text} {d : Declaration} (h : declaration? (trim line) = some d) :
    d.comment <:+: line := by
  obtain ⟨s, htext, rfl⟩ := declaration?_eq_some_iff.1 h
  have hrest : s.rest <:+: trim line := ⟨s.front ++ [';'], [], by simp [← htext, Statement.text]⟩
  exact (trailingComment_isInfix s.rest).trans (hrest.trans (trim_isInfix line))

namespace Scan

variable {target : Option Text} {s : Scan} {lines : List Text}

/-- a label is unknown or part of one of some lines -/
def LabelIn (lines : List Text) (label : Text) : Prop := label = unknownSection ∨ ∃ line ∈ lines, label <:+: line

/-- the free texts of a scan are parts of some lines -/
structure Carries (lines : List Text) (s : Scan) : Prop where
  label : LabelIn lines s.sectionLabel
  labels : ∀ p ∈ s.latest, LabelIn lines p.sectionLabel
  comments : ∀ p ∈ s.latest, ∃ d : Declaration, p.ComesFrom d ∧ ∃ line ∈ lines, d.comment <:+: line

/-- a line adds nothing but its own comment, and the line below it nothing but a label -/
theorem carries_feed (hs : s.phase = .inBlock) (h : s.Carries lines) {line : Text} (hmem : line ∈ lines)
    (hline : startsWithBrace line = false) {next : Option Text} (hnext : ∀ below ∈ next, below ∈ lines) :
    (s.feed target line next).Carries lines := by
  have hlabel : LabelIn lines ((sectionLabel? line next).getD s.sectionLabel) := by
    cases hsection : sectionLabel? line next with
    | none => exact h.label
    | some label =>
      obtain ⟨below, hbelow, hwithin⟩ := isInfix_of_sectionLabel? hsection
      exact Or.inr ⟨below, hnext below hbelow, hwithin⟩
  rw [feed_inBlock target hs hline]
  cases hdeclared : declaration? (trim line) with
  | none => exact ⟨hlabel, h.labels, h.comments⟩
  | some d =>
    rw [declare_some]
    refine ⟨hlabel, List.forall_mem_cons.2 ⟨hlabel, h.labels⟩, List.forall_mem_cons.2 ⟨?_, h.comments⟩⟩
    exact ⟨d, d.comesFrom_parameter _ _, line, hmem, comment_isInfix hdeclared⟩

theorem carries_run (hs : s.phase = .inBlock) (h : s.Carries lines) {rest : List Text} (hrest : rest ⊆ lines)
    (hlines : ∀ line ∈ rest, startsWithBrace line = false) : (s.run target rest).Carries lines := by
  induction rest generalizing s with
  | nil => exact h
  | cons line rest ih =>
    obtain ⟨hmem, hbehind⟩ := List.cons_subset.1 hrest
    have hline := hlines line List.mem_cons_self
    have hnext : ∀ below ∈ rest.head?, below ∈ lines := fun below hbelow => hbehind (List.mem_of_mem_head? hbelow)
    exact ih (phase_feed_inBlock target hs hline rest.head?) (carries_feed hs h hmem hline hnext) hbehind
      fun other hother => hlines other (List.mem_cons_of_mem line hother)

/-- the free texts of the parameters that are found are parts of the lines of the block -/
theorem carries_of_mem {source : Text} {p : Parameter} (hp : p ∈ (classify target source).parameters) :
    LabelIn (blockLines target (scanLines source)) p.sectionLabel ∧
      ∃ d : Declaration, p.ComesFrom d ∧ ∃ line ∈ blockLines target (scanLines source), d.comment <:+: line := by
  rw [classify, result_run_start] at hp
  cases hfound : foundName? target (scanLines source) with
  | none =>
    rw [hfound] at hp
    cases hp
  | some name =>
    rw [hfound] at hp
    have hstart : (entering name).Carries (blockLines target (scanLines source)) :=
      ⟨Or.inl rfl, by simp [entering, start], by simp [entering, start]⟩
    have hend : ((entering name).run target (blockLines target (scanLines source))).Carries _ :=
      carries_run rfl hstart (List.Subset.refl _) fun line hline => startsWithBrace_of_mem_readLines hline
    have hlatest := List.mem_reverse.1 hp
    exact ⟨hend.labels p hlatest, hend.comments p hlatest⟩

end Scan

/-- a mark that is not on the lines of a block is not in the free texts of its parameters, unless the tool writes it -/
theorem not_mem_of_lines {target : Option Text} {source : Text} {p : Parameter} {mark : Char}
    (hp : p ∈ (classify target source).parameters) (hunknown : mark ∉ unknownSection)
    (hslots : mark ∉ "(4 slots) ".toList) (h : ∀ line ∈ Scan.blockLines target (scanLines source), mark ∉ line) :
    mark ∉ p.sectionLabel ∧ mark ∉ p.comment := by
  obtain ⟨hlabel, d, ⟨-, -, hcomment⟩, line, hline, hwithin⟩ := Scan.carries_of_mem hp
  have hnote : mark ∉ d.comment := fun hmem => h line hline (hwithin.subset hmem)
  constructor
  · rcases hlabel with heq | ⟨below, hbelow, hpart⟩
    · rwa [heq]
    · exact fun hmem => h below hbelow (hpart.subset hmem)
  · rw [hcomment]
    split_ifs
    · exact List.not_mem_append hslots hnote
    · exact hnote

/-- a block without bars on its lines has none in the free texts of its parameters -/
theorem openBars_of_lines {target : Option Text} {source : Text} {p : Parameter}
    (hp : p ∈ (classify target source).parameters)
    (h : ∀ line ∈ Scan.blockLines target (scanLines source), '|' ∉ line) :
    openBars p.sectionLabel = 0 ∧ openBars p.comment = 0 := by
  obtain ⟨hlabel, hcomment⟩ := not_mem_of_lines hp (by decide) (by decide) h
  exact ⟨openBars_of_not_mem hlabel, openBars_of_not_mem hcomment⟩

/-- **Rows and their columns.** For every text and every wanted block, each parameter that is found has its row in the
report, and that row has seven bars of the table, and those of its section's label and of its comment. So it is cut into
the six columns slot, name, section, domain, frequency and notes exactly if the label and the comment have no bar
without a backslash in front; and they have none where no line of the block has a bar. -/
theorem row_splits_into_columns (target : Option Text) (source : Text) (p : Parameter)
    (hp : p ∈ (classify target source).parameters) :
    (∀ file block, Report.row p ∈ Report.lines (classify target source).parameters file block) ∧
    openBars (Report.row p) = 7 + openBars p.sectionLabel + openBars p.comment ∧
    (cells (Report.row p) = [] :: ((Report.columns p).map Report.padded ++ [[]]) ↔ openBars (Report.row p) = 7) ∧
    ((∀ line ∈ Scan.blockLines target (scanLines source), '|' ∉ line) → openBars (Report.row p) = 7) := by
  have hproper : p.Proper := Scan.proper_of_mem hp
  have hbars := Report.openBars_row hproper
  refine ⟨fun file block => ?_, hbars, ⟨fun hcells => ?_, fun hseven => ?_⟩, fun hlines => ?_⟩
  · exact List.mem_append_left _ (List.mem_append_right _ (Report.row_mem_rows hp))
  · have hlength := length_cellsFrom false (Report.row p)
    rw [← cells, hcells, ← openBars] at hlength
    have hcount : ([] :: ((Report.columns p).map Report.padded ++ [[]])).length = 8 := rfl
    omega
  · exact Report.cells_row hproper (by omega) (by omega)
  · obtain ⟨hlabel, hcomment⟩ := openBars_of_lines hp hlines
    omega

/-- bars behind backslashes, in a label and in a comment that ends in a backslash; and a block without bars -/
theorem row_splits_into_columns_escaped :
    let source : Text := "layout(std140) uniform B \x7b\n// ═══\n// a \\| b\nfloat x; // \\| c \\\n\x7d;\n"
    let p : Parameter := ⟨0, "x", .float, "a \\| b", "\\| c \\"⟩
    let plain : Text := "| layout(std140)\nlayout(std140) uniform B \x7b // |\nmat4 m; // \\\n\x7d; // |"
    let m : Parameter := ⟨0, "m", .mat4, "Unknown", "(4 slots) \\"⟩
    (p ∈ (classify none source).parameters ∧ openBars (Report.row p) = 7 ∧
      cells (Report.row p) = [] :: ((Report.columns p).map Report.padded ++ [[]])) ∧
      m ∈ (classify none plain).parameters ∧ (∀ line ∈ Scan.blockLines none (scanLines plain), '|' ∉ line) ∧
      openBars (Report.row m) = 7 := by
  intro source p plain m
  have hp : p ∈ (classify none source).parameters := by decide +kernel
  obtain ⟨-, hbars, hcells, -⟩ := row_splits_into_columns none source p hp
  have hseven : openBars (Report.row p) = 7 := by rw [hbars]; decide
  have hm : m ∈ (classify none plain).parameters := by decide +kernel
  have hlines : ∀ line ∈ Scan.blockLines none (scanLines plain), '|' ∉ line := by decide +kernel
  obtain ⟨-, -, -, hplain⟩ := row_splits_into_columns none plain m hm
  exact ⟨⟨hp, hseven, hcells.2 hseven⟩, hm, hlines, hplain hlines⟩

/-- a bar in a comment, and one in the label of a section: each makes one column more -/
theorem row_gains_columns :
    let comment : Text := "layout(std140) uniform B \x7b\nfloat x; // min | max\n\x7d;\n"
    let label : Text := "layout(std140) uniform B \x7b\n// ═══\n// in | out\nfloat x;\n\x7d;\n"
    let barsOfRows (source : Text) : List ℕ := (classify none source).parameters.map fun p => openBars (Report.row p)
    barsOfRows comment = [8] ∧ barsOfRows label = [8] := by
  decide +kernel

end GlslInspect
