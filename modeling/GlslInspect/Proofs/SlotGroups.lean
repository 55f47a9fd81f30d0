/-
The groups of the parameter table.

The rows of the table are those of the parameters, with a separator wherever the slot changes (`rows_cons_same`,
`rows_cons_other`). So they are the rows of the runs of parameters with one slot, with separators between the runs
(`exists_slotRuns`).
In the document the table is found again by its head and by the empty line behind it (`tableOf_text`), and cut at its
separators it gives the runs: free text stands in a row behind a bar and a blank, so no row is a separator, the head
of a table or empty (`exists_row`). Only a newline would end a row, and no text that was read from a block has one
(`oneLine_of_mem`).
Main result: `table_grouped_by_slot`.
-/
import Mathlib.Data.List.Chain
import Mathlib.Data.List.DropRight
import GlslInspect.Proofs.TableRows

namespace GlslInspect

open Text

structure Parameter.OneLine (p : Parameter) : Prop where
  name : '\n' ∉ p.name
  label : '\n' ∉ p.sectionLabel
  comment : '\n' ∉ p.comment

namespace Report

variable {parameters rest : List Parameter} {p q : Parameter}

/-! ## Runs of one slot -/

/-- parameters cut into runs: in each the slots are the same, and from each to the next they are not, so that none can
be longer -/
structure SlotRuns (parameters : List Parameter) (runs : List (List Parameter)) : Prop where
  whole : runs.flatten = parameters
  filled : parameters ≠ [] → [] ∉ runs
  same : ∀ run ∈ runs, ∀ p ∈ run, ∀ q ∈ run, p.slot = q.slot
  apart : runs.IsChain fun run next => ∀ p ∈ run, ∀ q ∈ next, p.slot ≠ q.slot

theorem rows_cons_same (h : q.slot = p.slot) (rest : List Parameter) :
    rows (p :: q :: rest) = row p :: rows (q :: rest) := by
  rw [rows, rowsAfter, if_pos h]
  rfl

theorem rows_cons_other (h : q.slot ≠ p.slot) (rest : List Parameter) :
    rows (p :: q :: rest) = row p :: separator :: rows (q :: rest) := by
  rw [rows, rowsAfter, if_neg h]
  rfl

variable {run : List Parameter} {runs : List (List Parameter)}

theorem slotRuns_singleton (p : Parameter) : SlotRuns [p] [[p]] := by
  refine ⟨rfl, by simp, ?_, .singleton _⟩
  simp

/-- a parameter of the same slot joins the first run -/
theorem SlotRuns.extend (h : SlotRuns (q :: rest) ((q :: run) :: runs)) (hslot : q.slot = p.slot) :
    SlotRuns (p :: q :: rest) ((p :: q :: run) :: runs) := by
  have hfirst : ∀ r ∈ p :: q :: run, r.slot = q.slot := by
    rintro r (_ | ⟨_, hr⟩)
    · exact hslot.symm
    · exact h.same _ List.mem_cons_self r hr q List.mem_cons_self
  refine ⟨congrArg (p :: ·) h.whole, fun _ => ?_, ?_, ?_⟩
  · simpa using h.filled (List.cons_ne_nil q rest)
  · refine List.forall_mem_cons.2 ⟨fun r hr r' hr' => ?_, fun other hother => ?_⟩
    · rw [hfirst r hr, hfirst r' hr']
    · exact h.same other (List.mem_cons_of_mem _ hother)
  · rw [List.isChain_cons]
    refine ⟨fun next hnext r hr r' hr' => ?_, h.apart.tail⟩
    rw [hfirst r hr]
    exact (List.isChain_cons.1 h.apart).1 next hnext q List.mem_cons_self r' hr'

theorem SlotRuns.cons (h : SlotRuns (q :: rest) ((q :: run) :: runs)) (hslot : q.slot ≠ p.slot) :
    SlotRuns (p :: q :: rest) ([p] :: (q :: run) :: runs) := by
  refine ⟨congrArg (p :: ·) h.whole, fun _ => ?_, ?_, ?_⟩
  · simpa using h.filled (List.cons_ne_nil q rest)
  · exact List.forall_mem_cons.2 ⟨(slotRuns_singleton p).same [p] List.mem_cons_self, h.same⟩
  · refine List.isChain_cons_cons.2 ⟨fun r hr r' hr' heq => ?_, h.apart⟩
    rw [List.mem_singleton.1 hr, h.same _ List.mem_cons_self r' hr' q List.mem_cons_self] at heq
    exact hslot heq.symm

/-- the rows of some runs, with separators between the runs -/
def groupedRows (runs : List (List Parameter)) : List Text := [separator].intercalate (runs.map (List.map row))

theorem groupedRows_extend (p : Parameter) (run : List Parameter) (runs : List (List Parameter)) :
    groupedRows ((p :: run) :: runs) = row p :: groupedRows (run :: runs) := by
  cases runs <;> simp [groupedRows, List.intercalate_cons_cons]

theorem groupedRows_cons (run next : List Parameter) (runs : List (List Parameter)) :
    groupedRows (run :: next :: runs) = run.map row ++ separator :: groupedRows (next :: runs) := by
  simp [groupedRows, List.intercalate_cons_cons]

theorem exists_slotRuns (p : Parameter) (rest : List Parameter) :
    ∃ run runs, SlotRuns (p :: rest) ((p :: run) :: runs) ∧ rows (p :: rest) = groupedRows ((p :: run) :: runs) := by
  induction rest generalizing p with
  | nil => exact ⟨[], [], slotRuns_singleton p, rfl⟩
  | cons q rest ih =>
    obtain ⟨run, runs, hruns, hrows⟩ := ih q
    by_cases hslot : q.slot = p.slot
    · refine ⟨q :: run, runs, hruns.extend hslot, ?_⟩
      rw [rows_cons_same hslot, hrows, groupedRows_extend p]
    · refine ⟨[], (q :: run) :: runs, hruns.cons hslot, ?_⟩
      rw [rows_cons_other hslot, hrows, groupedRows_cons]
      rfl

/-! ## The table in its document -/

/-- the line under the names of the columns, which ends the head of the table -/
def columnRule : Text := "|------|------|---------|---------------|-------------|-------|"

/-- the lines of a document that make up its parameter table: those behind the last line that ends the head of one, up
to the next empty line -/
def tableOf (document : Text) : List Text :=
  ((splitOn '\n' document).rtakeWhile (· ≠ columnRule)).takeWhile (· ≠ [])

/-- a row begins with a bar and a blank, whatever its columns hold -/
theorem exists_row (p : Parameter) : ∃ t, row p = '|' :: ' ' :: t := ⟨_, row_eq p⟩

theorem row_ne {line : Text} (h : line.tail.head? ≠ some ' ') (p : Parameter) : row p ≠ line := by
  obtain ⟨t, hrow⟩ := exists_row p
  rintro rfl
  exact h (by rw [hrow]; rfl)

theorem mem_rowsAfter {line : Text} {slot : ℕ} (h : line ∈ rowsAfter slot parameters) :
    line = separator ∨ ∃ p ∈ parameters, line = row p := by
  induction parameters generalizing slot with
  | nil => cases h
  | cons p rest ih =>
    have hcases : line = separator ∨ line = row p ∨ line ∈ rowsAfter p.slot rest := by
      rw [rowsAfter] at h
      split_ifs at h
      · exact Or.inr (List.mem_cons.1 h)
      · simpa only [List.mem_cons] using h
    rcases hcases with heq | heq | hrest
    · exact Or.inl heq
    · exact Or.inr ⟨p, List.mem_cons_self, heq⟩
    · rcases ih hrest with heq | ⟨q, hq, heq⟩
      · exact Or.inl heq
      · exact Or.inr ⟨q, List.mem_cons_of_mem p hq, heq⟩

theorem mem_rows {line : Text} (h : line ∈ rows parameters) : line = separator ∨ ∃ p ∈ parameters, line = row p := by
  cases parameters with
  | nil => cases h
  | cons p rest =>
    -- in front of the first parameter there is no separator, as there is none behind one of its slot
    have hafter : rows (p :: rest) = rowsAfter p.slot (p :: rest) := by rw [rows, rowsAfter, if_pos rfl]
    rw [hafter] at h
    exact mem_rowsAfter h

theorem newline_not_mem_label (domain : Domain) : '\n' ∉ domain.label := by cases domain <;> decide

theorem newline_not_mem_row (h : p.OneLine) : '\n' ∉ row p := by
  have hcolumns : ∀ column ∈ columns p, '\n' ∉ column := by
    have hname : '\n' ∉ ("`" ++ (p.name ++ "`") : Text) :=
      List.not_mem_append (by decide) (List.not_mem_append h.name (by decide))
    have hfrequency : '\n' ∉ p.frequency.label := by cases p.frequency <;> decide
    simp only [columns, List.forall_mem_cons]
    exact ⟨not_mem_ofNat (by decide), hname, h.label, newline_not_mem_label _, hfrequency, h.comment, by simp⟩
  rw [row_eq]
  intro hmem
  rcases List.mem_cons.1 hmem with heq | hmem
  · cases heq
  · obtain ⟨column, hcolumn, hmem⟩ := List.mem_flatMap.1 hmem
    have hplain := hcolumns column hcolumn
    simp [padded, hplain] at hmem

/-- the lines behind the table: none is cut, and none looks like a line of a table -/
theorem of_mem_closing {line : Text} (h : line ∈ closing parameters) : '\n' ∉ line ∧ line.head? ≠ some '|' := by
  have hsummary : ∀ entry : Domain × ℕ, '\n' ∉ summaryLine entry ∧ (summaryLine entry).head? ≠ some '|' := by
    intro entry
    refine ⟨?_, by rintro ⟨⟩⟩
    exact List.not_mem_append (List.not_mem_append (List.not_mem_append (List.not_mem_append (by decide)
      (newline_not_mem_label entry.1)) (by decide)) (not_mem_ofNat (by decide))) (by decide)
  have hfixed : ∀ other ∈ summaryHead ++ stepsHead ++ nextSteps.zipIdx.map stepLine,
      '\n' ∉ other ∧ other.head? ≠ some '|' := by decide +kernel
  simp only [closing, List.mem_append] at h
  rcases h with ((h | h) | h) | h
  · exact hfixed line (by simp [h])
  · obtain ⟨entry, -, rfl⟩ := List.mem_map.1 h
    exact hsummary entry
  · exact hfixed line (by simp [h])
  · exact hfixed line (by simp [h])

/-- the lines in front of the one that ends the head of the table -/
def preamble (parameters : List Parameter) (file block : Text) : List Text :=
  introduction parameters.length file block ++ legendHead ++ legend.map legendRow ++ tableHead.dropLast

theorem opening_eq (parameters : List Parameter) (file block : Text) :
    opening parameters file block = preamble parameters file block ++ [columnRule] := by
  have hhead : tableHead = tableHead.dropLast ++ [columnRule] := rfl
  rw [opening, hhead, preamble, List.append_assoc _ tableHead.dropLast]

/-- the lines of a document: what is written about its file and its block may be several, all others are one each -/
theorem splitOn_text (h : ∀ p ∈ parameters, p.OneLine) (file block : Text) :
    splitOn '\n' (text parameters file block) =
      (preamble parameters file block).flatMap (splitOn '\n') ++
        columnRule :: (rows parameters ++ closing parameters) := by
  have hrows : ∀ line ∈ rows parameters, '\n' ∉ line := by
    intro line hline
    rcases mem_rows hline with rfl | ⟨p, hp, rfl⟩
    · decide
    · exact newline_not_mem_row (h p hp)
  have hbehind : ∀ line ∈ columnRule :: (rows parameters ++ closing parameters), '\n' ∉ line := by
    refine List.forall_mem_cons.2 ⟨by decide, fun line hline => ?_⟩
    rcases List.mem_append.1 hline with hline | hline
    · exact hrows line hline
    · exact (of_mem_closing hline).1
  have hlines : lines parameters file block =
      preamble parameters file block ++ columnRule :: (rows parameters ++ closing parameters) := by
    rw [lines, opening_eq]
    simp
  have hjoin : text parameters file block = join ['\n'] (lines parameters file block) := rfl
  rw [hjoin, splitOn_join (by rw [hlines]; simp), hlines, List.flatMap_append, flatMap_splitOn hbehind]

theorem columnRule_not_mem_behind (parameters : List Parameter) :
    columnRule ∉ rows parameters ++ closing parameters := by
  intro hmem
  rcases List.mem_append.1 hmem with hmem | hmem
  · rcases mem_rows hmem with heq | ⟨p, -, heq⟩
    · exact absurd heq (by decide)
    · exact row_ne (by decide) p heq.symm
  · exact (of_mem_closing hmem).2 rfl

theorem tableOf_text (h : ∀ p ∈ parameters, p.OneLine) (file block : Text) :
    tableOf (text parameters file block) = rows parameters := by
  have hlast : (splitOn '\n' (text parameters file block)).rtakeWhile (· ≠ columnRule) =
      rows parameters ++ closing parameters := by
    have hbehind : ∀ line ∈ (rows parameters ++ closing parameters).reverse, decide (line ≠ columnRule) = true := by
      intro line hline
      refine decide_eq_true ?_
      rintro rfl
      exact columnRule_not_mem_behind parameters (List.mem_reverse.1 hline)
    rw [splitOn_text h, List.rtakeWhile, List.reverse_append, List.reverse_cons, List.append_assoc,
      takeWhile_append_of_head? hbehind (by rintro _ ⟨⟩; rfl), List.reverse_reverse]
  have hrows : ∀ line ∈ rows parameters, decide (line ≠ []) = true := by
    intro line hline
    rcases mem_rows hline with rfl | ⟨p, -, rfl⟩
    · decide
    · exact decide_eq_true (row_ne (by decide) p)
  rw [tableOf, hlast]
  exact takeWhile_append_of_head? hrows (by rintro _ ⟨⟩; rfl)

theorem exists_splitOn_rows (parameters : List Parameter) :
    ∃ runs, SlotRuns parameters runs ∧ (rows parameters).splitOn separator = runs.map (List.map row) := by
  cases parameters with
  | nil => exact ⟨[[]], ⟨rfl, by simp, by simp, .singleton _⟩, rfl⟩
  | cons p rest =>
    obtain ⟨run, runs, hruns, hrows⟩ := exists_slotRuns p rest
    refine ⟨(p :: run) :: runs, hruns, ?_⟩
    rw [hrows]
    refine List.splitOn_intercalate separator (fun group hgroup hmem => ?_) (by simp)
    obtain ⟨members, -, rfl⟩ := List.mem_map.1 hgroup
    obtain ⟨q, -, hq⟩ := List.mem_map.1 hmem
    exact row_ne (by decide) q hq

/-- where neither the file nor the block has a newline in its name, one line of the document ends the head of the
table -/
theorem count_columnRule (h : ∀ p ∈ parameters, p.OneLine) {file block : Text} (hfile : '\n' ∉ file)
    (hblock : '\n' ∉ block) : (splitOn '\n' (text parameters file block)).count columnRule = 1 := by
  have hintroduction : ∀ line ∈ introduction parameters.length file block, '\n' ∉ line ∧ line.head? ≠ some '|' := by
    have hsource : '\n' ∉ ("> **Source:** `" ++ file ++ "`" : Text) :=
      List.not_mem_append (List.not_mem_append (by decide) hfile) (by decide)
    have hname : '\n' ∉ ("> **Uniform Block:** `" ++ block ++ "`" : Text) :=
      List.not_mem_append (List.not_mem_append (by decide) hblock) (by decide)
    have htotal : '\n' ∉ ("> **Total Parameters:** " ++ Text.ofNat parameters.length : Text) :=
      List.not_mem_append (by decide) (not_mem_ofNat (by decide))
    simp only [introduction, List.forall_mem_cons]
    refine ⟨by decide, by decide, ⟨hsource, ?_⟩, ⟨hname, ?_⟩, ⟨htotal, ?_⟩, by decide, by decide, by decide, by simp⟩
    all_goals rintro ⟨⟩
  have hfixed : ∀ line ∈ legendHead ++ legend.map legendRow ++ tableHead.dropLast,
      '\n' ∉ line ∧ line ≠ columnRule := by decide +kernel
  have hpreamble : ∀ line ∈ preamble parameters file block, '\n' ∉ line ∧ line ≠ columnRule := by
    intro line hline
    rw [preamble, List.append_assoc, List.append_assoc, List.mem_append, ← List.append_assoc] at hline
    rcases hline with hline | hline
    · obtain ⟨hnewline, hbar⟩ := hintroduction line hline
      exact ⟨hnewline, fun heq => hbar (heq ▸ rfl)⟩
    · exact hfixed line hline
  have hbefore : columnRule ∉ preamble parameters file block := fun hmem => (hpreamble _ hmem).2 rfl
  rw [splitOn_text h, flatMap_splitOn fun line hline => (hpreamble line hline).1, List.count_append,
    List.count_eq_zero.2 hbefore, List.count_cons_self, List.count_eq_zero.2 (columnRule_not_mem_behind parameters)]

end Report

theorem oneLine_of_mem {target : Option Text} {source : Text} {p : Parameter}
    (hp : p ∈ (classify target source).parameters) : p.OneLine := by
  have hlines : ∀ line ∈ Scan.blockLines target (scanLines source), '\n' ∉ line := by
    intro line hline
    have hscanned : line ∈ scanLines source :=
      (List.dropWhile_suffix _).subset (List.mem_of_mem_drop ((List.takeWhile_prefix _).subset hline))
    exact not_mem_of_mem_splitOn hscanned
  obtain ⟨hlabel, hcomment⟩ := not_mem_of_lines hp (by decide) (by decide) hlines
  exact ⟨(Scan.proper_of_mem hp).word.not_mem (by decide), hlabel, hcomment⟩

/-- **The table is grouped by slot.** For all parameters whose texts have no newline, whatever else is in them, the
table of the document, cut at its separators, gives groups that are the rows of the runs of parameters with one slot.
All groups together are the rows of all parameters in order, and none is empty unless there are no parameters. The
table is found behind the line that ends its head: there is only one, as long as the names of the file and of the
block have no newline. And the parameters that are found in a text have none. -/
theorem table_grouped_by_slot (parameters : List Parameter) (file block : Text) (h : ∀ p ∈ parameters, p.OneLine) :
    let groups := (Report.tableOf (Report.text parameters file block)).splitOn Report.separator
    (∃ runs, Report.SlotRuns parameters runs ∧ groups = runs.map (List.map Report.row)) ∧
    groups.flatten = parameters.map Report.row ∧
    (parameters ≠ [] → [] ∉ groups) ∧
    ('\n' ∉ file → '\n' ∉ block →
      (splitOn '\n' (Report.text parameters file block)).count Report.columnRule = 1) ∧
    ∀ target source, ∀ p ∈ (classify target source).parameters, p.OneLine := by
  intro groups
  obtain ⟨runs, hruns, hsplit⟩ := Report.exists_splitOn_rows parameters
  have hgroups : groups = runs.map (List.map Report.row) := by rw [← hsplit, ← Report.tableOf_text h file block]
  refine ⟨⟨runs, hruns, hgroups⟩, ?_, fun hne hmem => ?_, Report.count_columnRule h, ?_⟩
  · rw [hgroups, ← List.map_flatten, hruns.whole]
  · rw [hgroups] at hmem
    obtain ⟨run, hrun, hempty⟩ := List.mem_map.1 hmem
    rw [List.map_eq_nil_iff.1 hempty] at hrun
    exact hruns.filled hne hrun
  · exact fun target source p hp => oneLine_of_mem hp

/-- a slot that comes back, a comment that looks like a separator, and a file whose name looks like the head of a table;
and a document whose names have no newline -/
theorem table_grouped_by_slot_again :
    let p : Parameter := ⟨0, "Gain", .float, "Unknown", []⟩
    let q : Parameter := ⟨0, "Time", .float, "a | b", "|---|---|---|---|---|---|"⟩
    let r : Parameter := ⟨1, "CameraX", .float, "Unknown", "\r"⟩
    let file : Text := "a\n" ++ Report.columnRule ++ "\nb"
    let groups (parameters : List Parameter) (file : Text) :=
      (Report.tableOf (Report.text parameters file "B")).splitOn Report.separator
    (∀ x ∈ [p, q, r, p], x.OneLine) ∧
      groups [p, q, r, p] file = [[Report.row p, Report.row q], [Report.row r], [Report.row p]] ∧
      (groups [p, q, r, p] file).flatten = [Report.row p, Report.row q, Report.row r, Report.row p] ∧
      (∃ runs, Report.SlotRuns [p, q, r, p] runs ∧ groups [p, q, r, p] file = runs.map (List.map Report.row)) ∧
      (splitOn '\n' (Report.text [p, q, r, p] "a" "B")).count Report.columnRule = 1 := by
  intro p q r file groups
  have hone : ∀ x ∈ [p, q, r, p], x.OneLine := by
    simp only [List.forall_mem_cons]
    exact ⟨⟨by decide, by decide, by decide⟩, ⟨by decide, by decide, by decide⟩, ⟨by decide, by decide, by decide⟩,
      ⟨by decide, by decide, by decide⟩, by simp⟩
  have hgroups : groups [p, q, r, p] file = [[Report.row p, Report.row q], [Report.row r], [Report.row p]] := by
    change List.splitOn _ (Report.tableOf _) = _
    rw [Report.tableOf_text hone]
    decide +kernel
  obtain ⟨hruns, hflatten, -, -, -⟩ := table_grouped_by_slot [p, q, r, p] file "B" hone
  obtain ⟨-, -, -, hcount, -⟩ := table_grouped_by_slot [p, q, r, p] "a" "B" hone
  exact ⟨hone, hgroups, hflatten, hruns, hcount (by decide) (by decide)⟩

end GlslInspect
