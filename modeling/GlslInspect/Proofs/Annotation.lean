/-
A log, annotated with windows of the source.

Each line of the log becomes one entry with its own text (`Text.isLines_lines` says what the lines of a text are). An
entry gets a window exactly if it names a line of the source (`NamesLine`): behind its first mark of an error, the
second field between colons is a number of 64 bits, and the source has so many lines (`errorLineNumber?_eq_some_iff`,
`LogEntry.isSome_context_iff`). The window then shows the lines from two in front of the one that is named to one behind
it, as far as there are such lines, and marks that one (`ContextWindow.surrounds_of_around?`).
The numbers of the first and of the last line are found in arithmetic of 64 bits, too (`wordBounds?_eq`): the line is
compared with the number of lines before anything is added to it.
Main result: `annotation_is_exact`.
-/
import Mathlib.Algebra.Group.Nat.Defs
import GlslInspect.Proofs.LogLine
import GlslInspect.Proofs.Pieces

namespace GlslInspect

/-! ## Lines of a log -/

namespace Text

/-- the lines of a text, without their ends: a newline, with a carriage return in front of it or not, ends a line, and
the last line may have no end -/
inductive IsLines : Text → List Text → Prop where
  | nil : IsLines [] []
  | last {line : Text} (ne_nil : line ≠ []) (newline : '\n' ∉ line) : IsLines line [line]
  | newline {line rest : Text} {lines : List Text} (newline : '\n' ∉ line) (plain : line.getLast? ≠ some '\r')
      (more : IsLines rest lines) : IsLines (line ++ '\n' :: rest) (line :: lines)
  | returned {line rest : Text} {lines : List Text} (newline : '\n' ∉ line) (more : IsLines rest lines) :
    IsLines (line ++ '\r' :: '\n' :: rest) (line :: lines)

theorem dropLineEnding_returned (line : Text) : dropLineEnding (line ++ ['\r', '\n']) = line := by
  simp [dropLineEnding]

theorem dropLineEnding_newline {line : Text} (h : line.getLast? ≠ some '\r') :
    dropLineEnding (line ++ ['\n']) = line := by
  unfold dropLineEnding
  split
  · rename_i rest heq
    have hline : line = rest.reverse ++ ['\r'] := by simpa using heq
    exact absurd (by simp [hline]) h
  · rename_i rest _ heq
    have hrest : line.reverse = rest := by simpa using heq
    rw [← hrest, List.reverse_reverse]
  · rename_i _ hnot
    exact absurd (by simp) (hnot line.reverse)

theorem dropLineEnding_last {line : Text} (h : '\n' ∉ line) : dropLineEnding line = line := by
  have hreverse : ∀ rest, line.reverse ≠ '\n' :: rest := by
    intro rest heq
    exact h (List.mem_reverse.1 (heq ▸ List.mem_cons_self))
  unfold dropLineEnding
  split
  · rename_i heq
    exact absurd heq (hreverse _)
  · rename_i heq
    exact absurd heq (hreverse _)
  · rfl

theorem IsLine.isLines_append {piece rest : Text} {lines : List Text} (h : IsLine piece) (hrest : IsLines rest lines) :
    IsLines (piece ++ rest) (dropLineEnding piece :: lines) := by
  obtain ⟨body, hbody, rfl⟩ := h
  by_cases hreturn : body.getLast? = some '\r'
  · obtain ⟨line, rfl⟩ := List.getLast?_eq_some_iff.1 hreturn
    have hline : '\n' ∉ line := fun hmem => hbody (List.mem_append_left _ hmem)
    have hends : line ++ ['\r'] ++ ['\n'] = line ++ ['\r', '\n'] := by simp
    rw [hends, dropLineEnding_returned, List.append_assoc]
    exact .returned hline hrest
  · rw [dropLineEnding_newline hreturn, List.append_assoc]
    exact .newline hbody hreturn hrest

theorem isLines_flatten {pieces : List Text} (h : WellCut pieces) :
    IsLines pieces.flatten (pieces.map dropLineEnding) := by
  induction pieces with
  | nil => exact .nil
  | cons piece rest ih =>
    have hpiece : IsPiece piece := h.head
    have hrest := ih h.tail
    by_cases hend : piece.getLast? = some '\n'
    · exact (hpiece.isLine hend).isLines_append hrest
    · -- only the last piece lacks its newline
      cases rest with
      | nil =>
        obtain ⟨body, hbody, heq⟩ := hpiece.isLine_append hend
        have hplain : '\n' ∉ piece := (List.append_cancel_right heq) ▸ hbody
        rw [List.flatten_singleton, List.map_singleton, dropLineEnding_last hplain]
        exact .last hpiece.1 hplain
      | cons next rest => exact absurd h.1.getLast? hend

theorem isLines_lines (t : Text) : IsLines t (lines t) := by
  have hlines := isLines_flatten (wellCut_pieces t)
  rwa [flatten_pieces] at hlines

/-! ## Fields -/

def IsSecondField (t field : Text) : Prop :=
  ∃ first rest, t = first ++ ':' :: (field ++ rest) ∧ ':' ∉ first ∧ ':' ∉ field ∧ ∀ c ∈ rest.head?, c = ':'

/-- the first part of a text goes on up to its first separator -/
theorem head?_splitOn_eq_some_iff {sep : Char} {t part : Text} :
    (splitOn sep t).head? = some part ↔ ∃ rest, t = part ++ rest ∧ sep ∉ part ∧ ∀ c ∈ rest.head?, c = sep := by
  constructor
  · intro h
    by_cases hsep : sep ∈ t
    · obtain ⟨first, rest, rfl, hfirst⟩ := List.eq_append_cons_of_mem hsep
      rw [splitOn_append_cons rest hfirst] at h
      cases h
      exact ⟨sep :: rest, rfl, hfirst, by simp⟩
    · rw [splitOn_of_not_mem hsep] at h
      cases h
      exact ⟨[], (List.append_nil _).symm, hsep, by simp⟩
  · rintro ⟨rest, rfl, hpart, hrest⟩
    cases rest with
    | nil => rw [List.append_nil, splitOn_of_not_mem hpart]; rfl
    | cons c rest =>
      obtain rfl : c = sep := hrest c rfl
      rw [splitOn_append_cons rest hpart]
      rfl

theorem getElem?_splitOn_eq_some_iff {t field : Text} : (splitOn ':' t)[1]? = some field ↔ IsSecondField t field := by
  constructor
  · intro h
    by_cases hcolon : ':' ∈ t
    · obtain ⟨first, rest, rfl, hfirst⟩ := List.eq_append_cons_of_mem hcolon
      rw [splitOn_append_cons rest hfirst, List.getElem?_cons_succ, ← List.head?_eq_getElem?] at h
      obtain ⟨behind, rfl, hfield, hbehind⟩ := head?_splitOn_eq_some_iff.1 h
      exact ⟨first, behind, rfl, hfirst, hfield, hbehind⟩
    · rw [splitOn_of_not_mem hcolon] at h
      cases h
  · rintro ⟨first, rest, rfl, hfirst, hfield, hrest⟩
    rw [splitOn_append_cons _ hfirst, List.getElem?_cons_succ, ← List.head?_eq_getElem?]
    exact head?_splitOn_eq_some_iff.2 ⟨rest, rfl, hfield, hrest⟩

end Text

/-- a line of the log names a line of the source: the second field behind its first mark of an error, without blanks
around it, writes the number -/
def NamesLine (line : Text) (n : ℕ) : Prop :=
  ∃ before behind field, line = before ++ errorMark ++ behind ∧
    (∀ earlier later, line = earlier ++ errorMark ++ later → before.length ≤ earlier.length) ∧
    Text.IsSecondField behind field ∧ (Text.trim field).Writes n

theorem errorLineNumber?_eq_some_iff {line : Text} {n : ℕ} : errorLineNumber? line = some n ↔ NamesLine line n := by
  have hread : ∀ field : Text, (readWord field).toOption = some n ↔ field.Writes n := by
    intro field
    rw [← readWord_eq_ok_iff]
    cases readWord field with
    | error fault => simp [Except.toOption]
    | ok m => simp [Except.toOption]
  unfold errorLineNumber?
  simp only [Option.bind_eq_bind, Option.bind_eq_some_iff, Text.afterFirst?_eq_some_iff,
    Text.getElem?_splitOn_eq_some_iff, hread]
  constructor
  · rintro ⟨behind, ⟨before, hline, hfirst⟩, field, hfield, hwrites⟩
    exact ⟨before, behind, field, hline, hfirst, hfield, hwrites⟩
  · rintro ⟨before, behind, field, hline, hfirst, hfield, hwrites⟩
    exact ⟨behind, ⟨before, hline, hfirst⟩, field, hfield, hwrites⟩

theorem NamesLine.severity {line : Text} {n : ℕ} (h : NamesLine line n) : Severity.ofLine line = .error := by
  obtain ⟨before, behind, -, hline, -⟩ := h
  have hmark : errorMark <:+: line := ⟨before, behind, hline.symm⟩
  unfold Severity.ofLine
  rw [if_pos (Text.occursIn_iff_isInfix.2 hmark)]

/-! ## Windows -/

namespace ContextWindow

variable {source : Source} {n : ℕ} {window : ContextWindow}

/-- a window shows the lines of a source around one of them: those from two in front of it to one behind it, as far as
they exist, and marks that one and no other -/
structure Surrounds (source : Source) (n : ℕ) (window : ContextWindow) : Prop where
  line : window.line = n
  numbers : window.lines.map ContextLine.number =
    List.range' (max 1 (n - 2)) (min (n + 1) source.lineCount + 1 - max 1 (n - 2))
  texts : ∀ line ∈ window.lines, source.lineText? line.number = some line.text
  target : ∃ text, window.lines.filter ContextLine.isTarget = [⟨n, text, true⟩]

theorem exists_lineText?_of_mem (hfirst : 1 ≤ n) (hlast : n ≤ source.lineCount) {number : ℕ}
    (h : number ∈ numbers (first n) (last source.lineCount n)) : ∃ text, source.lineText? number = some text := by
  unfold numbers first last linesBefore linesAfter at h
  rw [List.mem_range'_1] at h
  exact exists_lineText? (by omega) (by omega)

theorem surrounds_of_around? (h : around? source n = some window) : Surrounds source n window := by
  obtain ⟨hfirst, hlast⟩ := isSome_around?.1 (Option.isSome_of_eq_some h)
  obtain ⟨text, -, htarget⟩ := target_of_around? h
  unfold around? at h
  split at h
  · cases h
  · cases h
    refine ⟨rfl, ?_, fun line hline => ?_, text, htarget⟩
    · -- no number is left out
      have hall : ∀ number ∈ numbers (first n) (last source.lineCount n),
          ((source.lineText? number).map fun text => (⟨number, text, number = n⟩ : ContextLine)).map
            ContextLine.number = some number := by
        intro number hnumber
        obtain ⟨text, htext⟩ := exists_lineText?_of_mem hfirst hlast hnumber
        rw [htext]
        rfl
      rw [List.map_filterMap, List.filterMap_congr hall, List.filterMap_some]
      rfl
    · obtain ⟨number, -, hshown⟩ := List.mem_filterMap.1 hline
      obtain ⟨text, htext, rfl⟩ := Option.map_eq_some_iff.1 hshown
      exact htext

/-! ### Numbers of 64 bits -/

theorem toNat_wordFirst (line : UInt64) : (wordFirst line).toNat = first line.toNat := by
  have hstart : (if line < 2 then 0 else line - 2).toNat = line.toNat - 2 := by
    split_ifs with hline
    · have htwo : line.toNat < 2 := UInt64.lt_iff_toNat_lt.1 hline
      rw [UInt64.toNat_zero]
      omega
    · exact UInt64.toNat_sub_of_le line 2 (UInt64.not_lt.1 hline)
  unfold wordFirst first linesBefore
  dsimp only
  generalize (if line < 2 then 0 else line - 2) = start at hstart ⊢
  simp only [UInt64.lt_iff_toNat_lt, UInt64.toNat_one]
  split_ifs with hone
  · rw [UInt64.toNat_one]
    omega
  · omega

/-- the line behind one of a source is still a number of 64 bits, so nothing wraps around -/
theorem toNat_wordLast (count line : UInt64) (hline : line.toNat ≤ count.toNat) (hcount : count.toNat < 2 ^ 64 - 1) :
    (wordLast count line).toNat = last count.toNat line.toNat := by
  have hnext : (line + 1).toNat = line.toNat + 1 := by
    rw [UInt64.toNat_add, UInt64.toNat_one]
    omega
  unfold wordLast last linesAfter
  simp only [UInt64.lt_iff_toNat_lt, hnext]
  split_ifs with hbehind
  · rw [hnext]
    omega
  · omega

/-- the bounds of a window are the same in 64 bits, where a source has fewer lines than the largest number -/
theorem wordBounds?_eq (hcount : source.lineCount < 2 ^ 64 - 1) (hn : n < 2 ^ 64) :
    (wordBounds? (UInt64.ofNat source.lineCount) (UInt64.ofNat n)).map (fun bounds =>
      (bounds.1.toNat, bounds.2.toNat)) =
        (around? source n).map fun _ => (first n, last source.lineCount n) := by
  have hline : (UInt64.ofNat n).toNat = n := UInt64.toNat_ofNat_of_lt' hn
  have hlines : (UInt64.ofNat source.lineCount).toNat = source.lineCount :=
    UInt64.toNat_ofNat_of_lt' (Nat.lt_of_lt_of_le hcount (by decide))
  have hguard : UInt64.ofNat n = 0 ∨ UInt64.ofNat source.lineCount < UInt64.ofNat n ↔
      n = 0 ∨ source.lineCount < n := by
    rw [← UInt64.toNat_inj, UInt64.toNat_zero, UInt64.lt_iff_toNat_lt, hline, hlines]
  unfold wordBounds? around?
  simp only [hguard]
  split_ifs with hnone
  · rfl
  · rw [Option.map_some, Option.map_some, toNat_wordFirst, toNat_wordLast _ _ (by omega) (by omega), hline, hlines]

end ContextWindow

/-! ## Entries -/

namespace LogEntry

/-- the window of an entry is that around the line which its text names -/
theorem context_eq_some_iff {source : Source} {line : Text} {window : ContextWindow} :
    (ofLine source line).context = some window ↔
      ∃ n, NamesLine line n ∧ ContextWindow.around? source n = some window := by
  unfold ofLine
  constructor
  · intro h
    dsimp only at h
    split at h
    · obtain ⟨n, hn, haround⟩ := Option.bind_eq_some_iff.1 h
      exact ⟨n, errorLineNumber?_eq_some_iff.1 hn, haround⟩
    · cases h
  · rintro ⟨n, hn, haround⟩
    dsimp only
    rw [hn.severity]
    exact Option.bind_eq_some_iff.2 ⟨n, errorLineNumber?_eq_some_iff.2 hn, haround⟩

/-- an entry has a window exactly if its text names a line that the source has -/
theorem isSome_context_iff {source : Source} {line : Text} :
    (ofLine source line).context.isSome = true ↔ ∃ n, NamesLine line n ∧ 1 ≤ n ∧ n ≤ source.lineCount := by
  rw [Option.isSome_iff_exists]
  simp only [context_eq_some_iff, ← ContextWindow.isSome_around?, Option.isSome_iff_exists]
  constructor
  · rintro ⟨window, n, hn, haround⟩
    exact ⟨n, hn, window, haround⟩
  · rintro ⟨n, hn, window, haround⟩
    exact ⟨window, n, hn, haround⟩

end LogEntry

/-- **An annotated log is the log, and its windows are exact.** The texts of the entries are the lines of the log. An
entry has a window exactly if its text names a line that the source has, and the window surrounds the line that is
named. A source in memory has fewer lines than the largest number of 64 bits; then the bounds of the window around any
such number come out the same in arithmetic of 64 bits. -/
theorem annotation_is_exact (source : Source) (log : Text) :
    Text.IsLines log ((Diagnosis.ofLog source log).map LogEntry.text) ∧
    (∀ entry ∈ Diagnosis.ofLog source log,
      (entry.context.isSome = true ↔ ∃ n, NamesLine entry.text n ∧ 1 ≤ n ∧ n ≤ source.lineCount) ∧
      ∀ window ∈ entry.context, NamesLine entry.text window.line ∧ window.Surrounds source window.line) ∧
    (source.lineCount < 2 ^ 64 - 1 → ∀ n < 2 ^ 64,
      (ContextWindow.wordBounds? (UInt64.ofNat source.lineCount) (UInt64.ofNat n)).map (fun bounds =>
        (bounds.1.toNat, bounds.2.toNat)) =
          (ContextWindow.around? source n).map fun _ =>
            (ContextWindow.first n, ContextWindow.last source.lineCount n)) := by
  refine ⟨?_, fun entry hentry => ?_, fun hcount n hn => ContextWindow.wordBounds?_eq hcount hn⟩
  · unfold Diagnosis.ofLog
    rw [List.map_map]
    exact (List.map_id _).symm ▸ Text.isLines_lines log
  · obtain ⟨line, -, rfl⟩ := List.mem_map.1 hentry
    refine ⟨LogEntry.isSome_context_iff, fun window hwindow => ?_⟩
    obtain ⟨n, hn, haround⟩ := LogEntry.context_eq_some_iff.1 hwindow
    have hsurrounds := ContextWindow.surrounds_of_around? haround
    rw [hsurrounds.line]
    exact ⟨hn, hsurrounds⟩

/-- a log that names the last line of a source, one behind it and the largest number, with both ends of lines -/
theorem annotation_is_exact_last_line :
    let source : Source := [.code "float x;\n", .includeStart "lib.glsl", .code "float y\n", .includeEnd "lib.glsl"]
    let log : Text := "ERROR: 0: +4 : ERROR:0:1\r\nERROR: 0:5: behind\nERROR: 0:18446744073709551615"
    let entries := Diagnosis.ofLog source log
    Text.IsLines log ["ERROR: 0: +4 : ERROR:0:1", "ERROR: 0:5: behind", "ERROR: 0:18446744073709551615"] ∧
    (∃ window, entries.map LogEntry.context = [some window, none, none] ∧ window.Surrounds source 4) ∧
    ContextWindow.wordBounds? 4 18446744073709551615 = none := by
  intro source log entries
  obtain ⟨hlines, hentries, hwords⟩ := annotation_is_exact source log
  have htexts : entries.map LogEntry.text =
      (["ERROR: 0: +4 : ERROR:0:1", "ERROR: 0:5: behind", "ERROR: 0:18446744073709551615"] : List Text) := by
    decide +kernel
  have hcontexts : entries.map LogEntry.context =
      [some ⟨4, [⟨2, "// >>> INCLUDE START: lib.glsl", false⟩, ⟨3, "float y", false⟩,
        ⟨4, "// <<< INCLUDE END: lib.glsl", true⟩]⟩, none, none] := by decide +kernel
  refine ⟨htexts ▸ hlines, ⟨_, hcontexts, ?_⟩, Option.map_eq_none_iff.1 (hwords (by decide) _ (by decide))⟩
  have hmem : some _ ∈ entries.map LogEntry.context := hcontexts ▸ List.mem_cons_self
  obtain ⟨entry, hentry, hwindow⟩ := List.mem_map.1 hmem
  exact ((hentries entry hentry).2 _ hwindow).2

end GlslInspect
