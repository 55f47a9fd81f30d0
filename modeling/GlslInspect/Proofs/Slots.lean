/-
The slots of parameters, in closed form.

A scan carries the slot along from line to line: a comment sets it, if its digits can be read, and each matrix moves it
on, up to the largest number of 64 bits. What comes of that at a line is said by the lines in front of it alone
(`slotBehind`): the last slot that was annotated, and four more for each matrix since. One line more changes both in the
same way (`slotBehind_concat`, `slotBehind_concat_annotated`, `Scan.slot_feed`), so the parameters of a block are its
declarations at those slots (`Scan.exists_run_slots`).
What a scan finds depends on the block's name and its lines and on nothing else: the line that ends the block is read
for a label like the line behind any other, but it is none (`sectionLabel?_readLines`), and in front of the header
nothing is kept (`Scan.result_run_start`).
Main result: `parameters_and_slots`.
-/
import Mathlib.Data.List.DropRight
import GlslInspect.Proofs.AnnotatedBlock
import GlslInspect.Proofs.OuterIncludes

namespace GlslInspect

open Text Pattern

/-! ## Slots -/

def declaresMatrix (line : Text) : Bool := (declaration? (trim line)).any fun d => d.type = .mat4

/-- the slot behind some lines: the last that was annotated, none for the first, and four more for each matrix declared
since, up to the largest number -/
def slotBehind (before : List Text) : ℕ :=
  min ((before.filterMap annotatedSlot?).getLast?.getD 0 +
    4 * (before.rtakeWhile fun line => (annotatedSlot? line).isNone).countP declaresMatrix) (2 ^ 64 - 1)

/-- the declarations on lines, each with the slot behind the lines in front of it -/
def placedFrom (before : List Text) : List Text → List (Declaration × ℕ)
  | [] => []
  | line :: rest =>
    ((declaration? (trim line)).map fun d => (d, slotBehind before)).toList ++ placedFrom (before ++ [line]) rest

def placedDeclarations (block : List Text) : List (Declaration × ℕ) := placedFrom [] block

theorem maxWord_eq : maxWord = 2 ^ 64 - 1 := by decide

theorem le_of_annotatedSlot? {line : Text} {slot : ℕ} (h : annotatedSlot? line = some slot) : slot ≤ 2 ^ 64 - 1 := by
  obtain ⟨digits, -, hread⟩ := Option.bind_eq_some_iff.1 h
  cases hword : readWord digits with
  | error fault =>
    rw [hword] at hread
    cases hread
  | ok n =>
    rw [hword] at hread
    cases hread
    obtain ⟨-, -, -, -, -, hless⟩ := readWord_eq_ok_iff.1 hword
    exact Nat.le_pred_of_lt hless

theorem slotBehind_le (before : List Text) : slotBehind before ≤ 2 ^ 64 - 1 := Nat.min_le_right _ _

theorem slotBehind_concat_annotated {line : Text} {slot : ℕ} (h : annotatedSlot? line = some slot)
    (before : List Text) : slotBehind (before ++ [line]) = slot := by
  have hlast : ((before ++ [line]).filterMap annotatedSlot?).getLast? = some slot := by simp [h]
  have hsince : (before ++ [line]).rtakeWhile (fun line => (annotatedSlot? line).isNone) = [] := by
    rw [List.rtakeWhile_concat_neg]
    simp [h]
  unfold slotBehind
  rw [hlast, hsince]
  exact Nat.min_eq_left (le_of_annotatedSlot? h)

theorem slotBehind_concat {line : Text} (h : annotatedSlot? line = none) (before : List Text) :
    slotBehind (before ++ [line]) = min (slotBehind before + if declaresMatrix line then 4 else 0) (2 ^ 64 - 1) := by
  have hlast : (before ++ [line]).filterMap annotatedSlot? = before.filterMap annotatedSlot? := by simp [h]
  have hsince : (before ++ [line]).rtakeWhile (fun line => (annotatedSlot? line).isNone) =
      before.rtakeWhile (fun line => (annotatedSlot? line).isNone) ++ [line] := by
    rw [List.rtakeWhile_concat_pos]
    simp [h]
  unfold slotBehind
  rw [hlast, hsince, List.countP_append, List.countP_singleton]
  split_ifs <;> omega

/-! ## Lines that set a slot -/

theorem declaration?_of_slotDigits? {stripped digits : Text} (h : slotDigits? stripped = some digits) :
    declaration? stripped = none := by
  have hslashes : ∃ rest, stripped = "//" ++ rest := by
    rcases Option.or_eq_some_iff.1 h with hvector | ⟨-, hmatrix⟩
    · simp only [vectorSlot?, Option.bind_eq_bind, Option.bind_eq_some_iff, after?_eq_some_iff] at hvector
      obtain ⟨rest, hrest, -⟩ := hvector
      exact ⟨rest, hrest⟩
    · simp only [matrixSlot?, Option.bind_eq_bind, Option.bind_eq_some_iff, after?_eq_some_iff] at hmatrix
      obtain ⟨rest, hrest, -⟩ := hmatrix
      exact ⟨rest, hrest⟩
  obtain ⟨rest, rfl⟩ := hslashes
  rfl

theorem annotatedSlot?_of_declaration? {line : Text} {d : Declaration} (h : declaration? (trim line) = some d) :
    annotatedSlot? line = none := by
  unfold annotatedSlot?
  cases hdigits : slotDigits? (trim line) with
  | none => rfl
  | some digits =>
    rw [declaration?_of_slotDigits? hdigits] at h
    cases h

namespace Scan

variable {target : Option Text} {s : Scan}

/-- a line that does not end the block carries the slot on as the lines in front of it say -/
theorem slot_feed (hs : s.phase = .inBlock) {before : List Text} (hslot : s.slot = slotBehind before) {line : Text}
    (hline : startsWithBrace line = false) (next : Option Text) :
    (s.feed target line next).slot = slotBehind (before ++ [line]) := by
  rw [feed_inBlock target hs hline]
  cases hdeclared : declaration? (trim line) with
  | none =>
    have hother : declaresMatrix line = false := by simp [declaresMatrix, hdeclared]
    change (annotatedSlot? line).getD s.slot = _
    cases hannotated : annotatedSlot? line with
    | none =>
      rw [slotBehind_concat hannotated, hother, hslot]
      exact (Nat.min_eq_left (slotBehind_le before)).symm
    | some slot => rw [slotBehind_concat_annotated hannotated]; rfl
  | some d =>
    have hannotated := annotatedSlot?_of_declaration? hdeclared
    have hmatrix : declaresMatrix line = decide (d.type = .mat4) := by simp [declaresMatrix, hdeclared]
    rw [declare_some, slotBehind_concat hannotated, hmatrix, hannotated, ← maxWord_eq]
    dsimp only [Option.getD_none]
    rw [hslot]
    by_cases htype : d.type = .mat4
    · simp [htype, matrixSlots]
    · simpa [htype, maxWord_eq] using slotBehind_le before

/-- what a line adds is what it declares, at the slot behind the lines in front of it -/
theorem parameters_feed (target : Option Text) (hs : s.phase = .inBlock) {before : List Text}
    (hslot : s.slot = slotBehind before) {line : Text} (hline : startsWithBrace line = false) (next : Option Text) :
    ∃ label, (s.feed target line next).parameters =
      s.parameters ++ ((declaration? (trim line)).map fun d => d.parameter (slotBehind before) label).toList := by
  refine ⟨(sectionLabel? line next).getD s.sectionLabel, ?_⟩
  rw [parameters_feed_inBlock target hs hline]
  cases hdeclared : declaration? (trim line) with
  | none => rfl
  | some d => rw [annotatedSlot?_of_declaration? hdeclared, Option.getD_none, hslot]

theorem phase_feed_inBlock (target : Option Text) (hs : s.phase = .inBlock) {line : Text}
    (hline : startsWithBrace line = false) (next : Option Text) : (s.feed target line next).phase = .inBlock := by
  rw [feed_inBlock target hs hline, phase_declare]
  exact hs

/-- the parameters of lines that do not end the block are what they declare, at the slots that they say -/
theorem exists_run_slots (target : Option Text) (hs : s.phase = .inBlock) {before : List Text}
    (hslot : s.slot = slotBehind before) {lines : List Text} (hlines : ∀ line ∈ lines, startsWithBrace line = false) :
    ∃ found, (s.run target lines).parameters = s.parameters ++ found ∧
      List.Forall₂ (fun p placed => p.ComesFrom placed.1 ∧ p.slot = placed.2) found (placedFrom before lines) := by
  induction lines generalizing s before with
  | nil => exact ⟨[], (List.append_nil _).symm, .nil⟩
  | cons line rest ih =>
    have hline := hlines line List.mem_cons_self
    obtain ⟨found, hfound, hall⟩ := ih (phase_feed_inBlock target hs hline rest.head?)
      (slot_feed hs hslot hline rest.head?) fun other hother => hlines other (List.mem_cons_of_mem line hother)
    obtain ⟨label, hfirst⟩ := parameters_feed target hs hslot hline rest.head?
    refine ⟨((declaration? (trim line)).map fun d => d.parameter (slotBehind before) label).toList ++ found, ?_, ?_⟩
    · rw [run, hfound, hfirst, List.append_assoc]
    · rw [placedFrom]
      cases declaration? (trim line) with
      | none => exact hall
      | some d => exact .cons ⟨d.comesFrom_parameter _ _, rfl⟩ hall

end Scan

/-! ## What a scan depends on -/

theorem sectionLabel?_of_brace {next : Text} (h : startsWithBrace next = true) (line : Text) :
    sectionLabel? line (some next) = sectionLabel? line none := by
  unfold sectionLabel?
  rw [Option.bind_some, labelOf?_of_brace h]
  rfl

/-- the line that ends a block is no label, so it does not matter whether it is there -/
theorem sectionLabel?_readLines (line : Text) (rest : List Text) :
    sectionLabel? line (readLines rest).head? = sectionLabel? line rest.head? := by
  cases rest with
  | nil => rfl
  | cons next rest =>
    cases hnext : startsWithBrace next with
    | true =>
      rw [readLines_cons_of_brace hnext]
      exact (sectionLabel?_of_brace hnext line).symm
    | false => rw [readLines_cons hnext]; rfl

theorem startsWithBrace_of_mem_readLines {lines : List Text} {line : Text} (h : line ∈ readLines lines) :
    startsWithBrace line = false := by
  simpa using List.mem_takeWhile_imp h

namespace Scan

variable {target : Option Text} {s : Scan}

/-- inside a block, what comes of a scan comes of the lines that are read -/
theorem result_run_readLines (hs : s.phase = .inBlock) (lines : List Text) :
    (s.run target lines).result = (s.run target (readLines lines)).result := by
  induction lines generalizing s with
  | nil => rfl
  | cons line rest ih =>
    cases hline : startsWithBrace line with
    | true =>
      have hrun : s.run target (line :: rest) = { s with phase := .done } := by
        rw [run, feed_of_brace target hs hline, run_of_done rfl]
      rw [readLines_cons_of_brace hline, hrun]
      rfl
    | false =>
      have hfeed : s.feed target line (readLines rest).head? = s.feed target line rest.head? := by
        rw [feed_inBlock target hs hline, feed_inBlock target hs hline, sectionLabel?_readLines]
      rw [readLines_cons hline, run, run, hfeed]
      exact ih (phase_feed_inBlock target hs hline rest.head?)

/-- the name of the wanted block, if there is one -/
def foundName? (target : Option Text) (lines : List Text) : Option Text :=
  lines.findSome? fun line => entered? target (trim line)

/-- the scan behind the header of a block -/
def entering (name : Text) : Scan := { start with phase := .inBlock, blockName := some name }

/-- what comes of a scan comes of the name of the wanted block and of its lines -/
theorem result_run_start (target : Option Text) (lines : List Text) :
    (start.run target lines).result = (foundName? target lines).elim ⟨none, []⟩ fun name =>
      ((entering name).run target (blockLines target lines)).result := by
  induction lines with
  | nil => rfl
  | cons line rest ih =>
    unfold foundName? at ih ⊢
    rw [run, List.findSome?_cons]
    cases hentered : entered? target (trim line) with
    | none => rw [feed_start_of_passed hentered, ih, blockLines_cons_of_quiet hentered]
    | some name =>
      rw [feed_start_of_entered hentered, blockLines_cons_of_entered hentered]
      exact result_run_readLines (s := entering name) rfl rest

theorem blockLines_of_none {lines : List Text} (h : foundName? target lines = none) : blockLines target lines = [] := by
  have hdrop : lines.dropWhile (fun line => (entered? target (trim line)).isNone) = [] := by
    rw [List.dropWhile_eq_nil_iff]
    intro line hline
    rw [List.findSome?_eq_none_iff.1 h line hline]
    rfl
  rw [blockLines, hdrop]
  rfl

theorem name_result_run_start (target : Option Text) (lines : List Text) :
    (start.run target lines).result.name = foundName? target lines := by
  rw [result_run_start]
  cases foundName? target lines with
  | none => rfl
  | some name => exact (run_inBlock target rfl _).1

end Scan

/-- **Parameters and slots in closed form.** For every text and every wanted block: one parameter is found for each line
of the block that declares one, in order, and its slot is that of the last annotation in front of it whose digits can be
read (or zero), and four more for each matrix declared since, up to the largest number of 64 bits. What stands in front
of the header and behind the end of the block counts for nothing: every text with a wanted block of the same name and
with the same lines in it is classified alike. -/
theorem parameters_and_slots (target : Option Text) (source : Text) :
    List.Forall₂ (fun p placed => p.ComesFrom placed.1 ∧ p.slot = placed.2) (classify target source).parameters
      (placedDeclarations (Scan.blockLines target (scanLines source))) ∧
    ∀ other, (classify target other).name = (classify target source).name →
      Scan.blockLines target (scanLines other) = Scan.blockLines target (scanLines source) →
      classify target other = classify target source := by
  refine ⟨?_, fun other hname hlines => ?_⟩
  · have hresult := Scan.result_run_start target (scanLines source)
    rw [classify, hresult]
    cases hfound : Scan.foundName? target (scanLines source) with
    | none =>
      rw [Scan.blockLines_of_none hfound]
      exact .nil
    | some name =>
      have hread : ∀ line ∈ Scan.blockLines target (scanLines source), startsWithBrace line = false :=
        fun line hline => startsWithBrace_of_mem_readLines hline
      have hslot : (Scan.entering name).slot = slotBehind [] := rfl
      obtain ⟨found, hparameters, hall⟩ := Scan.exists_run_slots target (s := Scan.entering name) rfl hslot hread
      change List.Forall₂ _ (Scan.parameters _) _
      rw [hparameters]
      exact hall
  · unfold classify at hname ⊢
    rw [Scan.name_result_run_start, Scan.name_result_run_start] at hname
    rw [Scan.result_run_start, Scan.result_run_start, hname, hlines]

/-- slots next to the largest number, digits that cannot be read, declarations of every type, and a block behind another
one, which the target refuses, and elsewhere in another text -/
theorem parameters_and_slots_largest :
    let target : Option Text := some "B".toList
    let block : Text :=
      "// vec4 18446744073709551611:\nmat4 a;\nmat4 b;\n// vec4 ٣:\nvec2 c;\n// mat4 (vec4 7-10):\nmat4 d;\nfloat e;\n" ++
        "vec3 f;\n// vec4 12:\nvec4 g;\nmat4 h;\nvec3 i;\n"
    let source : Text :=
      "layout(std140) uniform A \x7b\nmat4 z;\n\x7d;\nlayout(std140) uniform B \x7b\n" ++ (block ++ "\x7d;\nmat4 z;\n")
    let other : Text := "layout(std140)uniform b\x7b\n layout(std140)uniform B\x7b mat4 z;\n" ++ (block ++ " \x7d mat4 z;")
    (classify target source).parameters.map (fun p => (p.name, p.slot)) =
        [(['a'], 2 ^ 64 - 5), (['b'], 2 ^ 64 - 1), (['c'], 2 ^ 64 - 1), (['d'], 7), (['e'], 11), (['f'], 11),
          (['g'], 12), (['h'], 12), (['i'], 16)] ∧
      List.Forall₂ (fun p placed => p.ComesFrom placed.1 ∧ p.slot = placed.2) (classify target source).parameters
        (placedDeclarations (Scan.blockLines target (scanLines source))) ∧
      classify target other = classify target source := by
  intro target block source other
  obtain ⟨hslots, hother⟩ := parameters_and_slots target source
  exact ⟨by decide +kernel, hslots, hother other (by decide +kernel) (by decide +kernel)⟩

end GlslInspect
