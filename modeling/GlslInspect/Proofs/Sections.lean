/-
The sections of parameters, in closed form.

A scan carries the label of the section along from line to line: a line with a divider takes the label of the comment
behind it, and every other line leaves the label as it is. A line is judged together with the one behind it in the text,
so the label counts on the line of the divider already, before the comment itself is read.
What comes of that at a line is said by the lines up to it alone (`InSection`): the label that the last of them
announces, if one does. One line more changes both in the same way (`InSection.concat`), so each parameter of a block
stands in the section of the lines up to its own (`Scan.exists_feedAll_sections`). In front of the block nothing is
announced, whatever the lines look like (`Scan.exists_feedAll_start_sections`).
Main result: `parameters_and_sections`.
-/
import GlslInspect.Proofs.Slots

namespace GlslInspect

open Text

/-! ## Sections -/

/-- a line announces a section: it has a divider, and the line behind it is a comment whose text can be a label -/
structure Announces (line : Text) (next : Option Text) (label : Text) : Prop where
  divided : divider <:+: line
  comment : ∃ below, next = some below ∧ "//".toList <+: trim below ∧ label = trim ((trim below).dropWhile (· = '/'))
  ne_nil : label ≠ []
  plain : '═' ∉ label

theorem sectionLabel?_eq_some_iff {line label : Text} {next : Option Text} :
    sectionLabel? line next = some label ↔ Announces line next label := by
  unfold sectionLabel?
  constructor
  · intro h
    split_ifs at h with hdivider
    obtain ⟨below, hbelow, hlabel⟩ := Option.bind_eq_some_iff.1 h
    obtain ⟨hcomment, htext, hne, hplain⟩ := labelOf?_eq_some_iff.1 hlabel
    exact ⟨occursIn_iff_isInfix.1 hdivider, ⟨below, hbelow, hcomment, htext⟩, hne, hplain⟩
  · rintro ⟨hdivided, ⟨below, rfl, hcomment, htext⟩, hne, hplain⟩
    rw [if_pos (occursIn_iff_isInfix.2 hdivided)]
    exact labelOf?_eq_some_iff.2 ⟨hcomment, htext, hne, hplain⟩

/-- the section behind some lines, each with the one behind it: what the last line that announces one announces, and
unknown where none does -/
inductive InSection (calls : List (Text × Option Text)) (label : Text) : Prop where
  | announced {before after : List (Text × Option Text)} {line : Text} {next : Option Text}
      (split : calls = before ++ (line, next) :: after) (announces : Announces line next label)
      (last : ∀ call ∈ after, ∀ other, ¬ Announces call.1 call.2 other)
  | unknown (label_eq : label = unknownSection) (none : ∀ call ∈ calls, ∀ other, ¬ Announces call.1 call.2 other)

theorem InSection.concat {calls : List (Text × Option Text)} {label : Text} (h : InSection calls label) (line : Text)
    (next : Option Text) : InSection (calls ++ [(line, next)]) ((sectionLabel? line next).getD label) := by
  cases hsection : sectionLabel? line next with
  | some new => exact .announced rfl (sectionLabel?_eq_some_iff.1 hsection) (by simp)
  | none =>
    have hsilent : ∀ other, ¬ Announces line next other := by
      intro other hannounces
      rw [sectionLabel?_eq_some_iff.2 hannounces] at hsection
      cases hsection
    cases h with
    | @announced before after first below split announces last =>
      have hsplit : calls ++ [(line, next)] = before ++ (first, below) :: (after ++ [(line, next)]) := by
        rw [split, List.append_assoc, List.cons_append]
      refine .announced hsplit announces fun call hcall => ?_
      rcases List.mem_append.1 hcall with hcall | hcall
      · exact last call hcall
      · rw [List.mem_singleton.1 hcall]
        exact hsilent
    | unknown label_eq none =>
      refine .unknown label_eq fun call hcall => ?_
      rcases List.mem_append.1 hcall with hcall | hcall
      · exact none call hcall
      · rw [List.mem_singleton.1 hcall]
        exact hsilent

/-- the declarations on lines, each with the lines up to its own -/
def reachedFrom (before : List (Text × Option Text)) :
    List (Text × Option Text) → List (Declaration × List (Text × Option Text))
  | [] => []
  | call :: rest =>
    ((declaration? (trim call.1)).map fun d => (d, before ++ [call])).toList ++ reachedFrom (before ++ [call]) rest

/-- the declarations of a block, each with the lines of the block up to its own -/
def reachedDeclarations (calls : List (Text × Option Text)) : List (Declaration × List (Text × Option Text)) :=
  reachedFrom [] calls

/-- a parameter is what is declared, in the section of the lines up to its declaration -/
def Parameter.StandsIn (p : Parameter) (reached : Declaration × List (Text × Option Text)) : Prop :=
  p.ComesFrom reached.1 ∧ InSection reached.2 p.sectionLabel

namespace Scan

variable {target : Option Text} {s : Scan}

/-- the lines that are read in a block, each with the one behind it -/
def readCalls (calls : List (Text × Option Text)) : List (Text × Option Text) :=
  calls.takeWhile fun call => !startsWithBrace call.1

/-- the lines of the wanted block, each with the one behind it -/
def blockCalls (target : Option Text) (calls : List (Text × Option Text)) : List (Text × Option Text) :=
  readCalls ((calls.dropWhile fun call => (entered? target (trim call.1)).isNone).drop 1)

theorem feedAll_of_done (hs : s.phase = .done) (calls : List (Text × Option Text)) : s.feedAll target calls = s := by
  induction calls with
  | nil => rfl
  | cons call calls ih =>
    change (s.feed target call.1 call.2).feedAll target calls = s
    rw [feed_of_done hs, ih]

/-- inside a block, the parameters are what is declared, each in the section of the lines up to its own -/
theorem exists_feedAll_sections (target : Option Text) (hs : s.phase = .inBlock)
    {before : List (Text × Option Text)} (hsection : InSection before s.sectionLabel)
    (calls : List (Text × Option Text)) :
    ∃ found, (s.feedAll target calls).parameters = s.parameters ++ found ∧
      List.Forall₂ Parameter.StandsIn found (reachedFrom before (readCalls calls)) := by
  induction calls generalizing s before with
  | nil => exact ⟨[], (List.append_nil _).symm, .nil⟩
  | cons call rest ih =>
    obtain ⟨line, next⟩ := call
    change ∃ found, ((s.feed target line next).feedAll target rest).parameters = s.parameters ++ found ∧ _
    cases hline : startsWithBrace line with
    | true =>
      have hnone : readCalls ((line, next) :: rest) = [] := List.takeWhile_cons_of_neg (by simp [hline])
      rw [feed_of_brace target hs hline, feedAll_of_done rfl, hnone]
      exact ⟨[], (List.append_nil _).symm, .nil⟩
    | false =>
      have hread : readCalls ((line, next) :: rest) = (line, next) :: readCalls rest :=
        List.takeWhile_cons_of_pos (by simp [hline])
      have hnow : InSection (before ++ [(line, next)]) (s.feed target line next).sectionLabel := by
        rw [sectionLabel_feed_inBlock target hs hline]
        exact hsection.concat line next
      obtain ⟨found, hfound, hall⟩ := ih (phase_feed_inBlock target hs hline next) hnow
      rw [parameters_feed_inBlock target hs hline, List.append_assoc] at hfound
      refine ⟨_, hfound, ?_⟩
      rw [sectionLabel_feed_inBlock target hs hline] at hnow
      rw [hread, reachedFrom]
      cases declaration? (trim line) with
      | none => exact hall
      | some d => exact .cons ⟨d.comesFrom_parameter _ _, hnow⟩ hall

theorem exists_feedAll_start_sections (target : Option Text) (calls : List (Text × Option Text)) :
    List.Forall₂ Parameter.StandsIn (start.feedAll target calls).parameters
      (reachedDeclarations (blockCalls target calls)) := by
  induction calls with
  | nil => exact .nil
  | cons call rest ih =>
    change List.Forall₂ _ ((start.feed target call.1 call.2).feedAll target rest).parameters _
    cases hentered : entered? target (trim call.1) with
    | none =>
      have hpassed : blockCalls target (call :: rest) = blockCalls target rest := by
        unfold blockCalls
        rw [List.dropWhile_cons_of_pos (by simp [hentered])]
      rw [feed_start_of_passed hentered, hpassed]
      exact ih
    | some name =>
      have hblock : blockCalls target (call :: rest) = readCalls rest := by
        unfold blockCalls
        rw [List.dropWhile_cons_of_neg (by simp [hentered])]
        rfl
      have hunknown : InSection [] (entering name).sectionLabel := .unknown rfl (by simp)
      obtain ⟨found, hfound, hall⟩ := exists_feedAll_sections target (s := entering name) rfl hunknown rest
      rw [feed_start_of_entered hentered, hblock]
      change List.Forall₂ _ ((entering name).feedAll target rest).parameters _
      rw [hfound]
      exact hall

end Scan

/-- **Sections in closed form.** For every text and every wanted block: one parameter is found for each line of the
block that declares one, in order, and its section is the one that the last line of the block up to its own announces.
A line announces a section if it has a divider and the line behind it in the text is a comment whose text, without the
slashes in front and the blanks around it, is not empty and has no mark of a divider; that text is the label. If no line
does, the section is unknown. -/
theorem parameters_and_sections (target : Option Text) (source : Text) :
    List.Forall₂ (fun p reached => p.ComesFrom reached.1 ∧ InSection reached.2 p.sectionLabel)
      (classify target source).parameters
      (reachedDeclarations (Scan.blockCalls target (Scan.successors (scanLines source)))) := by
  have hsections := Scan.exists_feedAll_start_sections target (Scan.successors (scanLines source))
  rw [← Scan.run_eq_feedAll] at hsections
  exact hsections

-- a divider on the line of a declaration, one below a label, and one in front of the end
example :
    (classify none ("layout(std140) uniform B \x7b\nfloat a;\nfloat b; // ═══\n// Camera\n// ═══\nfloat c;\n// ═══\n" ++
      "\x7d // Light\nfloat d;\n")).parameters.map Parameter.sectionLabel = ["Unknown", "Camera", "Camera"] := by
  decide +kernel

end GlslInspect
