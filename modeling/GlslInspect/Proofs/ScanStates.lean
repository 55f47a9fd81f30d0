/-
The states of a scan.

What one line can do to a scan is said once (`Scan.Step`): nothing, find the wanted block, leave it, or, inside the
block, set the section and the slot and maybe add one parameter. Every line does one of these, whatever is said to come
after it (`step_feed`). So what holds of a fresh scan and is kept in each of these ways holds after any lines (`Sound`,
`Step.sound`, `sound_feedAll`), and a name that was found is kept (`Step.blockName`, `blockName_feedAll`).
No line changes a scan that is done, so it makes no difference whether the lines behind the block are read
(`runUntilDone_eq_run`).
Main result: `scan_states`.
-/
import GlslInspect.Proofs.BlockLines

namespace GlslInspect

open Text

/-! ## Labels and parameters -/

theorem Text.head?_trim (t : Text) : ∀ c ∈ (trim t).head?, isBlank c = false := by
  intro c hc
  -- it begins as the text does behind its first blanks
  obtain ⟨rest, hrest⟩ := dropEndWhile_isPrefix isBlank (trimStart t)
  have hhead : (trimStart t).head? = some c := by
    rw [← hrest, List.head?_append, show (dropEndWhile isBlank (trimStart t)).head? = some c from hc]
    rfl
  have hstop := List.head?_dropWhile_not isBlank t
  rw [show (t.dropWhile isBlank).head? = some c from hhead] at hstop
  simpa using hstop

theorem Text.getLast?_trim (t : Text) : ∀ c ∈ (trim t).getLast?, isBlank c = false := by
  intro c hc
  have hlast : ((trimStart t).reverse.dropWhile isBlank).head? = some c := by
    rw [← List.getLast?_reverse]
    exact hc
  have hstop := List.head?_dropWhile_not isBlank (trimStart t).reverse
  rw [hlast] at hstop
  simpa using hstop

theorem Text.trim_trim (t : Text) : trim (trim t) = trim t := trim_of_ends (head?_trim t) (getLast?_trim t)

/-- a text that can label a section: it is not empty, has no blanks at its ends, and no mark of a divider -/
structure IsLabel (label : Text) : Prop where
  ne_nil : label ≠ []
  trimmed : trim label = label
  plain : '═' ∉ label

theorem isLabel_unknownSection : IsLabel unknownSection := ⟨by decide, by decide +kernel, by decide⟩

/-- the label that a comment line gives is what stands behind its slashes, if that can be one -/
theorem labelOf?_eq_some_iff {stripped label : Text} :
    labelOf? stripped = some label ↔ "//".toList <+: stripped ∧ label = trim (stripped.dropWhile (· = '/')) ∧
      label ≠ [] ∧ '═' ∉ label := by
  rw [← startsWith_iff_isPrefix]
  unfold labelOf?
  dsimp only
  split_ifs with hcomment hbad
  · simp only [Bool.or_eq_true, List.isEmpty_iff, List.contains_iff_mem] at hbad
    constructor
    · intro h
      cases h
    · rintro ⟨-, rfl, hne, hplain⟩
      exact absurd hbad (not_or.2 ⟨hne, hplain⟩)
  · simp only [Bool.or_eq_true, List.isEmpty_iff, List.contains_iff_mem, not_or] at hbad
    constructor
    · rintro ⟨⟩
      exact ⟨hcomment, rfl, hbad⟩
    · rintro ⟨-, rfl, -⟩
      rfl
  · constructor
    · intro h
      cases h
    · exact fun h => absurd h.1 hcomment

theorem isLabel_of_labelOf? {stripped label : Text} (h : labelOf? stripped = some label) : IsLabel label := by
  obtain ⟨-, rfl, hne, hplain⟩ := labelOf?_eq_some_iff.1 h
  exact ⟨hne, trim_trim _, hplain⟩

theorem isLabel_of_sectionLabel? {line label : Text} {next : Option Text} (h : sectionLabel? line next = some label) :
    IsLabel label := by
  unfold sectionLabel? at h
  split_ifs at h with hdivider
  obtain ⟨after, -, hlabel⟩ := Option.bind_eq_some_iff.1 h
  exact isLabel_of_labelOf? hlabel

/-- a parameter as a scan makes it: its name is a word, its section has a label, and the comment of a matrix says how
many slots it fills -/
structure Parameter.Proper (p : Parameter) : Prop where
  name_ne_nil : p.name ≠ []
  name_word : ∀ c ∈ p.name, isWord c = true
  labelled : IsLabel p.sectionLabel
  matrix : p.type = .mat4 → "(4 slots) ".toList <+: p.comment

/-- what comes from the declaration on a line is proper, if its section is -/
theorem Parameter.ComesFrom.proper {p : Parameter} {d : Declaration} {stripped : Text} (h : p.ComesFrom d)
    (hd : declaration? stripped = some d) (hlabel : IsLabel p.sectionLabel) : p.Proper := by
  obtain ⟨hname, htype, hcomment⟩ := h
  obtain ⟨s, -, rfl⟩ := declaration?_eq_some_iff.1 hd
  refine ⟨?_, ?_, hlabel, fun hmatrix => ?_⟩
  · rw [hname]
    exact s.name.ne_nil
  · rw [hname]
    exact s.name.letters
  · rw [hcomment, if_pos (htype ▸ hmatrix)]
    exact List.prefix_append _ _

namespace Scan

variable {target : Option Text} {s next : Scan}

/-! ## What a line can do -/

/-- what one line can do to a scan that looks for a wanted block -/
inductive Step (target : Option Text) (s : Scan) : Scan → Prop where
  /-- nothing happens -/
  | idle : Step target s s
  /-- the wanted block is found -/
  | found {name : Text} (searching : s.phase = .searching) (wanted : wanted target name = true) :
    Step target s { s with phase := .inBlock, blockName := some name }
  /-- the block is left -/
  | left (inside : s.phase = .inBlock) : Step target s { s with phase := .done }
  /-- inside the block, the section and the slot may be set -/
  | set {label : Text} {slot : ℕ} (inside : s.phase = .inBlock) (labelled : IsLabel s.sectionLabel → IsLabel label) :
    Step target s { s with sectionLabel := label, slot := slot }
  /-- and one parameter of that section may be added -/
  | declared {label : Text} {slot : ℕ} {p : Parameter} (inside : s.phase = .inBlock)
      (labelled : IsLabel s.sectionLabel → IsLabel label) (proper : IsLabel s.sectionLabel → p.Proper) :
    Step target s { s with sectionLabel := label, slot := slot, latest := p :: s.latest }

/-- every line does one of these things, whatever is said to come after it -/
theorem step_feed (target : Option Text) (s : Scan) (line : Text) (after : Option Text) :
    Step target s (s.feed target line after) := by
  cases hphase : s.phase with
  | done =>
    rw [feed_of_done hphase]
    exact .idle
  | searching =>
    unfold feed
    rw [hphase]
    dsimp only
    cases hentered : entered? target (trim line) with
    | none => exact .idle
    | some name => exact .found hphase (Option.filter_eq_some_iff.1 hentered).2
  | inBlock =>
    cases hbrace : startsWithBrace line with
    | true =>
      rw [feed_of_brace target hphase hbrace]
      exact .left hphase
    | false =>
      obtain ⟨label, slot, hfeed, hfrom⟩ := exists_feed_inBlock target hphase hbrace after
      have hlabel : IsLabel s.sectionLabel → IsLabel label := by
        rcases hfrom with rfl | hnew
        · exact id
        · exact fun _ => isLabel_of_sectionLabel? hnew
      rw [hfeed]
      cases hdeclared : declaration? (trim line) with
      | none => exact .set hphase hlabel
      | some d =>
        obtain ⟨slot', p, hadded, hp, hsame⟩ := exists_declare_some { s with sectionLabel := label, slot := slot } d
        rw [hadded]
        exact .declared hphase hlabel fun h => hp.proper hdeclared (hsame ▸ hlabel h)

namespace Step

theorem blockName (h : Step target s next) (hs : s.phase ≠ .searching) : next.blockName = s.blockName := by
  cases h with
  | found hsearching _ => exact absurd hsearching hs
  | _ => rfl

/-- the parameters stay as they are, or one is added behind them -/
theorem parameters (h : Step target s next) :
    next.parameters = s.parameters ∨ ∃ p, next.parameters = s.parameters ++ [p] := by
  cases h with
  | @declared _ _ p => exact Or.inr ⟨p, List.reverse_cons ..⟩
  | _ => exact Or.inl rfl

end Step

/-! ## What holds of every scan -/

/-- a scan as it can be: it has a name as soon as a block is found, and that is a wanted one; until then it is as it was
at the start; and its section and its parameters are proper -/
structure Sound (target : Option Text) (s : Scan) : Prop where
  named : s.blockName = none ↔ s.phase = .searching
  fresh : s.phase = .searching → s = start
  wanted : ∀ name ∈ s.blockName, wanted target name = true
  labelled : IsLabel s.sectionLabel
  proper : ∀ p ∈ s.latest, p.Proper

theorem sound_start (target : Option Text) : Sound target start :=
  ⟨by decide, fun _ => rfl, by simp [start], isLabel_unknownSection, by simp [start]⟩

theorem Step.sound (h : Step target s next) (hs : Sound target s) : Sound target next := by
  cases h with
  | idle => exact hs
  | @found name hsearching hwanted =>
    refine { hs with named := by simp, fresh := by simp, wanted := ?_ }
    intro other hother
    cases hother
    exact hwanted
  | left hinside =>
    have hnamed : s.blockName ≠ none := fun hnone => by simp [hs.named.1 hnone] at hinside
    exact { hs with named := by simp [hnamed], fresh := by simp }
  | set hinside hlabel =>
    exact { hs with fresh := by simp [hinside], labelled := hlabel hs.labelled }
  | declared hinside hlabel hproper =>
    refine { hs with fresh := by simp [hinside], labelled := hlabel hs.labelled, proper := ?_ }
    intro p hp
    rcases List.mem_cons.1 hp with rfl | hp
    · exact hproper hs.labelled
    · exact hs.proper p hp

/-- a scan after some lines, each with what is said to come after it -/
def feedAll (target : Option Text) (s : Scan) (calls : List (Text × Option Text)) : Scan :=
  calls.foldl (fun s call => s.feed target call.1 call.2) s

theorem sound_feedAll (calls : List (Text × Option Text)) (hs : Sound target s) :
    Sound target (s.feedAll target calls) := by
  induction calls generalizing s with
  | nil => exact hs
  | cons call calls ih => exact ih ((step_feed target s call.1 call.2).sound hs)

theorem blockName_feedAll {name : Text} (calls : List (Text × Option Text)) (hs : Sound target s)
    (hname : s.blockName = some name) : (s.feedAll target calls).blockName = some name := by
  induction calls generalizing s with
  | nil => exact hname
  | cons call calls ih =>
    have hstep := step_feed target s call.1 call.2
    have hfound : s.phase ≠ .searching := fun hsearching => by simp [hs.named.2 hsearching] at hname
    exact ih (hstep.sound hs) ((hstep.blockName hfound).trans hname)

/-! ## Scans of whole texts -/

/-- lines, each with the one after it -/
def successors : List Text → List (Text × Option Text)
  | [] => []
  | line :: rest => (line, rest.head?) :: successors rest

theorem run_eq_feedAll (lines : List Text) (s : Scan) :
    s.run target lines = s.feedAll target (successors lines) := by
  induction lines generalizing s with
  | nil => rfl
  | cons line rest ih => exact ih _

theorem proper_of_mem {source : Text} {p : Parameter} (hp : p ∈ (classify target source).parameters) : p.Proper := by
  have hsound := sound_feedAll (successors (scanLines source)) (sound_start target)
  rw [← run_eq_feedAll] at hsound
  exact hsound.proper p (List.mem_reverse.1 hp)

/-- the scan of lines up to the one that ends the block -/
def runUntilDone (target : Option Text) (s : Scan) : List Text → Scan
  | [] => s
  | line :: rest =>
    let next := s.feed target line rest.head?
    if next.isDone then next else runUntilDone target next rest

theorem runUntilDone_eq_run (lines : List Text) (s : Scan) : s.runUntilDone target lines = s.run target lines := by
  induction lines generalizing s with
  | nil => rfl
  | cons line rest ih =>
    rw [runUntilDone, run]
    split_ifs with hdone
    · exact (run_of_done (of_decide_eq_true hdone) rest).symm
    · exact ih _

end Scan

/-- **The states of a scan.** After any lines, each with anything for the line after it:
there is a name exactly if the search is over; while it lasts, there are no parameters, the slot is zero and the section
unknown; a name that is found is the wanted one and is kept for good;
one line more leaves the parameters as they are or adds one; the section has a label, and so has that of each parameter,
whose name is a word; the comment of a matrix begins with its slots; and a scan that is done stays as it is.
So to classify a text it is enough to read it up to the end of the block, and the same comes of reading all its
lines. -/
theorem scan_states (target : Option Text) (calls : List (Text × Option Text)) :
    let s := Scan.start.feedAll target calls
    (s.blockName = none ↔ s.phase = .searching) ∧
    (s.phase = .searching → s.parameters = [] ∧ s.slot = 0 ∧ s.sectionLabel = unknownSection) ∧
    (∀ name, s.blockName = some name → (∀ wanted, target = some wanted → name = wanted) ∧
      ∀ more, (s.feedAll target more).blockName = some name) ∧
    (∀ line next, (s.feed target line next).parameters = s.parameters ∨
      ∃ p, (s.feed target line next).parameters = s.parameters ++ [p]) ∧
    IsLabel s.sectionLabel ∧
    (∀ p ∈ s.parameters, IsLabel p.sectionLabel ∧ p.name ≠ [] ∧ (∀ c ∈ p.name, isWord c = true) ∧
      (p.type = .mat4 → "(4 slots) ".toList <+: p.comment)) ∧
    (s.phase = .done → ∀ line next, s.feed target line next = s) ∧
    ∀ source, classify target source = (Scan.start.runUntilDone target (scanLines source)).result ∧
      classify target source = (Scan.start.feedAll target (Scan.successors (scanLines source))).result := by
  intro s
  have hsound : Scan.Sound target s := Scan.sound_feedAll calls (Scan.sound_start target)
  refine ⟨hsound.named, fun hsearching => ?_, fun name hname => ⟨fun wanted htarget => ?_, fun more => ?_⟩,
    fun line next => (Scan.step_feed target s line next).parameters, hsound.labelled, fun p hp => ?_,
    fun hdone line next => Scan.feed_of_done hdone line next, fun source => ⟨?_, ?_⟩⟩
  · rw [hsound.fresh hsearching]
    exact ⟨rfl, rfl, rfl⟩
  · have hwanted := hsound.wanted name hname
    subst htarget
    simpa [Scan.wanted, eq_comm] using hwanted
  · exact Scan.blockName_feedAll more hsound hname
  · have hproper := hsound.proper p (List.mem_reverse.1 hp)
    exact ⟨hproper.labelled, hproper.name_ne_nil, hproper.name_word, hproper.matrix⟩
  · rw [Scan.runUntilDone_eq_run]
    rfl
  · rw [← Scan.run_eq_feedAll]
    rfl

end GlslInspect
