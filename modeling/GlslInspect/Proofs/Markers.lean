/-
Include markers and the classification of a block.

Markers are comment lines, and classification reads comments. What a marker can do there is limited: it begins no block
and ends none, gives no slot and declares nothing (`inert_of_marker`). Only the search for sections looks beyond a line,
and without sections a scan is a scan that cannot see the next line (`Scan.unlabelled_run`), so with and without markers
the same block is found with the same parameters, their sections apart (`Scan.foldl_feed_code`). A section can change
where a marker stands directly behind a divider and is taken for its label, or where the path in a marker is taken for
a divider; nowhere else (`Scan.run_code`).
Main result: `classify_without_markers`, and `classify_sees_markers` for what it cannot say.
-/
import Mathlib.Data.List.TakeWhile
import GlslInspect.Block.Scan
import GlslInspect.Proofs.Alignment
import GlslInspect.Proofs.Text
import GlslInspect.Proofs.Visit

namespace GlslInspect

open Text

/-! ## Lines of a text and lines of its source -/

/-- a line without its newline -/
def Line.body (line : Line) : Text := line.text.takeWhile (· != '\n')

def Source.code (source : Source) : Source := source.filter fun line => !line.isMarker

theorem Line.text_eq_body {line : Line} (h : IsLine line.text) :
    line.text = line.body ++ ['\n'] ∧ '\n' ∉ line.body := by
  obtain ⟨body, hbody, htext⟩ := h
  have hsame : line.body = body := by
    unfold Line.body
    rw [htext, List.takeWhile_append_of_pos]
    · simp
    · intro c hc
      simpa using fun heq : c = '\n' => hbody (heq ▸ hc)
  rw [hsame]
  exact ⟨htext, hbody⟩

theorem Line.body_of_not_mem {line : Line} (h : '\n' ∉ line.text) : line.body = line.text := by
  unfold Line.body
  refine List.takeWhile_eq_self_iff.2 fun c hc => ?_
  simpa using fun heq : c = '\n' => h (heq ▸ hc)

theorem Source.scanLines_cons {line : Line} (h : IsLine line.text) (rest : Source) :
    scanLines (Source.text (line :: rest)) = line.body :: scanLines rest.text := by
  obtain ⟨htext, hbody⟩ := Line.text_eq_body h
  unfold scanLines Source.text
  rw [List.flatMap_cons, htext, List.append_assoc, List.singleton_append, splitOn_append_cons _ hbody]

theorem Source.code_cons_of_marker {line : Line} (h : line.isMarker = true) (rest : Source) :
    code (line :: rest) = code rest :=
  List.filter_cons_of_neg (by simp [h])

theorem Source.code_cons_of_code {line : Line} (h : line.isMarker = false) (rest : Source) :
    code (line :: rest) = line :: code rest :=
  List.filter_cons_of_pos (by simp [h])

/-- the lines that are scanned are those of the source, and whatever ends the text; the same ends the text of the code
alone, because markers end in a newline -/
theorem Source.exists_scanLines {source : Source} (h : WellCut (source.map Line.text)) :
    ∃ ending, scanLines source.text = source.map Line.body ++ ending ∧
      scanLines source.code.text = source.code.map Line.body ++ ending := by
  induction source with
  | nil => exact ⟨[[]], rfl, rfl⟩
  | cons line rest ih =>
    by_cases hline : IsLine line.text
    · obtain ⟨ending, hall, hcode⟩ := ih h.tail
      refine ⟨ending, by rw [scanLines_cons hline, hall]; rfl, ?_⟩
      cases hmarker : line.isMarker with
      | true => rw [code_cons_of_marker hmarker, hcode]
      | false =>
        rw [code_cons_of_code hmarker, scanLines_cons hline, hcode]
        rfl
    · -- only the last line can lack its newline, and it is no marker then
      have hrest : rest = [] := by
        cases rest with
        | nil => rfl
        | cons next rest => exact absurd h.1 hline
      subst hrest
      have hpiece : IsPiece line.text := h
      have hmarker : line.isMarker = false := by
        cases hm : line.isMarker with
        | true => exact absurd (Line.isLine_of_marker hm hpiece) hline
        | false => rfl
      have hplain : '\n' ∉ line.text := by
        obtain ⟨body, hbody, hclosed⟩ := hpiece.isLine_append fun hend => hline (hpiece.isLine hend)
        rwa [← List.append_cancel_right hclosed] at hbody
      have hlast : scanLines (Source.text [line]) = [line.body] := by
        unfold scanLines Source.text
        rw [Line.body_of_not_mem hplain, List.flatMap_singleton, splitOn_of_not_mem hplain]
      have hkeep : code [line] = [line] := code_cons_of_code hmarker []
      exact ⟨[], by rw [hlast]; rfl, by rw [hkeep, hlast]; rfl⟩

/-! ## Markers are inert -/

/-- a marker is a comment with another beginning than a slot comment -/
theorem Line.exists_trim_of_marker {line : Line} (h : line.isMarker = true) :
    ∃ c rest, (c = '>' ∨ c = '<' ∨ c = 'S' ∨ c = 'E') ∧ trim line.text = '/' :: '/' :: ' ' :: c :: rest := by
  have hmark : ∀ c t, isBlank c = false →
      trim ('/' :: ('/' :: [' '] ++ c :: t)) = '/' :: '/' :: ' ' :: c :: dropEndWhile isBlank t :=
    fun c t hc => trim_cons_append_cons (by decide) hc ['/', ' '] t
  cases line with
  | code text => cases h
  | includeStart path => exact ⟨'>', _, by simp, hmark _ _ (by decide)⟩
  | includeEnd path => exact ⟨'<', _, by simp, hmark _ _ (by decide)⟩
  | circular path => exact ⟨'S', _, by simp, hmark _ _ (by decide)⟩
  | missing path => exact ⟨'E', _, by simp, hmark _ _ (by decide)⟩
  | depthLimit path limit => exact ⟨'S', _, by simp, hmark _ _ (by decide)⟩

/-- a text that begins no block and ends none, gives no slot and declares nothing -/
structure Inert (stripped : Text) : Prop where
  header : blockHeader? stripped = none
  brace : startsWith "\x7d" stripped = false
  slot : slotDigits? stripped = none
  declaration : declaration? stripped = none

theorem inert_of_marker {line : Line} (h : line.isMarker = true) : Inert (trim line.text) := by
  obtain ⟨c, rest, hc, htrim⟩ := Line.exists_trim_of_marker h
  rw [htrim]
  refine ⟨rfl, rfl, ?_, rfl⟩
  rcases hc with rfl | rfl | rfl | rfl <;> rfl

theorem inert_body {line : Line} (h : line.isMarker = true) (hline : IsLine line.text) : Inert (trim line.body) := by
  have htrim : trim line.text = trim line.body := by
    rw [(Line.text_eq_body hline).1]
    exact trim_append_blank _ (by simp [isBlank])
  rw [← htrim]
  exact inert_of_marker h

namespace Scan

variable {target : Option Text}

theorem feed_of_inert {line : Text} (h : Inert (trim line)) {next : Option Text}
    (hsection : sectionLabel? line next = none) (s : Scan) : s.feed target line next = s := by
  unfold feed
  cases hphase : s.phase with
  | done => rfl
  | searching => simp [entered?, h.header]
  | inBlock =>
    dsimp only
    rw [h.brace, hsection, h.slot, h.declaration]
    rfl

end Scan

/-! ## Classification without sections -/

def Parameter.unlabelled (p : Parameter) : Parameter := { p with sectionLabel := [] }

def ClassifiedBlock.unlabelled (block : ClassifiedBlock) : ClassifiedBlock :=
  { block with parameters := block.parameters.map Parameter.unlabelled }

namespace Scan

variable {target : Option Text}

/-- the state of a scan without labels -/
def unlabelled (s : Scan) : Scan := { s with sectionLabel := [], latest := s.latest.map Parameter.unlabelled }

@[simp] theorem unlabelled_setSection (s : Scan) (label : Option Text) :
    (s.setSection label).unlabelled = s.unlabelled := by
  cases label <;> rfl

@[simp] theorem unlabelled_setSlot (s : Scan) (digits : Option Text) :
    (s.setSlot digits).unlabelled = s.unlabelled.setSlot digits := by
  cases digits with
  | none => rfl
  | some digits =>
    dsimp only [setSlot]
    cases readWord digits <;> rfl

@[simp] theorem unlabelled_declare (s : Scan) (declared : Option Declaration) :
    (s.declare declared).unlabelled = s.unlabelled.declare declared := by
  cases declared with
  | none => rfl
  | some d =>
    dsimp only [declare]
    split <;> rfl

theorem sectionLabel?_none (line : Text) : sectionLabel? line none = none := by
  unfold sectionLabel?
  split <;> rfl

/-- labels apart, a step is the step that cannot see the next line -/
theorem unlabelled_feed (s : Scan) (line : Text) (next : Option Text) :
    (s.feed target line next).unlabelled = s.unlabelled.feed target line none := by
  have hphase : s.unlabelled.phase = s.phase := rfl
  unfold feed
  rw [hphase]
  cases s.phase with
  | done => rfl
  | searching =>
    cases hentered : entered? target (trim line) with
    | none => simp [hentered]
    | some name => simp [hentered, unlabelled]
  | inBlock =>
    dsimp only
    split
    · rfl
    · rw [unlabelled_declare, unlabelled_setSlot, unlabelled_setSection, sectionLabel?_none]
      rfl

theorem unlabelled_run (s : Scan) (lines : List Text) :
    (s.run target lines).unlabelled = lines.foldl (fun s line => s.feed target line none) s.unlabelled := by
  induction lines generalizing s with
  | nil => rfl
  | cons line rest ih => rw [run, ih, unlabelled_feed, List.foldl_cons]

theorem unlabelled_result (s : Scan) : s.result.unlabelled = s.unlabelled.result := by
  simp [result, ClassifiedBlock.unlabelled, unlabelled, parameters]

/-- markers can be left out of a scan that cannot see the next line -/
theorem foldl_feed_code {source : Source} (hlines : ∀ line ∈ source, line.isMarker = true → IsLine line.text)
    (s : Scan) :
    (source.map Line.body).foldl (fun s line => s.feed target line none) s =
      (source.code.map Line.body).foldl (fun s line => s.feed target line none) s := by
  induction source generalizing s with
  | nil => rfl
  | cons line rest ih =>
    have hrest := ih fun l hl => hlines l (List.mem_cons_of_mem line hl)
    rw [List.map_cons, List.foldl_cons]
    cases hmarker : line.isMarker with
    | true =>
      have hinert := inert_body hmarker (hlines line List.mem_cons_self hmarker)
      rw [feed_of_inert hinert (sectionLabel?_none _), Source.code_cons_of_marker hmarker]
      exact hrest s
    | false =>
      rw [Source.code_cons_of_code hmarker, List.map_cons, List.foldl_cons]
      exact hrest _

end Scan

/-! ## Sections -/

/-- where a scan is after one more line -/
def Phase.next (target : Option Text) (phase : Phase) (line : Text) : Phase :=
  match phase with
  | .searching => if (Scan.entered? target (trim line)).isSome then .inBlock else .searching
  | .inBlock => if startsWith "\x7d" (trim line) then .done else .inBlock
  | .done => .done

/-- inside the block, no marker has a divider and none stands directly behind a line with one -/
def Phase.Undisturbed (target : Option Text) : Phase → Source → Prop
  | _, [] => True
  | phase, line :: rest =>
    (phase = .inBlock → phase.next target line.body = .inBlock → occursIn divider line.body = true →
      line.isMarker = false ∧ ∀ after ∈ rest.head?, after.isMarker = false) ∧
    Undisturbed target (phase.next target line.body) rest

instance Phase.decidableUndisturbed (target : Option Text) :
    (phase : Phase) → (source : Source) → Decidable (phase.Undisturbed target source)
  | _, [] => inferInstanceAs (Decidable True)
  | phase, line :: rest =>
    have := decidableUndisturbed target (phase.next target line.body) rest
    inferInstanceAs (Decidable (_ ∧ _))

namespace Scan

variable {target : Option Text}

theorem phase_setSection (s : Scan) (label : Option Text) : (s.setSection label).phase = s.phase := by
  cases label <;> rfl

theorem phase_setSlot (s : Scan) (digits : Option Text) : (s.setSlot digits).phase = s.phase := by
  cases digits with
  | none => rfl
  | some digits =>
    dsimp only [setSlot]
    cases readWord digits <;> rfl

theorem phase_declare (s : Scan) (declared : Option Declaration) : (s.declare declared).phase = s.phase := by
  cases declared with
  | none => rfl
  | some d =>
    dsimp only [declare]
    split <;> rfl

theorem phase_feed (s : Scan) (line : Text) (next : Option Text) :
    (s.feed target line next).phase = s.phase.next target line := by
  unfold feed Phase.next
  cases hphase : s.phase with
  | done => exact hphase
  | searching =>
    dsimp only
    cases entered? target (trim line) with
    | none => exact hphase
    | some name => rfl
  | inBlock =>
    dsimp only
    split
    · rfl
    · rw [phase_declare, phase_setSlot, phase_setSection, hphase]

/-- the next line matters only for the section that begins inside the block -/
theorem feed_congr {s : Scan} {line : Text} {next other : Option Text}
    (h : s.phase = .inBlock → s.phase.next target line = .inBlock →
      sectionLabel? line next = sectionLabel? line other) :
    s.feed target line next = s.feed target line other := by
  unfold feed
  cases hphase : s.phase with
  | done => rfl
  | searching => rfl
  | inBlock =>
    dsimp only
    split
    · rfl
    · rename_i hopen
      rw [h hphase (by rw [hphase, Phase.next, if_neg hopen])]

theorem run_code {source : Source} (hlines : ∀ line ∈ source, line.isMarker = true → IsLine line.text)
    (ending : List Text) (s : Scan) (h : s.phase.Undisturbed target source) :
    s.run target (source.map Line.body ++ ending) = s.run target (source.code.map Line.body ++ ending) := by
  induction source generalizing s with
  | nil => rfl
  | cons line rest ih =>
    obtain ⟨hhere, hthere⟩ := h
    have hlater := ih fun l hl => hlines l (List.mem_cons_of_mem line hl)
    have hsection : ∀ next, occursIn divider line.body = false → sectionLabel? line.body next = none := by
      intro next hplain
      unfold sectionLabel?
      rw [hplain]
      rfl
    rw [List.map_cons, List.cons_append, run]
    cases hmarker : line.isMarker with
    | true =>
      have hinert := inert_body hmarker (hlines line List.mem_cons_self hmarker)
      have hsame : ∀ next, s.feed target line.body next = s := by
        intro next
        rw [feed_congr fun hin hnext => ?_, feed_of_inert hinert (sectionLabel?_none _)]
        have hplain : occursIn divider line.body = false := by
          refine Bool.eq_false_iff.2 fun hdivider => ?_
          rw [(hhere hin hnext hdivider).1] at hmarker
          cases hmarker
        rw [hsection next hplain, hsection none hplain]
      rw [hsame, Source.code_cons_of_marker hmarker]
      refine hlater s ?_
      rwa [← phase_feed s line.body none, hsame] at hthere
    | false =>
      rw [Source.code_cons_of_code hmarker, List.map_cons, List.cons_append, run]
      have hnext : s.feed target line.body (rest.map Line.body ++ ending).head? =
          s.feed target line.body ((Source.code rest).map Line.body ++ ending).head? := by
        refine feed_congr fun hin hnext => ?_
        cases hdivider : occursIn divider line.body with
        | false => rw [hsection _ hdivider, hsection _ hdivider]
        | true =>
          -- behind a divider the next line is code too, so it is the same one
          cases rest with
          | nil => rfl
          | cons after rest =>
            have hafter : after.isMarker = false := (hhere hin hnext hdivider).2 after rfl
            rw [Source.code_cons_of_code hafter]
            rfl
      rw [hnext]
      refine hlater _ ?_
      rwa [phase_feed]

end Scan

/-! ## Flattened sources -/

/-- a file of a catalog that can be opened, or is named without newline, is flattened to lines -/
theorem Catalog.wellCut_flatten (catalog : Catalog) (limit : Option ℕ) (context root : Text)
    (hroot : '\n' ∉ root ∨ ∃ file, catalog.library.enter limit [] ⟨root, context⟩ = .ok file) :
    WellCut ((catalog.library.flatten limit context root).source.map Line.text) := by
  rcases hroot with hpath | ⟨file, hopened⟩
  · have hanswers : catalog.library.provider.Answers limit () context root _ := Library.answers_iff.2 rfl
    obtain ⟨final, hincludes⟩ := Provider.answers_iff.1 hanswers
    exact hincludes.wellCut catalog.oneLine trivial hpath
  · rw [Library.source_of_opened hopened]
    exact (catalog.library.expands_provider limit [file.identity] file.context _).wellCut catalog.oneLine trivial
      (wellCut_pieces file.text)

/-- **Markers are no code.** A file of a catalog that can be opened, or is named without newline: whatever the depth
limit and the wanted block, its flattened text and the same text without markers give the same block with the same
parameters, up to their sections. The sections are the same too where no marker inside the block has a divider or
stands directly behind one. -/
theorem classify_without_markers (catalog : Catalog) (limit : Option ℕ) (context root : Text) (target : Option Text)
    (hroot : '\n' ∉ root ∨ ∃ file, catalog.library.enter limit [] ⟨root, context⟩ = .ok file) :
    let source := (catalog.library.flatten limit context root).source
    (classify target source.text).unlabelled = (classify target (Source.code source).text).unlabelled ∧
      (Phase.searching.Undisturbed target source →
        classify target source.text = classify target (Source.code source).text) := by
  intro source
  have hcut : WellCut (source.map Line.text) := catalog.wellCut_flatten limit context root hroot
  have hlines : ∀ line ∈ source, line.isMarker = true → IsLine line.text := by
    intro line hline hmarker
    exact Line.isLine_of_marker hmarker (hcut.isPiece _ (List.mem_map_of_mem hline))
  obtain ⟨ending, hall, hcode⟩ := Source.exists_scanLines hcut
  unfold classify
  rw [hall, hcode]
  constructor
  · rw [Scan.unlabelled_result, Scan.unlabelled_result, Scan.unlabelled_run, Scan.unlabelled_run, List.foldl_append,
      List.foldl_append, Scan.foldl_feed_code hlines]
  · intro hfree
    rw [Scan.run_code hlines ending Scan.start hfree]

/-- a block with a section in an included file, a section behind an include, and includes that are not expanded -/
theorem classify_without_markers_sections :
    let catalog : Catalog :=
      ⟨[("main",
          "layout(std140) uniform B \x7b\n#include \"part\"\n// ═══\n// Rest\n#include \"gone\"\nvec4 d;\n\x7d;\n"),
        ("part", "// ═══\n// Camera\n// vec4 2:\nfloat a;\n#include \"main\"\nmat4 b;")], [], []⟩
    let source := (catalog.library.flatten (some 1) [] "main").source
    '\n' ∉ ("main" : Text) ∧ Phase.searching.Undisturbed (some "B") source ∧
      classify (some "B") source.text = classify (some "B") (Source.code source).text ∧
      (classify (some "B") source.text).parameters.map Parameter.sectionLabel = ["Camera", "Camera", "Rest"] := by
  intro catalog source
  have hroot : '\n' ∉ ("main" : Text) := by decide
  have hfree : Phase.searching.Undisturbed (some "B") source := by decide +kernel
  exact ⟨hroot, hfree, (classify_without_markers catalog (some 1) [] "main" (some "B") (.inl hroot)).2 hfree,
    by decide +kernel⟩

/-- what markers can do: one stands behind a divider and is taken for the label, one names a path with a divider, and
one names a path with a newline that cannot be read -/
theorem classify_sees_markers :
    let labels (source : Text) : List Text := (classify none source).parameters.map Parameter.sectionLabel
    let flat (root : Text) (files : List (Text × Text)) : Source :=
      ((Catalog.library ⟨files, [], []⟩).flatten none [] root).source
    let behind := flat "main" [("main", "layout(std140) uniform B \x7b\n// ═══\n#include \"part\"\n\x7d;\n"),
      ("part", "// Camera\nfloat a;\n")]
    let dividing := flat "main" [("main", "layout(std140) uniform B \x7b\n#include \"═══\"\n\x7d;\n"),
      ("═══", "// Camera\nfloat a;\n")]
    let unread := flat "\nlayout(std140) uniform B \x7b\nfloat a;" []
    (labels behind.text = [">>> INCLUDE START: part"] ∧ labels (Source.code behind).text = ["Camera"]) ∧
      (labels dividing.text = ["Camera"] ∧ labels (Source.code dividing).text = [unknownSection]) ∧
      ((classify none unread.text).name = some "B" ∧ (classify none (Source.code unread).text).name = none) := by
  decide +kernel

end GlslInspect
