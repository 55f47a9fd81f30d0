/-
The files that a flattening visits.

A flattening goes from file to file: it opens the first one, and inside an open file those that a directive asks for. A
`Visit` is one file on this way with all that is open around it, and `Library.Visits` says which visits there are, one
include at a time. Here lines and events are tied to visits; what is to be said of all lines of a flattened file, or of
all files that are read, is then a fact about the step from a visit to the next.
- `Library.stands_of_split`: every line of a flattened file belongs to a visit, and the markers in front of the line say
  which includes lead there (`Source.around`);
- `Library.Visits.mem_source`: an include that is refused in a visit leaves its line;
- `Library.mem_events_iff_visits`: the readable files that are asked for are those that are visited.
-/
import GlslInspect.Proofs.Guard
import GlslInspect.Proofs.Outline

namespace GlslInspect

/-! ## The includes around a line -/

/-- the includes that are begun and not ended behind a line, the innermost first, when `outer` were in front of it -/
def Line.around (outer : List Text) : Line → List Text
  | .includeStart path => path :: outer
  | .includeEnd _ => outer.tail
  | _ => outer

namespace Source

/-- the includes that are begun and not ended behind some lines -/
def around (outer : List Text) (source : Source) : List Text := source.foldl Line.around outer

/-- something holds of each line and the includes around it -/
def Everywhere (P : List Text → Line → Prop) (outer : List Text) : Source → Prop
  | [] => True
  | line :: rest => P outer line ∧ Everywhere P (line.around outer) rest

/-- what begins in some lines ends there, and something holds of each line and the includes around it -/
structure Placed (P : List Text → Line → Prop) (outer : List Text) (s : Source) : Prop where
  balanced : s.around outer = outer
  each : s.Everywhere P outer

variable {P : List Text → Line → Prop} {outer : List Text}

theorem around_append (outer : List Text) (a b : Source) : around outer (a ++ b) = around (around outer a) b :=
  List.foldl_append

theorem everywhere_append {a b : Source} :
    Everywhere P outer (a ++ b) ↔ Everywhere P outer a ∧ Everywhere P (around outer a) b := by
  induction a generalizing outer with
  | nil => simp [Everywhere, around]
  | cons line a ih =>
    rw [List.cons_append, Everywhere, Everywhere, ih, and_assoc]
    rfl

theorem Everywhere.of_split {before after : Source} {line : Line} (h : Everywhere P outer (before ++ line :: after)) :
    P (around outer before) line :=
  (everywhere_append.1 h).2.1

theorem around_closed (outer : List Text) (line : Line) : line.closed.around outer = line.around outer := by
  cases line <;> rfl

theorem around_closeLast (outer : List Text) (s : Source) : around outer (closeLast s) = around outer s := by
  induction s using closeLast.induct generalizing outer with
  | case1 => rfl
  | case2 line => exact around_closed outer line
  | case3 line next rest ih => exact ih (line.around outer)

theorem Everywhere.closeLast {s : Source} (hclosed : ∀ outer line, P outer line → P outer line.closed)
    (h : Everywhere P outer s) : Everywhere P outer (closeLast s) := by
  induction s using closeLast.induct generalizing outer with
  | case1 => exact h
  | case2 line => exact ⟨hclosed outer line h.1, trivial⟩
  | case3 line next rest ih => exact ⟨h.1, ih h.2⟩

theorem Placed.nil : Placed P outer [] := ⟨rfl, trivial⟩

theorem Placed.singleton {line : Line} (hline : line.around outer = outer) (h : P outer line) :
    Placed P outer [line] :=
  ⟨hline, h, trivial⟩

theorem Placed.append {a b : Source} (ha : Placed P outer a) (hb : Placed P outer b) : Placed P outer (a ++ b) := by
  refine ⟨?_, everywhere_append.2 ⟨ha.each, ?_⟩⟩
  · rw [around_append, ha.balanced, hb.balanced]
  · rw [ha.balanced]
    exact hb.each

/-- an include stands around all that is between its markers -/
theorem Placed.group {path : Text} {child : Source} (hclosed : ∀ outer line, P outer line → P outer line.closed)
    (hstart : P outer (.includeStart path)) (hchild : Placed P (path :: outer) child)
    (hend : P (path :: outer) (.includeEnd path)) : Placed P outer (group path child) := by
  have hback : around (path :: outer) (Source.closeLast child) = path :: outer := by
    rw [around_closeLast, hchild.balanced]
  refine ⟨?_, hstart, everywhere_append.2 ⟨hchild.each.closeLast hclosed, ?_⟩⟩
  · change around (path :: outer) (Source.closeLast child ++ [.includeEnd path]) = outer
    rw [around_append, hback]
    rfl
  · change Everywhere P (around (path :: outer) (Source.closeLast child)) [.includeEnd path]
    rw [hback]
    exact ⟨hend, trivial⟩

theorem mem_closeLast_of_marker {s : Source} {line : Line} (hmarker : line.isMarker = true) (h : line ∈ s) :
    line ∈ closeLast s := by
  induction s using closeLast.induct with
  | case1 => exact h
  | case2 last =>
    rw [List.mem_singleton] at h
    subst h
    cases line with
    | code text => cases hmarker
    | _ => exact List.mem_singleton_self _
  | case3 first next rest ih =>
    rw [closeLast]
    rcases List.mem_cons.1 h with rfl | h
    · exact List.mem_cons_self
    · exact List.mem_cons_of_mem first (ih h)

end Source

/-! ## Visits -/

/-- a file that is open, with what is open around it, the innermost first -/
structure Visit (ι κ : Type) where
  /-- the open files, this one and those around it -/
  stack : List ι
  /-- the includes around it, as spelled -/
  around : List Text
  context : κ
  text : Text

def Visit.Asks {ι κ : Type} (visit : Visit ι κ) (path : Text) : Prop :=
  ∃ piece ∈ Text.pieces visit.text, includePath? piece = some path

namespace Library

variable {ι κ : Type} [DecidableEq ι]

/-- the visits of a flattening: the file it is asked for, and the files that are opened inside a visited one -/
inductive Visits (library : Library ι κ) (limit : Option ℕ) (ask : Request κ) : Visit ι κ → Prop where
  | first {file : Opened ι κ} (entered : library.enter limit [] ask = .ok file) :
    Visits library limit ask ⟨[file.identity], [], file.context, file.text⟩
  | inner {visit : Visit ι κ} {path : Text} {file : Opened ι κ} (outside : Visits library limit ask visit)
      (asks : visit.Asks path) (entered : library.enter limit visit.stack ⟨path, visit.context⟩ = .ok file) :
    Visits library limit ask ⟨file.identity :: visit.stack, path :: visit.around, file.context, file.text⟩

/-- the lines that a flattened file can have, each with the includes around it -/
inductive Stands (library : Library ι κ) (limit : Option ℕ) (ask : Request κ) : List Text → Line → Prop where
  /-- not even the first file is opened -/
  | unopened {why : Skip ι κ} (entered : library.enter limit [] ask = .error why) :
    Stands library limit ask [] (why.line ask)
  | code {visit : Visit ι κ} {text : Text} (visits : library.Visits limit ask visit) :
    Stands library limit ask visit.around (.code text)
  | start {visit : Visit ι κ} {path : Text} (visits : library.Visits limit ask visit) (asks : visit.Asks path) :
    Stands library limit ask visit.around (.includeStart path)
  | skipped {visit : Visit ι κ} {path : Text} {why : Skip ι κ} (visits : library.Visits limit ask visit)
      (asks : visit.Asks path) (entered : library.enter limit visit.stack ⟨path, visit.context⟩ = .error why) :
    Stands library limit ask (path :: visit.around) (why.line ⟨path, visit.context⟩)
  | stop {visit : Visit ι κ} {path : Text} (visits : library.Visits limit ask visit) (asks : visit.Asks path) :
    Stands library limit ask (path :: visit.around) (.includeEnd path)

variable {library : Library ι κ} {limit : Option ℕ} {ask : Request κ} {visit : Visit ι κ}

namespace Visits

theorem length_stack (h : library.Visits limit ask visit) : visit.stack.length = visit.around.length + 1 := by
  induction h with
  | first _ => rfl
  | inner _ _ _ ih => exact congrArg (· + 1) ih

/-- no file is visited inside itself -/
theorem nodup (h : library.Visits limit ask visit) : visit.stack.Nodup := by
  induction h with
  | first _ => exact List.nodup_singleton _
  | inner _ _ hentered ih => exact List.nodup_cons.2 ⟨(enter_eq_ok hentered).1, ih⟩

/-- the text of a visit is that of the innermost file -/
theorem exists_head (h : library.Visits limit ask visit) :
    ∃ identity rest, visit.stack = identity :: rest ∧ library.read identity = .ok visit.text := by
  cases h with
  | first hentered => exact ⟨_, _, rfl, (enter_eq_ok hentered).2⟩
  | inner _ _ hentered => exact ⟨_, _, rfl, (enter_eq_ok hentered).2⟩

/-- no visit is inside more includes than the limit allows -/
theorem length_around_le (h : library.Visits limit ask visit) : ∀ n ∈ limit, visit.around.length ≤ n := by
  intro n hn
  cases h with
  | first _ => exact Nat.zero_le n
  | inner houtside _ hentered =>
    have hdeep := (opens_of_enter hentered).within n hn
    rw [houtside.length_stack] at hdeep
    exact hdeep

end Visits

/-! ## Lines of visits -/

theorem Stands.closed {outer : List Text} {line : Line} (h : library.Stands limit ask outer line) :
    library.Stands limit ask outer line.closed := by
  have hskip : ∀ (ask : Request κ) (why : Skip ι κ), (why.line ask).closed = why.line ask := by
    intro ask why
    cases why <;> rfl
  cases h with
  | unopened hentered =>
    rw [hskip]
    exact .unopened hentered
  | code hvisits => exact .code hvisits
  | start hvisits hasks => exact .start hvisits hasks
  | skipped hvisits hasks hentered =>
    rw [hskip]
    exact .skipped hvisits hasks hentered
  | stop hvisits hasks => exact .stop hvisits hasks

theorem Stands.exists_of_code {outer : List Text} {text : Text} (h : library.Stands limit ask outer (.code text)) :
    ∃ visit, library.Visits limit ask visit ∧ outer = visit.around := by
  generalize hline : Line.code text = line at h
  cases h with
  | code hvisits => exact ⟨_, hvisits, rfl⟩
  | unopened hentered =>
    rename_i why
    cases why <;> cases hline
  | skipped hvisits hasks hentered =>
    rename_i visit path why
    cases why <;> cases hline
  | _ => cases hline

/-- a sentinel stands for the first file, or for an include that a visited file asks for, and says why it is refused -/
theorem Stands.refuses {outer : List Text} (sentinel : Sentinel) (h : library.Stands limit ask outer sentinel.line) :
    library.Refuses limit [] ask.context ask.path sentinel ∨
    ∃ visit path, library.Visits limit ask visit ∧ visit.Asks path ∧ outer = path :: visit.around ∧
      library.Refuses limit visit.stack visit.context path sentinel := by
  have hsame : ∀ {stack : List ι} {context : κ} {path : Text} {why : Skip ι κ},
      library.enter limit stack ⟨path, context⟩ = .error why → sentinel.line = why.line ⟨path, context⟩ →
      library.Refuses limit stack context path sentinel := by
    intro stack context path why hentered hline
    obtain ⟨other, hrefuses, hother⟩ := refuses_of_enter hentered
    rwa [Sentinel.line_injective (hline.trans hother)]
  generalize hline : sentinel.line = line at h
  cases h with
  | unopened hentered => exact Or.inl (hsame hentered hline)
  | skipped hvisits hasks hentered => exact Or.inr ⟨_, _, hvisits, hasks, rfl, hsame hentered hline⟩
  | _ => cases sentinel <;> cases hline

theorem placed_expand {text : Text} {pieces : List Text} {stack : List ι} {around : List Text} {context : κ}
    (hvisits : library.Visits limit ask ⟨stack, around, context, text⟩) (hpieces : pieces ⊆ Text.pieces text) :
    (library.expand limit stack context pieces).lines.Placed (library.Stands limit ask) around := by
  have hclosed : ∀ outer line, library.Stands limit ask outer line → library.Stands limit ask outer line.closed :=
    fun _ _ h => h.closed
  refine expand_induction library limit
    (motive := fun stack context pieces tree => ∀ around text, library.Visits limit ask ⟨stack, around, context, text⟩ →
      pieces ⊆ Text.pieces text → tree.lines.Placed (library.Stands limit ask) around)
    ?_ ?_ ?_ ?_ stack context pieces around text hvisits hpieces
  · intro stack context around text _ _
    exact .nil
  · intro stack context piece rest tree _ ih around text hvisits hpieces
    have hrest := ih around text hvisits (List.cons_subset.1 hpieces).2
    exact (Source.Placed.singleton rfl (.code hvisits)).append hrest
  · intro stack context piece rest path why tree hpath hentered ih around text hvisits hpieces
    obtain ⟨hpiece, hrest⟩ := List.cons_subset.1 hpieces
    have hasks : Visit.Asks ⟨stack, around, context, text⟩ path := ⟨piece, hpiece, hpath⟩
    have hline : Source.Placed (library.Stands limit ask) (path :: around) [why.line ⟨path, context⟩] := by
      refine .singleton ?_ (.skipped hvisits hasks hentered)
      cases why <;> rfl
    have hgroup := Source.Placed.group hclosed (.start hvisits hasks) hline (.stop hvisits hasks)
    simpa [Expansion.lines, Source.group] using hgroup.append (ih around text hvisits hrest)
  · intro stack context piece rest path file body tree hpath hentered ihbody ih around text hvisits hpieces
    obtain ⟨hpiece, hrest⟩ := List.cons_subset.1 hpieces
    have hasks : Visit.Asks ⟨stack, around, context, text⟩ path := ⟨piece, hpiece, hpath⟩
    have hbody := ihbody (path :: around) file.text (.inner hvisits hasks hentered) (List.Subset.refl _)
    have hgroup := Source.Placed.group hclosed (.start hvisits hasks) hbody (.stop hvisits hasks)
    simpa [Expansion.lines, Source.group] using hgroup.append (ih around text hvisits hrest)

theorem source_of_refused {why : Skip ι κ} (h : library.enter limit [] ask = .error why) :
    (library.flatten limit ask.context ask.path).source = [why.line ask] := by
  simp [flatten, Flattening.source, h]

theorem source_of_opened {file : Opened ι κ} (h : library.enter limit [] ask = .ok file) :
    (library.flatten limit ask.context ask.path).source =
      (library.expand limit [file.identity] file.context (Text.pieces file.text)).lines := by
  simp [flatten, Flattening.source, h]

/-- every line of a flattened file belongs to the visit that the markers in front of it lead to -/
theorem stands_of_split {before after : Source} {line : Line}
    (h : (library.flatten limit ask.context ask.path).source = before ++ line :: after) :
    library.Stands limit ask (Source.around [] before) line := by
  have heach : (library.flatten limit ask.context ask.path).source.Everywhere (library.Stands limit ask) [] := by
    cases hentered : library.enter limit [] ask with
    | error why =>
      rw [source_of_refused hentered]
      exact ⟨.unopened hentered, trivial⟩
    | ok file =>
      rw [source_of_opened hentered]
      exact (placed_expand (.first hentered) (List.Subset.refl _)).each
  rw [h] at heach
  exact heach.of_split

theorem mem_lines_of_nested {stack : List ι} {context : κ} {pieces : List Text} {piece path : Text}
    {file : Opened ι κ} (hpiece : piece ∈ pieces) (hpath : includePath? piece = some path)
    (hentered : library.enter limit stack ⟨path, context⟩ = .ok file) {line : Line} (hmarker : line.isMarker = true)
    (hline : line ∈ (library.expand limit (file.identity :: stack) file.context (Text.pieces file.text)).lines) :
    line ∈ (library.expand limit stack context pieces).lines := by
  obtain ⟨before, after, rfl⟩ := List.append_of_mem hpiece
  rw [lines_expand_append, expand_nested hpath hentered, Expansion.lines]
  refine List.mem_append_right _ (List.mem_cons_of_mem _ (List.mem_append_left _ ?_))
  exact Source.mem_closeLast_of_marker hmarker hline

theorem mem_lines_of_skipped {stack : List ι} {context : κ} {pieces : List Text} {piece path : Text}
    {why : Skip ι κ} (hpiece : piece ∈ pieces) (hpath : includePath? piece = some path)
    (hentered : library.enter limit stack ⟨path, context⟩ = .error why) :
    why.line ⟨path, context⟩ ∈ (library.expand limit stack context pieces).lines := by
  obtain ⟨before, after, rfl⟩ := List.append_of_mem hpiece
  rw [lines_expand_append, expand_skipped hpath hentered, Expansion.lines]
  exact List.mem_append_right _ (List.mem_cons_of_mem _ List.mem_cons_self)

theorem Visits.lines_subset (h : library.Visits limit ask visit) {line : Line} (hmarker : line.isMarker = true)
    (hline : line ∈ (library.expand limit visit.stack visit.context (Text.pieces visit.text)).lines) :
    line ∈ (library.flatten limit ask.context ask.path).source := by
  induction h with
  | first hentered => rwa [source_of_opened hentered]
  | inner _ hasks hentered ih =>
    obtain ⟨piece, hpiece, hpath⟩ := hasks
    exact ih (mem_lines_of_nested hpiece hpath hentered hmarker hline)

/-- an include that is refused in a visit leaves its line -/
theorem Visits.mem_source (h : library.Visits limit ask visit) {path : Text} {why : Skip ι κ} (hasks : visit.Asks path)
    (hentered : library.enter limit visit.stack ⟨path, visit.context⟩ = .error why) :
    why.line ⟨path, visit.context⟩ ∈ (library.flatten limit ask.context ask.path).source := by
  obtain ⟨piece, hpiece, hpath⟩ := hasks
  refine h.lines_subset ?_ (mem_lines_of_skipped hpiece hpath hentered)
  cases why <;> rfl

/-! ## Events of visits -/

theorem events_expand_append (depth : ℕ) (stack : List ι) (context : κ) (ps qs : List Text) :
    (library.expand limit stack context (ps ++ qs)).events depth =
      (library.expand limit stack context ps).events depth ++ (library.expand limit stack context qs).events depth := by
  induction ps with
  | nil =>
    rw [expand_nil]
    rfl
  | cons piece ps ih =>
    rw [List.cons_append]
    cases hpath : includePath? piece with
    | none => rw [expand_code hpath, expand_code hpath, Expansion.events, ih, Expansion.events]
    | some path =>
      cases hentered : library.enter limit stack ⟨path, context⟩ with
      | error why =>
        rw [expand_skipped hpath hentered, expand_skipped hpath hentered, Expansion.events, ih, Expansion.events,
          List.append_assoc]
      | ok file =>
        rw [expand_nested hpath hentered, expand_nested hpath hentered, Expansion.events, ih, Expansion.events]
        simp only [List.append_assoc]

theorem mem_events_of_nested {depth : ℕ} {stack : List ι} {context : κ} {pieces : List Text} {piece path : Text}
    {file : Opened ι κ} (hpiece : piece ∈ pieces) (hpath : includePath? piece = some path)
    (hentered : library.enter limit stack ⟨path, context⟩ = .ok file) {event : Event ι κ}
    (hevent : event ∈ file.events depth ⟨path, context⟩ ++
      (library.expand limit (file.identity :: stack) file.context (Text.pieces file.text)).events (depth + 1)) :
    event ∈ (library.expand limit stack context pieces).events depth := by
  obtain ⟨before, after, rfl⟩ := List.append_of_mem hpiece
  rw [events_expand_append, expand_nested hpath hentered, Expansion.events]
  exact List.mem_append_right _ (List.mem_append_left _ hevent)

theorem events_of_opened {file : Opened ι κ} (h : library.enter limit [] ask = .ok file) :
    (library.flatten limit ask.context ask.path).events = file.events 0 ask ++
      (library.expand limit [file.identity] file.context (Text.pieces file.text)).events 1 := by
  simp [flatten, Flattening.events, h]

/-- what happens while a visited file is expanded happens during the flattening -/
theorem Visits.events_subset (h : library.Visits limit ask visit) :
    (library.expand limit visit.stack visit.context (Text.pieces visit.text)).events visit.stack.length ⊆
      (library.flatten limit ask.context ask.path).events := by
  induction h with
  | first hentered =>
    rw [events_of_opened hentered]
    exact List.subset_append_right _ _
  | inner _ hasks hentered ih =>
    obtain ⟨piece, hpiece, hpath⟩ := hasks
    intro event hevent
    exact ih (mem_events_of_nested hpiece hpath hentered (List.mem_append_right _ hevent))

theorem Visits.read_mem (h : library.Visits limit ask visit) :
    ∀ identity ∈ visit.stack.head?, .read identity ∈ (library.flatten limit ask.context ask.path).events := by
  intro identity hhead
  cases h with
  | @first file hentered =>
    obtain rfl : file.identity = identity := by simpa using hhead
    rw [events_of_opened hentered]
    exact List.mem_append_left _ (by simp [Opened.events])
  | @inner visit path file houtside hasks hentered =>
    obtain rfl : file.identity = identity := by simpa using hhead
    obtain ⟨piece, hpiece, hpath⟩ := hasks
    refine houtside.events_subset (mem_events_of_nested hpiece hpath hentered (List.mem_append_left _ ?_))
    simp [Opened.events]

/-- an include that is refused reads no readable file -/
theorem not_mem_events_of_skipped {depth : ℕ} {stack : List ι} {ask : Request κ} {why : Skip ι κ} {identity : ι}
    {text : Text} (h : library.enter limit stack ask = .error why) (hread : library.read identity = .ok text) :
    .read identity ∉ why.events depth ask := by
  intro hmem
  cases why with
  | unreadable file reason =>
    obtain rfl : identity = file.identity := by simpa [Skip.events] using hmem
    unfold enter at h
    grind
  | _ => simp [Skip.events] at hmem

theorem visits_of_mem_events {text : Text} {pieces : List Text} {stack : List ι} {around : List Text} {context : κ}
    {depth : ℕ} {identity : ι} {contents : Text} (hvisits : library.Visits limit ask ⟨stack, around, context, text⟩)
    (hpieces : pieces ⊆ Text.pieces text) (hread : library.read identity = .ok contents)
    (hmem : .read identity ∈ (library.expand limit stack context pieces).events depth) :
    ∃ visit, library.Visits limit ask visit ∧ visit.stack.head? = some identity := by
  refine expand_induction library limit
    (motive := fun stack context pieces tree => ∀ around text depth,
      library.Visits limit ask ⟨stack, around, context, text⟩ → pieces ⊆ Text.pieces text →
      .read identity ∈ tree.events depth → ∃ visit, library.Visits limit ask visit ∧ visit.stack.head? = some identity)
    ?_ ?_ ?_ ?_ stack context pieces around text depth hvisits hpieces hmem
  · intro stack context around text depth _ _ hmem
    cases hmem
  · intro stack context piece rest tree _ ih around text depth hvisits hpieces hmem
    exact ih around text depth hvisits (List.cons_subset.1 hpieces).2 hmem
  · intro stack context piece rest path why tree hpath hentered ih around text depth hvisits hpieces hmem
    rcases List.mem_append.1 hmem with hmem | hmem
    · exact absurd hmem (not_mem_events_of_skipped hentered hread)
    · exact ih around text depth hvisits (List.cons_subset.1 hpieces).2 hmem
  · intro stack context piece rest path file body tree hpath hentered ihbody ih around text depth hvisits hpieces hmem
    obtain ⟨hpiece, hrest⟩ := List.cons_subset.1 hpieces
    have hinner := Visits.inner hvisits ⟨piece, hpiece, hpath⟩ hentered
    rcases List.mem_append.1 hmem with hmem | hmem
    · rcases List.mem_append.1 hmem with hmem | hmem
      · obtain rfl : identity = file.identity := by simpa [Opened.events] using hmem
        exact ⟨_, hinner, rfl⟩
      · exact ihbody _ _ _ hinner (List.Subset.refl _) hmem
    · exact ih around text depth hvisits hrest hmem

/-- the readable files that a flattening asks for are those that it visits -/
theorem mem_events_iff_visits (ask : Request κ) {identity : ι} {contents : Text}
    (hread : library.read identity = .ok contents) :
    .read identity ∈ (library.flatten limit ask.context ask.path).events ↔
      ∃ visit, library.Visits limit ask visit ∧ visit.stack.head? = some identity := by
  constructor
  · intro hmem
    cases hentered : library.enter limit [] ask with
    | error why =>
      have hevents : (library.flatten limit ask.context ask.path).events = why.events 0 ask := by
        simp [flatten, Flattening.events, hentered]
      rw [hevents] at hmem
      exact absurd hmem (not_mem_events_of_skipped hentered hread)
    | ok file =>
      rw [events_of_opened hentered] at hmem
      rcases List.mem_append.1 hmem with hmem | hmem
      · obtain rfl : identity = file.identity := by simpa [Opened.events] using hmem
        exact ⟨_, .first hentered, rfl⟩
      · exact visits_of_mem_events (.first hentered) (List.Subset.refl _) hread hmem
  · rintro ⟨visit, hvisits, hhead⟩
    exact hvisits.read_mem identity hhead

end Library

end GlslInspect
