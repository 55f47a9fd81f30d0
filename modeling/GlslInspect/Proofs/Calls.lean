/-
The calls of a flattening and the lines it leaves.

Every include is resolved once, whatever becomes of it, and stands between one pair of markers; inside there is either a
file that was read or one sentinel. `Answered` says this in numbers of the answer to one include, and `Balanced` of the
pieces of a file. The ways to answer an include are gone through once (`answered_of_refused`, `answered_of_opened`), and
what is in balance stays so between markers and one behind the other (`Answered.group`, `Balanced.append`); so every
expansion is (`balanced_expand`), however often a file is read and however files include each other.

When a call is made is told by the walk of a library that keeps record (`Library.recorder`): the record at its end is
the list of calls of the flattening (`ends_recorder`), and no step of it reads an open file (`exists_calls_of_step`,
`exists_calls_of_run`).
Main result: `calls_accounted`.
-/
import GlslInspect.Proofs.Consulted

namespace GlslInspect

variable {ι κ : Type}

/-! ## Kinds of events and lines -/

def Event.isCall : Event ι κ → Bool
  | .note _ => false
  | _ => true

/-- whether an event asks what a path means -/
def Event.isResolve : Event ι κ → Bool
  | .resolve _ => true
  | _ => false

/-- whether an event asks for a file and gets its text -/
def Library.gives (library : Library ι κ) : Event ι κ → Bool
  | .read identity => (library.read identity).isOk
  | _ => false

def Flattening.calls (flattening : Flattening ι κ) : List (Event ι κ) := flattening.events.filter Event.isCall

namespace Line

/-- whether a line begins an include -/
def isStart : Line → Bool
  | .includeStart _ => true
  | _ => false

/-- whether a line ends an include -/
def isEnd : Line → Bool
  | .includeEnd _ => true
  | _ => false

/-- whether a line stands in the place of a file -/
def isSentinel : Line → Bool
  | .circular _ | .missing _ | .depthLimit .. => true
  | _ => false

end Line

theorem Source.countP_closeLast {p : Line → Bool} (hp : ∀ line, p line.closed = p line) (s : Source) :
    s.closeLast.countP p = s.countP p := by
  induction s using closeLast.induct with
  | case1 => rfl
  | case2 line => simp [closeLast, List.countP_cons, hp]
  | case3 line next rest ih => rw [closeLast, List.countP_cons, ih, ← List.countP_cons]

/-- an include adds its two markers to a count of markers -/
theorem Source.countP_group {p : Line → Bool} (hp : ∀ line, p line.closed = p line) (path : Text) (child : Source) :
    (group path child).countP p = child.countP p + [Line.includeStart path, .includeEnd path].countP p := by
  rw [group, List.countP_cons, List.countP_append, countP_closeLast hp, List.countP_cons, List.countP_cons,
    List.countP_cons]
  omega

namespace Library

/-! ## Calls and lines in balance -/

/-- events and lines of some pieces belong together in number: as many paths are resolved as includes begin and as
includes end, and for each of them there is a text or a sentinel -/
structure Balanced (library : Library ι κ) (events : List (Event ι κ)) (lines : Source) : Prop where
  starts : events.countP Event.isResolve = lines.countP Line.isStart
  ends : lines.countP Line.isEnd = lines.countP Line.isStart
  answers : events.countP Event.isResolve = events.countP library.gives + lines.countP Line.isSentinel

/-- the same of the answer to one include, which has no markers of its own -/
structure Answered (library : Library ι κ) (events : List (Event ι κ)) (lines : Source) : Prop where
  starts : events.countP Event.isResolve = lines.countP Line.isStart + 1
  ends : lines.countP Line.isEnd = lines.countP Line.isStart
  answers : events.countP Event.isResolve = events.countP library.gives + lines.countP Line.isSentinel

variable {library : Library ι κ}

theorem Balanced.append {a b : List (Event ι κ)} {s t : Source} (ha : library.Balanced a s)
    (hb : library.Balanced b t) : library.Balanced (a ++ b) (s ++ t) := by
  refine ⟨?_, ?_, ?_⟩
  · rw [List.countP_append, List.countP_append, ha.starts, hb.starts]
  · rw [List.countP_append, List.countP_append, ha.ends, hb.ends]
  · rw [List.countP_append, List.countP_append, List.countP_append, ha.answers, hb.answers]
    omega

theorem Answered.group {events : List (Event ι κ)} {child : Source} (h : library.Answered events child)
    (path : Text) : library.Balanced events (Source.group path child) := by
  have hstart := Source.countP_group (p := Line.isStart) (fun line => by cases line <;> rfl) path child
  have hend := Source.countP_group (p := Line.isEnd) (fun line => by cases line <;> rfl) path child
  have hsentinel := Source.countP_group (p := Line.isSentinel) (fun line => by cases line <;> rfl) path child
  refine ⟨?_, ?_, ?_⟩
  · rw [h.starts, hstart]
    rfl
  · rw [hend, hstart, h.ends]
    rfl
  · rw [h.answers, hsentinel]
    rfl

variable [DecidableEq ι] {limit : Option ℕ} {stack : List ι} {ask : Request κ}

/-- an include that is refused: one path is resolved, no text is given, and one sentinel stands there -/
theorem answered_of_refused {why : Skip ι κ} (h : library.enter limit stack ask = .error why) (depth : ℕ) :
    library.Answered (why.events depth ask) [why.line ask] := by
  have hgives : (why.events depth ask).countP library.gives = 0 := by
    refine List.countP_eq_zero.2 fun event hevent hgiven => ?_
    cases event with
    | resolve other => cases hgiven
    | note note => cases hgiven
    | read identity =>
      cases hread : library.read identity with
      | error reason =>
        rw [gives, hread] at hgiven
        cases hgiven
      | ok text => exact not_mem_events_of_skipped h hread hevent
  refine ⟨?_, ?_, ?_⟩
  · cases why <;> rfl
  · cases why <;> rfl
  · rw [hgives]
    cases why <;> rfl

/-- an include that is opened: one path is resolved and one text is given, besides what happens inside the file -/
theorem answered_of_opened {file : Opened ι κ} (h : library.enter limit stack ask = .ok file) (depth : ℕ)
    {events : List (Event ι κ)} {child : Source} (hchild : library.Balanced events child) :
    library.Answered (file.events depth ask ++ events) child := by
  have hresolve : (file.events depth ask).countP Event.isResolve = 1 := rfl
  have hgives : (file.events depth ask).countP library.gives = 1 := by
    have hread : library.gives (.read file.identity : Event ι κ) = true := by
      rw [gives, (enter_eq_ok h).2]
      rfl
    rw [Opened.events, List.countP_cons, List.countP_cons, hread]
    rfl
  refine ⟨?_, hchild.ends, ?_⟩
  · rw [List.countP_append, hresolve, hchild.starts, Nat.add_comm]
  · rw [List.countP_append, List.countP_append, hresolve, hgives, hchild.answers, Nat.add_assoc]

/-- what happens while pieces of a file are expanded is in balance with their lines -/
theorem balanced_expand (stack : List ι) (context : κ) (pieces : List Text) (depth : ℕ) :
    library.Balanced ((library.expand limit stack context pieces).events depth)
      (library.expand limit stack context pieces).lines := by
  refine expand_induction library limit
    (motive := fun _ _ _ tree => ∀ depth, library.Balanced (tree.events depth) tree.lines)
    ?_ ?_ ?_ ?_ stack context pieces depth
  · intro stack context depth
    exact ⟨rfl, rfl, rfl⟩
  · intro stack context piece rest tree _ ih depth
    have hcode : library.Balanced [] [Line.code piece] := ⟨rfl, rfl, rfl⟩
    exact hcode.append (ih depth)
  · intro stack context piece rest path why tree _ hentered ih depth
    have hgroup := (answered_of_refused hentered depth).group path
    simpa [Expansion.lines, Expansion.events, Source.group] using hgroup.append (ih depth)
  · intro stack context piece rest path file body tree _ hentered ihbody ih depth
    have hgroup := (answered_of_opened hentered depth (ihbody (depth + 1))).group path
    simpa [Expansion.lines, Expansion.events, Source.group] using hgroup.append (ih depth)

theorem answered_flatten (library : Library ι κ) (limit : Option ℕ) (context : κ) (path : Text) :
    library.Answered (library.flatten limit context path).events (library.flatten limit context path).source := by
  unfold flatten Flattening.events Flattening.source
  cases hentered : library.enter limit [] ⟨path, context⟩ with
  | error why => exact answered_of_refused hentered 0
  | ok file => exact answered_of_opened hentered 0 (balanced_expand _ _ _ 1)

/-! ## A library that keeps record -/

/-- a library as a provider that writes down what it is asked -/
def recorder (library : Library ι κ) : Provider (List (Event ι κ)) ι κ where
  resolve := fun calls context path => (library.resolve context path, calls ++ [.resolve ⟨path, context⟩])
  read := fun calls identity => (library.read identity, calls ++ [.read identity])

/-- the record grows by the calls of the include that is asked for -/
theorem enter_recorder (library : Library ι κ) (limit : Option ℕ) (stack : List ι) (calls : List (Event ι κ))
    (ask : Request κ) :
    library.recorder.enter limit stack.toFinset stack.length calls ask =
      ((library.enter limit stack ask).mapError (·.line ask),
        calls ++ (askEvents stack.length ask (library.enter limit stack ask)).filter Event.isCall) := by
  unfold Provider.enter enter
  rw [pastLimit_eq_filter]
  simp only [recorder, List.mem_toFinset]
  cases library.resolve ask.context ask.path with
  | error reason => rfl
  | ok file =>
    by_cases hopen : file.identity ∈ stack
    · simp only [hopen, if_true]
      rfl
    · simp only [hopen, if_false]
      cases limit.filter (· < stack.length) with
      | some n => rfl
      | none =>
        cases library.read file.identity with
        | error reason => exact congrArg (Prod.mk _) (List.append_assoc ..)
        | ok text => exact congrArg (Prod.mk _) (List.append_assoc ..)

theorem expands_recorder (library : Library ι κ) (limit : Option ℕ) (stack : List ι) (context : κ)
    (pieces : List Text) (calls : List (Event ι κ)) :
    library.recorder.Expands limit stack.toFinset stack.length context calls pieces
      (library.expand limit stack context pieces).lines
      (calls ++ ((library.expand limit stack context pieces).events stack.length).filter Event.isCall) := by
  refine expand_induction library limit
    (motive := fun stack context pieces tree => ∀ calls,
      library.recorder.Expands limit stack.toFinset stack.length context calls pieces tree.lines
        (calls ++ (tree.events stack.length).filter Event.isCall))
    ?_ ?_ ?_ ?_ stack context pieces calls
  · intro stack context calls
    rw [Expansion.events, List.filter_nil, List.append_nil]
    exact .done
  · intro stack context piece rest tree hpath later calls
    exact .code hpath (later calls)
  · intro stack context piece rest path why tree hpath hentered later calls
    have hrefused := library.enter_recorder limit stack calls ⟨path, context⟩
    rw [hentered] at hrefused
    have hexpands := Provider.Expands.refused hpath hrefused (later _)
    simpa [Expansion.lines, Expansion.events, Source.group, askEvents] using hexpands
  · intro stack context piece rest path file body tree hpath hentered inside later calls
    have hopened := library.enter_recorder limit stack calls ⟨path, context⟩
    rw [hentered] at hopened
    rw [List.toFinset_cons] at inside
    have hexpands := Provider.Expands.nested hpath hopened (inside _) (later _)
    simpa [Expansion.lines, Expansion.events, Source.group, askEvents] using hexpands

/-- the walk of a library that keeps record ends with the flattened source and the calls of the flattening -/
theorem ends_recorder (library : Library ι κ) (limit : Option ℕ) (context : κ) (path : Text) :
    library.recorder.Ends limit context (Walk.start [] path) (library.flatten limit context path).source
      (library.flatten limit context path).calls := by
  have hroot := library.enter_recorder limit [] [] ⟨path, context⟩
  rw [Provider.ends_start_iff]
  unfold flatten Flattening.source Flattening.calls Flattening.events
  cases hentered : library.enter limit [] ⟨path, context⟩ with
  | error why =>
    rw [hentered] at hroot
    exact Or.inl ⟨_, hroot, rfl⟩
  | ok file =>
    rw [hentered] at hroot
    refine Or.inr ⟨file, _, hroot, ?_⟩
    have hexpands := library.expands_recorder limit [file.identity] file.context (Text.pieces file.text)
      ([] ++ (askEvents ([] : List ι).length ⟨path, context⟩ (.ok file)).filter Event.isCall)
    simpa [askEvents] using hexpands

/-- an include that is asked for adds its calls to the record, and reads no file that is in the guard -/
theorem exists_calls_of_enter (library : Library ι κ) (limit : Option ℕ) (guard : Finset ι) (depth : ℕ)
    (state : List (Event ι κ)) (ask : Request κ) :
    ∃ calls, (library.recorder.enter limit guard depth state ask).2 = state ++ calls ∧
      ∀ identity, .read identity ∈ calls → identity ∉ guard := by
  unfold Provider.enter
  simp only [recorder]
  cases library.resolve ask.context ask.path with
  | error reason => exact ⟨[.resolve ask], rfl, by simp⟩
  | ok file =>
    by_cases hopen : file.identity ∈ guard
    · simp only [hopen, if_true]
      exact ⟨[.resolve ask], rfl, by simp⟩
    · simp only [hopen, if_false]
      cases limit.filter (· < depth) with
      | some n => exact ⟨[.resolve ask], rfl, by simp⟩
      | none =>
        have hread : ∀ identity, (.read identity : Event ι κ) ∈ [.resolve ask, .read file.identity] →
            identity ∉ guard := by
          intro identity hmem
          obtain rfl : identity = file.identity := by simpa using hmem
          exact hopen
        cases library.read file.identity with
        | error reason => exact ⟨_, List.append_assoc .., hread⟩
        | ok text => exact ⟨_, List.append_assoc .., hread⟩

/-- one step makes no calls, or those of one include, and reads no file that is in the guard -/
theorem exists_calls_of_step (library : Library ι κ) (limit : Option ℕ) (root : κ) (w : Walk (List (Event ι κ)) ι κ) :
    ∃ calls, (library.recorder.step limit root w).state = w.state ++ calls ∧
      ∀ identity, .read identity ∈ calls → identity ∉ w.guard := by
  obtain ⟨state, guard, files, phase⟩ := w
  have hquiet : ∃ calls : List (Event ι κ), state = state ++ calls ∧
      ∀ identity, .read identity ∈ calls → identity ∉ guard :=
    ⟨[], (List.append_nil _).symm, fun identity hread => by cases hread⟩
  cases phase with
  | asking path =>
    have hasked := library.exists_calls_of_enter limit guard (Walk.depth ⟨state, guard, files, .asking path⟩) state
      ⟨path, Walk.context root ⟨state, guard, files, .asking path⟩⟩
    cases hentered : library.recorder.enter limit guard (Walk.depth ⟨state, guard, files, .asking path⟩) state
        ⟨path, Walk.context root ⟨state, guard, files, .asking path⟩⟩ with
    | mk result next =>
      rw [hentered] at hasked
      cases result with
      | error line =>
        rw [Provider.step_refused hentered]
        exact hasked
      | ok file =>
        rw [Provider.step_opened hentered]
        exact hasked
  | reading =>
    cases files with
    | nil => exact hquiet
    | cons file files =>
      cases hpending : file.pending with
      | nil =>
        rw [Provider.step_closed hpending]
        exact hquiet
      | cons piece rest =>
        cases hpath : includePath? piece with
        | none =>
          rw [Provider.step_code hpending hpath]
          exact hquiet
        | some path =>
          rw [Provider.step_include hpending hpath]
          exact hquiet
  | answered path child =>
    cases files with
    | nil => exact hquiet
    | cons file files => exact hquiet

/-- no step of a walk reads a file that is open at that moment -/
theorem exists_calls_of_run (library : Library ι κ) (limit : Option ℕ) (context : κ) (path : Text) (n : ℕ) :
    let walk := library.recorder.run limit context (Walk.start [] path)
    ∃ calls, (walk (n + 1)).state = (walk n).state ++ calls ∧
      ∀ identity, .read identity ∈ calls → identity ∉ (walk n).identities := by
  intro walk
  obtain ⟨calls, hstate, hfresh⟩ := library.exists_calls_of_step limit context (walk n)
  have hnext : walk (n + 1) = library.recorder.step limit context (walk n) :=
    Function.iterate_succ_apply' (library.recorder.step limit context) n _
  have hguard : (walk n).guard = (walk n).identities.toFinset :=
    (Provider.run_guarded (Walk.guarded_start [] path) n).guard_eq
  refine ⟨calls, by rw [hnext, hstate], fun identity hread hopen => hfresh identity hread ?_⟩
  rw [hguard]
  exact List.mem_toFinset.2 hopen

end Library

/-- **Calls are accounted for.** When a file of a library is flattened, whatever the depth limit:
one path more is resolved than includes begin, and as many includes end as begin;
for each path that is resolved, a file is read or a sentinel stands in its place;
these are the calls that the walk makes one after the other, and no step of it reads a file that is open then. -/
theorem calls_accounted {ι κ : Type} [DecidableEq ι] (library : Library ι κ) (limit : Option ℕ) (context : κ)
    (root : Text) :
    let events := (library.flatten limit context root).events
    let source := (library.flatten limit context root).source
    let walk := library.recorder.run limit context (Walk.start [] root)
    events.countP Event.isResolve = source.countP Line.isStart + 1 ∧
    source.countP Line.isEnd = source.countP Line.isStart ∧
    events.countP Event.isResolve = events.countP library.gives + source.countP Line.isSentinel ∧
    (∃ last, (walk last).answer? = some source ∧ (walk last).state = (library.flatten limit context root).calls) ∧
    ∀ n, ∃ calls, (walk (n + 1)).state = (walk n).state ++ calls ∧
      ∀ identity, .read identity ∈ calls → identity ∉ (walk n).identities := by
  intro events source walk
  obtain ⟨hstarts, hends, hanswers⟩ := library.answered_flatten limit context root
  exact ⟨hstarts, hends, hanswers, library.ends_recorder limit context root,
    library.exists_calls_of_run limit context root⟩

/-- a file that is included twice and read twice, and includes the first one again, which is not read again -/
theorem calls_accounted_twice :
    let catalog : Catalog :=
      ⟨[("main", "#include \"lib\"\n#include \"lib\"\n"), ("lib", "#include \"main\"\nfloat x;\n")], [], []⟩
    let events := (catalog.library.flatten none [] "main").events
    let source := (catalog.library.flatten none [] "main").source
    let walk := catalog.library.recorder.run none [] (Walk.start [] "main")
    source.countP Line.isEnd = 4 ∧ events.countP Event.isResolve = 5 ∧
      events.countP catalog.library.gives + source.countP Line.isSentinel = 5 ∧
      ∃ last, (walk last).answer? = some source ∧
        (walk last).state.filter (fun call => !call.isResolve) = [.read "main", .read "lib", .read "lib"] := by
  intro catalog events source walk
  obtain ⟨hstarts, hends, hanswers, ⟨last, hanswer, hrecord⟩, -⟩ := calls_accounted catalog.library none [] "main"
  have hcount : source.countP Line.isStart = 4 := by decide +kernel
  have hresolves : events.countP Event.isResolve = 5 := hstarts.trans (congrArg (· + 1) hcount)
  refine ⟨hends.trans hcount, hresolves, hanswers.symm.trans hresolves, last, hanswer, ?_⟩
  rw [hrecord]
  decide +kernel

end GlslInspect
