/-
The include tree in a flattened source.

A flattened source is a flat list of lines, but the markers say how it nests: an `Outline` is such a nesting, and
`Outline.lines` writes it out. `Outline.Follows` says what an outline should be, from the pieces of a file alone: each
piece, in order, is one line of code or one include, and an include holds either the outline of the file that it opens
(`Library.Opens`) or the one line that says why there is none (`Library.Refuses`).
- `Outline.lines_injective`: the lines of an outline can be read in one way only;
- `Library.exists_follows`: the lines of every expansion are those of an outline that follows the pieces.
-/
import GlslInspect.Include.Catalog
import GlslInspect.Proofs.Expansion

namespace GlslInspect

/-! ## Outlines -/

/-- what stands in the place of a file that is not expanded -/
inductive Sentinel where
  | missing (path : Text)
  | circular (path : Text)
  | depthLimit (path : Text) (limit : ℕ)
  deriving DecidableEq, Repr

def Sentinel.line : Sentinel → Line
  | .missing path => .missing path
  | .circular path => .circular path
  | .depthLimit path limit => .depthLimit path limit

theorem Sentinel.line_injective : Function.Injective Sentinel.line := by
  intro a b h
  cases a <;> cases b <;> cases h <;> rfl

/-- lines as they nest, from the first on -/
inductive Outline where
  /-- nothing is left -/
  | done
  /-- a line of code -/
  | code (text : Text) (rest : Outline)
  /-- an include that holds a sentinel -/
  | refused (path : Text) (sentinel : Sentinel) (rest : Outline)
  /-- an include that holds a file -/
  | nested (path : Text) (body rest : Outline)
  deriving DecidableEq, Repr

namespace Outline

/-- an outline written out: an include is opened and closed under one path -/
def lines : Outline → Source
  | .done => []
  | .code text rest => .code text :: lines rest
  | .refused path sentinel rest => .includeStart path :: sentinel.line :: .includeEnd path :: lines rest
  | .nested path body rest => .includeStart path :: (lines body ++ .includeEnd path :: lines rest)

/-- what can stand behind an outline: nothing, or the end of the include that holds it -/
def Closing (s : Source) : Prop := s = [] ∨ ∃ path rest, s = .includeEnd path :: rest

theorem lines_append_ne_sentinel (o : Outline) {s rest : Source} (hs : Closing s) (sentinel : Sentinel) :
    o.lines ++ s ≠ sentinel.line :: rest := by
  intro h
  cases o with
  | done =>
    rcases hs with rfl | ⟨path, later, rfl⟩
    · cases h
    · cases sentinel <;> cases h
  | code text o => cases sentinel <;> cases h
  | refused path other o => cases sentinel <;> cases h
  | nested path body o => cases sentinel <;> cases h

/-- the lines of an outline say where it ends, and which outline it is -/
theorem lines_append_inj {a b : Outline} {s t : Source} (hs : Closing s) (ht : Closing t)
    (h : a.lines ++ s = b.lines ++ t) : a = b ∧ s = t := by
  induction a generalizing b s t with
  | done =>
    cases b with
    | done => exact ⟨rfl, h⟩
    | _ => rcases hs with rfl | ⟨_, _, rfl⟩ <;> cases h
  | code text a ih =>
    cases b with
    | done => rcases ht with rfl | ⟨_, _, rfl⟩ <;> cases h
    | code text' b =>
      simp only [lines, List.cons_append, List.cons.injEq, Line.code.injEq] at h
      obtain ⟨rfl, rfl⟩ := ih hs ht h.2
      exact ⟨by rw [h.1], rfl⟩
    | _ => cases h
  | refused path sentinel a ih =>
    cases b with
    | done => rcases ht with rfl | ⟨_, _, rfl⟩ <;> cases h
    | code text b => cases h
    | refused path' sentinel' b =>
      simp only [lines, List.cons_append, List.cons.injEq, Line.includeStart.injEq, Line.includeEnd.injEq] at h
      obtain ⟨rfl, hline, -, hrest⟩ := h
      obtain ⟨rfl, rfl⟩ := ih hs ht hrest
      exact ⟨by rw [Sentinel.line_injective hline], rfl⟩
    | nested path' body b =>
      simp only [lines, List.cons_append, List.append_assoc, List.cons.injEq] at h
      exact absurd h.2.symm (lines_append_ne_sentinel body (Or.inr ⟨_, _, rfl⟩) sentinel)
  | nested path body a ihbody ih =>
    cases b with
    | done => rcases ht with rfl | ⟨_, _, rfl⟩ <;> cases h
    | code text b => cases h
    | refused path' sentinel b =>
      simp only [lines, List.cons_append, List.append_assoc, List.cons.injEq] at h
      exact absurd h.2 (lines_append_ne_sentinel body (Or.inr ⟨_, _, rfl⟩) sentinel)
    | nested path' body' b =>
      simp only [lines, List.cons_append, List.append_assoc, List.cons.injEq, Line.includeStart.injEq] at h
      obtain ⟨rfl, hbody⟩ := h
      obtain ⟨rfl, hrest⟩ := ihbody (Or.inr ⟨_, _, rfl⟩) (Or.inr ⟨_, _, rfl⟩) hbody
      obtain ⟨rfl, rfl⟩ := ih hs ht (List.cons.inj hrest).2
      exact ⟨rfl, rfl⟩

/-- a flattened source can be read as an outline in one way only -/
theorem lines_injective : Function.Injective lines := by
  intro a b h
  refine (lines_append_inj (Or.inl rfl) (Or.inl rfl) ?_).1
  rw [h]

end Outline

/-! ## What an outline should be -/

section Spec

variable {ι κ : Type}

/-- an include opens a file: it resolves to it, the file is not open, the limit allows it, and it can be read -/
structure Library.Opens (library : Library ι κ) (limit : Option ℕ) (stack : List ι) (context : κ) (path : Text)
    (file : Opened ι κ) : Prop where
  resolved : library.resolve context path = .ok file.toResolved
  fresh : file.identity ∉ stack
  within : ∀ n ∈ limit, stack.length ≤ n
  read : library.read file.identity = .ok file.text

/-- an include opens no file, and the sentinel says why -/
inductive Library.Refuses (library : Library ι κ) (limit : Option ℕ) (stack : List ι) (context : κ) (path : Text) :
    Sentinel → Prop where
  | unresolved {reason : Text} (resolved : library.resolve context path = .error reason) :
    Refuses library limit stack context path (.missing path)
  | circular {file : Resolved ι κ} (resolved : library.resolve context path = .ok file)
      (isOpen : file.identity ∈ stack) : Refuses library limit stack context path (.circular file.display)
  | tooDeep {file : Resolved ι κ} {n : ℕ} (resolved : library.resolve context path = .ok file)
      (fresh : file.identity ∉ stack) (past : n ∈ limit) (deep : n < stack.length) :
    Refuses library limit stack context path (.depthLimit file.display n)
  | unreadable {file : Resolved ι κ} {reason : Text} (resolved : library.resolve context path = .ok file)
      (fresh : file.identity ∉ stack) (within : ∀ n ∈ limit, stack.length ≤ n)
      (unread : library.read file.identity = .error reason) :
    Refuses library limit stack context path (.missing file.display)

/-- what is written behind a piece: a newline behind the last piece of an included file that has none -/
def Outline.ending (inner : Bool) (piece : Text) (rest : List Text) : Text :=
  if inner = true ∧ rest = [] ∧ piece.getLast? ≠ some '\n' then ['\n'] else []

/-- an outline follows the pieces of a file, an included one or (not `inner`) the first, one by one -/
inductive Outline.Follows (library : Library ι κ) (limit : Option ℕ) :
    Bool → List ι → κ → List Text → Outline → Prop where
  | done {inner : Bool} {stack : List ι} {context : κ} : Follows library limit inner stack context [] .done
  | code {inner : Bool} {stack : List ι} {context : κ} {piece : Text} {rest : List Text} {outline : Outline}
      (plain : includePath? piece = none) (later : Follows library limit inner stack context rest outline) :
    Follows library limit inner stack context (piece :: rest) (.code (piece ++ ending inner piece rest) outline)
  | refused {inner : Bool} {stack : List ι} {context : κ} {piece path : Text} {rest : List Text}
      {sentinel : Sentinel} {outline : Outline} (directive : includePath? piece = some path)
      (refuses : library.Refuses limit stack context path sentinel)
      (later : Follows library limit inner stack context rest outline) :
    Follows library limit inner stack context (piece :: rest) (.refused path sentinel outline)
  | nested {inner : Bool} {stack : List ι} {context : κ} {piece path : Text} {rest : List Text} {file : Opened ι κ}
      {body outline : Outline} (directive : includePath? piece = some path)
      (opens : library.Opens limit stack context path file)
      (inside : Follows library limit true (file.identity :: stack) file.context (Text.pieces file.text) body)
      (later : Follows library limit inner stack context rest outline) :
    Follows library limit inner stack context (piece :: rest) (.nested path body outline)

/-- an outline has nothing to write exactly when there are no pieces -/
theorem Outline.Follows.lines_eq_nil_iff {library : Library ι κ} {limit : Option ℕ} {inner : Bool} {stack : List ι}
    {context : κ} {pieces : List Text} {outline : Outline}
    (h : outline.Follows library limit inner stack context pieces) : outline.lines = [] ↔ pieces = [] := by
  cases h <;> simp [Outline.lines]

end Spec

/-! ## Expansions follow the pieces -/

namespace Source

theorem closeLast_eq_nil {s : Source} : closeLast s = [] ↔ s = [] := by
  induction s using closeLast.induct with
  | case1 => simp [closeLast]
  | case2 line => simp [closeLast]
  | case3 line next rest _ => simp [closeLast]

/-- closing a piece of an included file that comes last, and no other, writes its ending -/
theorem closeLast_code (piece : Text) (rest : List Text) {s : Source} (h : s = [] ↔ rest = []) :
    closeLast (.code piece :: s) = .code (piece ++ Outline.ending true piece rest) :: closeLast s := by
  cases rest with
  | nil =>
    rw [h.2 rfl]
    by_cases hend : piece.getLast? = some '\n'
    · simp [closeLast, Line.closed, Outline.ending, hend]
    · simp [closeLast, Line.closed, Outline.ending, hend]
  | cons next rest =>
    have hs : s ≠ [] := fun hs => by cases h.1 hs
    have hending : Outline.ending true piece (next :: rest) = [] := by simp [Outline.ending]
    rw [hending, List.append_nil]
    exact closeLast_append_of_ne_nil [.code piece] hs

/-- the end of an include is a line of its own, so closing goes on behind it -/
theorem closeLast_append_end (a b : Source) (path : Text) :
    closeLast (a ++ .includeEnd path :: b) = a ++ .includeEnd path :: closeLast b := by
  rw [closeLast_append_of_ne_nil a (by simp)]
  cases b with
  | nil => rfl
  | cons line b => rfl

end Source

namespace Library

variable {ι κ : Type} {library : Library ι κ} {limit : Option ℕ}

theorem pastLimit_eq_none_iff {stack : List ι} : pastLimit limit stack = none ↔ ∀ n ∈ limit, stack.length ≤ n := by
  rw [pastLimit_eq_filter, Option.filter_eq_none_iff]
  simp

variable [DecidableEq ι]

theorem opens_of_enter {stack : List ι} {context : κ} {path : Text} {file : Opened ι κ}
    (h : library.enter limit stack ⟨path, context⟩ = .ok file) : library.Opens limit stack context path file := by
  unfold enter at h
  split at h
  · cases h
  · rename_i hresolve
    split_ifs at h with hin
    · split at h
      · cases h
      · rename_i hwithin
        split at h
        · cases h
        · rename_i hread
          cases h
          exact ⟨hresolve, hin, pastLimit_eq_none_iff.1 hwithin, hread⟩

theorem refuses_of_enter {stack : List ι} {context : κ} {path : Text} {why : Skip ι κ}
    (h : library.enter limit stack ⟨path, context⟩ = .error why) :
    ∃ sentinel, library.Refuses limit stack context path sentinel ∧ why.line ⟨path, context⟩ = sentinel.line := by
  unfold enter at h
  split at h
  · rename_i hresolve
    cases h
    exact ⟨_, .unresolved hresolve, rfl⟩
  · rename_i hresolve
    split_ifs at h with hin
    · cases h
      exact ⟨_, .circular hresolve hin, rfl⟩
    · split at h
      · rename_i n hpast
        cases h
        rw [pastLimit_eq_filter, Option.filter_eq_some_iff] at hpast
        exact ⟨_, .tooDeep hresolve hin hpast.1 (by simpa using hpast.2), rfl⟩
      · rename_i hwithin
        split at h
        · rename_i hread
          cases h
          exact ⟨_, .unreadable hresolve hin (pastLimit_eq_none_iff.1 hwithin) hread, rfl⟩
        · cases h

/-- the lines of an expansion, closed if the file is an included one, are those of an outline that follows its pieces -/
theorem exists_follows (stack : List ι) (context : κ) (pieces : List Text) (inner : Bool) :
    ∃ outline : Outline, outline.Follows library limit inner stack context pieces ∧
      outline.lines =
        if inner then Source.closeLast (library.expand limit stack context pieces).lines
        else (library.expand limit stack context pieces).lines := by
  refine expand_induction library limit
    (motive := fun stack context pieces tree => ∀ inner : Bool, ∃ outline : Outline,
      outline.Follows library limit inner stack context pieces ∧
        outline.lines = if inner then Source.closeLast tree.lines else tree.lines)
    ?_ ?_ ?_ ?_ stack context pieces inner
  · intro stack context inner
    exact ⟨.done, .done, by cases inner <;> rfl⟩
  · intro stack context piece rest tree hplain ih inner
    obtain ⟨outline, hfollows, hlines⟩ := ih inner
    refine ⟨_, .code hplain hfollows, ?_⟩
    cases inner with
    | false =>
      have hending : Outline.ending false piece rest = [] := by simp [Outline.ending]
      rw [Outline.lines, hlines, hending, List.append_nil]
      rfl
    | true =>
      have hempty : tree.lines = [] ↔ rest = [] := by
        rw [← hfollows.lines_eq_nil_iff, hlines]
        exact Source.closeLast_eq_nil.symm
      rw [Outline.lines, hlines]
      exact (Source.closeLast_code piece rest hempty).symm
  · intro stack context piece rest path why tree hpath hentered ih inner
    obtain ⟨outline, hfollows, hlines⟩ := ih inner
    obtain ⟨sentinel, hrefuses, hsentinel⟩ := refuses_of_enter hentered
    refine ⟨_, .refused hpath hrefuses hfollows, ?_⟩
    have hclose := Source.closeLast_append_end [.includeStart path, sentinel.line] tree.lines path
    simp only [List.cons_append, List.nil_append] at hclose
    rw [Outline.lines, hlines, Expansion.lines, hsentinel, hclose]
    cases inner <;> rfl
  · intro stack context piece rest path file body tree hpath hentered ihbody ih inner
    obtain ⟨outline, hfollows, hlines⟩ := ih inner
    obtain ⟨inside, hinside, hbody⟩ := ihbody true
    refine ⟨_, .nested hpath (opens_of_enter hentered) hinside hfollows, ?_⟩
    have hclose := Source.closeLast_append_end (.includeStart path :: Source.closeLast body.lines) tree.lines path
    rw [List.cons_append] at hclose
    rw [Outline.lines, hlines, hbody, Expansion.lines, hclose]
    cases inner <;> rfl

theorem lines_expand_of_plain (stack : List ι) (context : κ) {pieces : List Text}
    (h : ∀ piece ∈ pieces, includePath? piece = none) :
    (library.expand limit stack context pieces).lines = pieces.map .code := by
  induction pieces with
  | nil => rw [expand_nil]; rfl
  | cons piece rest ih =>
    rw [expand_code (h piece List.mem_cons_self), Expansion.lines, List.map_cons,
      ih fun other hother => h other (List.mem_cons_of_mem piece hother)]

end Library

/-- **The include tree.** What a file is flattened to is one sentinel, which says why it was not opened, or the lines of
one outline and no other; that outline follows the pieces of the file and of every file that is opened on the way. A
file without directives is flattened to its own text. -/
theorem flatten_outline {ι κ : Type} [DecidableEq ι] (library : Library ι κ) (limit : Option ℕ) (context : κ)
    (path : Text) :
    (∃ sentinel, library.Refuses limit [] context path sentinel ∧
      (library.flatten limit context path).source = [sentinel.line]) ∨
    ∃ file outline, library.Opens limit [] context path file ∧
      outline.Follows library limit false [file.identity] file.context (Text.pieces file.text) ∧
      (library.flatten limit context path).source = outline.lines ∧
      (∀ other : Outline, (library.flatten limit context path).source = other.lines → other = outline) ∧
      ((∀ piece ∈ Text.pieces file.text, includePath? piece = none) →
        (library.flatten limit context path).source.text = file.text) := by
  cases hentered : library.enter limit [] ⟨path, context⟩ with
  | error why =>
    left
    obtain ⟨sentinel, hrefuses, hline⟩ := Library.refuses_of_enter hentered
    refine ⟨sentinel, hrefuses, ?_⟩
    simp [Library.flatten, Flattening.source, hentered, hline]
  | ok file =>
    right
    have hsource : (library.flatten limit context path).source =
        (library.expand limit [file.identity] file.context (Text.pieces file.text)).lines := by
      simp [Library.flatten, Flattening.source, hentered]
    obtain ⟨outline, hfollows, hlines⟩ :=
      library.exists_follows [file.identity] file.context (Text.pieces file.text) false
    rw [hsource]
    refine ⟨file, outline, Library.opens_of_enter hentered, hfollows, hlines.symm, fun other hother => ?_,
      fun hplain => ?_⟩
    · exact Outline.lines_injective (hother.symm.trans hlines.symm)
    · rw [Library.lines_expand_of_plain _ _ hplain, Source.text, List.flatMap_map]
      exact List.flatMap_id'.trans (Text.flatten_pieces file.text)

/-- a file that includes another one, which includes the first again -/
theorem flatten_outline_nested :
    let catalog : Catalog :=
      ⟨[("main", "int a;\n#include \"lib\"\nint b;\n"), ("lib", "  #include \"main\"\nfloat x;")], [], []⟩
    let outline : Outline :=
      .code "int a;\n" (.nested "lib" (.refused "main" (.circular "main") (.code "float x;\n" .done))
        (.code "int b;\n" .done))
    (catalog.library.flatten none [] "main").source = outline.lines ∧
      ∃ file, catalog.library.Opens none [] [] "main" file ∧
        outline.Follows catalog.library none false [file.identity] file.context (Text.pieces file.text) := by
  intro catalog outline
  have hsource : (catalog.library.flatten none [] "main").source = outline.lines := by decide +kernel
  refine ⟨hsource, ?_⟩
  rcases flatten_outline catalog.library none [] "main" with
    ⟨sentinel, -, hsentinel⟩ | ⟨file, found, hopens, hfollows, -, hunique, -⟩
  · -- a sentinel stands alone
    have hlength := congrArg List.length (hsource.symm.trans hsentinel)
    cases hlength
  · rw [hunique outline hsource]
    exact ⟨file, hopens, hfollows⟩

end GlslInspect
