/-
Expansion of include directives.

A text is expanded piece by piece: a piece that is no include directive stays as it is; a directive is either skipped,
for one of four reasons, or replaced by the expansion of the file it names. The outcome is a tree, `Expansion`, from
which the lines (`Expansion.lines`) and what happened on the way (`Expansion.events`) are read off.

The files that are open are kept on a stack. A file on the stack is never opened again, so expansion ends even when
files include each other: each opening leaves fewer readable files to open (`Library.unopened`).
-/
import GlslInspect.Include.Directive
import GlslInspect.Include.Library
import GlslInspect.Log
import GlslInspect.Source

namespace GlslInspect

/-- an include as it is asked for: the path as spelled, and the context of the asking file -/
structure Request (κ : Type := Text) where
  path : Text
  context : κ
  deriving DecidableEq, Repr

/-- why an include is not expanded -/
inductive Skip (ι : Type) (κ : Type := Text) where
  /-- the path means nothing -/
  | unresolved (reason : Text)
  /-- the file is open already -/
  | circular (file : Resolved ι κ)
  /-- more files are open than the limit allows -/
  | tooDeep (file : Resolved ι κ) (limit : Nat)
  /-- the file cannot be read -/
  | unreadable (file : Resolved ι κ) (reason : Text)
  deriving DecidableEq, Repr

structure Opened (ι : Type) (κ : Type := Text) extends Resolved ι κ where
  text : Text
  deriving DecidableEq, Repr

/-- what happens on the way: calls of the library, and notes -/
inductive Event (ι : Type) (κ : Type := Text) where
  | resolve (ask : Request κ)
  | read (identity : ι)
  | note (note : Note)
  deriving DecidableEq, Repr

inductive Expansion (ι : Type) (κ : Type := Text) where
  /-- nothing is left -/
  | done
  /-- a piece that is copied -/
  | code (piece : Text) (rest : Expansion ι κ)
  /-- an include that is not expanded -/
  | skipped (ask : Request κ) (why : Skip ι κ) (rest : Expansion ι κ)
  /-- an include that is expanded -/
  | nested (ask : Request κ) (file : Opened ι κ) (body rest : Expansion ι κ)
  deriving DecidableEq, Repr

namespace Skip

variable {ι κ : Type}

/-- the line that stands for an include that is not expanded -/
def line (ask : Request κ) : Skip ι κ → Line
  | .unresolved _ => .missing ask.path
  | .circular file => .circular file.display
  | .tooDeep file limit => .depthLimit file.display limit
  | .unreadable file _ => .missing file.display

/-- what happens when an include is not expanded -/
def events (depth : Nat) (ask : Request κ) : Skip ι κ → List (Event ι κ)
  | .unresolved reason => [.resolve ask, .note (.unresolved ask.path reason)]
  | .circular file => [.resolve ask, .note (.circular file.display)]
  | .tooDeep file limit => [.resolve ask, .note (.depthLimit limit file.display)]
  | .unreadable file reason =>
    [.resolve ask, .read file.identity, .note (.unreadable depth file.display reason)]

end Skip

def Opened.events {ι κ : Type} (depth : Nat) (ask : Request κ) (file : Opened ι κ) : List (Event ι κ) :=
  [.resolve ask, .read file.identity, .note (.processing depth file.display)]

namespace Expansion

variable {ι κ : Type}

/-- the lines of an expansion: an include stands between its two markers -/
def lines : Expansion ι κ → Source
  | .done => []
  | .code piece rest => .code piece :: lines rest
  | .skipped ask why rest => .includeStart ask.path :: why.line ask :: .includeEnd ask.path :: lines rest
  | .nested ask _ body rest =>
    .includeStart ask.path :: (Source.closeLast (lines body) ++ .includeEnd ask.path :: lines rest)

/-- what happens during an expansion, with `depth` files open -/
def events (depth : Nat) : Expansion ι κ → List (Event ι κ)
  | .done => []
  | .code _ rest => events depth rest
  | .skipped ask why rest => why.events depth ask ++ events depth rest
  | .nested ask file body rest =>
    file.events depth ask ++ events (depth + 1) body ++ events depth rest

end Expansion

namespace Library

variable {ι κ : Type} [DecidableEq ι]

/-- the limit, when more files are open than it allows -/
def pastLimit (limit : Option Nat) (stack : List ι) : Option Nat :=
  match limit with
  | some n => if n < stack.length then some n else none
  | none => none

/-- open a file for an include, or say why it is skipped; the reasons are tried in their order -/
def enter (library : Library ι κ) (limit : Option Nat) (stack : List ι) (ask : Request κ) :
    Except (Skip ι κ) (Opened ι κ) :=
  match library.resolve ask.context ask.path with
  | .error reason => .error (.unresolved reason)
  | .ok file =>
    if file.identity ∈ stack then .error (.circular file)
    else
      match pastLimit limit stack with
      | some n => .error (.tooDeep file n)
      | none =>
        match library.read file.identity with
        | .error reason => .error (.unreadable file reason)
        | .ok text => .ok { file with text := text }

theorem enter_eq_ok {library : Library ι κ} {limit : Option Nat} {stack : List ι} {ask : Request κ}
    {file : Opened ι κ} (h : library.enter limit stack ask = .ok file) :
    file.identity ∉ stack ∧ library.read file.identity = .ok file.text := by
  unfold enter at h
  split at h
  · cases h
  · split at h
    · cases h
    · rename_i fresh
      split at h
      · cases h
      · split at h
        · cases h
        · rename_i read
          cases h
          exact ⟨fresh, read⟩

/-- the expansion of pieces of a file, with a stack of open files -/
def expand (library : Library ι κ) (limit : Option Nat) (stack : List ι) (context : κ) (pieces : List Text) :
    Expansion ι κ :=
  pieces.foldr
    (fun piece rest =>
      match includePath? piece with
      | none => .code piece rest
      | some path =>
        match _entered : library.enter limit stack ⟨path, context⟩ with
        | .error why => .skipped ⟨path, context⟩ why rest
        | .ok file =>
          .nested ⟨path, context⟩ file
            (expand library limit (file.identity :: stack) file.context (Text.pieces file.text)) rest)
    .done
termination_by library.unopened stack
decreasing_by exact unopened_cons_lt (enter_eq_ok _entered).2 (enter_eq_ok _entered).1

variable {library : Library ι κ} {limit : Option Nat} {stack : List ι} {context : κ}

@[simp] theorem expand_nil : library.expand limit stack context [] = .done := by
  rw [expand, List.foldr_nil]

/-- a piece that is no directive is copied -/
theorem expand_code {piece : Text} {rest : List Text} (h : includePath? piece = none) :
    library.expand limit stack context (piece :: rest) =
      .code piece (library.expand limit stack context rest) := by
  rw [expand, List.foldr_cons, ← expand]
  simp [h]

/-- a directive whose file is not opened is skipped -/
theorem expand_skipped {piece path : Text} {rest : List Text} {why : Skip ι κ} (h : includePath? piece = some path)
    (entered : library.enter limit stack ⟨path, context⟩ = .error why) :
    library.expand limit stack context (piece :: rest) =
      .skipped ⟨path, context⟩ why (library.expand limit stack context rest) := by
  rw [expand, List.foldr_cons, ← expand]
  simp only [h]
  split
  · rename_i h'
    rw [entered] at h'
    cases h'
    rfl
  · rename_i h'
    rw [entered] at h'
    cases h'

/-- a directive whose file is opened is replaced by the expansion of that file -/
theorem expand_nested {piece path : Text} {rest : List Text} {file : Opened ι κ} (h : includePath? piece = some path)
    (entered : library.enter limit stack ⟨path, context⟩ = .ok file) :
    library.expand limit stack context (piece :: rest) =
      .nested ⟨path, context⟩ file
        (library.expand limit (file.identity :: stack) file.context (Text.pieces file.text))
        (library.expand limit stack context rest) := by
  rw [expand, List.foldr_cons, ← expand]
  simp only [h]
  split
  · rename_i h'
    rw [entered] at h'
    cases h'
  · rename_i h'
    rw [entered] at h'
    cases h'
    rfl

end Library

/-- the outcome of flattening a file: it was skipped, or opened and expanded -/
structure Flattening (ι : Type) (κ : Type := Text) where
  ask : Request κ
  result : Except (Skip ι κ) (Opened ι κ × Expansion ι κ)

namespace Flattening

variable {ι κ : Type}

def source (flattening : Flattening ι κ) : Source :=
  match flattening.result with
  | .error why => [why.line flattening.ask]
  | .ok (_, body) => body.lines

/-- what happened on the way -/
def events (flattening : Flattening ι κ) : List (Event ι κ) :=
  match flattening.result with
  | .error why => why.events 0 flattening.ask
  | .ok (file, body) => file.events 0 flattening.ask ++ body.events 1

def notes (flattening : Flattening ι κ) : List Note :=
  flattening.events.filterMap fun
    | .note note => some note
    | _ => none

end Flattening

/-- flatten a file: expand it and all that it includes, with at most `limit` includes inside each other -/
def Library.flatten {ι κ : Type} [DecidableEq ι] (library : Library ι κ) (limit : Option Nat) (context : κ)
    (path : Text) : Flattening ι κ where
  ask := ⟨path, context⟩
  result :=
    match library.enter limit [] ⟨path, context⟩ with
    | .error why => .error why
    | .ok file =>
      .ok (file, library.expand limit [file.identity] file.context (Text.pieces file.text))

end GlslInspect
