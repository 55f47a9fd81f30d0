/-
Paths, and locations as stacks of names.

A path is a list of units: the bytes that the system keeps, or the characters that are shown of them. All that is read
off it are two of the units, the slash and the dot (`PathUnit`), so both are taken apart by the same functions, which
are those of the runtime library.

A path is cut at slashes. Empty segments and single dots name nothing and are passed over; a double dot goes up; any
other segment is a name. `Path.walk` evaluates segments on a stack of names, which is all that `Location` is. That two
spellings of one place give the same stack is not built into `Path.normalize`, which works on the path as it is written:
component after component is pushed to a buffer or popped from its end.
-/
import GlslInspect.Text.Basic

namespace GlslInspect

/-- a place in the file tree: the names on the way from the root -/
abbrev Location := List Text

class PathUnit (α : Type) where
  slash : α
  dot : α
  slash_ne_dot : slash ≠ dot

instance : PathUnit Char := ⟨'/', '.', by decide⟩

instance : PathUnit UInt8 := ⟨0x2f, 0x2e, by decide⟩

@[simp] theorem PathUnit.slash_char : (PathUnit.slash : Char) = '/' := rfl

@[simp] theorem PathUnit.dot_char : (PathUnit.dot : Char) = '.' := rfl

namespace Path

open PathUnit

variable {α : Type} [DecidableEq α] [PathUnit α]

/-- whether a path starts at the root -/
def isAbsolute (path : List α) : Bool := path.head? = some slash

/-- a path taken relative to another: an absolute one replaces it, any other is put after a slash -/
def join (base path : List α) : List α :=
  if isAbsolute path || base.isEmpty then path
  else if base.getLast? = some slash then base ++ path
  else base ++ slash :: path

def segments (path : List α) : List (List α) := Text.splitOn slash path

/-- whether a segment names nothing -/
def isIdle (segment : List α) : Bool := segment = [] || segment = [dot]

/-- the effect of one segment on a stack of names -/
def step (place : List (List α)) (segment : List α) : List (List α) :=
  if isIdle segment then place
  else if segment = [dot, dot] then place.dropLast
  else place ++ [segment]

/-- follow segments from a location, by their spelling alone -/
def walk (place : List (List α)) (segments : List (List α)) : List (List α) := segments.foldl step place

/-- the location that a path names, seen from a working directory, by its spelling alone -/
def locate (cwd : List (List α)) (path : List α) : List (List α) :=
  walk (if isAbsolute path then [] else cwd) (segments path)

/-- the absolute path made of names -/
def rooted (names : List (List α)) : List α := slash :: Text.join [slash] names

/-- what a path stands on before its first name: the root, a leading dot, or nothing; and the rest -/
def anchor (path : List α) : List α × List α :=
  if path.head? = some slash then ([slash], path.tail)
  else if path = [dot] ∨ path.take 2 = [dot, slash] then ([dot], path.tail)
  else ([], path)

def dropIdle (segments : List (List α)) : List (List α) := (segments.reverse.dropWhile isIdle).reverse

/-- the segments after the anchor, up to the last that names something -/
def body (path : List α) : List (List α) := dropIdle (segments (anchor path).2)

/-- the path without its last component, if it has one -/
def parent? (path : List α) : Option (List α) :=
  match body path with
  | [] => if (anchor path).1 = [dot] then some [] else none
  | segments => some ((anchor path).1 ++ Text.join [slash] (dropIdle segments.dropLast))

/-- the directory that a path's own includes are taken relative to -/
def directory (path : List α) : List α := (parent? path).getD []

def fileName? (path : List α) : Option (List α) :=
  match (body path).getLast? with
  | some segment => if segment = [dot, dot] then none else some segment
  | none => none

/-- the last component, or the whole path when that is no name -/
def shortName (path : List α) : List α := (fileName? path).getD path

/-- what stands after the last dot of a file name, when something stands before that dot -/
def extension? (name : List α) : Option (List α) :=
  match name.reverse.dropWhile (· ≠ dot) with
  | [] => none
  | [_] => none
  | _ :: _ :: _ => some (name.reverse.takeWhile (· ≠ dot)).reverse

/-! ## Components -/

inductive Component (α : Type) where
  | root
  | current
  | parent
  | normal (name : List α)
  deriving DecidableEq, Repr

/-- the component that a segment is, unless it is passed over -/
def component? (segment : List α) : Option (Component α) :=
  if isIdle segment then none
  else if segment = [dot, dot] then some .parent
  else some (.normal segment)

/-- the components of a path; of single dots only a leading one counts -/
def components (path : List α) : List (Component α) :=
  let rest := (segments path).filterMap component?
  if isAbsolute path then .root :: rest
  else if (anchor path).1 = [dot] then .current :: rest
  else rest

/-- take the last component off, if there is one that can be taken off -/
def pop (path : List α) : List α := (parent? path).getD path

/-- what a component does to the path that is built up -/
def append (built : List α) : Component α → List α
  | .root => join built [slash]
  | .current => built
  | .parent => pop built
  | .normal name => join built name

/-- a path without dots and double dots, by its spelling alone -/
def normalize (path : List α) : List α := (components path).foldl append []

end Path

def Location.text (place : Location) : Text := Path.rooted place

end GlslInspect
