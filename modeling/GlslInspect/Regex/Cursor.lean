/-
A place in an expression that is being read.

A cursor has its position and the rest of the expression. Where an expression is written loosely, blanks and comments
between its parts are passed over. Every move forward leaves less to read (`length_bump`, `length_next`), so a run of
characters comes to an end.
-/
import GlslInspect.Regex.Fault
import GlslInspect.Text.Blank

namespace GlslInspect.Regex

/-- how far an expression is read -/
structure Cursor where
  here : Position
  rest : Text
  /-- whether blanks and comments are passed over -/
  loose : Bool
  deriving DecidableEq, Repr

/-- how many blanks and characters of comments stand at the beginning; a comment reaches from a hash mark to the end
of its line -/
def looseRun : (inComment : Bool) → Text → Nat
  | _, [] => 0
  | true, c :: t => 1 + looseRun (c ≠ '\n') t
  | false, c :: t => if isBlank c then 1 + looseRun false t else if c = '#' then 1 + looseRun true t else 0

namespace Cursor

def start (expression : Text) : Cursor := ⟨.start, expression, false⟩

/-- whether nothing is left -/
def isEnd (cursor : Cursor) : Bool := cursor.rest.isEmpty

def isOn (cursor : Cursor) (c : Char) : Bool := cursor.rest.head? = some c

/-- past some characters -/
def skip (cursor : Cursor) (n : Nat) : Cursor :=
  { cursor with here := (cursor.rest.take n).foldl Position.behind cursor.here, rest := cursor.rest.drop n }

/-- past one character -/
def bump (cursor : Cursor) : Cursor := cursor.skip 1

/-- past blanks and comments, where these are passed over -/
def skipLoose (cursor : Cursor) : Cursor := if cursor.loose then cursor.skip (looseRun false cursor.rest) else cursor

/-- past one character, and the blanks and comments after it -/
def next (cursor : Cursor) : Cursor := cursor.bump.skipLoose

/-- past blanks, also where these count -/
def skipBlanks (cursor : Cursor) : Cursor := cursor.skip (cursor.rest.takeWhile isBlank).length

/-- the stretch of no characters here -/
def point (cursor : Cursor) : Span := ⟨cursor.here, cursor.here⟩

def charSpan (cursor : Cursor) : Span := ⟨cursor.here, cursor.bump.here⟩

def since (cursor : Cursor) (first : Position) : Span := ⟨first, cursor.here⟩

theorem length_skip (cursor : Cursor) (n : Nat) : (cursor.skip n).rest.length = cursor.rest.length - n := by
  simp [skip]

theorem length_bump {cursor : Cursor} (h : cursor.rest ≠ []) : cursor.bump.rest.length < cursor.rest.length := by
  have := List.length_pos_iff.2 h
  rw [bump, length_skip]
  omega

theorem length_skipLoose (cursor : Cursor) : cursor.skipLoose.rest.length ≤ cursor.rest.length := by
  unfold skipLoose
  split
  · rw [length_skip]
    omega
  · exact Nat.le_refl _

theorem length_next {cursor : Cursor} (h : cursor.rest ≠ []) : cursor.next.rest.length < cursor.rest.length :=
  Nat.lt_of_le_of_lt (length_skipLoose _) (length_bump h)

/-- the characters of a kind that come next, and where they end -/
def gather (p : Char → Bool) (cursor : Cursor) : Text × Cursor :=
  match _rest : cursor.rest with
  | [] => ([], cursor)
  | c :: _ =>
    if p c then
      let (run, last) := gather p cursor.next
      (c :: run, last)
    else ([], cursor)
termination_by cursor.rest.length
decreasing_by exact length_next (by simp [_rest])

/-- the character after the next one, past what is passed over; a comment is only looked into up to its first
character -/
def peek? (cursor : Cursor) : Option Char :=
  let after := cursor.bump.rest
  if cursor.loose then
    let solid := after.dropWhile isBlank
    let solid := if solid.head? = some '#' then (solid.drop 1).dropWhile isBlank else solid
    solid.head?.or after.head?
  else after.head?

end Cursor

def FaultKind.at (kind : FaultKind) (span : Span) : Fault := ⟨kind, span, none⟩

def FaultKind.against (kind : FaultKind) (span other : Span) : Fault := ⟨kind, span, some other⟩

end GlslInspect.Regex
