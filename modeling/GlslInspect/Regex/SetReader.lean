/-
Reading a set in brackets.

Sets can stand in sets, and operators between their members, which are taken from the left. The readers keep the open
sets, the innermost first; a fault of a set that is never closed is about its opening.
-/
import GlslInspect.Regex.Escape

namespace GlslInspect.Regex

def asciiSets : List (Text × CodeSet) := [
  ("alnum", ⟨[48, 58, 65, 91, 97, 123]⟩), ("alpha", ⟨[65, 91, 97, 123]⟩), ("ascii", ⟨[0, 128]⟩),
  ("blank", ⟨[9, 10, 32, 33]⟩), ("cntrl", ⟨[0, 32, 127, 128]⟩), ("digit", ⟨[48, 58]⟩), ("graph", ⟨[33, 127]⟩),
  ("lower", ⟨[97, 123]⟩), ("print", ⟨[32, 127]⟩), ("punct", ⟨[33, 48, 58, 65, 91, 97, 123, 127]⟩),
  ("space", ⟨[9, 14, 32, 33]⟩), ("upper", ⟨[65, 91]⟩), ("word", ⟨[48, 58, 65, 91, 95, 96, 97, 123]⟩),
  ("xdigit", ⟨[48, 58, 65, 71, 97, 103]⟩)]

/-- a named set of ASCII characters between colons and brackets; the cursor stands on the bracket -/
def asciiSet? (cursor : Cursor) : Option (SetTerm × Cursor) := do
  let t ← Text.after? "[:" cursor.rest
  let negated := t.head? = some '^'
  let t := if negated then t.drop 1 else t
  let name := t.takeWhile (· ≠ ':')
  let rest ← Text.after? ":]" (t.drop name.length)
  let codes ← asciiSets.lookup name
  let last := cursor.skip (cursor.rest.length - rest.length)
  some (.ascii codes negated (last.since cursor.here), last)

structure OpenSet where
  /-- its bracket and what else belongs to its opening -/
  opening : Span
  negated : Bool
  /-- what stands in front of the last operator -/
  pending : Option (SetTerm × SetOperator)
  /-- the members after that, the latest first -/
  members : List SetTerm
  /-- where these members stand -/
  span : Span

namespace OpenSet

def add (set : OpenSet) (member : SetTerm) : OpenSet :=
  { set with
    members := member :: set.members
    span := if set.members.isEmpty then member.span else ⟨set.span.first, member.span.past⟩ }

/-- the members after the last operator, as one -/
def operand (set : OpenSet) : SetTerm :=
  match set.members with
  | [] => .empty set.span
  | [member] => member
  | members => .union members.reverse set.span

def inside (set : OpenSet) : SetTerm :=
  match set.pending with
  | none => set.operand
  | some (left, operator) => .combined operator left set.operand ⟨left.span.first, set.operand.span.past⟩

def operate (set : OpenSet) (operator : SetOperator) (cursor : Cursor) : OpenSet :=
  { set with pending := some (set.inside, operator), members := [], span := cursor.point }

def stretch (set : OpenSet) (cursor : Cursor) : Span := cursor.since set.opening.first

/-- the fault of a set that is never closed -/
def unclosed (set : OpenSet) : Fault := FaultKind.setUnclosed.at set.opening

/-- read hyphens that stand for themselves at the beginning of a set -/
def hyphens (cursor : Cursor) : List SetTerm × Cursor :=
  match _rest : cursor.rest with
  | '-' :: _ =>
    let (more, last) := hyphens cursor.next
    (.char ⟨'-', false, cursor.charSpan⟩ :: more, last)
  | _ => ([], cursor)
termination_by cursor.rest.length
decreasing_by exact Cursor.length_next (by simp [_rest])

/-- read how a set begins: its bracket, a caret, and hyphens or a closing bracket that stand for themselves -/
def begin (cursor : Cursor) : Except Fault (OpenSet × Cursor) :=
  let first := cursor.here
  let afterBracket := cursor.next
  let negated := afterBracket.isOn '^'
  let afterCaret := if negated then afterBracket.next else afterBracket
  let (hyphens, afterHyphens) := hyphens afterCaret
  let empty (last : Cursor) : OpenSet := ⟨last.since first, negated, none, [], afterCaret.point⟩
  match afterHyphens.rest with
  | [] => .error (FaultKind.setUnclosed.at (if hyphens.isEmpty then afterHyphens.since first else cursor.point))
  | c :: _ =>
    if hyphens.isEmpty ∧ c = ']' then
      let last := afterHyphens.next
      if last.isEnd then .error (FaultKind.setUnclosed.at (last.since first))
      else .ok ((empty last).add (.char ⟨']', false, afterHyphens.charSpan⟩), last)
    else .ok (hyphens.foldl add (empty afterHyphens), afterHyphens)

end OpenSet

def Atom.asMember : Atom → Except Fault SetTerm
  | .char literal => .ok (.char literal)
  | .shorthand kind negated span => .ok (.shorthand kind negated span)
  | .property name negated span => .ok (.property name negated span)
  | .edge _ span => .error (FaultKind.setEscape.at span)

def Atom.asBound : Atom → Except Fault Literal
  | .char literal => .ok literal
  | atom => .error (FaultKind.setRangeBound.at atom.span)

/-- read a member or a range of an open set; the cursor stands on its first character -/
def readMember (set : OpenSet) (c : Char) (cursor : Cursor) : Except Fault (SetTerm × Cursor) := do
  let (low, last) ← readAtom c cursor
  let next := last.skipLoose
  if next.isEnd then .error set.unclosed
  else if !next.isOn '-' || next.peek? = some ']' || next.peek? = some '-' then .ok (← low.asMember, next)
  else
    let start := next.next
    match start.rest with
    | [] => .error set.unclosed
    | d :: _ =>
      let (high, last) ← readAtom d start
      let lowest ← low.asBound
      let highest ← high.asBound
      if lowest.char ≤ highest.char then .ok (.range lowest highest, last)
      else .error (FaultKind.setRangeReversed.at ⟨low.span.first, high.span.past⟩)

/-- the operator between sets that comes next -/
def operator? : Text → Option SetOperator
  | '&' :: '&' :: _ => some .inter
  | '-' :: '-' :: _ => some .minus
  | '~' :: '~' :: _ => some .differing
  | _ => none

/-- what is read in one step inside a set: a set that is open now with those around it, or the end of the outermost -/
inductive SetStep where
  | inside (set : OpenSet) (outer : List OpenSet) (cursor : Cursor)
  | done (term : Term) (cursor : Cursor)

/-- read one part of a set into the innermost of the open sets -/
def readSetStep (c : Char) (cursor : Cursor) (set : OpenSet) (outer : List OpenSet) : Except Fault SetStep := do
  if c = '[' then
    match asciiSet? cursor with
    | some (member, last) => .ok (.inside (set.add member) outer last)
    | none =>
      let (inner, last) ← OpenSet.begin cursor
      .ok (.inside inner (set :: outer) last)
  else if c = ']' then
    let last := cursor.bump
    match outer with
    | [] => .ok (.done (.bracket set.negated set.inside (set.stretch last)) last)
    | around :: outer =>
      .ok (.inside (around.add (.bracket set.negated set.inside (set.stretch last))) outer last)
  else
    match operator? cursor.rest with
    | some operator =>
      let last := cursor.skip 2
      .ok (.inside (set.operate operator last) outer last)
    | none =>
      let (member, last) ← readMember set c cursor
      .ok (.inside (set.add member) outer last)

/-- read on in the innermost of some open sets, until the outermost is closed, in so many steps at most -/
def readSetFrom : Nat → Cursor → OpenSet → List OpenSet → Except Fault (Term × Cursor)
  | 0, _, set, _ => .error set.unclosed
  | steps + 1, cursor, set, outer => do
    let start := cursor.skipLoose
    match start.rest with
    | [] => .error set.unclosed
    | c :: _ =>
      match ← readSetStep c start set outer with
      | .done term last => .ok (term, last)
      | .inside set outer last => readSetFrom steps last set outer

/-- read a set in brackets, in so many steps at most; the cursor stands on the bracket -/
def readSet (steps : Nat) (cursor : Cursor) : Except Fault (Term × Cursor) := do
  let (set, last) ← OpenSet.begin cursor
  readSetFrom steps last set []

end GlslInspect.Regex
