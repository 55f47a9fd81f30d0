/-
Reading an expression.

The notions are the usual ones: a bar between choices, groups in parentheses with flags or a name, repetition by a star,
a plus, a question mark or counts in braces, sets in brackets, a dot, anchors, and a backslash for what has no character
of its own. `Term.read` gives the expression as it is written, or the first fault.
-/
import GlslInspect.Regex.SetReader
import GlslInspect.Regex.Unicode.Property

namespace GlslInspect.Regex

/-! ## repetitions -/

def readCount (cursor : Cursor) : Except Fault Nat × Cursor :=
  let start := cursor.skipBlanks
  let (digits, last) := start.gather Char.isDigit
  let next := (last.gather isBlank).2
  let value := CodeSet.decimal digits
  if digits.isEmpty then (.error (FaultKind.countMissing.at (last.since start.here)), next)
  else if 4294967295 < value then (.error (FaultKind.countTooLarge.at (last.since start.here)), next)
  else (.ok value, next)

/-- read counts in braces up to the closing brace; the cursor stands on the opening one -/
def readCounts (cursor : Cursor) : Except Fault (Nat × Option Nat × Cursor) := do
  let unclosed (last : Cursor) : Fault := FaultKind.countUnclosed.at (last.since cursor.here)
  let start := cursor.next
  if start.isEnd then .error (unclosed start)
  let (least, last) := readCount start
  match last.rest with
  | [] => .error (unclosed last)
  | ',' :: _ =>
    let last := last.next
    match last.rest with
    | [] => .error (unclosed last)
    | '}' :: _ => .ok (← least, none, last)
    | _ =>
      let least ← least
      let (most, last) := readCount last
      let most ← most
      if last.isOn '}' then .ok (least, some most, last) else .error (unclosed last)
  | c :: _ =>
    let least ← least
    if c = '}' then .ok (least, some least, last) else .error (unclosed last)

/-- past the question mark that makes a repetition content with little, and whether there is none -/
def Cursor.skipEagerness (cursor : Cursor) : Bool × Cursor :=
  if cursor.isOn '?' then (false, cursor.bump) else (true, cursor)

/-! ## groups -/

structure OpenGroup where
  /-- its parenthesis -/
  opening : Span
  captured : Bool
  flags : List FlagItem
  /-- whether blanks and comments were passed over in front of it -/
  wasLoose : Bool
  /-- the choices that are finished, the latest first -/
  choices : List Term
  /-- where the first choice begins -/
  choicesFirst : Position
  /-- the parts of the last choice, the latest first -/
  parts : List Term
  /-- where the last choice begins -/
  first : Position

namespace OpenGroup

/-- a group with nothing in it so far -/
def begin (opening : Span) (captured : Bool) (flags : List FlagItem) (wasLoose : Bool) (here : Position) : OpenGroup :=
  ⟨opening, captured, flags, wasLoose, [], here, [], here⟩

def lastChoice (group : OpenGroup) (past : Position) : Term :=
  match group.parts with
  | [] => .empty ⟨group.first, past⟩
  | [part] => part
  | parts => .sequence parts.reverse ⟨group.first, past⟩

/-- all that is in the group, when it ends somewhere -/
def body (group : OpenGroup) (past : Position) : Term :=
  match group.choices with
  | [] => group.lastChoice past
  | choices => .choice (group.lastChoice past :: choices).reverse ⟨group.choicesFirst, past⟩

def add (group : OpenGroup) (part : Term) : OpenGroup := { group with parts := part :: group.parts }

/-- begin another choice; the cursor stands on the bar -/
def divide (group : OpenGroup) (cursor : Cursor) : OpenGroup :=
  { group with
    choices := group.lastChoice cursor.here :: group.choices
    parts := []
    first := cursor.bump.here }

/-- the part that is to be repeated, and the group without it; flags cannot be repeated -/
def takeLast (group : OpenGroup) (cursor : Cursor) : Except Fault (Term × OpenGroup) :=
  match group.parts with
  | [] => .error (FaultKind.repetitionMissing.at cursor.point)
  | .flags _ _ :: _ => .error (FaultKind.repetitionMissing.at cursor.point)
  | part :: parts => .ok (part, { group with parts := parts })

end OpenGroup

/-- how far an expression is read, and what is open -/
structure Reading where
  cursor : Cursor
  /-- the names of groups so far, and where they stand -/
  names : List (Text × Span)
  group : OpenGroup
  outer : List OpenGroup

namespace Reading

def start (expression : Text) : Reading :=
  ⟨Cursor.start expression, [], OpenGroup.begin ⟨.start, .start⟩ false [] false .start, []⟩

/-- a part was read, and the reading is somewhere else now -/
def add (reading : Reading) (part : Term) (cursor : Cursor) : Reading :=
  { reading with cursor := cursor, group := reading.group.add part }

/-- a group begins -/
def enter (reading : Reading) (opening : Span) (captured : Bool) (flags : List FlagItem) (cursor : Cursor) : Reading :=
  let wasLoose := reading.cursor.loose
  let loose := (FlagItem.setting? .loose false flags).getD wasLoose
  { reading with
    cursor := { cursor with loose := loose }
    group := OpenGroup.begin opening captured flags wasLoose cursor.here
    outer := reading.group :: reading.outer }

/-- the innermost group ends; the cursor stands on the parenthesis -/
def leave (reading : Reading) : Except Fault Reading :=
  match reading.outer with
  | [] => .error (FaultKind.groupUnopened.at reading.cursor.charSpan)
  | around :: outer =>
    let group := reading.group
    let last := reading.cursor.bump
    let term := Term.group group.captured group.flags (group.body reading.cursor.here) (last.since group.opening.first)
    .ok { reading with cursor := { last with loose := group.wasLoose }, group := around.add term, outer := outer }

/-- a part is repeated; the cursor stands on the mark of repetition -/
def again (reading : Reading) (least : Nat) (most : Option Nat) : Except Fault Reading := do
  let (part, group) ← reading.group.takeLast reading.cursor
  let (eager, last) := reading.cursor.bump.skipEagerness
  let span := last.since part.span.first
  .ok { reading with cursor := last, group := group.add (.repeated least most eager part span) }

/-- a part is repeated as counts say; the cursor stands on the brace -/
def counted (reading : Reading) : Except Fault Reading := do
  let (part, group) ← reading.group.takeLast reading.cursor
  let (least, most, brace) ← readCounts reading.cursor
  let (eager, last) := brace.next.skipEagerness
  if most.any (· < least) then .error (FaultKind.countReversed.at (last.since reading.cursor.here))
  let span := last.since part.span.first
  .ok { reading with cursor := last, group := group.add (.repeated least most eager part span) }

end Reading

def Flag.ofChar? (c : Char) : Option Flag :=
  if c = 'i' then some .ignoreCase
  else if c = 'm' then some .multiLine
  else if c = 's' then some .dotAll
  else if c = 'U' then some .swapGreed
  else if c = 'u' then some .unicode
  else if c = 'R' then some .crlf
  else if c = 'x' then some .loose
  else none

/-- read flags up to the colon or the parenthesis after them, given those before and where they stand, and the hyphen if
it was the last -/
def readFlags (cursor : Cursor) (items : List (FlagItem × Span)) (dangling : Option Span) :
    Except Fault (List FlagItem × Cursor) := do
  match _rest : cursor.rest with
  | [] => .error (FaultKind.flagMissing.at cursor.point)
  | c :: _ =>
    if c = ':' ∨ c = ')' then
      match dangling with
      | some hyphen => .error (FaultKind.negationDangling.at hyphen)
      | none => .ok (items.reverse.map Prod.fst, cursor)
    else
      let item ← if c = '-' then .ok FlagItem.negation
        else
          match Flag.ofChar? c with
          | some flag => .ok (.flag flag)
          | none => .error (FaultKind.flagUnknown.at cursor.charSpan)
      match items.lookup item with
      | some other =>
        let kind := if item = .negation then FaultKind.negationRepeated else .flagRepeated
        .error (kind.against cursor.charSpan other)
      | none =>
        let dangling := if item = .negation then some cursor.charSpan else none
        readFlags cursor.bump ((item, cursor.charSpan) :: items) dangling
termination_by cursor.rest.length
decreasing_by exact Cursor.length_bump (by simp [_rest])

def nameStarts : CodeSet := PropertyRule.alphabetic.codes.union (.ofChar '_')

def nameContinues : CodeSet :=
  (nameStarts.union (Category.group 'N')).union (.ofCodes ("[].".toList.map Char.toNat))

def readName (cursor : Cursor) : Except Fault (Text × Cursor) :=
  let isNameChar (c : Char) : Bool := decide (c ≠ '>') && nameContinues.has c
  match cursor.rest with
  | [] => .error (FaultKind.nameUnclosed.at cursor.point)
  | c :: _ =>
    if c ≠ '>' && !nameStarts.has c then .error (FaultKind.nameCharacter.at cursor.charSpan)
    else
      let name := cursor.rest.takeWhile isNameChar
      let last := cursor.skip name.length
      if last.isEnd then .error (FaultKind.nameUnclosed.at last.point)
      else if !last.isOn '>' then .error (FaultKind.nameCharacter.at last.charSpan)
      else if name.isEmpty then .error (FaultKind.nameEmpty.at cursor.point)
      else .ok (name, last)

def Reading.enterNamed (reading : Reading) (opening : Span) (cursor : Cursor) : Except Fault Reading := do
  let (name, last) ← readName cursor
  match reading.names.lookup name with
  | some other => .error (FaultKind.nameRepeated.against (last.since cursor.here) other)
  | none =>
    .ok { reading.enter opening true [] last.bump with names := (name, last.since cursor.here) :: reading.names }

/-- read a group with flags, or flags alone; the cursor stands behind the question mark -/
def Reading.enterFlagged (reading : Reading) (opening : Span) (mark cursor : Cursor) : Except Fault Reading := do
  if cursor.isEnd then .error (FaultKind.groupUnclosed.at opening)
  let (flags, last) ← readFlags cursor [] none
  if last.isOn ':' then .ok (reading.enter opening false flags last.bump)
  else if flags.isEmpty then .error (FaultKind.repetitionMissing.at mark.point)
  else
    let past := last.bump
    let loose := (FlagItem.setting? .loose false flags).getD past.loose
    .ok (reading.add (.flags flags (past.since opening.first)) { past with loose := loose })

/-- the ways a group could begin that looks around instead of matching -/
def looks : List Text := ["?=", "?!", "?<=", "?<!"]

/-- read how a group begins; the cursor stands on the parenthesis -/
def Reading.open (reading : Reading) : Except Fault Reading :=
  let opening := reading.cursor.charSpan
  let mark := reading.cursor.next
  match looks.find? fun look => Text.startsWith look mark.rest with
  | some look => .error (FaultKind.lookAround.at ((mark.skip look.length).since opening.first))
  | none =>
    if Text.startsWith "?P<" mark.rest then reading.enterNamed opening (mark.skip 3)
    else if Text.startsWith "?<" mark.rest then reading.enterNamed opening (mark.skip 2)
    else if mark.isOn '?' then reading.enterFlagged opening mark mark.bump
    else .ok (reading.enter opening true [] mark)

/-! ## parts -/

def Atom.asTerm : Atom → Term
  | .char literal => .char literal
  | .shorthand kind negated span => .shorthand kind negated span
  | .property name negated span => .property name negated span
  | .edge mark span => .edge mark span

/-- read one part of an expression, in so many steps at most; the cursor stands on its first character -/
def Reading.step (reading : Reading) (steps : Nat) (c : Char) : Except Fault Reading := do
  let cursor := reading.cursor
  if c = '(' then reading.open
  else if c = ')' then reading.leave
  else if c = '|' then .ok { reading with cursor := cursor.bump, group := reading.group.divide cursor }
  else if c = '[' then
    let (term, last) ← readSet steps cursor
    .ok (reading.add term last)
  else if c = '*' then reading.again 0 none
  else if c = '+' then reading.again 1 none
  else if c = '?' then reading.again 0 (some 1)
  else if c = '{' then reading.counted
  else if c = '.' then .ok (reading.add (.dot cursor.charSpan) cursor.bump)
  else if c = '^' then .ok (reading.add (.edge .lineStart cursor.charSpan) cursor.bump)
  else if c = '$' then .ok (reading.add (.edge .lineEnd cursor.charSpan) cursor.bump)
  else
    let (atom, last) ← readAtom c cursor
    .ok (reading.add atom.asTerm last)

/-- the whole expression, when nothing is left to read; every group must be closed -/
def Reading.finish (reading : Reading) : Except Fault Term :=
  if reading.outer.isEmpty then .ok (reading.group.body reading.cursor.here)
  else .error (FaultKind.groupUnclosed.at reading.group.opening)

def readFrom : Nat → Reading → Except Fault Term
  | 0, reading => reading.finish
  | steps + 1, reading => do
    let start := { reading with cursor := reading.cursor.skipLoose }
    match start.cursor.rest with
    | [] => start.finish
    | c :: _ => readFrom steps (← start.step steps c)

/-- read an expression, which must not be nested too deeply; each step reads a character at least, so there are no
more steps than characters -/
def Term.read (expression : Text) : Except Fault Term := do
  let term ← readFrom (expression.length + 1) (Reading.start expression)
  match term.tooDeep? depthLimit with
  | some span => .error ((FaultKind.tooDeep depthLimit).at span)
  | none => .ok term

end GlslInspect.Regex
