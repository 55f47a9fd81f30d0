/-
Reading what a backslash begins: a character by its number or by a mark in front of it, a set by a letter or by a
property, or an edge.
-/
import GlslInspect.Regex.Cursor
import GlslInspect.Regex.Term

namespace GlslInspect.Regex

/-- a part that is written by one character or by a backslash and what follows it -/
inductive Atom where
  | char (literal : Literal)
  | shorthand (shorthand : Shorthand) (negated : Bool) (span : Span)
  | property (property : PropertyName) (negated : Bool) (span : Span)
  | edge (mark : EdgeMark) (span : Span)
  deriving DecidableEq, Repr

def Atom.span : Atom → Span
  | .char literal => literal.span
  | .shorthand _ _ span => span
  | .property _ _ span => span
  | .edge _ span => span

def hexValue? (c : Char) : Option Nat :=
  if c.isDigit then some (c.toNat - '0'.toNat)
  else if 'a' ≤ c ∧ c ≤ 'f' then some (c.toNat - 'a'.toNat + 10)
  else if 'A' ≤ c ∧ c ≤ 'F' then some (c.toNat - 'A'.toNat + 10)
  else none

def hexNumber (digits : Text) : Nat := digits.foldl (fun n c => 16 * n + (hexValue? c).getD 0) 0

def charOf? (n : Nat) : Option Char := if n.isValidChar then some (Char.ofNat n) else none

def readHexDigits : Nat → Cursor → Except Fault (Text × Cursor)
  | 0, cursor => .ok ([], cursor)
  | count + 1, cursor =>
    match cursor.rest with
    | [] => .error (FaultKind.escapeUnfinished.at cursor.point)
    | c :: _ =>
      if (hexValue? c).isSome then do
        let (digits, last) ← readHexDigits count cursor.next
        .ok (c :: digits, last)
      else .error (FaultKind.hexDigit.at cursor.charSpan)

/-- the character with a number, given where the number is written -/
def characterAt (digits : Text) (span : Span) : Except Fault Char :=
  match charOf? (hexNumber digits) with
  | some c => .ok c
  | none => .error (FaultKind.hexNoCharacter.at span)

/-- read a character by its number in braces; the cursor stands on the brace -/
def readHexBraces (cursor : Cursor) : Except Fault (Char × Cursor) := do
  let (digits, last) := cursor.next.gather fun c => (hexValue? c).isSome
  if last.isEnd then .error (FaultKind.escapeUnfinished.at (last.since cursor.here))
  else if !last.isOn '}' then .error (FaultKind.hexDigit.at last.charSpan)
  else if digits.isEmpty then .error (FaultKind.hexEmpty.at (last.next.since cursor.here))
  else .ok (← characterAt digits (last.since cursor.bump.here), last.next)

/-- read a character by its number, which has so many digits unless it is in braces; the cursor stands on the letter
after the backslash -/
def readHex (count : Nat) (first : Position) (cursor : Cursor) : Except Fault (Atom × Cursor) := do
  let start := cursor.next
  if start.isEnd then .error (FaultKind.escapeUnfinished.at start.point)
  else if start.isOn '{' then
    let (c, last) ← readHexBraces start
    .ok (.char ⟨c, false, last.since first⟩, last)
  else
    let (digits, last) ← readHexDigits count start
    let c ← characterAt digits (last.since start.here)
    .ok (.char ⟨c, count = 2, last.since first⟩, last)

/-- the text before the first occurrence of another, and the text after it -/
def cutAt? (needle t : Text) : Option (Text × Text) :=
  (Text.afterFirst? needle t).map fun after => (t.take (t.length - needle.length - after.length), after)

def PropertyName.ofText (t : Text) : PropertyName :=
  match cutAt? "!=" t, (cutAt? ":" t).or (cutAt? "=" t) with
  | some (name, value), _ => .valued name value true
  | none, some (name, value) => .valued name value false
  | none, none => .plain t

/-- read a set by a property; the cursor stands on the letter after the backslash -/
def readProperty (first : Position) (cursor : Cursor) : Except Fault (Atom × Cursor) :=
  let negated := cursor.isOn 'P'
  let start := cursor.next
  match start.rest with
  | [] => .error (FaultKind.escapeUnfinished.at start.point)
  | '{' :: _ =>
    let (name, last) := start.next.gather (· ≠ '}')
    if last.isEnd then .error (FaultKind.escapeUnfinished.at last.point)
    else .ok (.property (.ofText name) negated (last.bump.since first), last.bump)
  | c :: _ =>
    if c = '\\' then .error (FaultKind.propertyForm.at start.charSpan)
    else .ok (.property (.plain [c]) negated (start.next.since first), start.next)

def edgeNamed? (name : Text) : Option EdgeMark :=
  if name = "start" then some .wordStart
  else if name = "end" then some .wordEnd
  else if name = "start-half" then some .wordStartHalf
  else if name = "end-half" then some .wordEndHalf
  else none

/-- read the name in braces of an edge of a word; what does not begin like a name is left for a repetition to read -/
def readEdgeName (first : Position) (cursor : Cursor) : Except Fault (EdgeMark × Cursor) :=
  let isNameChar (c : Char) : Bool := c.isAlpha || c = '-'
  let start := cursor.next
  match start.rest with
  | [] => .error (FaultKind.edgeUnfinished.at (start.since first))
  | c :: _ =>
    if isNameChar c then
      let (name, last) := start.gather isNameChar
      if last.isOn '}' then
        match edgeNamed? name with
        | some mark => .ok (mark, last.bump)
        | none => .error (FaultKind.edgeUnknown.at (last.since start.here))
      else .error (FaultKind.edgeUnclosed.at (last.since cursor.here))
    else .ok (.wordEdge, cursor)

/-- whether a mark stands for itself after a backslash -/
def isEscapable (c : Char) : Bool := decide (c.toNat < 128) && !c.isAlphanum && c != '<' && c != '>'

/-- the characters without a picture that have a letter of their own -/
def control? (c : Char) : Option Char :=
  if c = 'a' then some '\x07'
  else if c = 'f' then some '\x0c'
  else if c = 't' then some '\t'
  else if c = 'n' then some '\n'
  else if c = 'r' then some '\r'
  else if c = 'v' then some '\x0b'
  else none

def edge? (c : Char) : Option EdgeMark :=
  if c = 'A' then some .textStart
  else if c = 'z' then some .textEnd
  else if c = 'B' then some .noWordEdge
  else if c = '<' then some .wordStart
  else if c = '>' then some .wordEnd
  else none

/-- the sets that have a letter of their own, and whether the letter is for what is not in them -/
def shorthand? (c : Char) : Option (Shorthand × Bool) :=
  if c = 'd' then some (.digit, false)
  else if c = 'D' then some (.digit, true)
  else if c = 's' then some (.blank, false)
  else if c = 'S' then some (.blank, true)
  else if c = 'w' then some (.word, false)
  else if c = 'W' then some (.word, true)
  else none

/-- read an escape of one character; the cursor stands on it -/
def readShort (c : Char) (first : Position) (cursor : Cursor) : Except Fault (Atom × Cursor) :=
  let last := cursor.bump
  let span := last.since first
  match shorthand? c with
  | some (shorthand, negated) => .ok (.shorthand shorthand negated span, last)
  | none =>
    if isEscapable c then .ok (.char ⟨c, false, span⟩, last)
    else
      match control? c, edge? c with
      | some control, _ => .ok (.char ⟨control, false, span⟩, last)
      | none, some mark => .ok (.edge mark span, last)
      | none, none => .error (FaultKind.escapeUnknown.at span)

/-- read what a backslash begins; the cursor stands on the backslash -/
def readEscape (cursor : Cursor) : Except Fault (Atom × Cursor) :=
  let first := cursor.here
  let start := cursor.bump
  match start.rest with
  | [] => .error (FaultKind.escapeUnfinished.at (start.since first))
  | c :: _ =>
    if c.isDigit then .error (FaultKind.backreference.at (start.bump.since first))
    else if c = 'x' then readHex 2 first start
    else if c = 'u' then readHex 4 first start
    else if c = 'U' then readHex 8 first start
    else if c = 'p' ∨ c = 'P' then readProperty first start
    else if c = 'b' then
      if start.bump.isOn '{' then do
        let (mark, last) ← readEdgeName first start.bump
        .ok (.edge mark (last.since first), last)
      else .ok (.edge .wordEdge (start.bump.since first), start.bump)
    else readShort c first start

/-- read an atom; the cursor stands on its first character -/
def readAtom (c : Char) (cursor : Cursor) : Except Fault (Atom × Cursor) :=
  if c = '\\' then readEscape cursor else .ok (.char ⟨c, false, cursor.charSpan⟩, cursor.bump)

end GlslInspect.Regex
