/-
What an expression means.

The flags in force are handed on from part to part and end with their group. Where the letters of all scripts count,
sets are sets of characters; where only ASCII counts, they are sets of bytes, and one that holds bytes beyond ASCII is
a fault, since such bytes alone are no text. Letters whose case is ignored stand for all their cases; a set is closed
under that before it is negated.
-/
import GlslInspect.Regex.Plan
import GlslInspect.Regex.Property
import GlslInspect.Regex.Reader
import GlslInspect.Regex.Unicode.Casing
import GlslInspect.Text.Digit

namespace GlslInspect.Regex

structure Flags where
  ignoreCase : Bool
  multiLine : Bool
  dotAll : Bool
  unicode : Bool
  crlf : Bool
  /-- repetitions are content with little, and those with a question mark are not -/
  swapGreed : Bool
  deriving DecidableEq, Repr

namespace Flags

/-- the flags at the beginning of an expression -/
def standard : Flags := ⟨false, false, false, true, false, false⟩

def after (flags : Flags) (items : List FlagItem) : Flags where
  ignoreCase := (FlagItem.setting? .ignoreCase false items).getD flags.ignoreCase
  multiLine := (FlagItem.setting? .multiLine false items).getD flags.multiLine
  dotAll := (FlagItem.setting? .dotAll false items).getD flags.dotAll
  unicode := (FlagItem.setting? .unicode false items).getD flags.unicode
  crlf := (FlagItem.setting? .crlf false items).getD flags.crlf
  swapGreed := (FlagItem.setting? .swapGreed false items).getD flags.swapGreed

end Flags

/-! ## sets -/

def asciiLast : Nat := 127

def byteLast : Nat := 255

def asciiClosure (set : CodeSet) : CodeSet :=
  let letters := (List.range 26).filter fun i =>
    CodeSet.inside set.turns ('a'.toNat + i) || CodeSet.inside set.turns ('A'.toNat + i)
  set.union (.ofCodes (letters.flatMap fun i => ['a'.toNat + i, 'A'.toNat + i]))

/-- a set with its letters in all cases, where case is ignored -/
def Flags.folded (flags : Flags) (set : CodeSet) : CodeSet :=
  if !flags.ignoreCase then set else if flags.unicode then Casing.closure set else asciiClosure set

def Flags.except (flags : Flags) (set : CodeSet) : CodeSet :=
  if flags.unicode then set.except else (CodeSet.range 0 byteLast).minus set

/-- a set of bytes must be one of ASCII characters -/
def Flags.checked (flags : Flags) (span : Span) (set : CodeSet) : Except Fault CodeSet :=
  if flags.unicode || set.within asciiLast then .ok set else .error (FaultKind.noText.at span)

/-- a set as it was named, closed under case and negated -/
def Flags.finished (flags : Flags) (negated : Bool) (span : Span) (set : CodeSet) : Except Fault CodeSet :=
  flags.checked span (if negated then flags.except (flags.folded set) else flags.folded set)

/-- the digits, word characters and blanks of all scripts -/
def Shorthand.codes : Shorthand → CodeSet
  | .digit => .ofRanges ((48, 57) :: digitRanges)
  | .word => .ofRanges ([(48, 57), (65, 90), (95, 95), (97, 122)] ++ wordRanges)
  | .blank => PropertyRule.whiteSpace.codes

/-- the digits, word characters and blanks of ASCII -/
def Shorthand.asciiCodes : Shorthand → CodeSet
  | .digit => ⟨[48, 58]⟩
  | .word => ⟨[48, 58, 65, 91, 95, 96, 97, 123]⟩
  | .blank => ⟨[9, 14, 32, 33]⟩

/-- the set that a letter is for -/
def Shorthand.meaning (flags : Flags) (shorthand : Shorthand) (negated : Bool) (span : Span) : Except Fault CodeSet :=
  let codes := if flags.unicode then shorthand.codes else shorthand.asciiCodes
  flags.checked span (if negated then flags.except codes else codes)

def PropertyName.meaning (flags : Flags) (property : PropertyName) (negated : Bool) (span : Span) :
    Except Fault CodeSet :=
  if flags.unicode then
    match property.codes with
    | .ok codes => flags.finished (negated != property.differs) span codes
    | .error kind => .error (kind.at span)
  else .error (FaultKind.beyondAscii.at span)

/-- the code of a character in a set; in a set of bytes it must be one of ASCII -/
def Literal.member (flags : Flags) (literal : Literal) : Except Fault Nat :=
  if flags.unicode || decide (literal.char.toNat ≤ asciiLast) then .ok literal.char.toNat
  else .error ((if literal.asByte then FaultKind.noText else .beyondAscii).at literal.span)

/-- the combination of two sets by an operator -/
def SetOperator.apply : SetOperator → CodeSet → CodeSet → CodeSet
  | .inter => .inter
  | .minus => .minus
  | .differing => .differing

mutual

def SetTerm.meaning (flags : Flags) : SetTerm → Except Fault CodeSet
  | .empty _ => .ok .none
  | .char literal => do
    let code ← literal.member flags
    .ok (.range code code)
  | .range low high => do
    let lowest ← low.member flags
    let highest ← high.member flags
    .ok (.range lowest highest)
  | .ascii codes negated span => flags.finished negated span codes
  | .shorthand kind negated span => kind.meaning flags negated span
  | .property name negated span => name.meaning flags negated span
  | .bracket negated inside span => do
    let codes ← inside.meaning flags
    flags.finished negated span codes
  | .union members _ => SetTerm.meanings flags members
  | .combined operator left right _ => do
    let left ← left.meaning flags
    let right ← right.meaning flags
    .ok (operator.apply (flags.folded left) (flags.folded right))

def SetTerm.meanings (flags : Flags) : List SetTerm → Except Fault CodeSet
  | [] => .ok .none
  | member :: rest => do
    let first ← member.meaning flags
    let others ← SetTerm.meanings flags rest
    .ok (first.union others)

end

/-! ## expressions -/

/-- one character of a set -/
def Flags.one (flags : Flags) (set : CodeSet) : Plan := .ofSet set !flags.unicode

/-- what a character that stands for itself matches; a byte beyond ASCII is no text -/
def Literal.meaning (flags : Flags) (literal : Literal) : Except Fault Plan :=
  if !flags.unicode && literal.asByte && decide (asciiLast < literal.char.toNat) then
    .error (FaultKind.noText.at literal.span)
  else if flags.unicode || decide (literal.char.toNat ≤ asciiLast) then
    .ok (flags.one (flags.folded (.ofChar literal.char)))
  else .ok (.word [literal.char])

/-- what a dot matches: any character, or any that does not end a line -/
def Flags.dot (flags : Flags) (span : Span) : Except Fault Plan :=
  if !flags.unicode then .error (FaultKind.noText.at span)
  else if flags.dotAll then .ok (flags.one .all)
  else if flags.crlf then .ok (flags.one (CodeSet.ofCodes ['\n'.toNat, '\r'.toNat]).except)
  else .ok (flags.one (CodeSet.ofChar '\n').except)

def EdgeMark.meaning (flags : Flags) : EdgeMark → Edge
  | .lineStart => if !flags.multiLine then .textStart else if flags.crlf then .returnStart else .lineStart
  | .lineEnd => if !flags.multiLine then .textEnd else if flags.crlf then .returnEnd else .lineEnd
  | .textStart => .textStart
  | .textEnd => .textEnd
  | .wordEdge => .word .either flags.unicode
  | .noWordEdge => .word .neither flags.unicode
  | .wordStart => .word .start flags.unicode
  | .wordEnd => .word .finish flags.unicode
  | .wordStartHalf => .word .startHalf flags.unicode
  | .wordEndHalf => .word .finishHalf flags.unicode

mutual

/-- what an expression means with some flags in force, and the flags after it -/
def Term.meaning (flags : Flags) : Term → Except Fault (Plan × Flags)
  | .empty _ => .ok (.nothing, flags)
  | .flags items _ => .ok (.nothing, flags.after items)
  | .char literal => do .ok (← literal.meaning flags, flags)
  | .dot span => do .ok (← flags.dot span, flags)
  | .edge mark _ => .ok (.edge (mark.meaning flags), flags)
  | .shorthand kind negated span => do .ok (flags.one (← kind.meaning flags negated span), flags)
  | .property name negated span => do .ok (flags.one (← name.meaning flags negated span), flags)
  | .bracket negated inside span => do
    let codes ← inside.meaning flags
    .ok (flags.one (← flags.finished negated span codes), flags)
  | .repeated least most eager body _ => do
    let (plan, after) ← body.meaning flags
    .ok (.again least most (eager != after.swapGreed) plan, after)
  | .group remembered items body _ => do
    let (plan, _) ← body.meaning (flags.after items)
    .ok (if remembered then .captured plan else plan, flags)
  | .choice choices _ => do
    let (plans, flags) ← Term.meanings flags choices
    .ok (.anyOf plans, flags)
  | .sequence parts _ => do
    let (plans, flags) ← Term.meanings flags parts
    .ok (.inTurn plans, flags)

/-- what several expressions mean, each with the flags that the one before it leaves -/
def Term.meanings (flags : Flags) : List Term → Except Fault (List Plan × Flags)
  | [] => .ok ([], flags)
  | term :: rest => do
    let (plan, flags) ← term.meaning flags
    let (plans, flags) ← Term.meanings flags rest
    .ok (plan :: plans, flags)

end

end GlslInspect.Regex
