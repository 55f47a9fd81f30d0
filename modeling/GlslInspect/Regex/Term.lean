/-
Expressions as they are written.

A `Term` keeps the parts of an expression and where each of them stands, and a `SetTerm` those of a set in brackets.
What they mean depends on the flags in force and is not decided here. `Term.tooDeep?` finds the first part that is
nested too deeply.
-/
import GlslInspect.Regex.Fault
import GlslInspect.Regex.Unicode.CodeSet

namespace GlslInspect.Regex

/-- a character that stands for itself -/
structure Literal where
  char : Char
  /-- whether it is written by two hexadecimal digits, as a byte is -/
  asByte : Bool
  span : Span
  deriving DecidableEq, Repr

/-- the sets that have a letter of their own -/
inductive Shorthand where
  | digit
  | word
  | blank
  deriving DecidableEq, Repr

/-- a set by a property: its name alone, or the value that a property has, or does not have if it differs -/
inductive PropertyName where
  | plain (name : Text)
  | valued (name value : Text) (differs : Bool)
  deriving DecidableEq, Repr

def PropertyName.differs : PropertyName → Bool
  | .plain _ => false
  | .valued _ _ differs => differs

inductive EdgeMark where
  | lineStart
  | lineEnd
  | textStart
  | textEnd
  | wordEdge
  | noWordEdge
  | wordStart
  | wordEnd
  | wordStartHalf
  | wordEndHalf
  deriving DecidableEq, Repr

inductive Flag where
  | ignoreCase
  | multiLine
  | dotAll
  | swapGreed
  | unicode
  | crlf
  | loose
  deriving DecidableEq, Repr

/-- an item in a list of flags: a flag, or the hyphen that switches off the flags after it -/
inductive FlagItem where
  | negation
  | flag (flag : Flag)
  deriving DecidableEq, Repr

/-- whether a list of flags switches a flag on or off; `negated` says whether the hyphen was passed -/
def FlagItem.setting? (wanted : Flag) (negated : Bool) : List FlagItem → Option Bool
  | [] => none
  | .negation :: rest => setting? wanted true rest
  | .flag given :: rest => if given = wanted then some !negated else setting? wanted negated rest

inductive SetOperator where
  | inter
  | minus
  | differing
  deriving DecidableEq, Repr

inductive SetTerm where
  | empty (span : Span)
  | char (literal : Literal)
  | range (low high : Literal)
  /-- one of the named sets of ASCII characters -/
  | ascii (codes : CodeSet) (negated : Bool) (span : Span)
  | shorthand (shorthand : Shorthand) (negated : Bool) (span : Span)
  | property (property : PropertyName) (negated : Bool) (span : Span)
  | bracket (negated : Bool) (inside : SetTerm) (span : Span)
  | union (members : List SetTerm) (span : Span)
  | combined (operator : SetOperator) (left right : SetTerm) (span : Span)

/-- an expression -/
inductive Term where
  | empty (span : Span)
  /-- flags for the rest of the group -/
  | flags (flags : List FlagItem) (span : Span)
  | char (literal : Literal)
  | dot (span : Span)
  | edge (mark : EdgeMark) (span : Span)
  | shorthand (shorthand : Shorthand) (negated : Bool) (span : Span)
  | property (property : PropertyName) (negated : Bool) (span : Span)
  | bracket (negated : Bool) (inside : SetTerm) (span : Span)
  /-- a repetition, and whether it matches as much as it can -/
  | repeated (least : Nat) (most : Option Nat) (eager : Bool) (body : Term) (span : Span)
  /-- a group, whether what it matches is captured, and flags for it -/
  | group (captured : Bool) (flags : List FlagItem) (body : Term) (span : Span)
  | choice (choices : List Term) (span : Span)
  | sequence (parts : List Term) (span : Span)

def SetTerm.span : SetTerm → Span
  | .empty span => span
  | .char literal => literal.span
  | .range low high => ⟨low.span.first, high.span.past⟩
  | .ascii _ _ span => span
  | .shorthand _ _ span => span
  | .property _ _ span => span
  | .bracket _ _ span => span
  | .union _ span => span
  | .combined _ _ _ span => span

/-- where a part of an expression stands -/
def Term.span : Term → Span
  | .empty span => span
  | .flags _ span => span
  | .char literal => literal.span
  | .dot span => span
  | .edge _ span => span
  | .shorthand _ _ span => span
  | .property _ _ span => span
  | .bracket _ _ span => span
  | .repeated _ _ _ _ span => span
  | .group _ _ _ span => span
  | .choice _ span => span
  | .sequence _ span => span

/-- go one level down, if that is still allowed; if not, the part that is there is too deep -/
def oneDown (allowed : Nat) (span : Span) (below : Nat → Option Span) : Option Span :=
  match allowed with
  | 0 => some span
  | allowed + 1 => below allowed

mutual

/-- the first part of a set that is nested more than so many levels deep -/
def SetTerm.tooDeep? : SetTerm → Nat → Option Span
  | .bracket _ inside span, allowed => oneDown allowed span fun allowed => inside.tooDeep? allowed
  | .union members span, allowed => oneDown allowed span fun allowed => SetTerm.anyTooDeep? members allowed
  | .combined _ left right span, allowed =>
    oneDown allowed span fun allowed => (left.tooDeep? allowed).or (right.tooDeep? allowed)
  | _, _ => none

def SetTerm.anyTooDeep? : List SetTerm → Nat → Option Span
  | [], _ => none
  | member :: rest, allowed => (member.tooDeep? allowed).or (SetTerm.anyTooDeep? rest allowed)

end

mutual

/-- the first part of an expression that is nested more than so many levels deep -/
def Term.tooDeep? : Term → Nat → Option Span
  | .bracket _ inside span, allowed => oneDown allowed span fun allowed => inside.tooDeep? allowed
  | .repeated _ _ _ body span, allowed => oneDown allowed span fun allowed => body.tooDeep? allowed
  | .group _ _ body span, allowed => oneDown allowed span fun allowed => body.tooDeep? allowed
  | .choice choices span, allowed => oneDown allowed span fun allowed => Term.anyTooDeep? choices allowed
  | .sequence parts span, allowed => oneDown allowed span fun allowed => Term.anyTooDeep? parts allowed
  | _, _ => none

def Term.anyTooDeep? : List Term → Nat → Option Span
  | [], _ => none
  | part :: rest, allowed => (part.tooDeep? allowed).or (Term.anyTooDeep? rest allowed)

end

/-- how many levels deep an expression can be nested -/
def depthLimit : Nat := 250

end GlslInspect.Regex
