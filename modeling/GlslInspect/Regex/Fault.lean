/-
What can be wrong with an expression, and how it is shown.

A fault has a kind and the stretch of the expression it is about, and sometimes a second stretch, the one it clashes
with. `Fault.message` writes the expression with marks under these stretches; an expression of several lines is
written between two rules with its lines numbered.
-/
import GlslInspect.Text.Basic

namespace GlslInspect.Regex

/-- a position in an expression: how many characters stand before it, and its line and column, counted from one -/
structure Position where
  offset : Nat
  line : Nat
  column : Nat
  deriving DecidableEq, Repr

namespace Position

/-- where an expression begins -/
def start : Position := ⟨0, 1, 1⟩

def behind (position : Position) (c : Char) : Position :=
  if c = '\n' then ⟨position.offset + 1, position.line + 1, 1⟩
  else ⟨position.offset + 1, position.line, position.column + 1⟩

end Position

/-- a stretch of an expression: where it begins, and the position behind it -/
structure Span where
  first : Position
  past : Position
  deriving DecidableEq, Repr

namespace Span

def isOneLine (span : Span) : Bool := span.first.line = span.past.line

/-- the order of stretches: by their beginnings, then by their ends -/
def le (a b : Span) : Bool :=
  decide (a.first.offset < b.first.offset) ||
    (a.first.offset == b.first.offset && decide (a.past.offset ≤ b.past.offset))

end Span

inductive FaultKind where
  | setUnclosed
  | setRangeReversed
  | setRangeBound
  | setEscape
  | countMissing
  | countTooLarge
  | countUnclosed
  | countReversed
  | repetitionMissing
  | escapeUnfinished
  | escapeUnknown
  | hexEmpty
  | hexDigit
  | hexNoCharacter
  | backreference
  | propertyForm
  | propertyUnknown
  | propertyValueUnknown
  | edgeUnknown
  | edgeUnclosed
  | edgeUnfinished
  | flagUnknown
  | flagRepeated
  | flagMissing
  | negationRepeated
  | negationDangling
  | groupUnclosed
  | groupUnopened
  | nameUnclosed
  | nameEmpty
  | nameCharacter
  | nameRepeated
  | lookAround
  | tooDeep (limit : Nat)
  | beyondAscii
  | noText
  deriving DecidableEq, Repr

def FaultKind.message : FaultKind → Text
  | .setUnclosed => "unclosed character class"
  | .setRangeReversed => "invalid character class range, the start must be <= the end"
  | .setRangeBound => "invalid range boundary, must be a literal"
  | .setEscape => "invalid escape sequence found in character class"
  | .countMissing => "repetition quantifier expects a valid decimal"
  | .countTooLarge => "decimal literal invalid"
  | .countUnclosed => "unclosed counted repetition"
  | .countReversed => "invalid repetition count range, the start must be <= the end"
  | .repetitionMissing => "repetition operator missing expression"
  | .escapeUnfinished => "incomplete escape sequence, reached end of pattern prematurely"
  | .escapeUnknown => "unrecognized escape sequence"
  | .hexEmpty => "hexadecimal literal empty"
  | .hexDigit => "invalid hexadecimal digit"
  | .hexNoCharacter => "hexadecimal literal is not a Unicode scalar value"
  | .backreference => "backreferences are not supported"
  | .propertyForm => "invalid Unicode character class"
  | .propertyUnknown => "Unicode property not found"
  | .propertyValueUnknown => "Unicode property value not found"
  | .edgeUnknown =>
    "unrecognized special word boundary assertion, valid choices are: start, end, start-half or end-half"
  | .edgeUnclosed => "special word boundary assertion is either unclosed or contains an invalid character"
  | .edgeUnfinished =>
    "found either the beginning of a special word boundary or a bounded repetition on a \\b with an opening brace, " ++
      "but no closing brace"
  | .flagUnknown => "unrecognized flag"
  | .flagRepeated => "duplicate flag"
  | .flagMissing => "expected flag but got end of regex"
  | .negationRepeated => "flag negation operator repeated"
  | .negationDangling => "dangling flag negation operator"
  | .groupUnclosed => "unclosed group"
  | .groupUnopened => "unopened group"
  | .nameUnclosed => "unclosed capture group name"
  | .nameEmpty => "empty capture group name"
  | .nameCharacter => "invalid capture group character"
  | .nameRepeated => "duplicate capture group name"
  | .lookAround => "look-around, including look-ahead and look-behind, is not supported"
  | .tooDeep limit =>
    "exceed the maximum number of nested parentheses/brackets (" ++ Text.ofNat limit ++ ")"
  | .beyondAscii => "Unicode not allowed here"
  | .noText => "pattern can match invalid UTF-8"

/-- a fault, what it is about, and what that clashes with -/
structure Fault where
  kind : FaultKind
  span : Span
  other : Option Span
  deriving DecidableEq, Repr

namespace Fault

/-- all that is marked, in order -/
def spans (fault : Fault) : List Span := (fault.span :: fault.other.toList).mergeSort Span.le

/-- marks under the stretches of a line, given how many columns are filled; there is at least one mark for each -/
def marks : Nat → List Span → Text
  | _, [] => []
  | filled, span :: rest =>
    let before := span.first.column - 1 - filled
    let width := max 1 (span.past.column - span.first.column)
    List.replicate before ' ' ++ List.replicate width '^' ++ marks (filled + before + width) rest

def markedLine (fault : Fault) (number : Nat) (margin line : Text) : Text :=
  let spans := fault.spans.filter fun span => span.isOneLine && span.first.line == number
  let marked : Text := List.replicate margin.length ' ' ++ marks 0 spans ++ "\n"
  margin ++ line ++ "\n" ++ if spans.isEmpty then [] else marked

def aligned (width number : Nat) : Text :=
  let digits := Text.ofNat number
  List.replicate (width - digits.length) ' ' ++ digits

/-- in words, where a stretch over several lines begins and ends -/
def extent (span : Span) : Text :=
  "on line " ++ Text.ofNat span.first.line ++ " (column " ++ Text.ofNat span.first.column ++ ") through line " ++
    Text.ofNat span.past.line ++ " (column " ++ Text.ofNat (span.past.column - 1) ++ ")\n"

def markedExpression (fault : Fault) (expression : Text) : Text := fault.markedLine 1 "    " expression

/-- an expression of several lines between two rules, with numbers and marks, and after it what reaches over lines -/
def markedLines (fault : Fault) (expression : Text) : Text :=
  let lines := Text.lines expression
  let count := if expression.getLast? = some '\n' then lines.length + 1 else lines.length
  let width := (Text.ofNat count).length
  let rule : Text := List.replicate 79 '~' ++ "\n"
  rule ++
    ((lines.zipIdx 1).flatMap fun (line, number) => fault.markedLine number (aligned width number ++ ": ") line) ++
    rule ++ (fault.spans.filter fun span => !span.isOneLine).flatMap extent

/-- a fault in an expression, in full -/
def message (fault : Fault) (expression : Text) : Text :=
  "regex parse error:\n" ++
    (if expression.contains '\n' then fault.markedLines expression else fault.markedExpression expression) ++
    "error: " ++ fault.kind.message

end Fault

end GlslInspect.Regex
