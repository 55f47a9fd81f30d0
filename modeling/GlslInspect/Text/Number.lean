/-
Reading unsigned numbers of 64 bits from decimal text.

Digits are read from the left, and the first character that cannot be read decides the fault: a character that is no
ASCII digit, or a digit that takes the value past the largest number. A single plus sign may stand in front.
-/
import GlslInspect.Text.Basic

namespace GlslInspect

/-- the largest unsigned number of 64 bits, one less than the 64th power of two -/
def maxWord : Nat := 18446744073709551615

/-- why a text is not an unsigned number of 64 bits -/
inductive NumberFault where
  | empty
  | invalidDigit
  | tooLarge
  deriving DecidableEq, Repr

def NumberFault.message : NumberFault → Text
  | .empty => "cannot parse integer from empty string"
  | .invalidDigit => "invalid digit found in string"
  | .tooLarge => "number too large to fit in target type"

def readDigits (value : Nat) : Text → Except NumberFault Nat
  | [] => .ok value
  | c :: rest =>
    if c.isDigit then
      let value := value * 10 + (c.toNat - '0'.toNat)
      if value ≤ maxWord then readDigits value rest else .error .tooLarge
    else .error .invalidDigit

/-- read an unsigned number of 64 bits -/
def readWord : Text → Except NumberFault Nat
  | [] => .error .empty
  | ['+'] => .error .invalidDigit
  | '+' :: digits => readDigits 0 digits
  | digits => readDigits 0 digits

end GlslInspect
