/-
The bytes of characters, as an automaton reads them.

`byteSequences` writes a range of code points as sequences of ranges of bytes: each sequence stands for all characters
whose bytes lie in its ranges, and the sequences come in the order of the code points.
-/
import GlslInspect.Regex.Unicode.CodeSet

namespace GlslInspect.Regex

abbrev ByteRange := Nat × Nat

def bytesOf (t : Text) : List Nat := t.flatMap fun c => (String.utf8EncodeChar c).map UInt8.toNat

/-- a range of numbers, written by a digit and so many further digits of six bits, as sequences of ranges of digits -/
def digitSequences : Nat → Nat → Nat → List (List ByteRange)
  | 0, low, high => [[(low, high)]]
  | more + 1, low, high =>
    let block := 1 <<< (6 * (more + 1))
    let lowTop := low / block
    let highTop := high / block
    let below (top low high : Nat) : List (List ByteRange) := (digitSequences more low high).map ((top, top) :: ·)
    if lowTop = highTop then below lowTop (low % block) (high % block)
    else
      let wholeLow := low % block = 0
      let wholeHigh := high % block = block - 1
      let firstWhole := if wholeLow then lowTop else lowTop + 1
      let pastWhole := if wholeHigh then highTop + 1 else highTop
      (if wholeLow then [] else below lowTop (low % block) (block - 1)) ++
        (if firstWhole < pastWhole then [(firstWhole, pastWhole - 1) :: List.replicate (more + 1) (0, 63)] else []) ++
        if wholeHigh then [] else below highTop 0 (high % block)

/-- the first and last code points whose bytes have the same form, how many bytes follow the first one, and what the
first one has besides its digit -/
def byteForms : List (Nat × Nat × Nat × Nat) :=
  [(0, 0x7f, 0, 0), (0x80, 0x7ff, 1, 0xc0), (0x800, 0xd7ff, 2, 0xe0), (0xe000, 0xffff, 2, 0xe0),
    (0x10000, 0x10ffff, 3, 0xf0)]

/-- a sequence of ranges of digits as ranges of bytes -/
def asBytes (mark : Nat) : List ByteRange → List ByteRange
  | [] => []
  | (low, high) :: rest => (mark + low, mark + high) :: rest.map fun (low, high) => (0x80 + low, 0x80 + high)

/-- the sequences of bytes that write the code points of a range -/
def byteSequences (low high : Nat) : List (List ByteRange) :=
  byteForms.flatMap fun (first, last, more, mark) =>
    if max low first ≤ min high last then
      (digitSequences more (max low first) (min high last)).map (asBytes mark)
    else []

end GlslInspect.Regex
