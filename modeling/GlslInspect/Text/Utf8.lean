/-
UTF-8.

The bytes are cut into characters and ill-formed parts. An ill-formed part is the longest beginning of a character
that the following bytes do not complete, or one byte that begins no character. `decode?` refuses bytes with an
ill-formed part; `decodeLossy` puts the replacement character for each.
-/
import GlslInspect.Text.Basic

namespace GlslInspect.Utf8

/-- what a first byte promises: how many bytes follow, the bounds of the next one, and the bits it brings -/
structure Lead where
  owed : Nat
  low : UInt8
  high : UInt8
  bits : Nat

/-- the promise of a first byte, if it begins a character -/
def lead? (b : UInt8) : Option Lead :=
  if b ≤ 0x7f then some ⟨0, 0x80, 0xbf, b.toNat⟩
  else if b < 0xc2 then none
  else if b ≤ 0xdf then some ⟨1, 0x80, 0xbf, b.toNat - 0xc0⟩
  else if b = 0xe0 then some ⟨2, 0xa0, 0xbf, 0⟩
  else if b = 0xed then some ⟨2, 0x80, 0x9f, 0xd⟩
  else if b ≤ 0xef then some ⟨2, 0x80, 0xbf, b.toNat - 0xe0⟩
  else if b = 0xf0 then some ⟨3, 0x90, 0xbf, 0⟩
  else if b ≤ 0xf3 then some ⟨3, 0x80, 0xbf, b.toNat - 0xf0⟩
  else if b = 0xf4 then some ⟨3, 0x80, 0x8f, 4⟩
  else none

/-- read the bytes still owed; gives the code point, or nothing at the first byte that does not fit, and the rest -/
def follow : (owed : Nat) → (low high : UInt8) → (bits : Nat) → List UInt8 → Option Nat × List UInt8
  | 0, _, _, bits, rest => (some bits, rest)
  | _ + 1, _, _, _, [] => (none, [])
  | owed + 1, low, high, bits, b :: rest =>
    if low ≤ b ∧ b ≤ high then follow owed 0x80 0xbf (bits * 64 + (b.toNat - 0x80)) rest else (none, b :: rest)

theorem length_follow (owed : Nat) (low high : UInt8) (bits : Nat) (bytes : List UInt8) :
    (follow owed low high bits bytes).2.length ≤ bytes.length := by
  induction owed generalizing low high bits bytes with
  | zero => simp [follow]
  | succ owed ih =>
    cases bytes with
    | nil => simp [follow]
    | cons b rest =>
      by_cases h : low ≤ b ∧ b ≤ high
      · simp only [follow, h, and_self, if_true, List.length_cons]
        exact Nat.le_succ_of_le (ih ..)
      · simp [follow, h]

/-- cut bytes into characters, with nothing in the place of an ill-formed part -/
def characters : List UInt8 → List (Option Char)
  | [] => []
  | b :: rest =>
    match lead? b with
    | none => none :: characters rest
    | some lead =>
      let next := follow lead.owed lead.low lead.high lead.bits rest
      next.1.map Char.ofNat :: characters next.2
termination_by bytes => bytes.length
decreasing_by
  · simp
  · have := length_follow lead.owed lead.low lead.high lead.bits rest
    simp only [List.length_cons]
    omega

def encode (t : Text) : List UInt8 := t.flatMap String.utf8EncodeChar

/-- the text that bytes stand for, if they are well formed -/
def decode? (bytes : List UInt8) : Option Text := (characters bytes).mapM id

/-- the text that bytes stand for, with the replacement character in the place of each ill-formed part -/
def decodeLossy (bytes : List UInt8) : Text := (characters bytes).map (·.getD '\ufffd')

end GlslInspect.Utf8
