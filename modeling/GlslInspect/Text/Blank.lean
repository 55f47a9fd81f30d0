/-
Blanks: the characters with the Unicode property White_Space, and trimming by them.
-/
import GlslInspect.Text.Basic

namespace GlslInspect

/-- the characters with the property White_Space -/
def isBlank (c : Char) : Bool :=
  c = ' ' || (decide (0x9 ≤ c.toNat) && decide (c.toNat ≤ 0xd)) || c.toNat = 0x85 || c.toNat = 0xa0 ||
    c.toNat = 0x1680 || (decide (0x2000 ≤ c.toNat) && decide (c.toNat ≤ 0x200a)) || c.toNat = 0x2028 ||
    c.toNat = 0x2029 || c.toNat = 0x202f || c.toNat = 0x205f || c.toNat = 0x3000

namespace Text

def trimStart (t : Text) : Text := t.dropWhile isBlank

/-- drop the blanks at both ends -/
def trim (t : Text) : Text := dropEndWhile isBlank (trimStart t)

/-- the non-empty runs of characters between blanks -/
def words : Text → List Text
  | [] => []
  | c :: rest =>
    if isBlank c then words rest
    else
      match rest with
      | [] => [[c]]
      | d :: _ => if isBlank d then [c] :: words rest else consHead c (words rest)

end Text

end GlslInspect
