/-
Colours of terminal output.

A tinted text stands between the escape code of its colour and the code that ends it. A `Palette` says whether colours
are used at all; without them a tinted text is the text itself.
-/
import GlslInspect.Text.Basic

namespace GlslInspect

/-- the colours in use -/
inductive Tint where
  | cyan
  | green
  | yellow
  | red
  deriving DecidableEq, Repr

def Tint.code : Tint → Text
  | .cyan => "\x1b[96m"
  | .green => "\x1b[92m"
  | .yellow => "\x1b[93m"
  | .red => "\x1b[91m"

/-- the code that ends a colour -/
def tintReset : Text := "\x1b[0m"

inductive Palette where
  | plain
  | coloured
  deriving DecidableEq, Repr

/-- the colours for a value of `NO_COLOR`: none as soon as it is set, to whatever value -/
def Palette.ofNoColor (value : Option String) : Palette := if value.isSome then .plain else .coloured

/-- a text in a colour, where colours are used -/
def Palette.paint (palette : Palette) (tint : Tint) (t : Text) : Text :=
  match palette with
  | .plain => t
  | .coloured => tint.code ++ t ++ tintReset

end GlslInspect
