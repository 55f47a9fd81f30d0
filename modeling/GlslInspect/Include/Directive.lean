/-
The include directive: blanks, `#include`, at least one blank, and a non-empty path in double quotes. What stands
after the closing quote does not matter.
-/
import GlslInspect.Pattern

namespace GlslInspect

/-- the path of an include directive, as spelled, if the line is one -/
def includePath? (line : Text) : Option Text := do
  let rest ← Text.after? "#include" (Pattern.blanks line)
  let rest ← Pattern.blanks1? rest
  let rest ← Text.after? "\"" rest
  let (path, _) ← Pattern.upTo? '"' rest
  some path

end GlslInspect
