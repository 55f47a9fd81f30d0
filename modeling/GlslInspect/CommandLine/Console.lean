/-
What a tool shows: texts on its two output streams, and notes, in the order they come.

Notes go to the error stream as far as a `LogFilter` lets them, after the complaints about the filter itself.
-/
import GlslInspect.CommandLine.LogFilter
import GlslInspect.Host
import GlslInspect.Tint

namespace GlslInspect.CommandLine

/-- something that is shown -/
inductive Emission where
  | out (t : Text)
  | err (t : Text)
  | note (note : Note)
  deriving DecidableEq, Repr

/-- a line on the output stream -/
def outLine (t : Text) : Emission := .out (t ++ "\n")

def errLine (t : Text) : Emission := .err (t ++ "\n")

structure Finished where
  status : Nat
  emissions : List Emission
  host : Host

namespace Finished

/-- the output stream of a run -/
def stdout (finished : Finished) : Text :=
  finished.emissions.flatMap fun
    | .out t => t
    | _ => []

/-- the error stream of a run -/
def stderr (filter : LogFilter) (finished : Finished) : Text :=
  filter.warnings ++ finished.emissions.flatMap fun
    | .out _ => []
    | .err t => t
    | .note note => if filter.shows note then note.line else []

end Finished

def failureText (palette : Palette) (failure : Failure) : Text :=
  palette.paint .red ("Error: " ++ failure.message)

end GlslInspect.CommandLine
