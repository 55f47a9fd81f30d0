/-
Flattened shader sources, line by line.

A line is code copied from a file, with its newline if it had one, or a marker: a comment line that says where an
include begins or ends, or why it was not expanded. `Line.text` is what is written for a line, `Source.text` what is
written for a source, and `Source.lineText?` the line that a diagnostic counts.
-/
import GlslInspect.Text.Basic

namespace GlslInspect

inductive Line where
  /-- text of a file, up to and with its newline -/
  | code (text : Text)
  /-- the beginning of an include, with the path as spelled -/
  | includeStart (path : Text)
  /-- the end of an include, with the path as spelled -/
  | includeEnd (path : Text)
  /-- an include of a file that is already open -/
  | circular (path : Text)
  /-- an include that cannot be resolved or read -/
  | missing (path : Text)
  /-- an include below the depth limit -/
  | depthLimit (path : Text) (limit : Nat)
  deriving DecidableEq, Repr

namespace Line

/-- whether the tool made the line -/
def isMarker : Line → Bool
  | .code _ => false
  | _ => true

def text : Line → Text
  | .code text => text
  | .includeStart path => "// >>> INCLUDE START: " ++ path ++ "\n"
  | .includeEnd path => "// <<< INCLUDE END: " ++ path ++ "\n"
  | .circular path => "// SKIPPED CIRCULAR INCLUDE: " ++ path ++ "\n"
  | .missing path => "// ERROR: FILE NOT FOUND " ++ path ++ "\n"
  | .depthLimit path limit => "// SKIPPED INCLUDE (MAX DEPTH " ++ Text.ofNat limit ++ "): " ++ path ++ "\n"

/-- a code line that ends in a newline, added if it had none; markers end in one anyway -/
def closed : Line → Line
  | .code text => .code (if text.getLast? = some '\n' then text else text ++ "\n")
  | line => line

end Line

/-- a flattened source: its lines in order -/
abbrev Source := List Line

namespace Source

/-- what is written for a source -/
def text (source : Source) : Text := source.flatMap Line.text

def lineCount (source : Source) : Nat := source.length

def isLineEnd (c : Char) : Bool := c = '\n' || c = '\r'

/-- the text of a line, counted from one, without the line ends at its end -/
def lineText? (source : Source) : Nat → Option Text
  | 0 => none
  | n + 1 => (source[n]?).map fun line => Text.dropEndWhile isLineEnd line.text

/-- close the last line, so that what follows starts on a fresh one -/
def closeLast : Source → Source
  | [] => []
  | [line] => [line.closed]
  | line :: next :: rest => line :: closeLast (next :: rest)

end Source

end GlslInspect
