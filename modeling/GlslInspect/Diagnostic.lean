/-
The log of a shader compiler, read against the source the compiler was given.

Each line of the log has a severity. An error that names a line of the source gets a window of the source around that
line: two lines before it, the line itself and one after, as far as they exist. Which lines these are is reckoned twice:
in numbers without a bound, which the window is made from (`ContextWindow.first`, `last`), and in words of 64 bits, with
their own ends (`ContextWindow.wordBounds?`).

A typical error is `ERROR: 0:12: 'x' : undeclared identifier`; the second field after the marker is the line number.
-/
import GlslInspect.Source
import GlslInspect.Text.Blank
import GlslInspect.Text.Number
import GlslInspect.Tint

namespace GlslInspect

/-- how bad a line of the log is -/
inductive Severity where
  | error
  | warning
  | info
  deriving DecidableEq, Repr

def errorMark : Text := "ERROR:"

def warningMark : Text := "WARNING:"

/-- the severity of a line of the log; the mark of an error outweighs that of a warning -/
def Severity.ofLine (line : Text) : Severity :=
  if Text.occursIn errorMark line then .error
  else if Text.occursIn warningMark line then .warning
  else .info

/-- the line number in an error: the second field after the first mark -/
def errorLineNumber? (line : Text) : Option Nat := do
  let rest ← Text.afterFirst? errorMark line
  let field ← (Text.splitOn ':' rest)[1]?
  (readWord (Text.trim field)).toOption

structure ContextLine where
  number : Nat
  text : Text
  isTarget : Bool
  deriving DecidableEq, Repr

/-- the lines of a source around one that an error names -/
structure ContextWindow where
  line : Nat
  lines : List ContextLine
  deriving DecidableEq, Repr

def linesBefore : Nat := 2

def linesAfter : Nat := 1

namespace ContextWindow

def first (line : Nat) : Nat := max 1 (line - linesBefore)

/-- the last line of the window around a line of a source with `count` lines -/
def last (count line : Nat) : Nat := min (line + linesAfter) count

/-- the first line of a window in 64 bits: what is taken away stops at zero -/
def wordFirst (line : UInt64) : UInt64 :=
  let start := if line < 2 then 0 else line - 2
  if start < 1 then 1 else start

/-- the last line of a window in 64 bits: what is added wraps around -/
def wordLast (count line : UInt64) : UInt64 :=
  if line + 1 < count then line + 1 else count

/-- the first and the last line of the window around a line in 64 bits, if there is one -/
def wordBounds? (count line : UInt64) : Option (UInt64 × UInt64) :=
  if line = 0 ∨ count < line then none else some (wordFirst line, wordLast count line)

/-- the numbers from one to another, both included -/
def numbers (first last : Nat) : List Nat := List.range' first (last + 1 - first)

def around? (source : Source) (line : Nat) : Option ContextWindow :=
  if line = 0 ∨ source.lineCount < line then none
  else
    some ⟨line, (numbers (first line) (last source.lineCount line)).filterMap fun number =>
      (source.lineText? number).map fun text => ⟨number, text, number = line⟩⟩

def heading (window : ContextWindow) : Text := "   -> Context around line " ++ Text.ofNat window.line ++ ":"

def numbered (line : ContextLine) : Text := Text.ofNat line.number ++ ": " ++ line.text

def mark (line : ContextLine) : Text := if line.isTarget then ">>" else "  "

/-- a line of a window as shown without colours -/
def linePlain (line : ContextLine) : Text := "   " ++ mark line ++ " " ++ numbered line ++ "\n"

/-- a line of a window as shown on a terminal; the one that an error names is red -/
def lineShown (palette : Palette) (line : ContextLine) : Text :=
  "   " ++ mark line ++ " " ++
    (if line.isTarget then palette.paint .red (numbered line) else numbered line) ++ "\n"

/-- a window as shown without colours -/
def plain (window : ContextWindow) : Text := window.heading ++ "\n" ++ window.lines.flatMap linePlain

/-- a window as shown on a terminal, with its heading in colour -/
def shown (palette : Palette) (window : ContextWindow) : Text :=
  palette.paint .yellow window.heading ++ "\n" ++ window.lines.flatMap (lineShown palette)

end ContextWindow

/-- a line of the log with what was found out about it -/
structure LogEntry where
  text : Text
  severity : Severity
  context : Option ContextWindow
  deriving DecidableEq, Repr

namespace LogEntry

/-- a line of the log read against a source; only errors have a window -/
def ofLine (source : Source) (line : Text) : LogEntry where
  text := line
  severity := Severity.ofLine line
  context :=
    match Severity.ofLine line with
    | .error => (errorLineNumber? line).bind (ContextWindow.around? source)
    | _ => none

def shown (entry : LogEntry) : Text :=
  entry.text ++ "\n" ++ (entry.context.map ContextWindow.plain).getD []

end LogEntry

/-- the whole log, line by line -/
abbrev Diagnosis := List LogEntry

namespace Diagnosis

def ofLog (source : Source) (log : Text) : Diagnosis := (Text.lines log).map (LogEntry.ofLine source)

def errorCount (diagnosis : Diagnosis) : Nat :=
  (diagnosis.filter fun entry => entry.severity = .error).length

/-- the windows, in order -/
def contexts (diagnosis : Diagnosis) : List ContextWindow := diagnosis.filterMap LogEntry.context

def shown (diagnosis : Diagnosis) : Text := diagnosis.flatMap LogEntry.shown

end Diagnosis

/-- name the shader where a line of the log names the scratch file -/
def renameScratch (scratch shader line : Text) : Text :=
  if scratch.isEmpty then line else Text.replace scratch (shader ++ " (Preprocessed)") line

end GlslInspect
