/-
Classification of the members of one uniform block with the layout `std140`.

The text is scanned line by line. Until the wanted block begins, lines are passed over; inside it, comments set the
slot and dividers announce sections, and each declaration becomes a parameter; the first line that starts with a
closing brace ends the scan. Nothing is checked: stale or contradictory comments are carried along.

`Scan.feed` is one step and `Scan.notes` what is noted at that step. `classify` scans a text.
-/
import GlslInspect.Block.Parameter
import GlslInspect.Log
import GlslInspect.Pattern

namespace GlslInspect

open Pattern

/-- the name of the block that a line begins, given the line without blanks at its ends -/
def blockHeader? (stripped : Text) : Option Text := do
  let t ← Text.after? "layout" stripped
  let t ← Text.after? "(" (blanks t)
  let t ← Text.after? "std140" (blanks t)
  let t ← Text.after? ")" (blanks t)
  let t ← Text.after? "uniform" (blanks t)
  let t ← blanks1? t
  let (name, t) ← word? t
  let _ ← Text.after? "\x7b" (blanks t)
  some name

/-- the digits of a comment `// vec4 N:` -/
def vectorSlot? (stripped : Text) : Option Text := do
  let t ← Text.after? "//" stripped
  let t ← Text.after? "vec4" (blanks t)
  let t ← blanks1? t
  let (digits, t) ← digits? t
  let _ ← Text.after? ":" t
  some digits

/-- the first digits of a comment `// mat4 (vec4 N-M):` -/
def matrixSlot? (stripped : Text) : Option Text := do
  let t ← Text.after? "//" stripped
  let t ← Text.after? "mat4" (blanks t)
  let t ← Text.after? "(vec4" (blanks t)
  let (first, t) ← digits? (blanks t)
  let t ← Text.after? "-" t
  let (_, t) ← digits? t
  let _ ← Text.after? "):" t
  some first

def slotDigits? (stripped : Text) : Option Text := (vectorSlot? stripped).or (matrixSlot? stripped)

/-- a declared member: its type, its name and the comment after it -/
structure Declaration where
  type : GlslType
  name : Text
  comment : Text
  deriving DecidableEq, Repr

/-- the comment that follows a declaration, empty if there is none -/
def trailingComment (t : Text) : Text :=
  match Text.after? "//" (blanks t) with
  | some t => Text.trim ((blanks t).takeWhile (· != '\n'))
  | none => []

def declarationOf? (type : GlslType) (stripped : Text) : Option Declaration := do
  let t ← Text.after? type.keyword stripped
  let t ← blanks1? t
  let (name, t) ← word? t
  let t ← Text.after? ";" (blanks t)
  some ⟨type, name, trailingComment t⟩

def declaration? (stripped : Text) : Option Declaration :=
  [GlslType.mat4, .float, .vec2, .vec3, .vec4].findSome? fun type => declarationOf? type stripped

def divider : Text := "═══"

/-- the label that a comment line gives a section -/
def labelOf? (stripped : Text) : Option Text :=
  if Text.startsWith "//" stripped then
    let label := Text.trim (stripped.dropWhile (· = '/'))
    if label.isEmpty || label.contains '═' then none else some label
  else none

/-- the section that begins on a line: the line has a divider and the next one a label -/
def sectionLabel? (line : Text) (next : Option Text) : Option Text :=
  if Text.occursIn divider line then next.bind fun next => labelOf? (Text.trim next) else none

/-- where a scan is -/
inductive Phase where
  | searching
  | inBlock
  | done
  deriving DecidableEq, Repr

structure Scan where
  phase : Phase
  /-- the name of the block that was found -/
  blockName : Option Text
  /-- the label of the current section -/
  sectionLabel : Text
  /-- the current slot -/
  slot : Nat
  /-- the parameters found so far, the latest first -/
  latest : List Parameter
  deriving DecidableEq, Repr

/-- the section of parameters before any label -/
def unknownSection : Text := "Unknown"

def matrixSlots : Nat := 4

namespace Scan

/-- the state before the first line -/
def start : Scan := ⟨.searching, none, unknownSection, 0, []⟩

/-- the parameters found so far, in order -/
def parameters (scan : Scan) : List Parameter := scan.latest.reverse

/-- whether the block has ended -/
def isDone (scan : Scan) : Bool := scan.phase = .done

/-- whether a block is the wanted one; without a target any is -/
def wanted (target : Option Text) (name : Text) : Bool :=
  match target with
  | none => true
  | some target => target = name

/-- the block that a line begins, if it is the wanted one -/
def entered? (target : Option Text) (stripped : Text) : Option Text :=
  (blockHeader? stripped).filter (wanted target)

def setSection (scan : Scan) : Option Text → Scan
  | some label => { scan with sectionLabel := label }
  | none => scan

/-- take over the slot of a slot comment; one that cannot be read changes nothing -/
def setSlot (scan : Scan) : Option Text → Scan
  | some digits =>
    match readWord digits with
    | .ok slot => { scan with slot := slot }
    | .error _ => scan
  | none => scan

/-- add the parameter of a declaration; a matrix moves the slot on, up to the largest number -/
def declare (scan : Scan) : Option Declaration → Scan
  | none => scan
  | some d =>
    if d.type = .mat4 then
      { scan with
        slot := min (scan.slot + matrixSlots) maxWord
        latest := ⟨scan.slot, d.name, d.type, scan.sectionLabel, "(4 slots) " ++ d.comment⟩ :: scan.latest }
    else
      { scan with latest := ⟨scan.slot, d.name, d.type, scan.sectionLabel, d.comment⟩ :: scan.latest }

/-- one line of the text, with the line after it -/
def feed (target : Option Text) (scan : Scan) (line : Text) (next : Option Text) : Scan :=
  let stripped := Text.trim line
  match scan.phase with
  | .done => scan
  | .searching =>
    match entered? target stripped with
    | some name => { scan with phase := .inBlock, blockName := some name }
    | none => scan
  | .inBlock =>
    if Text.startsWith "\x7d" stripped then { scan with phase := .done }
    else ((scan.setSection (sectionLabel? line next)).setSlot (slotDigits? stripped)).declare
      (declaration? stripped)

def slotNotes : Option Text → List Note
  | some digits =>
    match readWord digits with
    | .ok _ => []
    | .error fault => [.slotIgnored digits fault]
  | none => []

def notes (target : Option Text) (scan : Scan) (line : Text) (next : Option Text) : List Note :=
  let stripped := Text.trim line
  match scan.phase with
  | .done => []
  | .searching => ((entered? target stripped).map Note.blockFound).toList
  | .inBlock =>
    if Text.startsWith "\x7d" stripped then []
    else ((sectionLabel? line next).map Note.sectionFound).toList ++ slotNotes (slotDigits? stripped)

/-- the scan of lines, each with its successor -/
def run (target : Option Text) (scan : Scan) : List Text → Scan
  | [] => scan
  | line :: rest => run target (scan.feed target line rest.head?) rest

def runNotes (target : Option Text) (scan : Scan) : List Text → List Note
  | [] => []
  | line :: rest =>
    scan.notes target line rest.head? ++ runNotes target (scan.feed target line rest.head?) rest

end Scan

structure ClassifiedBlock where
  /-- the name of the block that was found -/
  name : Option Text
  parameters : List Parameter
  deriving DecidableEq, Repr

def Scan.result (scan : Scan) : ClassifiedBlock := ⟨scan.blockName, scan.parameters⟩

def scanLines (source : Text) : List Text := Text.splitOn '\n' source

/-- classify the members of the first `std140` block of a text, or of the first with a given name -/
def classify (target : Option Text) (source : Text) : ClassifiedBlock :=
  (Scan.start.run target (scanLines source)).result

def classifyNotes (target : Option Text) (source : Text) : List Note :=
  Scan.start.runNotes target (scanLines source)

end GlslInspect
