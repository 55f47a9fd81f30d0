/-
What the tool notes while it works.

A note is a cause with its data; its level, the part of the tool that speaks and its wording are functions of it.
`Note.line` is how it shows on the error stream.
-/
import GlslInspect.Text.Number
import GlslInspect.Text.Plain
import GlslInspect.Text.Quoted
import GlslInspect.Path

namespace GlslInspect

/-- how much a note matters, from most to least -/
inductive Level where
  | error
  | warn
  | info
  | debug
  | trace
  deriving DecidableEq, Repr

namespace Level

/-- the rank of a level: one that matters more has the smaller rank -/
def rank : Level → Nat
  | .error => 1
  | .warn => 2
  | .info => 3
  | .debug => 4
  | .trace => 5

def name : Level → Text
  | .error => "ERROR"
  | .warn => "WARN"
  | .info => "INFO"
  | .debug => "DEBUG"
  | .trace => "TRACE"

end Level

/-- the part of the tool that makes a note -/
inductive Speaker where
  | expansion
  | classifier
  | validation
  deriving DecidableEq, Repr

def Speaker.name : Speaker → Text
  | .expansion => "shader_audit::scanner"
  | .classifier => "shader_audit::ubo_block"
  | .validation => "shader_audit::validator"

/-- an event worth noting -/
inductive Note where
  /-- an include path that leads nowhere -/
  | unresolved (path reason : Text)
  /-- an include that would open a file that is already open -/
  | circular (display : Text)
  /-- an include below the depth limit -/
  | depthLimit (limit : Nat) (display : Text)
  /-- an include that cannot be read -/
  | unreadable (depth : Nat) (display reason : Text)
  /-- a file that is being expanded -/
  | processing (depth : Nat) (display : Text)
  /-- the block that is classified -/
  | blockFound (name : Text)
  /-- a new section of the block -/
  | sectionFound (label : Text)
  /-- a slot comment whose number cannot be used -/
  | slotIgnored (digits : Text) (fault : NumberFault)
  /-- how many uniforms the flattened shader declares -/
  | uniformsFound (count : Nat)
  /-- a scratch file that stays behind -/
  | notRemoved (path reason : Text)
  /-- a shader directory that cannot be listed -/
  | notListed (directory reason : Text)
  deriving DecidableEq, Repr

namespace Note

def level : Note → Level
  | .unresolved .. => .warn
  | .circular .. => .debug
  | .depthLimit .. => .warn
  | .unreadable .. => .warn
  | .processing .. => .info
  | .blockFound .. => .info
  | .sectionFound .. => .info
  | .slotIgnored .. => .warn
  | .uniformsFound .. => .info
  | .notRemoved .. => .error
  | .notListed .. => .debug

def speaker : Note → Speaker
  | .unresolved .. | .circular .. | .depthLimit .. | .unreadable .. | .processing .. => .expansion
  | .blockFound .. | .sectionFound .. | .slotIgnored .. => .classifier
  | .uniformsFound .. | .notRemoved .. | .notListed .. => .validation

/-- two spaces for each open file -/
def indent (depth : Nat) : Text := Text.repeated depth "  "

def message : Note → Text
  | .unresolved path reason => "Include file not found: " ++ path ++ " (" ++ reason ++ ")"
  | .circular display => "Skipping circular include: " ++ display
  | .depthLimit limit display => "Include depth limit (" ++ Text.ofNat limit ++ ") reached at " ++ display
  | .unreadable depth display reason =>
    indent depth ++ "Cannot read include file " ++ display ++ ": " ++ reason
  | .processing depth display => indent depth ++ "Processing: " ++ Path.shortName display
  | .blockFound name => "Found uniform block: " ++ name
  | .sectionFound label => "  Section: " ++ label
  | .slotIgnored digits fault => "Ignoring slot annotation " ++ digits ++ ": " ++ fault.message
  | .uniformsFound count => "Found " ++ Text.ofNat count ++ " active uniforms."
  | .notRemoved path reason => "Failed to remove " ++ Text.quoted path ++ ": " ++ reason
  | .notListed directory reason =>
    "Cannot read shader directory " ++ Text.quoted directory ++ ": " ++ reason

/-- a message on the error stream: what follows a newline in it is set in by four spaces -/
def setIn (message : Text) : Text := message.flatMap fun c => if c = '\n' then "\n    " else [c]

/-- a note as a line of the error stream, its level padded to five characters; the line is plain text -/
def line (n : Note) : Text :=
  Text.plain
    ("[" ++ n.level.name ++ List.replicate (5 - n.level.name.length) ' ' ++ " " ++ n.speaker.name ++ "] " ++
      setIn n.message ++ "\n")

end Note

end GlslInspect
