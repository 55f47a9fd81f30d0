/-
The machine the tools run on: a file tree on a device, a working directory, and programs.

A program is found by its name alone if it is among `Host.programs`, and by its path if it stands there. A run is
recorded with its arguments and the source it was given. What it answers is a function of how many runs came before and
of the run itself, so both a fixed script of replies and a validator that looks at the source are hosts.

Besides what a file tree takes for granted: whatever program is run answers like a shader validator, which only looks at
the file that it is given, and is not kept from starting but for the reasons that `Host.launch` gives.
-/
import GlslInspect.FileTree

namespace GlslInspect

/-- a run of the validator: its arguments, and the text of the file that the last one names -/
structure Call where
  arguments : List Text
  source : Option Text
  deriving DecidableEq, Repr

/-- what a run of the validator gives back -/
structure Reply where
  status : Int
  output : Contents
  deriving DecidableEq, Repr

/-- whether a run succeeded: its status is zero in the eight bits that are kept of it -/
def Reply.succeeded (reply : Reply) : Bool := reply.status % 256 = 0

/-- the machine the tools run on -/
structure Host where
  tree : FileTree
  cwd : Location
  device : Device
  /-- the programs that are found by their names alone -/
  programs : List Text
  /-- the reply to a run, after so many others -/
  answer : Nat → Call → Reply
  /-- the runs so far, in order -/
  calls : List Call

namespace Host

def validatorName : Text := "glslangValidator"

/-- a machine with a sound device and the validator installed, before any run -/
def start (tree : FileTree) (cwd : Location) (answer : Nat → Call → Reply) : Host :=
  ⟨tree, cwd, .sound, [validatorName], answer, []⟩

/-- replies from a script: each run takes the next one, and the last one repeats -/
def scripted (replies : List Reply) (count : Nat) (_ : Call) : Reply :=
  match replies[count]? with
  | some reply => reply
  | none => replies.getLast?.getD ⟨0, .text []⟩

def startable (host : Host) (executable : Text) : Except FileError Unit :=
  if executable.contains '/' then do
    let place ← host.tree.locate? host.cwd executable
    match host.tree.node? place with
    | some .program => .ok ()
    | _ => .error .permissionDenied
  else if FileTree.nameLimit < Text.byteLength executable then .error .nameTooLong
  else if executable = "." || executable = ".." then .error .permissionDenied
  else if host.programs.contains executable then .ok ()
  else .error .notFound

/-- the run of a program with given arguments -/
def callOf (host : Host) (arguments : List Text) : Call where
  arguments := arguments
  source := arguments.getLast?.bind fun path => (host.tree.read host.cwd path).toOption

/-- how many bytes an argument of a program may have -/
def argumentLimit : Nat := 131071

/-- run a program -/
def launch (host : Host) (executable : Text) (arguments : List Text) : Except FileError (Host × Reply) := do
  if (executable :: arguments).any fun t => t.contains '\x00' then
    .error (.other "nul byte found in provided data")
  host.startable executable
  if arguments.any fun t => argumentLimit < Text.byteLength t then
    .error (.other "Argument list too long (os error 7)")
  let call := host.callOf arguments
  .ok ({ host with calls := host.calls ++ [call] }, host.answer host.calls.length call)

def pathExists (host : Host) (path : Text) : Bool := host.tree.pathExists host.cwd path

def isFile (host : Host) (path : Text) : Bool := host.tree.isFile host.cwd path

end Host

end GlslInspect
