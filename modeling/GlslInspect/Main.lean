/-
The command line.

The first argument names the tool and the others are its own. The tools work on a picture of the machine: what they
look at is put into it first, and what they change is carried out after. Included files are put into the picture as
soon as flattening asks for them.

The program starts no other. When the validator is to run, its source is put in place and its command is shown on the
error stream; its reply is read from standard input: a line with the exit status, then the log up to a line with a
single dot. The tool is then run again with one reply more, until it asks for no further one.
-/
import GlslInspect.CommandLine.Tool
import GlslInspect.Regex.Compiled

namespace GlslInspect.CommandLine

/-- what stands at the place of an absolute path without links -/
def nodeAt (path : String) : IO (Option Node) := do
  try
    let place ← IO.FS.realPath path
    if ← place.isDir then return some .directory
    return some (.file (Contents.ofBytes (← IO.FS.readBinFile place).toList))
  catch _ => return none

/-- put a place without links and all on the way to it into the picture -/
def surveyPlace (tree : FileTree) (place : Location) : IO FileTree := do
  let mut tree := tree
  for n in List.range place.length do
    let step := place.take (n + 1)
    if (tree.node? step).isNone then
      if let some node ← nodeAt (String.ofList (Location.text step)) then
        tree := tree.put step node
  return tree

/-- put what segments pass and where they lead into the picture, with the links on the way -/
def survey (tree : FileTree) (start : Location) (segments : List Text) : IO FileTree := do
  let mut tree := tree
  let mut here := start
  for segment in segments do
    let next := Path.step here segment
    try
      let real := Path.locate [] (← IO.FS.realPath (String.ofList (Location.text next))).toString.toList
      tree ← surveyPlace tree real
      if real ≠ next then tree := tree.put next (.link (Location.text real))
      here := real
    catch _ => return tree
  return tree

/-- put what a path passes and where it leads into the picture -/
def surveyPath (cwd : Location) (tree : FileTree) (path : Text) : IO FileTree :=
  survey tree (FileTree.origin cwd path) (FileTree.way path)

def surveyDirectory (cwd : Location) (tree : FileTree) (path : Text) : IO FileTree := do
  let mut tree ← surveyPath cwd tree path
  if let .ok place := tree.locate? cwd path then
    for entry in ← (← IO.FS.realPath (String.ofList (Location.text place))).readDir do
      tree ← survey tree place [entry.fileName.toList]
  return tree

/-- put the files into the picture that flattening a shader asks for -/
partial def surveyIncludes (host : Host) (limit : Option Nat) (shader : Text) (asked : List Text) : IO Host := do
  let reads := (host.flatten limit shader).events.filterMap fun
    | .read identity => some identity
    | _ => none
  let fresh := (reads.filter fun identity => !asked.contains identity).eraseDups
  if fresh.isEmpty then return host
  let tree ← fresh.foldlM (surveyPath []) host.tree
  surveyIncludes { host with tree := tree } limit shader (asked ++ fresh)

/-- put what the audit looks at into the picture -/
def surveyAudit (options : AuditOptions) (host : Host) : IO Host := do
  let paths := [options.file] ++ options.output.toList
  let tree ← paths.foldlM (surveyPath host.cwd) host.tree
  surveyIncludes { host with tree := tree } none options.file []

/-- put the program that a path leads to into the picture -/
def surveyProgram (cwd : Location) (tree : FileTree) (executable : Text) : IO FileTree := do
  if !executable.contains '/' then return tree
  let tree ← surveyPath cwd tree executable
  match tree.locate? cwd executable with
  | .ok place => return if (tree.node? place).any Node.isFile then tree.put place .program else tree
  | .error _ => return tree

/-- put what validation looks at into the picture -/
def surveyValidate (options : ValidateOptions) (host : Host) : IO Host := do
  let settings := options.settings
  let paths := [settings.scratchFile] ++ options.shader.toList
  let tree ← paths.foldlM (surveyPath host.cwd) host.tree
  let tree ← surveyProgram host.cwd tree settings.executable
  let tree ← if options.auto then surveyDirectory host.cwd tree settings.shaderDirectory else pure tree
  let host := { host with tree := tree }
  let shaders := if options.auto then (host.discover settings.shaderDirectory settings.extension).1
    else options.shader.toList
  shaders.foldlM (fun host shader => surveyIncludes host settings.depthLimit shader []) host

/-- put what a tool looks at into the picture -/
def surveyFor (tool : Tool) (arguments : List Text) (host : Host) : IO Host :=
  match tool.grammar.parse arguments, tool with
  | .accepted given, .audit => surveyAudit (AuditOptions.ofGiven given) host
  | .accepted given, .validate => surveyValidate (ValidateOptions.ofGiven given) host
  | _, _ => return host

/-- read the log of a reply, up to a line with a single dot -/
partial def readLog (input : IO.FS.Stream) (log : String) : IO String := do
  let line ← input.getLine
  if line.isEmpty || line = ".\n" then return log
  readLog input (log ++ line)

/-- put the source of a run in place, show its command and read its reply -/
def askReply (executable : Text) (call : Call) : IO Reply := do
  let path := String.ofList (call.arguments.getLast?.getD [])
  IO.FS.writeFile path (String.ofList (call.source.getD []))
  IO.eprintln (String.ofList (Text.join " " (executable :: call.arguments)))
  let input ← IO.getStdin
  let status := (← input.getLine).trimAscii.toString.toInt?.getD 127
  let log ← readLog input ""
  IO.FS.removeFile path
  return ⟨status, .text log.toList⟩

def validatorOf (tool : Tool) (arguments : List Text) : Text :=
  match tool.grammar.parse arguments with
  | .accepted given => (ValidateOptions.ofGiven given).settings.executable
  | _ => Host.validatorName

/-- run a tool, asking for the replies it needs -/
partial def runAsking (tool : Tool) (palette : Palette) (arguments : List Text) (host : Host)
    (replies : List Reply) : IO (Option Finished) := do
  match tool.run palette arguments { host with answer := Host.scripted replies } with
  | none => return none
  | some finished =>
    match finished.host.calls[replies.length]? with
    | none => return some finished
    | some call =>
      let reply ← askReply (validatorOf tool arguments) call
      runAsking tool palette arguments host (replies ++ [reply])

def carryOut (before after : FileTree) : IO Unit := do
  for (path, contents) in FileTree.written before after [] do
    IO.FS.writeFile ("/" ++ String.ofList path) (String.ofList contents.lossyText)
  for (place, _) in before.entries.filter fun entry => (after.node? entry.1).isNone do
    try IO.FS.removeFile (String.ofList (Location.text place)) catch _ => pure ()

def runTool (tool : Tool) (arguments : List Text) : IO UInt32 := do
  let cwd := Path.locate [] (← IO.currentDir).toString.toList
  let tree ← surveyPlace FileTree.empty cwd
  let palette := Palette.ofNoColor (← IO.getEnv "NO_COLOR")
  let filter := tool.filter Regex.matcher ((← IO.getEnv "RUST_LOG").map String.toList)
  let start := { Host.start tree cwd (Host.scripted []) with programs := [validatorOf tool arguments] }
  let host ← surveyFor tool arguments start
  match ← runAsking tool palette arguments host [] with
  | none =>
    IO.eprint (String.ofList tool.help)
    return 2
  | some finished =>
    IO.print (String.ofList finished.stdout)
    IO.eprint (String.ofList (finished.stderr filter))
    carryOut host.tree finished.host.tree
    return finished.status.toUInt32

end GlslInspect.CommandLine

open GlslInspect GlslInspect.CommandLine

def main (arguments : List String) : IO UInt32 := do
  match arguments.head?.bind fun name => Tool.ofName? name.toList with
  | some tool => runTool tool (arguments.tail.map String.toList)
  | none =>
    IO.eprintln "the first argument must be ubo-audit or validate-shader"
    return 2
