/-
The tool that classifies a uniform block of a shader file and writes the report.

The file is flattened first, unless that is not wanted. The report goes to the output stream or to a file; everything
else goes to the error stream.
-/
import GlslInspect.Block.Scan
import GlslInspect.CommandLine.Arguments
import GlslInspect.CommandLine.Console
import GlslInspect.Report
import GlslInspect.Validation

namespace GlslInspect.CommandLine

/-- what the tool is asked to do -/
structure AuditOptions where
  file : Text
  /-- the block to classify; the first one otherwise -/
  block : Option Text
  /-- the file for the report -/
  output : Option Text
  /-- whether includes are left alone -/
  noPreprocess : Bool
  deriving DecidableEq, Repr

namespace AuditOptions

/-- the arguments of the tool -/
def grammar : Grammar where
  options := [⟨"block", some 'b', .text⟩, ⟨"output", some 'o', .path⟩, ⟨"no-preprocess", none, .flag⟩] ++
    commonOptions
  operandRequired := true

/-- what was asked, from what was given -/
def ofGiven (given : Given) : AuditOptions where
  file := given.operand.getD []
  block := given.value? "block"
  output := given.value? "output"
  noPreprocess := given.has "no-preprocess"

def help : Text := Text.join "\n" [
  "GLSL include flattener, uniform auditor and validator front-end",
  "",
  "Usage: ubo-audit [OPTIONS] <GLSL_FILE>",
  "",
  "Arguments:",
  "  <GLSL_FILE>  Path to GLSL file containing uniform block",
  "",
  "Options:",
  "  -b, --block <NAME>   Specific uniform block name to parse (default: first found)",
  "  -o, --output <FILE>  Output markdown file (default: stdout)",
  "      --no-preprocess  Don't expand #include directives",
  "  -h, --help           Print help",
  "  -V, --version        Print version",
  ""]

end AuditOptions

/-- the block name in the report when none was found or asked for -/
def defaultBlockName : Text := "FieldVisualConfig"

/-- what is classified: the text of the file, flattened or as it is, and what is noted on the way -/
def auditText (host : Host) (options : AuditOptions) : Except Failure (Text × List Note) :=
  if !host.pathExists options.file then .error (.shaderNotFound options.file)
  else if options.noPreprocess then
    match host.tree.read host.cwd options.file with
    | .ok t => .ok (t, [])
    | .error error => .error (.io options.file error)
  else
    let flattening := host.flatten none options.file
    .ok (flattening.source.text, flattening.notes)

/-- what is shown about the number of parameters -/
def auditSummary (palette : Palette) (count : Nat) : List Emission :=
  if count = 0 then
    [errLine (palette.paint .yellow "Warning: No parameters found in uniform block"),
      errLine (palette.paint .yellow
        "Try specifying --block <name> or check if file has std140 uniform blocks")]
  else [errLine (palette.paint .green ("Found " ++ Text.ofNat count ++ " parameters"))]

def auditReport (options : AuditOptions) (block : ClassifiedBlock) : Text :=
  Report.text block.parameters options.file ((block.name.or options.block).getD defaultBlockName)

def runAudit (palette : Palette) (options : AuditOptions) (host : Host) : Finished :=
  match auditText host options with
  | .error failure => ⟨1, [errLine (failureText palette failure)], host⟩
  | .ok (t, notes) =>
    let block := classify options.block t
    let shown := notes.map Emission.note ++ [errLine (palette.paint .cyan "Parsing uniform blocks...")] ++
      (classifyNotes options.block t).map Emission.note ++ auditSummary palette block.parameters.length
    let report := auditReport options block
    match options.output with
    | none => ⟨0, shown ++ [outLine report], host⟩
    | some output =>
      match host.tree.write host.device host.cwd output report with
      | (tree, .error error) =>
        ⟨1, shown ++ [errLine (failureText palette (.io output error))], { host with tree := tree }⟩
      | (tree, .ok ()) =>
        ⟨0, shown ++ [errLine (palette.paint .green ("Report written to: " ++ output))],
          { host with tree := tree }⟩

end GlslInspect.CommandLine
