/-
The tool that validates one shader, or every shader of a directory.

Of each shader it shows how many uniforms it has, the validator's log, the verdict, and around the errors of a shader
that fails the lines of its flattened source. For a directory it goes on after failures and ends with a summary.
-/
import GlslInspect.CommandLine.Arguments
import GlslInspect.CommandLine.Console
import GlslInspect.Validation

namespace GlslInspect.CommandLine

/-- what the tool is asked to do -/
structure ValidateOptions where
  shader : Option Text
  /-- whether all shaders of the directory are validated -/
  auto : Bool
  settings : Settings
  deriving DecidableEq, Repr

namespace ValidateOptions

/-- the arguments of the tool -/
def grammar : Grammar where
  options := [⟨"auto", none, .flag⟩, ⟨"validator", none, .path⟩, ⟨"shader-dir", none, .path⟩,
    ⟨"max-include-depth", none, .number⟩] ++ commonOptions
  operandRequired := false

/-- what was asked, from what was given -/
def ofGiven (given : Given) : ValidateOptions where
  shader := given.operand
  auto := given.has "auto"
  settings :=
    { Settings.standard with
      executable := (given.value? "validator").getD Settings.standard.executable
      shaderDirectory := (given.value? "shader-dir").getD Settings.standard.shaderDirectory
      depthLimit := (given.value? "max-include-depth").bind fun t => (readWord t).toOption }

/-- the help of a tool under a given name -/
def help (name : Text) : Text := Text.join "\n" [
  "GLSL include flattener, uniform auditor and validator front-end",
  "",
  "Usage: " ++ name ++ " [OPTIONS] [SHADER]",
  "",
  "Arguments:",
  "  [SHADER]  Path to shader file to validate",
  "",
  "Options:",
  "      --auto                   Validate every shader found in the shader directory",
  "      --validator <EXE>        Validator executable [default: glslangValidator]",
  "      --shader-dir <DIR>       Directory searched by --auto",
  "      --max-include-depth <N>  Maximum include nesting below the shader (unbounded if omitted)",
  "  -h, --help                   Print help",
  "  -V, --version                Print version",
  ""]

end ValidateOptions

/-- a line of the validator's log, in the colour of its severity -/
def logLine (palette : Palette) (entry : LogEntry) : Emission :=
  match entry.severity with
  | .error => outLine (palette.paint .red entry.text)
  | .warning => outLine (palette.paint .yellow entry.text)
  | .info => outLine entry.text

/-- the verdict on a shader, with the lines around its errors if it failed -/
def verdict (palette : Palette) (validated : Validated) : List Emission :=
  if validated.success then [outLine ("\n" ++ palette.paint .green "✅ VALIDATION SUCCEEDED")]
  else
    outLine ("\n" ++ palette.paint .red "❌ VALIDATION FAILED") ::
      (Diagnosis.contexts validated.diagnosis).map fun window => .out (window.shown palette)

def validatedShown (palette : Palette) (validated : Validated) : List Emission :=
  [outLine ("\n" ++ palette.paint .cyan "--- Static Analysis ---"),
    outLine ("Found " ++ Text.ofNat validated.uniforms.length ++ " active uniforms."),
    outLine ("\n" ++ palette.paint .cyan "--- GLSL Compilation Check ---")] ++
  validated.diagnosis.map (logLine palette) ++ verdict palette validated

/-- the outcome of validating one shader: whether it passed, what is shown, and the host after it -/
structure SingleRun where
  passed : Bool
  emissions : List Emission
  host : Host

/-- validate one shader and show what comes of it -/
def validateOne (palette : Palette) (settings : Settings) (host : Host) (shader : Text) : SingleRun :=
  let validation := host.validate settings shader
  let notes := validation.notes.map Emission.note
  match validation.outcome with
  | .error failure => ⟨false, notes ++ [outLine (failureText palette failure)], validation.host⟩
  | .ok validated => ⟨validated.success, notes ++ validatedShown palette validated, validation.host⟩

/-- a title between two lines -/
def banner (palette : Palette) (title : Text) : List Emission :=
  let line := palette.paint .cyan (List.replicate 60 '=')
  [outLine ("\n" ++ line), outLine (palette.paint .cyan title), outLine line]

def shaderName (shader : Text) : Text := (Path.fileName? shader).getD []

/-- the course of validating several shaders: their names and verdicts, what is shown, and the host after them -/
structure BatchRun where
  results : List (Text × Bool)
  emissions : List Emission
  host : Host

def validateEach (palette : Palette) (settings : Settings) (host : Host) : List Text → BatchRun
  | [] => ⟨[], [], host⟩
  | shader :: rest =>
    let single := validateOne palette settings host shader
    let others := validateEach palette settings single.host rest
    { results := (shaderName shader, single.passed) :: others.results
      emissions := banner palette ("Validating: " ++ shaderName shader) ++ single.emissions ++ others.emissions
      host := others.host }

/-- the verdict on a shader in the summary -/
def resultLine (palette : Palette) (result : Text × Bool) : Emission :=
  let status := if result.2 then palette.paint .green "✅ PASS" else palette.paint .red "❌ FAIL"
  outLine ("  " ++ status ++ "  " ++ result.1)

def passedCount (results : List (Text × Bool)) : Nat := (results.filter Prod.snd).length

def failedCount (results : List (Text × Bool)) : Nat := results.length - passedCount results

def totalLine (palette : Palette) (results : List (Text × Bool)) : Emission :=
  let passed := Text.ofNat (passedCount results)
  if failedCount results = 0 then outLine (palette.paint .green ("All " ++ passed ++ " shaders passed!"))
  else
    outLine (palette.paint .red
      (Text.ofNat (failedCount results) ++ " shaders failed, " ++ passed ++ " passed"))

def validateAll (palette : Palette) (settings : Settings) (host : Host) : SingleRun :=
  let (shaders, notes) := host.discover settings.shaderDirectory settings.extension
  let notes := notes.map Emission.note
  if shaders.isEmpty then ⟨false, notes ++ [outLine (palette.paint .red "No shaders found!")], host⟩
  else
    let batch := validateEach palette settings host shaders
    { passed := failedCount batch.results = 0
      emissions := notes ++
        [outLine (palette.paint .cyan ("════ VALIDATING " ++ Text.ofNat shaders.length ++ " SHADERS ════") ++
          "\n")] ++
        batch.emissions ++ banner palette "SUMMARY" ++ batch.results.map (resultLine palette) ++
        [outLine [], totalLine palette batch.results]
      host := batch.host }

def runValidate (palette : Palette) (options : ValidateOptions) (host : Host) : Finished :=
  let finished (run : SingleRun) : Finished := ⟨if run.passed then 0 else 1, run.emissions, run.host⟩
  if options.auto then finished (validateAll palette options.settings host)
  else
    match options.shader with
    | some shader => finished (validateOne palette options.settings host shader)
    | none => ⟨1, [.out (ValidateOptions.help "shader-audit")], host⟩

end GlslInspect.CommandLine
