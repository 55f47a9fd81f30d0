/-
Validation of a shader by a compiler.

The shader is flattened, written to a scratch file and handed to a compiler; what the compiler says is read against the
flattened source. The scratch file is removed whatever the compiler does. A `Compiler` is anything that looks at a
path on a host and answers; `Compiler.external` runs the installed validator.
-/
import GlslInspect.Diagnostic
import GlslInspect.Host
import GlslInspect.Include.Disk
import GlslInspect.Include.Expansion
import GlslInspect.Scratch
import GlslInspect.Uniform

namespace GlslInspect

structure Settings where
  /-- the validator to run -/
  executable : Text
  /-- the shader stage it is told -/
  stage : Text
  /-- where the flattened source is written for it -/
  scratchFile : Text
  /-- the directory in which shaders are looked for -/
  shaderDirectory : Text
  /-- the extension of the shaders looked for, without the dot -/
  extension : Text
  /-- how many includes may stand inside each other -/
  depthLimit : Option Nat
  deriving DecidableEq, Repr

def Settings.standard : Settings where
  executable := Host.validatorName
  stage := "frag"
  scratchFile := "temp_validated_shader.frag"
  shaderDirectory := "src/main/resources/assets/the-virus-block/shaders/post"
  extension := "fsh"
  depthLimit := none

/-- what a compiler says about a source -/
structure Compiled where
  success : Bool
  log : Text
  deriving DecidableEq, Repr

/-- looks at the file at a path and answers, possibly changing the host -/
abbrev Compiler := Text → Host → Host × Except Failure Compiled

/-- what can happen to a file while a compiler looks at it -/
inductive Interference where
  | none
  | remove
  | replaceByDirectory
  deriving DecidableEq, Repr

/-- let something happen to a file -/
def Interference.apply (interference : Interference) (path : Text) (host : Host) : Host :=
  match interference with
  | .none => host
  | .remove =>
    match host.tree.remove host.device host.cwd path with
    | .ok tree => { host with tree := tree }
    | .error _ => host
  | .replaceByDirectory =>
    match host.tree.remove host.device host.cwd path with
    | .ok tree =>
      match tree.makeDirectory host.cwd path with
      | .ok tree => { host with tree := tree }
      | .error _ => { host with tree := tree }
    | .error _ => host

namespace Compiler

/-- the installed validator: the run's success, and what it prints as the log -/
def external (settings : Settings) : Compiler := fun path host =>
  match host.launch settings.executable ["-S", settings.stage, "-C", path] with
  | .ok (host, reply) => (host, .ok ⟨reply.succeeded, reply.output.lossyText⟩)
  | .error .notFound => (host, .error (.validatorNotFound settings.executable))
  | .error error => (host, .error (.validatorLaunch settings.executable error))

/-- a compiler that always says the same; it records the run before anything happens to the file -/
def canned (interference : Interference) (answer : Except Failure Compiled) : Compiler := fun path host =>
  (interference.apply path { host with calls := host.calls ++ [host.callOf [path]] }, answer)

end Compiler

structure Validated where
  /-- the file name of the shader -/
  shaderName : Text
  /-- the uniforms of the flattened source -/
  uniforms : List Uniform
  /-- the compiler's log, naming the shader where it named the scratch file -/
  diagnosis : Diagnosis
  success : Bool
  deriving DecidableEq, Repr

/-- the course of a validation: the host after it, what was noted, and the outcome -/
structure Validation where
  host : Host
  notes : List Note
  outcome : Except Failure Validated

def Host.flatten (host : Host) (limit : Option Nat) (path : Text) : Flattening Text :=
  (host.tree.library host.cwd).flatten limit [] path

/-- read a compiler's log against a flattened shader; numbers are taken from the log as it is, names replaced after -/
def Diagnosis.ofCompiled (source : Source) (scratch shader log : Text) : Diagnosis :=
  (Diagnosis.ofLog source log).map fun entry => { entry with text := renameScratch scratch shader entry.text }

def Host.validateWith (host : Host) (settings : Settings) (compiler : Compiler) (shader : Text) : Validation :=
  if !host.pathExists shader then ⟨host, [], .error (.shaderNotFound shader)⟩
  else
    let flattening := host.flatten settings.depthLimit shader
    let source := flattening.source
    match Scratch.create host.tree host.device host.cwd settings.scratchFile source.text with
    | (tree, .error failure) => ⟨{ host with tree := tree }, flattening.notes, .error failure⟩
    | (tree, .ok ()) =>
      let uniforms := Uniform.declared source.text
      let compiled := compiler settings.scratchFile { host with tree := tree }
      let released :=
        Scratch.release compiled.1.tree compiled.1.device compiled.1.cwd settings.scratchFile
      { host := { compiled.1 with tree := released.1 }
        notes := flattening.notes ++ [.uniformsFound uniforms.length] ++ released.2
        outcome :=
          match compiled.2 with
          | .error failure => .error failure
          | .ok answer =>
            .ok ⟨Path.shortName shader, uniforms,
              Diagnosis.ofCompiled source settings.scratchFile (Path.shortName shader) answer.log,
              answer.success⟩ }

def Host.validate (host : Host) (settings : Settings) (shader : Text) : Validation :=
  host.validateWith settings (Compiler.external settings) shader

/-- the shaders of a directory: its files with a given extension, links to files included, sorted; and what is
noted -/
def Host.discover (host : Host) (directory extension : Text) : List Text × List Note :=
  match host.tree.list host.cwd directory with
  | .error error => ([], [.notListed directory error.message])
  | .ok children =>
    let names := (children.map Prod.fst).filter fun name =>
      host.isFile (Path.join directory name) ∧ Path.extension? name = some extension
    ((names.mergeSort Text.le).map fun name => Path.join directory name, [])

end GlslInspect
