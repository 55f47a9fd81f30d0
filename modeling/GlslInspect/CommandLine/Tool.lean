/-
The two tools, from their arguments to their output.
-/
import GlslInspect.CommandLine.AuditTool
import GlslInspect.CommandLine.ValidateTool

namespace GlslInspect.CommandLine

inductive Tool where
  | audit
  | validate
  deriving DecidableEq, Repr

namespace Tool

def name : Tool → Text
  | .audit => "ubo-audit"
  | .validate => "validate-shader"

def ofName? (t : Text) : Option Tool := [Tool.audit, .validate].find? fun tool => tool.name = t

/-- the arguments a tool accepts -/
def grammar : Tool → Grammar
  | .audit => AuditOptions.grammar
  | .validate => ValidateOptions.grammar

def help : Tool → Text
  | .audit => AuditOptions.help
  | .validate => ValidateOptions.help (name .validate)

/-- what is shown of notes when nothing else is said -/
def defaultFilter : Tool → Text
  | .audit => "warn"
  | .validate => "info"

/-- what is shown of notes: what was asked for, or the default -/
def filter (matcher : Matcher) (tool : Tool) (asked : Option Text) : LogFilter :=
  LogFilter.parse matcher (asked.getD tool.defaultFilter)

/-- the version, the same for both tools -/
def version : Text := "shader-audit 0.1.0\n"

/-- do what was asked of a tool -/
def perform (tool : Tool) (palette : Palette) (given : Given) (host : Host) : Finished :=
  match tool with
  | .audit => runAudit palette (AuditOptions.ofGiven given) host
  | .validate => runValidate palette (ValidateOptions.ofGiven given) host

/-- run a tool with arguments; nothing comes of arguments it does not accept -/
def run (tool : Tool) (palette : Palette) (arguments : List Text) (host : Host) : Option Finished :=
  match tool.grammar.parse arguments with
  | .usageError => none
  | .help => some ⟨0, [.out tool.help], host⟩
  | .version => some ⟨0, [.out version], host⟩
  | .accepted given => some (tool.perform palette given host)

end Tool

end GlslInspect.CommandLine
