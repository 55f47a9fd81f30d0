/-
Reading command-line arguments.

An option has a long name and maybe a letter, and it is a flag or takes a value. A value is attached (`--name=value`,
`-nvalue`, `-n=value`) or is the next argument, which then must not look like an option. `--` ends the options. Each
option is given at most once, and there is at most one operand. Arguments are taken from the left: the first that
cannot be used makes a usage error, unless help or the version was asked for before it.
-/
import GlslInspect.Text.Number

namespace GlslInspect.CommandLine

inductive OptionKind where
  | flag
  /-- takes any text -/
  | text
  /-- takes a path, which is not empty -/
  | path
  /-- takes an unsigned number of 64 bits -/
  | number
  | help
  | version
  deriving DecidableEq, Repr

structure OptionSpec where
  name : Text
  letter : Option Char
  kind : OptionKind
  deriving DecidableEq, Repr

/-- what a tool accepts: its options, and whether it needs its operand -/
structure Grammar where
  options : List OptionSpec
  operandRequired : Bool
  deriving DecidableEq, Repr

def commonOptions : List OptionSpec := [⟨"help", some 'h', .help⟩, ⟨"version", some 'V', .version⟩]

/-- what was given: values of options by name, a flag's being empty, and the operand -/
structure Given where
  values : List (Text × Text)
  operand : Option Text
  deriving DecidableEq, Repr

/-- what arguments come to -/
inductive Parsed where
  | usageError
  | help
  | version
  | accepted (given : Given)
  deriving DecidableEq, Repr

namespace Given

def nothing : Given := ⟨[], none⟩

def fits (kind : OptionKind) (value : Text) : Bool :=
  match kind with
  | .path => !value.isEmpty
  | .number =>
    match readWord value with
    | .ok _ => true
    | .error _ => false
  | _ => true

def set? (given : Given) (option : OptionSpec) (value : Text) : Option Given :=
  if (given.values.lookup option.name).isSome || !fits option.kind value then none
  else some { given with values := (option.name, value) :: given.values }

def setOperand? (given : Given) (value : Text) : Option Given :=
  if given.operand.isSome || !fits .path value then none else some { given with operand := some value }

def value? (given : Given) (name : Text) : Option Text := given.values.lookup name

def has (given : Given) (name : Text) : Bool := (given.value? name).isSome

end Given

/-- after an argument: stop with an answer, or go on, maybe waiting for the value of an option -/
abbrev Progress := Except Parsed (Given × Option OptionSpec)

namespace Grammar

/-- go on with what was given, if it was allowed -/
def goOn : Option Given → Progress
  | some given => .ok (given, none)
  | none => .error .usageError

/-- an option given by its long name, with the attached value if there is one -/
def takeLong (grammar : Grammar) (given : Given) (name : Text) (value : Option Text) : Progress :=
  match grammar.options.find? fun option => option.name = name with
  | none => .error .usageError
  | some option =>
    match option.kind, value with
    | .help, none => .error .help
    | .version, none => .error .version
    | .flag, none => goOn (given.set? option [])
    | .help, some _ | .version, some _ | .flag, some _ => .error .usageError
    | _, none => .ok (given, some option)
    | _, some value => goOn (given.set? option value)

/-- a value attached to a letter, after an equals sign or directly -/
def attached : Text → Text
  | '=' :: value => value
  | value => value

/-- options given by their letters; the rest after the letter of an option with a value is that value -/
def takeLetters (grammar : Grammar) (given : Given) : Text → Progress
  | [] => .ok (given, none)
  | letter :: rest =>
    match grammar.options.find? fun option => option.letter = some letter with
    | none => .error .usageError
    | some option =>
      match option.kind with
      | .help => .error .help
      | .version => .error .version
      | .flag =>
        match given.set? option [] with
        | some given => takeLetters grammar given rest
        | none => .error .usageError
      | _ => if rest.isEmpty then .ok (given, some option) else goOn (given.set? option (attached rest))

/-- an argument in front of `--` that is not the value of an option before it -/
def take (grammar : Grammar) (given : Given) (argument : Text) : Progress :=
  match argument with
  | '-' :: '-' :: option =>
    takeLong grammar given (option.takeWhile (· != '='))
      (match option.dropWhile (· != '=') with
        | [] => none
        | _ :: value => some value)
  | '-' :: letter :: rest => takeLetters grammar given (letter :: rest)
  | operand => goOn (given.setOperand? operand)

/-- whether an argument looks like an option; a single dash does not -/
def looksLikeOption (argument : Text) : Bool := Text.startsWith "-" argument && argument ≠ "-"

/-- the answer after the last argument -/
def finish (grammar : Grammar) (given : Given) : Parsed :=
  if grammar.operandRequired && given.operand.isNone then .usageError else .accepted given

def parseOperands (grammar : Grammar) (given : Given) : List Text → Parsed
  | [] => grammar.finish given
  | argument :: rest =>
    match given.setOperand? argument with
    | some given => parseOperands grammar given rest
    | none => .usageError

/-- the arguments after some were taken, the first of them being the value of a waiting option -/
def parseFrom (grammar : Grammar) (given : Given) : Option OptionSpec → List Text → Parsed
  | none, [] => grammar.finish given
  | some _, [] => .usageError
  | some option, argument :: rest =>
    if looksLikeOption argument then .usageError
    else
      match given.set? option argument with
      | some given => parseFrom grammar given none rest
      | none => .usageError
  | none, argument :: rest =>
    if argument = "--" then parseOperands grammar given rest
    else
      match grammar.take given argument with
      | .error answer => answer
      | .ok (given, waiting) => parseFrom grammar given waiting rest

/-- read the arguments of a tool -/
def parse (grammar : Grammar) (arguments : List Text) : Parsed := grammar.parseFrom Given.nothing none arguments

end Grammar

end GlslInspect.CommandLine
