/-
What can go wrong: errors of file operations, and failures of the tools.
-/
import GlslInspect.Text.Quoted

namespace GlslInspect

/-- why a file operation fails -/
inductive FileError where
  | notFound
  | permissionDenied
  | notADirectory
  | isADirectory
  /-- the contents are no text -/
  | notText
  /-- the path has a NUL character -/
  | nulInPath
  /-- a name or the whole path has too many bytes -/
  | nameTooLong
  /-- more links stand on the way than are followed -/
  | tooManyLinks
  /-- any other reason, in words -/
  | other (reason : Text)
  deriving DecidableEq, Repr

def FileError.message : FileError → Text
  | .notFound => "No such file or directory (os error 2)"
  | .permissionDenied => "Permission denied (os error 13)"
  | .notADirectory => "Not a directory (os error 20)"
  | .isADirectory => "Is a directory (os error 21)"
  | .notText => "stream did not contain valid UTF-8"
  | .nulInPath => "file name contained an unexpected NUL byte"
  | .nameTooLong => "File name too long (os error 36)"
  | .tooManyLinks => "Too many levels of symbolic links (os error 40)"
  | .other reason => reason

/-- why a tool gives up -/
inductive Failure where
  /-- the shader to work on does not exist -/
  | shaderNotFound (path : Text)
  /-- the validator does not exist -/
  | validatorNotFound (executable : Text)
  /-- the validator does not start -/
  | validatorLaunch (executable : Text) (error : FileError)
  /-- the flattened source cannot be written -/
  | scratchFile (path : Text) (error : FileError)
  /-- a file cannot be read or written -/
  | io (path : Text) (error : FileError)
  deriving DecidableEq, Repr

/-- the wording of a failure -/
def Failure.message : Failure → Text
  | .shaderNotFound path => "main shader file not found: " ++ Text.quoted path
  | .validatorNotFound executable => Text.quoted executable ++ " not found"
  | .validatorLaunch executable error => "failed to run " ++ Text.quoted executable ++ ": " ++ error.message
  | .scratchFile path error => "could not write scratch file " ++ Text.quoted path ++ ": " ++ error.message
  | .io path error => "i/o error on " ++ Text.quoted path ++ ": " ++ error.message

end GlslInspect
