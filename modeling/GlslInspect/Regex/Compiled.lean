/-
Expressions that can be used: read, understood and not too large.
-/
import GlslInspect.Regex.Meaning
import GlslInspect.Regex.Opening
import GlslInspect.Regex.Size

namespace GlslInspect.Regex

/-- why an expression cannot be used -/
inductive Refusal where
  | fault (fault : Fault)
  | tooLarge
  deriving DecidableEq, Repr

/-- why an expression cannot be used, in words -/
def Refusal.message (expression : Text) : Refusal → Text
  | .fault found => found.message expression
  | .tooLarge => "Compiled regex exceeds size limit of " ++ Text.ofNat sizeLimit ++ " bytes."

/-- whether a plan is too large to be spelled out; what is a search for words need not be -/
def Plan.isTooLarge (plan : Plan) : Bool :=
  !plan.isWordSearch && ((plan.room .backwards).isTooLarge || (plan.room .forwards).isTooLarge)

/-- what an expression means, in order -/
def understand (expression : Text) : Except Fault Plan := do
  let term ← Term.read expression
  let (plan, _) ← term.meaning .standard
  .ok plan

def read (expression : Text) : Except Refusal Regex :=
  match understand expression with
  | .error fault => .error (.fault fault)
  | .ok plan => if plan.isTooLarge then .error .tooLarge else .ok plan.regex

/-- which texts have a match of an expression, or in words why it cannot be used -/
def matcher (expression : Text) : Except Text (Text → Bool) :=
  match read expression with
  | .error refusal => .error (refusal.message expression)
  | .ok regex => .ok regex.matchesIn

end GlslInspect.Regex
