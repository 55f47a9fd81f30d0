/-
Expressions put in order.

A `Plan` is an expression in the form in which it is spelled out. Characters in a row are one word. A choice between
characters, or between sets, is one set. What all choices begin with is written once in front of them. What can only
match the empty text is not repeated. The plans are made by `ofSet`, `inTurn`, `anyOf` and `again`, which keep this
order; `Plan.regex` is the expression that a plan is for.
-/
import GlslInspect.Regex

namespace GlslInspect.Regex

/-- an expression in order -/
inductive Plan where
  /-- the empty text -/
  | nothing
  /-- characters in a row, at least one -/
  | word (chars : Text)
  /-- one character of a set, and whether the set is one of bytes -/
  | one (set : CodeSet) (ofBytes : Bool)
  | edge (edge : Edge)
  /-- so many times in a row, without an upper bound if there is none, and whether as often as possible -/
  | repeated (least : Nat) (most : Option Nat) (eager : Bool) (body : Plan)
  /-- what is matched is to be remembered -/
  | captured (body : Plan)
  /-- several plans in a row, at least two -/
  | sequence (parts : List Plan)
  /-- one of several plans, at least two -/
  | choice (options : List Plan)

namespace Plan

/-! ## what is known of a plan -/

mutual

/-- whether two plans are the same; no two plans remember the same -/
def same : Plan → Plan → Bool
  | .nothing, .nothing => true
  | .word a, .word b => a = b
  | .one a x, .one b y => a = b && x == y
  | .edge a, .edge b => a = b
  | .repeated l m e a, .repeated l' m' e' b => l = l' && m = m' && e == e' && a.same b
  | .sequence as, .sequence bs => allSame as bs
  | .choice as, .choice bs => allSame as bs
  | _, _ => false

def allSame : List Plan → List Plan → Bool
  | [], [] => true
  | a :: as, b :: bs => a.same b && allSame as bs
  | _, _ => false

end

mutual

/-- how many characters a plan reads at least, unless something in it can never match -/
def least? : Plan → Option Nat
  | .nothing => some 0
  | .word chars => some chars.length
  | .one set _ => if set.turns.isEmpty then none else some 1
  | .edge _ => some 0
  | .repeated least _ _ body => body.least?.map (least * ·)
  | .captured body => body.least?
  | .sequence parts => leastInTurn? parts
  | .choice options => leastOfAny? options

/-- how many characters plans in a row read at least -/
def leastInTurn? : List Plan → Option Nat
  | [] => some 0
  | part :: rest => do some ((← part.least?) + (← leastInTurn? rest))

/-- how many characters each of several plans reads at least -/
def leastOfAny? : List Plan → Option Nat
  | [] => none
  | [option] => option.least?
  | option :: rest => do some (min (← option.least?) (← leastOfAny? rest))

end

mutual

/-- whether a plan can only match the empty text -/
def readsNothing : Plan → Bool
  | .nothing => true
  | .word _ => false
  | .one _ _ => false
  | .edge _ => true
  | .repeated _ _ _ body => body.readsNothing
  | .captured body => body.readsNothing
  | .sequence parts => allReadNothing parts
  | .choice options => allReadNothing options

/-- whether several plans can only match the empty text -/
def allReadNothing : List Plan → Bool
  | [] => true
  | part :: rest => part.readsNothing && allReadNothing rest

end

def readsSomething (plan : Plan) : Bool := plan.least?.any (0 < ·)

mutual

def startsText : Plan → Bool
  | .edge kind => kind = .textStart
  | .repeated least _ _ body => least ≠ 0 && body.startsText
  | .captured body => body.startsText
  | .sequence parts => startTextInTurn parts
  | .choice options => allStartText options
  | _ => false

/-- whether plans in a row can only match at the beginning of a text -/
def startTextInTurn : List Plan → Bool
  | [] => false
  | part :: rest => part.startsText || (part.readsNothing && startTextInTurn rest)

/-- whether each of several plans can only match at the beginning of a text -/
def allStartText : List Plan → Bool
  | [] => true
  | option :: rest => option.startsText && allStartText rest

end

mutual

def endsText : Plan → Bool
  | .edge kind => kind = .textEnd
  | .repeated least _ _ body => least ≠ 0 && body.endsText
  | .captured body => body.endsText
  | .sequence parts => endTextInTurn parts
  | .choice options => allEndText options
  | _ => false

def endTextInTurn : List Plan → Bool
  | [] => false
  | part :: rest => endTextInTurn rest || (allReadNothing rest && part.endsText)

def allEndText : List Plan → Bool
  | [] => true
  | option :: rest => option.endsText && allEndText rest

end

def word? : Plan → Option Text
  | .word chars => some chars
  | _ => none

/-! ## making plans -/

def never : Plan := .one .none true

def ofSet (set : CodeSet) (ofBytes : Bool) : Plan :=
  if set.turns.isEmpty then never
  else
    match set.only? with
    | some code => .word [Char.ofNat code]
    | none => .one set ofBytes

/-- what a plan is in a row of others -/
def parts : Plan → List Plan
  | .nothing => []
  | .sequence parts => parts
  | plan => [plan]

/-- put a plan in front of others in a row; words are joined -/
def joined : Plan → List Plan → List Plan
  | .word chars, .word more :: rest => .word (chars ++ more) :: rest
  | plan, rest => plan :: rest

def inTurn (plans : List Plan) : Plan :=
  match (plans.flatMap parts).foldr joined [] with
  | [] => .nothing
  | [plan] => plan
  | plans => .sequence plans

/-- what a plan is among others to choose from -/
def options : Plan → List Plan
  | .choice options => options
  | plan => [plan]

/-- the code point of a plan for one character -/
def letter? : Plan → Option Nat
  | .word [c] => some c.toNat
  | _ => none

def set? : Plan → Option CodeSet
  | .one set _ => some set
  | _ => none

/-- one of several plans, which are one set if they are all characters or all sets -/
def chosen (plans : List Plan) : Plan :=
  match plans.mapM letter?, plans.mapM set? with
  | some letters, _ => ofSet (.ofCodes letters) false
  | none, some sets => ofSet (.unions sets) false
  | none, none => .choice plans

/-- the plans in a row that a plan consists of, if there are several -/
def sequence? : Plan → Option (List Plan)
  | .sequence parts => some parts
  | _ => none

def common : List Plan → List Plan → List Plan
  | a :: as, b :: bs => if a.same b then a :: common as bs else []
  | _, _ => []

def commonToAll : List (List Plan) → List Plan
  | [] => []
  | row :: rows => rows.foldl common row

def anyOf (plans : List Plan) : Plan :=
  match plans.flatMap options with
  | [] => never
  | [plan] => plan
  | plans =>
    match chosen plans with
    | .choice plans =>
      match plans.mapM sequence? with
      | some rows =>
        let opening := commonToAll rows
        if opening.isEmpty then .choice plans
        else
          let endings := rows.map fun row => inTurn (row.drop opening.length)
          inTurn (opening ++ [chosen (endings.flatMap options)])
      | none => .choice plans
    | plan => plan

/-- a plan so many times in a row -/
def again (least : Nat) (most : Option Nat) (eager : Bool) (body : Plan) : Plan :=
  let (least, most) := if body.readsNothing then (min least 1, some (min (most.getD 1) 1)) else (least, most)
  if most = some 0 then .nothing
  else if least = 1 ∧ most = some 1 then body
  else .repeated least most eager body

/-! ## the expression of a plan -/

mutual

/-- the expression that a plan is for -/
def regex : Plan → Regex
  | .nothing => .nothing
  | .word chars => Regex.inTurn (chars.map fun c => .one (.ofChar c))
  | .one set _ => .one set
  | .edge kind => .edge kind
  | .repeated least most _ body => .repeated least most body.regex
  | .captured body => body.regex
  | .sequence parts => Regex.inTurn (regexes parts)
  | .choice options => Regex.anyOf (regexes options)

/-- the expressions that plans are for -/
def regexes : List Plan → List Regex
  | [] => []
  | plan :: rest => plan.regex :: regexes rest

end

end Plan

end GlslInspect.Regex
