/-
Regular expressions, and where they match in a text.

The tools take any way to read the expressions of their log filters; this one, with its parts beside this file, is put
in by the program.

A text of `n` characters has `n + 1` places, and a set of places is a number whose bits say which are in it. On a given
text an expression is a `Motion`: it leads from a set of places, where matches begin, to the set of places where they
can end. Only whether there is a match counts, not which one is preferred, so how eager a repetition is plays no part.
`Regex.matchesIn` looks for a match anywhere.
-/
import GlslInspect.Regex.Unicode.CodeSet
import GlslInspect.Text.Word

namespace GlslInspect

inductive WordEdge where
  /-- a word begins or ends -/
  | either
  /-- no word begins or ends -/
  | neither
  | start
  | finish
  /-- no word character stands in front -/
  | startHalf
  /-- no word character follows -/
  | finishHalf
  deriving DecidableEq, Repr

inductive Edge where
  | textStart
  | textEnd
  | lineStart
  | lineEnd
  /-- the beginning of a line where also a carriage return ends lines, alone or in front of a newline -/
  | returnStart
  /-- the end of such a line -/
  | returnEnd
  /-- an edge of a word, where the letters of all scripts count or those of ASCII only -/
  | word (edge : WordEdge) (unicode : Bool)
  deriving DecidableEq, Repr

/-- a regular expression -/
inductive Regex where
  /-- the empty text -/
  | nothing
  /-- one character of a set -/
  | one (set : CodeSet)
  /-- a place of a kind -/
  | edge (edge : Edge)
  /-- one after the other -/
  | both (first second : Regex)
  /-- one or the other -/
  | either (first second : Regex)
  /-- so many times in a row, without an upper bound if there is none -/
  | repeated (least : Nat) (most : Option Nat) (body : Regex)
  deriving DecidableEq, Repr

namespace Regex

/-- a place in a text: the character before it and the one after it -/
structure Place where
  before : Option Char
  after : Option Char
  deriving DecidableEq, Repr

namespace Place

/-- the places of a text, given the character in front of it -/
def onwards (before : Option Char) : Text → List Place
  | [] => [⟨before, none⟩]
  | c :: rest => ⟨before, some c⟩ :: onwards (some c) rest

def all (t : Text) : List Place := onwards none t

def hasWordEdge (isWord : Char → Bool) (place : Place) (edge : WordEdge) : Bool :=
  let before := place.before.any isWord
  let after := place.after.any isWord
  match edge with
  | .either => before != after
  | .neither => before == after
  | .start => !before && after
  | .finish => before && !after
  | .startHalf => !before
  | .finishHalf => !after

def isAt (place : Place) : Edge → Bool
  | .textStart => place.before.isNone
  | .textEnd => place.after.isNone
  | .lineStart => place.before.all (· = '\n')
  | .lineEnd => place.after.all (· = '\n')
  | .returnStart =>
    place.before.all fun c => c = '\n' || (c = '\r' && place.after != some '\n')
  | .returnEnd =>
    place.after.all fun c => c = '\r' || (c = '\n' && place.before != some '\r')
  | .word kind true => place.hasWordEdge isWord kind
  | .word kind false => place.hasWordEdge (fun c => c.isAlphanum || c = '_') kind

end Place

/-! ## sets of places -/

/-- put each two neighbours of a list of numbers of so many bits into one number of twice as many -/
def pairUp (width : Nat) : List Nat → List Nat
  | a :: b :: rest => (a ||| b <<< width) :: pairUp width rest
  | short => short

theorem length_pairUp (width : Nat) (words : List Nat) : (pairUp width words).length ≤ words.length := by
  fun_induction pairUp width words with
  | case1 a b rest ih =>
    simp only [List.length_cons]
    omega
  | case2 => exact Nat.le_refl _

/-- the number that has the bits of several numbers of so many bits, the lowest first -/
def packed (width : Nat) : List Nat → Nat
  | [] => 0
  | [word] => word
  | a :: b :: rest => packed (2 * width) ((a ||| b <<< width) :: pairUp width rest)
termination_by words => words.length
decreasing_by
  have := length_pairUp width rest
  simp only [List.length_cons]
  omega

def placesWhere (p : Place → Bool) (places : List Place) : Nat :=
  packed 1 (places.map fun place => if p place then 1 else 0)

/-- the places reached by exactly so many steps -/
def afterRounds (step : Nat → Nat) : Nat → Nat → Nat
  | 0, places => places
  | n + 1, places => if places = 0 then 0 else afterRounds step n (step places)

/-- the places reached by at most so many steps; only from the places that were new in the last round there is something
new to reach -/
def withinRounds (step : Nat → Nat) : Nat → (reached fresh : Nat) → Nat
  | 0, reached, _ => reached
  | n + 1, reached, fresh =>
    let next := step fresh
    let fresh := next ^^^ (next &&& reached)
    if fresh = 0 then reached else withinRounds step n (reached ||| fresh) fresh

/-- the places reached over any number of characters of a set, given the places in front of these: adding carries a bit
to the end of each run of them -/
def alongRuns (inFront places : Nat) : Nat := (((places &&& inFront) + inFront) ^^^ inFront) ||| places

/-- what an expression does on a text -/
inductive Motion where
  /-- stay at the places of a set -/
  | stay (places : Nat)
  /-- go over the character behind the places of a set -/
  | step (places : Nat)
  | both (first second : Motion)
  | either (first second : Motion)
  | repeated (least : Nat) (most : Option Nat) (body : Motion)

/-- where a motion leads from some places, in a text with so many places. Repeating something more often than there are
places reaches nothing new, so the number of rounds is cut to that. -/
def Motion.reach (count : Nat) : Motion → Nat → Nat
  | .stay places, start => start &&& places
  | .step places, start => (start &&& places) <<< 1
  | .both first second, start => second.reach count (first.reach count start)
  | .either first second, start => first.reach count start ||| second.reach count start
  | .repeated least most body, start =>
    let reached := afterRounds (body.reach count) (min least count) start
    match most, body with
    | none, .step places => alongRuns places reached
    | none, _ => withinRounds (body.reach count) count reached reached
    | some most, _ => withinRounds (body.reach count) (min (most - least) count) reached reached

/-! ## matching -/

/-- what an expression does on a text with some places -/
def motion (places : List Place) : Regex → Motion
  | .nothing => .stay (placesWhere (fun _ => true) places)
  | .one set => .step (placesWhere (fun place => place.after.any set.has) places)
  | .edge kind => .stay (placesWhere (fun place => place.isAt kind) places)
  | .both first second => .both (first.motion places) (second.motion places)
  | .either first second => .either (first.motion places) (second.motion places)
  | .repeated least most body => .repeated least most (body.motion places)

def matchesIn (r : Regex) (t : Text) : Bool :=
  let places := Place.all t
  (r.motion places).reach places.length (placesWhere (fun _ => true) places) ≠ 0

/-- the expressions of a list, one after the other -/
def inTurn : List Regex → Regex
  | [] => .nothing
  | [r] => r
  | r :: rest => .both r (inTurn rest)

def anyOf : List Regex → Regex
  | [] => .one .none
  | [r] => r
  | r :: rest => .either r (anyOf rest)

end Regex

end GlslInspect
