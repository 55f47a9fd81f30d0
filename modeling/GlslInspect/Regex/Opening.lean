/-
What a match can begin with.

The openings of a plan are words, in the order in which they are preferred; an opening is whole if it is all that is
matched. There can be too many of them to be listed: sets and repetitions are followed up to some number only, words up
to some length, and then an opening is not whole, or nothing is known. If in the end all openings are whole, a match is
found by looking for these words, and no automaton is needed.
-/
import GlslInspect.Regex.Bytes
import GlslInspect.Regex.Plan

namespace GlslInspect.Regex

structure Opening where
  bytes : List Nat
  /-- whether it is all of a match -/
  whole : Bool
  deriving DecidableEq, Repr

/-- beginnings of matches in the order of preference, or nothing if they can be anything -/
abbrev Openings := Option (List Opening)

namespace Opening

/-- all of a match -/
def ofBytes (bytes : List Nat) : Opening := ⟨bytes, true⟩

/-- only a beginning -/
def partly (opening : Opening) : Opening := { opening with whole := false }

def firstBytes (n : Nat) (opening : Opening) : Opening :=
  if opening.bytes.length ≤ n then opening else ⟨opening.bytes.take n, false⟩

def followedBy (opening next : Opening) : Opening := ⟨opening.bytes ++ next.bytes, next.whole⟩

/-- equal openings that are neighbours are one, which is whole if they all are -/
def distinct : List Opening → List Opening
  | [] => []
  | opening :: rest =>
    match distinct rest with
    | [] => [opening]
    | next :: others =>
      if opening.bytes = next.bytes then ⟨opening.bytes, opening.whole && next.whole⟩ :: others
      else opening :: next :: others

def allWhole (openings : List Opening) : Bool := openings.all Opening.whole

def noneWhole (openings : List Opening) : Bool := openings.all fun opening => !opening.whole

/-- how many characters of a set are tried one by one -/
def setLimit : Nat := 10

/-- how many rounds of a repetition are followed -/
def roundLimit : Nat := 10

/-- how many bytes of an opening are kept -/
def lengthLimit : Nat := 100

/-- how many openings there can be -/
def countLimit : Nat := 250

/-- how many bytes are kept where there would be too many openings -/
def shortLength : Nat := 4

end Opening

namespace Openings

open Opening

/-- the openings of the empty text -/
def ofNothing : Openings := some [.ofBytes []]

def partly (openings : Openings) : Openings := openings.map fun list => list.map Opening.partly

/-- whether nothing that follows can change openings -/
def areFixed (openings : Openings) : Bool := openings.all noneWhole

/-- openings that are too many go together with others to anything -/
def joined (a b : List Opening) : Openings :=
  if a.length + b.length ≤ countLimit then some (distinct (a ++ b)) else none

/-- the openings of one thing or another; where there are too many, they are made short -/
def either : Openings → Openings → Openings
  | some a, some b =>
    if a.length + b.length ≤ countLimit then joined a b
    else
      let short (list : List Opening) : List Opening := distinct (list.map (firstBytes shortLength))
      joined (short a) (short b)
  | _, _ => none

/-- the openings of one thing and another after it -/
def followedBy (openings next : Openings) : Openings :=
  match openings with
  | none => none
  | some list =>
    let next := next.filter fun others => list.length * others.length ≤ countLimit
    match next with
    | some others =>
      let all := list.flatMap fun opening =>
        if opening.whole then others.map opening.followedBy else [opening]
      some ((distinct all).map (firstBytes lengthLimit))
    | none =>
      if list.any fun opening => opening.bytes.isEmpty then none
      else some (list.map fun opening => firstBytes lengthLimit opening.partly)

/-- the openings of one thing so many times in a row -/
def rounds (body : Openings) : Nat → Openings → Openings
  | 0, openings => openings
  | n + 1, openings => if openings.areFixed then openings else rounds body n (openings.followedBy body)

def ofSet (set : CodeSet) : Openings :=
  let ranges := set.ranges
  if setLimit < ranges.foldl (fun count (low, high) => count + (high + 1 - low)) 0 then none
  else some (ranges.flatMap fun (low, high) =>
    (List.range (high + 1 - low)).map fun i => .ofBytes (bytesOf [Char.ofNat (low + i)]))

/-- the openings of a repetition, given those of its body -/
def repeated (least : Nat) (most : Option Nat) (eager : Bool) (body : Openings) : Openings :=
  if least = 0 then
    let body := if most = some 1 then body else body.partly
    if eager then body.either ofNothing else ofNothing.either body
  else
    match most with
    | none => body.partly
    | some most =>
      let openings := body.rounds (min least roundLimit) ofNothing
      if least = most ∧ least ≤ roundLimit then openings else openings.partly

end Openings

namespace Plan

mutual

def openings : Plan → Openings
  | .nothing => .ofNothing
  | .word chars => some [.firstBytes Opening.lengthLimit (.ofBytes (bytesOf chars))]
  | .one set _ => .ofSet set
  | .edge _ => .ofNothing
  | .repeated least most eager body => .repeated least most eager body.openings
  | .captured body => body.openings
  | .sequence parts => openingsInTurn .ofNothing parts
  | .choice options => openingsOfAny (some []) options

/-- the openings of plans in a row, given those of what is in front of them -/
def openingsInTurn (before : Openings) : List Plan → Openings
  | [] => before
  | part :: rest =>
    if before.areFixed then before else openingsInTurn (before.followedBy part.openings) rest

/-- the openings of plans to choose from, given those of the plans before them -/
def openingsOfAny (before : Openings) : List Plan → Openings
  | [] => before
  | option :: rest => if before.isNone then none else openingsOfAny (before.either option.openings) rest

end

mutual

/-- whether a plan has no edges and remembers nothing -/
def isBare : Plan → Bool
  | .edge _ => false
  | .captured _ => false
  | .repeated _ _ _ body => body.isBare
  | .sequence parts => areBare parts
  | .choice options => areBare options
  | _ => true

/-- whether plans have no edges and remember nothing -/
def areBare : List Plan → Bool
  | [] => true
  | plan :: rest => plan.isBare && areBare rest

end

end Plan

/-! ## searching for words -/

namespace Opening

/-- openings without those that begin with an earlier one, which is preferred -/
def preferred (openings : List Opening) : List Opening :=
  let kept := openings.foldl
    (fun kept opening =>
      if kept.any fun earlier => earlier.bytes.isPrefixOf opening.bytes then kept else opening :: kept)
    []
  kept.reverse

def commonBytes : List Nat → List Nat → List Nat
  | a :: as, b :: bs => if a = b then a :: commonBytes as bs else []
  | _, _ => []

def commonStart : List Opening → List Nat
  | [] => []
  | opening :: rest => rest.foldl (fun start other => commonBytes start other.bytes) opening.bytes

def isCommon (byte : Nat) : Bool :=
  128 ≤ byte || ("\n\r (),-./0129:_abcdefghilmnoprstuvxy|".toList.map Char.toNat).contains byte

def isMostCommon (byte : Nat) : Bool := 192 ≤ byte || (" et".toList.map Char.toNat).contains byte

/-- how long openings are kept as long as there are more than so many of them -/
def attempts : List (Nat × Nat) := [(5, 10), (4, 10), (3, 64), (2, 64), (1, 10)]

/-- make openings shorter as long as there are too many of them -/
def shortened : List (Nat × Nat) → List Opening → List Opening
  | [], openings => openings
  | (keep, limit) :: rest, openings =>
    if openings.length ≤ limit then openings
    else shortened rest (preferred (openings.map (firstBytes keep)))

/-- whether an opening is found too often to be of use -/
def isUseless (opening : Opening) : Bool :=
  match opening.bytes with
  | [] => true
  | [byte] => isMostCommon byte
  | _ => false

/-- whether openings that are all whole stay so when they are made fit for the search: they are given up only for
ones that are few, long and not too common -/
def stayWhole (openings : List Opening) : Bool :=
  let short := shortened attempts openings
  short.any isUseless || short.any (fun opening => opening.bytes.length ≤ 2) || decide (64 < short.length) ||
    allWhole short

/-- whether a search for openings finds all matches and nothing else -/
def areSearchable (openings : List Opening) : Bool :=
  if openings.isEmpty || openings.any (fun opening => opening.bytes.isEmpty) then false
  else
    let kept := preferred openings
    let start := commonStart kept
    if 1 < openings.length && 1 ≤ start.length && start.length ≤ 3 && !start.head?.any isCommon then
      allWhole (kept.map (firstBytes 1))
    else
      let isFast := allWhole kept && kept.length ≤ 16
      let kept := if 4 < start.length || (1 < start.length && !isFast) then
          distinct (kept.map (firstBytes start.length))
        else kept
      allWhole kept && stayWhole kept

end Opening

namespace Plan

def manyWords : Nat := 3000

def isLongList : Plan → Bool
  | .choice options => manyWords ≤ options.length && options.all fun option => option.word?.isSome
  | _ => false

def isWordSearch (plan : Plan) : Bool :=
  plan.isBare && (plan.openings.any (fun list => Opening.areSearchable (Opening.distinct list)) || plan.isLongList)

end Plan

end GlslInspect.Regex
