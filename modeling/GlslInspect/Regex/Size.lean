/-
How large an expression is when it is spelled out.

Spelled out, an expression is an automaton over the bytes of UTF-8, and there are two of them: one reads forwards, the
other backwards. Each state takes some room, and so does each way out of it; a repetition repeats all states of its
body, so a short expression can be very large. `Plan.room` counts the room of an automaton without keeping it.

The states for a set of characters are shared where they are alike: forwards those that go on alike, backwards those
that were reached alike. What is shared is remembered in a table with few slots, where a later state takes the slot of
an earlier one, so not everything that is alike is shared. The slot follows from the numbers of the states, and so the
room of a set depends on how many states there are before it.
-/
import GlslInspect.Regex.Bytes
import GlslInspect.Regex.Plan
import Std.Data.HashMap

namespace GlslInspect.Regex

inductive Direction where
  | forwards
  | backwards
  deriving DecidableEq, Repr

/-- how large an automaton is: its states, which are numbered in the order in which they are made, and the room of the
ways out of them -/
structure Room where
  states : Nat
  ways : Nat
  deriving DecidableEq, Repr

def stateRoom : Nat := 32

def byteRoom : Nat := 8

/-- the room of a way from one state to another without a byte -/
def jumpRoom : Nat := 4

/-- how large an automaton can be -/
def sizeLimit : Nat := 10485760

namespace Room

/-- nothing so far -/
def empty : Room := ⟨0, 0⟩

/-- so many further states, and so much room for ways -/
def more (room : Room) (states ways : Nat) : Room := ⟨room.states + states, room.ways + ways⟩

def total (room : Room) : Nat := stateRoom * room.states + room.ways

def isTooLarge (room : Room) : Bool := sizeLimit < room.total

/-- a state with two ways out of it -/
def fork (room : Room) : Room := room.more 1 (2 * jumpRoom)

/-- grow so many times; what is too large need not grow any more -/
def times (grow : Room → Room) : Nat → Room → Room
  | 0, room => room
  | n + 1, room => if room.isTooLarge then room else times grow n (grow room)

end Room

/-! ## sets -/

/-- mix a number into a fingerprint -/
def mixed (fingerprint : UInt64) (n : Nat) : UInt64 := (fingerprint ^^^ n.toUInt64) * 1099511628211

def noFingerprint : UInt64 := 14695981039346656037

structure Way where
  range : ByteRange
  next : Nat
  deriving DecidableEq, Repr

/-- states in a table: what they are remembered by, and their numbers -/
abbrev Remembered (κ : Type) := Std.HashMap Nat (κ × Nat)

def Remembered.find? {κ : Type} [DecidableEq κ] (table : Remembered κ) (slot : Nat) (key : κ) : Option Nat :=
  match table[slot]? with
  | some (other, state) => if other = key then some state else none
  | none => none

def forwardSlots : Nat := 10000

/-- the slot of a state that reads forwards, which follows from its ways -/
def forwardSlot (ways : List Way) : Nat :=
  let fingerprint := ways.foldl
    (fun print way => mixed (mixed (mixed print way.range.1) way.range.2) way.next) noFingerprint
  fingerprint.toNat % forwardSlots

/-- the state with some ways, which is made if it is not remembered -/
def stateWith (ways : List Way) (room : Room) (table : Remembered (List Way)) :
    Nat × Room × Remembered (List Way) :=
  let slot := forwardSlot ways
  match table.find? slot ways with
  | some state => (state, room, table)
  | none => (room.states, room.more 1 (byteRoom * ways.length), table.insert slot (ways, room.states))

/-- the ways by a first range and what follows them, for sequences in order -/
def branches : List (List ByteRange) → List (ByteRange × List (List ByteRange))
  | [] => []
  | [] :: rest => branches rest
  | (range :: tail) :: rest =>
    match branches rest with
    | (next, tails) :: others =>
      if next = range then (range, tail :: tails) :: others else (range, [tail]) :: (next, tails) :: others
    | [] => [(range, [tail])]

/-- the state that reads some sequences of at most so many bytes and leads to the last state -/
def stateFor (last : Nat) : Nat → List (List ByteRange) → Room → Remembered (List Way) →
    Nat × Room × Remembered (List Way)
  | 0, _, room, table => (last, room, table)
  | more + 1, sequences, room, table =>
    if sequences.all List.isEmpty then (last, room, table)
    else
      let (ways, room, table) := (branches sequences).foldl
        (fun (ways, room, table) (range, tails) =>
          let (next, room, table) := stateFor last more tails room table
          (⟨range, next⟩ :: ways, room, table))
        (([] : List Way), room, table)
      stateWith ways.reverse room table

def backwardSlots : Nat := 1000

/-- the slot of a state that reads backwards, which follows from its way -/
def backwardSlot (way : Way) : Nat :=
  (mixed (mixed (mixed noFingerprint way.next) way.range.1) way.range.2).toNat % backwardSlots

/-- read a sequence backwards: each of its bytes leads to the state before it -/
def backwardStates : List ByteRange → Nat → Room → Remembered Way → Room × Remembered Way
  | [], _, room, table => (room.more 0 jumpRoom, table)
  | range :: rest, next, room, table =>
    let way : Way := ⟨range, next⟩
    let slot := backwardSlot way
    match table.find? slot way with
    | some state => backwardStates rest state room table
    | none => backwardStates rest room.states (room.more 1 0) (table.insert slot (way, room.states))

def longestSequence : Nat := 4

/-- grow by a set: one state for ASCII, else the states for its sequences of bytes -/
def Room.withSet (room : Room) (direction : Direction) (set : CodeSet) : Room :=
  if set.within 127 then room.more 2 (byteRoom * set.ranges.length)
  else
    let sequences := set.ranges.flatMap fun (low, high) => byteSequences low high
    match direction with
    | .forwards => (stateFor room.states longestSequence sequences (room.more 1 0) {}).2.1
    | .backwards =>
      let last := room.states + 1
      (sequences.foldl (fun (room, table) sequence => backwardStates sequence last room table)
        (room.more 2 0, {})).1

/-! ## words -/

def divided : List (List Nat) → List (List (List Nat))
  | [] => [[]]
  | word :: rest =>
    match divided rest with
    | [] => []
    | group :: groups => if word.isEmpty then [] :: group :: groups else (word :: group) :: groups

/-- words without further empty ones after an empty one in front -/
def withoutRepeatedStart : List (List Nat) → List (List Nat)
  | [] :: rest => [] :: rest.dropWhile List.isEmpty
  | words => words

/-- the room of words that share their beginnings, below one of these: a state that leads to the groups of words
between those that end here, and for each group a state with a way by each first byte -/
def wordsRoom : Nat → List (List Nat) → Room
  | 0, _ => .empty
  | longest + 1, words =>
    if words.all List.isEmpty then .empty
    else
      let groups := divided (withoutRepeatedStart words)
      let filled := groups.filter fun group => !group.isEmpty
      filled.foldl
        (fun room group =>
          let heads := (group.filterMap List.head?).eraseDups
          let room := room.more 1 (if heads.length = 1 then 0 else byteRoom * heads.length)
          heads.foldl
            (fun room head =>
              let below := wordsRoom longest ((group.filter fun word => word.head? = some head).map List.tail)
              room.more below.states below.ways)
            room)
        (Room.empty.more 1 (jumpRoom * (filled.length + (groups.length - 1))))

def Room.withWords (room : Room) (direction : Direction) (words : List Text) : Room :=
  let words := words.map fun word =>
    match direction with
    | .forwards => bytesOf word
    | .backwards => (bytesOf word).reverse
  let below := wordsRoom ((words.map List.length).foldl max 0) words
  room.more (below.states + 1) below.ways

/-! ## plans -/

namespace Plan

mutual

def grow (direction : Direction) : Plan → Room → Room
  | .nothing, room => room.more 1 0
  | .word chars, room => room.more (Text.byteLength chars) 0
  | .one set _, room => room.withSet direction set
  | .edge _, room => room.more 1 0
  | .captured body, room =>
    match direction with
    | .forwards => (body.grow direction (room.more 1 0)).more 1 0
    | .backwards => body.grow direction room
  | .repeated least none _ body, room =>
    if least ≠ 0 then (Room.times (body.grow direction) least room).fork
    else if body.readsSomething then body.grow direction room.fork
    else (body.grow direction room).fork.fork.more 1 0
  | .repeated least (some most) _ body, room =>
    if least = most then Room.times (body.grow direction) least room
    else if least = 0 ∧ most = 1 then (body.grow direction room.fork).more 1 0
    else
      let exact := if least = 0 then room.more 1 0 else Room.times (body.grow direction) least room
      Room.times (fun room => body.grow direction room.fork) (most - least) (exact.more 1 0)
  | .sequence parts, room => growInTurn direction parts room
  | .choice options, room =>
    match options.mapM word? with
    | some words => room.withWords direction words
    | none => growChoices direction 0 options room

def growInTurn (direction : Direction) : List Plan → Room → Room
  | [], room => room
  | part :: rest, room =>
    match direction with
    | .forwards => growInTurn direction rest (part.grow direction room)
    | .backwards => part.grow direction (growInTurn direction rest room)

/-- grow by plans to choose from, given how many came before; the states around them are made after the second -/
def growChoices (direction : Direction) : Nat → List Plan → Room → Room
  | _, [], room => room
  | before, option :: rest, room =>
    let room := (option.grow direction room).more 0 jumpRoom
    growChoices direction (before + 1) rest (if before = 1 then room.more 2 0 else room)

end

/-- the room of the automaton of a plan: also of looking for a match anywhere, unless it can be in one place only, and
of its ends -/
def room (plan : Plan) (direction : Direction) : Room :=
  let anywhere := Room.empty.fork.more 2 byteRoom
  let start := Room.empty.more 1 0
  match direction with
  | .forwards => (plan.grow direction ((if plan.startsText then start else anywhere).more 1 0)).more 2 0
  | .backwards => (plan.grow direction (if plan.endsText then start else anywhere)).more 1 0

end Plan

end GlslInspect.Regex
