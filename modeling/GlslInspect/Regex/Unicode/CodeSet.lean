/-
Sets of code points.

A set is the ascending list of its turns: the code points at which membership begins or ends, so that a code point is
in the set if an odd number of turns is not above it. Two sets are combined by walking along both lists at once
(`CodeSet.combine`), and `inside_merged` says that this is the combination of the memberships. Tables of character
properties are written as the lengths of the stretches between turns.

Some code points are no characters and lie in a gap. A set has them all if one of its stretches goes over the gap, and
else none of them, so that `only?` and `ranges` do not show them where no stretch is.
-/
import GlslInspect.Text.Blank
import GlslInspect.Text.CodeRange

namespace GlslInspect

/-- a set of code points: where membership begins and ends, ascending -/
structure CodeSet where
  turns : List Nat
  deriving DecidableEq, Repr

namespace CodeSet

def inside : List Nat → Nat → Bool
  | [], _ => false
  | turn :: turns, code => if turn ≤ code then !inside turns code else false

def has (set : CodeSet) (c : Char) : Bool := inside set.turns c.toNat

/-- the number of code points there are -/
def limit : Nat := 0x110000

def none : CodeSet := ⟨[]⟩

def all : CodeSet := ⟨[0, limit]⟩

/-- the code points from one to another -/
def range (low high : Nat) : CodeSet := ⟨[low, high + 1]⟩

def ofChar (c : Char) : CodeSet := range c.toNat c.toNat

/-- put a turn in front if membership changes there -/
def turnIf (before after : Bool) (place : Nat) (turns : List Nat) : List Nat :=
  if before = after then turns else place :: turns

/-- walk along the turns of two sets, given the memberships so far, and turn where their combination does -/
def merged (op : Bool → Bool → Bool) (x y : Bool) : List Nat → List Nat → List Nat
  | [], [] => []
  | a :: as, [] => turnIf (op x y) (op (!x) y) a (merged op (!x) y as [])
  | [], b :: bs => turnIf (op x y) (op x !y) b (merged op x (!y) [] bs)
  | a :: as, b :: bs =>
    if a < b then turnIf (op x y) (op (!x) y) a (merged op (!x) y as (b :: bs))
    else if b < a then turnIf (op x y) (op x !y) b (merged op x (!y) (a :: as) bs)
    else turnIf (op x y) (op (!x) !y) a (merged op (!x) (!y) as bs)
termination_by as bs => as.length + bs.length

/-- the combination of two sets by one of their memberships; outside both it has nothing -/
def combine (op : Bool → Bool → Bool) (a b : CodeSet) : CodeSet := ⟨merged op false false a.turns b.turns⟩

def union (a b : CodeSet) : CodeSet := combine (fun x y => x || y) a b

/-- what is in both sets -/
def inter (a b : CodeSet) : CodeSet := combine (fun x y => x && y) a b

/-- the code points of the gap, which are no characters -/
def gap : CodeSet := range 0xd800 0xdfff

def beforeGap : Nat := 0xd7ff

def behindGap : Nat := 0xe000

/-- a set without the gap, unless it goes on on both sides of it -/
def tidy (set : CodeSet) : CodeSet :=
  if inside set.turns beforeGap && inside set.turns behindGap then set else combine (fun x y => x && !y) set gap

/-- what is in the first set and not in the second -/
def minus (a b : CodeSet) : CodeSet := (combine (fun x y => x && !y) a b).tidy

/-- what is in exactly one of the sets -/
def differing (a b : CodeSet) : CodeSet := (combine (fun x y => x != y) a b).tidy

/-- whether one stretch of a set ends in front of the gap and another begins behind it -/
def stopsAtGap (set : CodeSet) : Bool :=
  inside set.turns beforeGap && inside set.turns behindGap && !inside set.turns (beforeGap + 1)

/-- all other code points; between two stretches that stop at the gap from both sides, there are the neighbours of the
gap -/
def except (set : CodeSet) : CodeSet :=
  if set.stopsAtGap then (all.minus set).union (range beforeGap behindGap) else all.minus set

def unions (sets : List CodeSet) : CodeSet := sets.foldl union none

def pairs : List Nat → List (Nat × Nat)
  | a :: b :: rest => (a, b) :: pairs rest
  | _ => []

/-- the ranges of a set, first and last code point of each -/
def ranges (set : CodeSet) : List (Nat × Nat) := (pairs set.turns).map fun (low, past) => (low, past - 1)

/-- whether a set has nothing beyond a code point -/
def within (set : CodeSet) (last : Nat) : Bool := set.turns.all fun turn => turn ≤ last + 1

def only? (set : CodeSet) : Option Nat :=
  match set.turns with
  | [low, past] => if past = low + 1 then some low else Option.none
  | _ => Option.none

def turnsOf : List Nat → List Nat
  | [] => []
  | code :: rest =>
    match turnsOf rest with
    | next :: turns => if next = code then code :: turns else if next = code + 1 then code :: turns
      else code :: (code + 1) :: next :: turns
    | [] => [code, code + 1]

def ofCodes (codes : List Nat) : CodeSet := ⟨turnsOf (codes.mergeSort fun a b => decide (a ≤ b))⟩

/-- the set of ascending ranges, with gaps between them -/
def ofRanges (ranges : Text.CodeRanges) : CodeSet := ⟨ranges.flatMap fun (low, high) => [low, high + 1]⟩

/-! ## tables -/

def decimal (digits : Text) : Nat := digits.foldl (fun n c => 10 * n + (c.toNat - '0'.toNat)) 0

def sums : Nat → List Nat → List Nat
  | _, [] => []
  | total, n :: rest => (total + n) :: sums (total + n) rest

/-- a set from a table of the lengths of stretches outside and inside it in turn -/
def ofStretches (table : String) : CodeSet := ⟨sums 0 ((Text.words table.toList).map decimal)⟩

/-- a stretch of a table with labels: its label, and its length after an asterisk if it is not one -/
def labelled (token : Text) : Text × Nat :=
  match Text.splitOn '*' token with
  | [label, length] => (label, decimal length)
  | _ => (token, 1)

/-- where wanted stretches begin and end, for stretches from some place on -/
def turnsWhere (wanted : Text → Bool) : Nat → Bool → List (Text × Nat) → List Nat
  | place, inside, [] => turnIf inside false place []
  | place, inside, (label, length) :: rest =>
    turnIf inside (wanted label) place (turnsWhere wanted (place + length) (wanted label) rest)

/-- a set from a table that gives every code point a label: those with a wanted one -/
def ofLabels (table : String) (wanted : Text → Bool) : CodeSet :=
  ⟨turnsWhere wanted 0 false ((Text.words table.toList).map labelled)⟩

/-! ## memberships -/

def Ascending (set : CodeSet) : Prop := set.turns.Pairwise (· < ·)

theorem inside_of_lt {turns : List Nat} {code : Nat} (h : ∀ turn ∈ turns, code < turn) :
    inside turns code = false := by
  cases turns with
  | nil => rfl
  | cons turn turns => simp [inside, Nat.not_le.2 (h turn (by simp))]

theorem inside_cons_of_lt {turn : Nat} {turns : List Nat} {code : Nat} (h : code < turn) :
    inside (turn :: turns) code = false := by
  simp [inside, Nat.not_le.2 h]

theorem inside_tail_of_lt {turn : Nat} {turns : List Nat} {code : Nat} (hs : (turn :: turns).Pairwise (· < ·))
    (h : code < turn) : inside turns code = false :=
  inside_of_lt fun next hn => Nat.lt_trans h ((List.pairwise_cons.1 hs).1 next hn)

/-- a turn is put in front of the turns of a membership that begins with `after`, seen from `before` -/
theorem inside_turnIf {before after value : Bool} {place code : Nat} {turns : List Nat} (hp : place ≤ code)
    (h : inside turns code = (after != value)) : inside (turnIf before after place turns) code = (before != value) := by
  unfold turnIf
  split
  · rename_i he
    rw [h, he]
  · rename_i he
    simp only [inside, hp, if_true, h]
    cases before <;> cases after <;> cases value <;> simp_all

theorem inside_turnIf_of_lt {before after : Bool} {place code : Nat} {turns : List Nat} (hp : code < place)
    (h : inside turns code = false) : inside (turnIf before after place turns) code = false := by
  unfold turnIf
  split
  · exact h
  · exact inside_cons_of_lt hp

/-- a combination of two sets changes where the combination of the memberships does -/
theorem inside_merged (op : Bool → Bool → Bool) (x y : Bool) (as bs : List Nat) (ha : as.Pairwise (· < ·))
    (hb : bs.Pairwise (· < ·)) (code : Nat) :
    inside (merged op x y as bs) code = (op x y != op (x != inside as code) (y != inside bs code)) := by
  fun_induction merged op x y as bs with
  | case1 x y => simp [inside]
  | case2 x y a as ih =>
    have ih := ih ha.tail hb
    by_cases h : a ≤ code
    · apply inside_turnIf h
      rw [ih]
      simp [inside, h]
    · have h := Nat.not_le.1 h
      rw [inside_turnIf_of_lt h, inside_cons_of_lt h]
      · simp [inside]
      · rw [ih, inside_tail_of_lt ha h]
        simp [inside]
  | case3 x y b bs ih =>
    have ih := ih ha hb.tail
    by_cases h : b ≤ code
    · apply inside_turnIf h
      rw [ih]
      simp [inside, h]
    · have h := Nat.not_le.1 h
      rw [inside_turnIf_of_lt h, inside_cons_of_lt h]
      · simp [inside]
      · rw [ih, inside_tail_of_lt hb h]
        simp [inside]
  | case4 x y a as b bs hab ih =>
    have ih := ih ha.tail hb
    by_cases h : a ≤ code
    · apply inside_turnIf h
      rw [ih]
      simp [inside, h]
    · have h := Nat.not_le.1 h
      rw [inside_turnIf_of_lt h, inside_cons_of_lt h, inside_cons_of_lt (Nat.lt_trans h hab)]
      · simp
      · rw [ih, inside_tail_of_lt ha h, inside_cons_of_lt (Nat.lt_trans h hab)]
        simp
  | case5 x y a as b bs hab hba ih =>
    have ih := ih ha hb.tail
    by_cases h : b ≤ code
    · apply inside_turnIf h
      rw [ih]
      simp [inside, h]
    · have h := Nat.not_le.1 h
      rw [inside_turnIf_of_lt h, inside_cons_of_lt h, inside_cons_of_lt (Nat.lt_trans h hba)]
      · simp
      · rw [ih, inside_tail_of_lt hb h, inside_cons_of_lt (Nat.lt_trans h hba)]
        simp
  | case6 x y a as b bs hab hba ih =>
    have ih := ih ha.tail hb.tail
    have he : a = b := by omega
    subst he
    by_cases h : a ≤ code
    · apply inside_turnIf h
      rw [ih]
      simp [inside, h]
    · have h := Nat.not_le.1 h
      rw [inside_turnIf_of_lt h, inside_cons_of_lt h, inside_cons_of_lt h]
      · simp
      · rw [ih, inside_tail_of_lt ha h, inside_tail_of_lt hb h]
        simp

theorem has_combine (op : Bool → Bool → Bool) (h : op false false = false) {a b : CodeSet} (ha : a.Ascending)
    (hb : b.Ascending) (c : Char) : (combine op a b).has c = op (a.has c) (b.has c) := by
  simp [has, combine, inside_merged op false false a.turns b.turns ha hb, h]

theorem ascending_gap : gap.Ascending := by simp [Ascending, gap, range]

theorem has_gap (c : Char) : gap.has c = false := by
  have h : c.toNat < 0xd800 ∨ 0xdfff < c.toNat ∧ c.toNat < 0x110000 := c.valid
  simp only [has, gap, range, inside]
  split
  · split
    · rfl
    · omega
  · rfl

/-- the gap does not count for characters -/
theorem has_tidy {set : CodeSet} (hs : set.Ascending) (c : Char) : set.tidy.has c = set.has c := by
  unfold tidy
  split
  · rfl
  · rw [has_combine _ rfl hs ascending_gap, has_gap]
    simp

theorem has_union {a b : CodeSet} (ha : a.Ascending) (hb : b.Ascending) (c : Char) :
    (union a b).has c = (a.has c || b.has c) :=
  has_combine (fun x y => x || y) rfl ha hb c

end CodeSet

end GlslInspect
