/-
Small recognisers from which the line grammars are built.

A recogniser takes the text at hand and gives what it read and the rest, or nothing. None of them has to go back: where
a run of blanks, of word characters or of digits is read, what must follow is never of the same kind, so the longest
run is the only one that can lead to a match.
-/
import GlslInspect.Text.Blank
import GlslInspect.Text.Word
import GlslInspect.Text.Digit

namespace GlslInspect.Pattern

def blanks (t : Text) : Text := Text.trimStart t

def blanks1? : Text → Option Text
  | [] => none
  | c :: t => if isBlank c then some (blanks t) else none

/-- the longest run of characters of a kind, which must not be empty, and the rest -/
def run1? (p : Char → Bool) (t : Text) : Option (Text × Text) :=
  match t.takeWhile p with
  | [] => none
  | run => some (run, t.dropWhile p)

def word? (t : Text) : Option (Text × Text) := run1? isWord t

def digits? (t : Text) : Option (Text × Text) := run1? isDecimal t

/-- the rest after the first mark -/
def past? (mark : Char) : Text → Option Text
  | [] => none
  | c :: t => if c = mark then some t else past? mark t

/-- the non-empty text in front of the first `stop`, and the rest after it -/
def upTo? (stop : Char) (t : Text) : Option (Text × Text) :=
  if t.head? = some stop then none else (past? stop t).map fun rest => (t.takeWhile (· != stop), rest)

/-- the text after the first newline -/
def nextLine? (t : Text) : Option Text := past? '\n' t

theorem length_of_past? {mark : Char} {t rest : Text} (h : past? mark t = some rest) : rest.length < t.length := by
  induction t with
  | nil => cases h
  | cons c t ih =>
    simp only [past?] at h
    split at h
    · cases h
      simp
    · exact Nat.lt_succ_of_lt (ih h)

/-- what stands in front of a mark does not count -/
theorem past?_append {mark : Char} {pre t : Text} (h : mark ∉ pre) : past? mark (pre ++ t) = past? mark t := by
  induction pre with
  | nil => rfl
  | cons c pre ih =>
    simp only [List.mem_cons, not_or] at h
    simp [past?, Ne.symm h.1, ih h.2]

theorem past?_eq_of_upTo? {stop : Char} {t run rest : Text} (h : upTo? stop t = some (run, rest)) :
    past? stop t = some rest := by
  unfold upTo? at h
  split at h
  · cases h
  · simp only [Option.map_eq_some_iff, Prod.mk.injEq] at h
    obtain ⟨_, h, _, rfl⟩ := h
    exact h

theorem past?_eq_none_of_upTo? {stop : Char} {t : Text} (h : upTo? stop t = none) (hs : t.head? ≠ some stop) :
    past? stop t = none := by
  simpa [upTo?, hs] using h

theorem takeWhile_append_of_past? {stop : Char} {t rest : Text} (h : past? stop t = some rest) :
    t = t.takeWhile (· != stop) ++ stop :: rest := by
  induction t with
  | nil => cases h
  | cons c t ih =>
    by_cases hc : c = stop
    · simp only [past?, hc, if_true, Option.some.injEq] at h
      simp [hc, h]
    · simp only [past?, hc, if_false] at h
      rw [List.takeWhile_cons_of_pos (by simpa using hc), List.cons_append, ← ih h]

/-- what is read up to a mark is all in front of it -/
theorem eq_of_upTo? {stop : Char} {t run rest : Text} (h : upTo? stop t = some (run, rest)) :
    t = run ++ stop :: rest := by
  have hp := past?_eq_of_upTo? h
  unfold upTo? at h
  split at h
  · cases h
  · simp only [hp, Option.map_some, Option.some.injEq, Prod.mk.injEq] at h
    rw [← h.1]
    exact takeWhile_append_of_past? hp

/-- a recogniser of declarations, which reads at least one character -/
structure Recogniser (α : Type) where
  /-- what is read at the beginning of a text, and the rest -/
  read? : Text → Option (α × Text)
  shrinks : ∀ {t rest : Text} {a : α}, read? t = some (a, rest) → rest.length < t.length

theorem length_of_nextLine? {t next : Text} (h : nextLine? t = some next) : next.length < t.length := length_of_past? h

theorem length_blanks (t : Text) : (blanks t).length ≤ t.length :=
  (List.dropWhile_sublist isBlank).length_le

/-- read declarations that are the first on their lines, from the left and without overlap. Blanks in front of them do
not count, not even empty lines: what cannot be read behind blanks can be read at no line among them. -/
def Recogniser.scan {α : Type} (recogniser : Recogniser α) (t : Text) : List α :=
  match _read : recogniser.read? (blanks t) with
  | some (a, rest) =>
    match _next : nextLine? rest with
    | some next => a :: recogniser.scan next
    | none => [a]
  | none =>
    match _next : nextLine? (blanks t) with
    | some next => recogniser.scan next
    | none => []
termination_by t.length
decreasing_by
  · exact Nat.lt_of_lt_of_le (Nat.lt_trans (length_of_nextLine? _next) (recogniser.shrinks _read)) (length_blanks t)
  · exact Nat.lt_of_lt_of_le (length_of_nextLine? _next) (length_blanks t)

theorem Recogniser.scan_of_read {α : Type} {recogniser : Recogniser α} {t rest : Text} {a : α}
    (h : recogniser.read? (blanks t) = some (a, rest)) :
    recogniser.scan t = a :: ((nextLine? rest).map recogniser.scan).getD [] := by
  rw [scan]
  split
  · rename_i a' rest' h'
    cases h.symm.trans h'
    split <;> simp [*]
  · rename_i h'
    cases h.symm.trans h'

/-- where nothing can be read, reading goes on at the next line too -/
theorem Recogniser.scan_of_none {α : Type} {recogniser : Recogniser α} {t : Text}
    (h : recogniser.read? (blanks t) = none) :
    recogniser.scan t = ((nextLine? (blanks t)).map recogniser.scan).getD [] := by
  rw [scan]
  split
  · rename_i h'
    cases h.symm.trans h'
  · split <;> simp [*]

theorem length_of_blanks1? {t rest : Text} (h : blanks1? t = some rest) : rest.length < t.length := by
  cases t with
  | nil => simp [blanks1?] at h
  | cons c t =>
    simp only [blanks1?] at h
    split at h
    · cases h
      exact Nat.lt_succ_of_le (length_blanks t)
    · cases h

theorem length_of_run1? {p : Char → Bool} {t run rest : Text} (h : run1? p t = some (run, rest)) :
    rest.length < t.length := by
  unfold run1? at h
  split at h
  · cases h
  · rename_i hr
    cases h
    have h1 : (t.takeWhile p).length + (t.dropWhile p).length = t.length := by
      rw [← List.length_append, List.takeWhile_append_dropWhile]
    have h2 : (t.takeWhile p).length ≠ 0 := by
      intro h0
      exact hr (List.length_eq_zero_iff.1 h0)
    omega

theorem length_of_upTo? {stop : Char} {t run rest : Text} (h : upTo? stop t = some (run, rest)) :
    rest.length < t.length :=
  length_of_past? (past?_eq_of_upTo? h)

theorem length_of_after? {start t rest : Text} (h : Text.after? start t = some rest) : rest.length ≤ t.length := by
  rw [Text.after?_eq_some_iff] at h
  subst h
  simp

end GlslInspect.Pattern
