/-
Reading a text that is written from known parts.

Words and spacing are texts with proofs of what they are made of. What stands behind them is any text, as far as it
cannot be mistaken for more of the same: a run is read whole (`run1?_append`), blanks are passed (`blanks_append`), a
text up to a mark is read up to it (`upTo?_append`). A recogniser passes each line on which it reads nothing
(`Recogniser.scan_line`).
-/
import GlslInspect.Pattern
import GlslInspect.Proofs.Text

namespace GlslInspect

open Text Pattern

/-! ## Words and spacing -/

def blankCodes : List Nat :=
  [0x20, 0x9, 0xa, 0xb, 0xc, 0xd, 0x85, 0xa0, 0x1680, 0x2000, 0x2001, 0x2002, 0x2003, 0x2004, 0x2005, 0x2006, 0x2007,
    0x2008, 0x2009, 0x200a, 0x2028, 0x2029, 0x202f, 0x205f, 0x3000]

theorem toNat_mem_blankCodes {c : Char} (h : isBlank c = true) : c.toNat ∈ blankCodes := by
  by_cases hspace : c = ' '
  · subst hspace
    decide
  · simp only [isBlank, hspace, Bool.or_eq_true, Bool.and_eq_true, decide_eq_true_eq, false_or] at h
    simp only [blankCodes, List.mem_cons, List.not_mem_nil, or_false]
    omega

/-- characters of a kind to which no blank belongs are no blanks -/
theorem isBlank_eq_false {p : Char → Bool} (hcodes : ∀ n ∈ blankCodes, p (Char.ofNat n) = false) {c : Char}
    (h : p c = true) : isBlank c = false := by
  refine Bool.eq_false_iff.2 fun hblank => ?_
  have hother := hcodes c.toNat (toNat_mem_blankCodes hblank)
  rw [Char.ofNat_toNat, h] at hother
  cases hother

theorem isBlank_of_isWord {c : Char} (h : isWord c = true) : isBlank c = false :=
  isBlank_eq_false (by decide +kernel) h

theorem isWord_of_isBlank {c : Char} (h : isBlank c = true) : isWord c = false := by
  refine Bool.eq_false_iff.2 fun hword => ?_
  rw [isBlank_of_isWord hword] at h
  cases h

/-- blanks on one line -/
structure Spacing where
  text : Text
  all_blank : text.all isBlank = true
  inline : '\n' ∉ text

/-- a name -/
structure Word where
  text : Text
  ne_nil : text ≠ []
  all_word : text.all isWord = true

namespace Spacing

/-- no blanks at all -/
def empty : Spacing := ⟨[], rfl, by simp⟩

theorem blank (s : Spacing) : ∀ c ∈ s.text, isBlank c = true := List.all_eq_true.1 s.all_blank

theorem not_mem (s : Spacing) {mark : Char} (h : isBlank mark = false) : mark ∉ s.text :=
  not_mem_of_all s.all_blank h

/-- spacing and a mark end a word -/
theorem head_append (s : Spacing) {mark : Char} (h : isWord mark = false) (t : Text) :
    ∀ c ∈ (s.text ++ mark :: t).head?, isWord c = false := by
  intro c hc
  cases hs : s.text with
  | nil =>
    rw [hs] at hc
    cases hc
    exact h
  | cons d rest =>
    rw [hs] at hc
    cases hc
    exact isWord_of_isBlank (s.blank c (by simp [hs]))

end Spacing

namespace Word

theorem letters (w : Word) : ∀ c ∈ w.text, isWord c = true := List.all_eq_true.1 w.all_word

theorem visible (w : Word) : ∀ c ∈ w.text, isBlank c = false := fun c hc => isBlank_of_isWord (w.letters c hc)

theorem exists_eq_cons (w : Word) : ∃ c rest, w.text = c :: rest ∧ isWord c = true := by
  obtain ⟨c, rest, heq⟩ := List.exists_cons_of_ne_nil w.ne_nil
  exact ⟨c, rest, heq, w.letters c (by simp [heq])⟩

theorem not_mem (w : Word) {mark : Char} (h : isWord mark = false) : mark ∉ w.text := not_mem_of_all w.all_word h

end Word

/-! ## Patterns -/

/-- steps that lead from related results to related results can be put together -/
theorem rel_bind {α β γ δ : Type} {R : α → β → Prop} {S : γ → δ → Prop} {a : Option α} {b : Option β}
    {f : α → Option γ} {g : β → Option δ} (h : Option.Rel R a b) (hfg : ∀ x y, R x y → Option.Rel S (f x) (g y)) :
    Option.Rel S (a.bind f) (b.bind g) := by
  cases h with
  | some h => exact hfg _ _ h
  | none => exact .none

namespace Pattern

theorem blanks_append {b : Text} (h : ∀ c ∈ b, isBlank c = true) (t : Text) : blanks (b ++ t) = blanks t :=
  List.dropWhile_append_of_pos h

theorem blanks_cons {c : Char} (h : isBlank c = false) (t : Text) : blanks (c :: t) = c :: t :=
  List.dropWhile_cons_of_neg (by simp [h])

theorem blanks1?_append {b : Text} (hne : b ≠ []) (h : ∀ c ∈ b, isBlank c = true) (t : Text) :
    blanks1? (b ++ t) = some (blanks t) := by
  obtain ⟨c, rest, rfl⟩ := List.exists_cons_of_ne_nil hne
  rw [List.cons_append, blanks1?, if_pos (h c List.mem_cons_self),
    blanks_append fun d hd => h d (List.mem_cons_of_mem c hd)]

theorem blanks1?_cons {c : Char} (h : isBlank c = false) (t : Text) : blanks1? (c :: t) = none := by
  simp [blanks1?, h]

theorem blanks_word (w : Word) (t : Text) : blanks (w.text ++ t) = w.text ++ t := by
  obtain ⟨c, rest, heq, hc⟩ := w.exists_eq_cons
  rw [heq, List.cons_append, blanks_cons (isBlank_of_isWord hc)]

theorem run1?_append {p : Char → Bool} {w t : Text} (hne : w ≠ []) (hw : ∀ c ∈ w, p c = true)
    (ht : ∀ c ∈ t.head?, p c = false) : run1? p (w ++ t) = some (w, t) := by
  have htake : (w ++ t).takeWhile p = w := takeWhile_append_of_head? hw ht
  have hdrop : (w ++ t).dropWhile p = t := by rw [List.dropWhile_append_of_pos hw, dropWhile_eq_self ht]
  obtain ⟨c, rest, rfl⟩ := List.exists_cons_of_ne_nil hne
  rw [run1?, htake, hdrop]

/-- what is read as a run is one, and nothing is lost -/
theorem eq_of_run1? {p : Char → Bool} {t run rest : Text} (h : run1? p t = some (run, rest)) :
    run ≠ [] ∧ run.all p = true ∧ t = run ++ rest := by
  unfold run1? at h
  split at h
  · cases h
  · rename_i hne
    cases h
    exact ⟨fun hnil => hne hnil, List.all_takeWhile .., List.takeWhile_append_dropWhile.symm⟩

theorem run1?_cons {p : Char → Bool} {c : Char} (h : p c = false) (t : Text) : run1? p (c :: t) = none := by
  simp [run1?, h]

theorem word?_append (w : Word) {t : Text} (h : ∀ c ∈ t.head?, isWord c = false) :
    word? (w.text ++ t) = some (w.text, t) :=
  run1?_append w.ne_nil w.letters h

theorem past?_cons_self (mark : Char) (t : Text) : past? mark (mark :: t) = some t := if_pos rfl

/-- a text is read up to the first mark -/
theorem upTo?_append {stop : Char} {run : Text} (hne : run ≠ []) (h : stop ∉ run) (rest : Text) :
    upTo? stop (run ++ stop :: rest) = some (run, rest) := by
  have hhead : (run ++ stop :: rest).head? ≠ some stop := by
    obtain ⟨c, u, rfl⟩ := List.exists_cons_of_ne_nil hne
    intro heq
    cases heq
    exact h List.mem_cons_self
  have htake : (run ++ stop :: rest).takeWhile (· != stop) = run := by
    rw [List.takeWhile_append_of_pos fun c hc => by simpa using fun heq : c = stop => h (heq ▸ hc)]
    simp
  rw [upTo?, if_neg hhead, past?_append h, past?_cons_self, htake]
  rfl

/-! ## Recognisers -/

namespace Recogniser

variable {α : Type} (recogniser : Recogniser α)

/-- a line on which nothing can be read is passed -/
theorem scan_line (lead : Spacing) {line : Text} (t : Text) (hstart : blanks (line ++ '\n' :: t) = line ++ '\n' :: t)
    (hline : '\n' ∉ line) (h : recogniser.read? (line ++ '\n' :: t) = none) :
    recogniser.scan (lead.text ++ (line ++ '\n' :: t)) = recogniser.scan t := by
  have hblanks : blanks (lead.text ++ (line ++ '\n' :: t)) = line ++ '\n' :: t := by
    rw [blanks_append lead.blank, hstart]
  have hnext : nextLine? (line ++ '\n' :: t) = some t := by
    rw [nextLine?, past?_append hline, past?_cons_self]
  rw [scan_of_none (by rwa [hblanks]), hblanks, hnext]
  rfl

theorem scan_blank (h : recogniser.read? [] = none) {t : Text} (ht : ∀ c ∈ t, isBlank c = true) :
    recogniser.scan t = [] := by
  have hblanks : blanks t = [] := by
    rw [← List.append_nil t, blanks_append ht]
    rfl
  rw [scan_of_none (by rwa [hblanks]), hblanks]
  rfl

theorem scan_nextLine_blank (h : recogniser.read? [] = none) {t : Text} (ht : ∀ c ∈ t, isBlank c = true) :
    ((nextLine? t).map recogniser.scan).getD [] = [] := by
  cases hnext : nextLine? t with
  | none => rfl
  | some next =>
    have hend : next <:+ t := ⟨_, (takeWhile_append_of_past? hnext ▸ (List.append_cons ..).symm)⟩
    exact recogniser.scan_blank h fun c hc => ht c (hend.subset hc)

end Recogniser

end Pattern

end GlslInspect
