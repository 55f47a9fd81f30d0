/-
Reading a line of a compiler's log.

An error names a line of the source in its second field. Read from the left, up to the first colon and up to the next,
that field is found whatever follows (`errorLineNumber?_of_fields`), and digits are read as the number they stand for as
long as it has 64 bits (`readWord_of_digits`). The window around a line exists exactly when the source has the line, and
marks that one (`isSome_around?`, `target_of_around?`).
-/
import Mathlib.Algebra.Group.Nat.Defs
import Mathlib.Data.List.Nodup
import GlslInspect.Diagnostic
import GlslInspect.Proofs.Reading

namespace GlslInspect

/-! ## Numbers -/

theorem le_ofDigitChars (digits : Text) (value : ℕ) : value ≤ Nat.ofDigitChars 10 digits value := by
  induction digits generalizing value with
  | nil => exact Nat.le_of_eq Nat.ofDigitChars_nil.symm
  | cons c digits ih =>
    rw [Nat.ofDigitChars_cons]
    have hgrows : value ≤ 10 * value + (c.toNat - '0'.toNat) := by omega
    exact Nat.le_trans hgrows (ih _)

theorem readDigits_of_digits {digits : Text} {value : ℕ} (hdigits : ∀ c ∈ digits, c.isDigit = true)
    (hword : Nat.ofDigitChars 10 digits value ≤ maxWord) :
    readDigits value digits = .ok (Nat.ofDigitChars 10 digits value) := by
  induction digits generalizing value with
  | nil => rw [Nat.ofDigitChars_nil, readDigits]
  | cons c digits ih =>
    rw [Nat.ofDigitChars_cons] at hword ⊢
    have hfits := Nat.le_trans (le_ofDigitChars digits _) hword
    rw [Nat.mul_comm] at hfits hword ⊢
    rw [readDigits, if_pos (hdigits c List.mem_cons_self), if_pos hfits]
    exact ih (fun d hd => hdigits d (List.mem_cons_of_mem c hd)) hword

theorem readWord_of_digits {digits : Text} (hne : digits ≠ []) (hdigits : ∀ c ∈ digits, c.isDigit = true)
    (hword : Nat.ofDigitChars 10 digits 0 < 2 ^ 64) : readWord digits = .ok (Nat.ofDigitChars 10 digits 0) := by
  have hread : readWord digits = readDigits 0 digits := by
    unfold readWord
    split
    · exact absurd rfl hne
    · exact absurd (hdigits '+' (by simp)) (by decide)
    · exact absurd (hdigits '+' (by simp)) (by decide)
    · rfl
  rw [hread, readDigits_of_digits hdigits]
  have hmax : maxWord + 1 = 2 ^ 64 := by decide
  omega

/-- a text is how a number of 64 bits can be written: in decimal digits, with or without a plus sign in front -/
def Text.Writes (t : Text) (n : ℕ) : Prop :=
  ∃ digits : Text, (t = digits ∨ t = '+' :: digits) ∧ digits ≠ [] ∧ (∀ c ∈ digits, c.isDigit = true) ∧
    n = Nat.ofDigitChars 10 digits 0 ∧ n < 2 ^ 64

theorem digits_of_readDigits {digits : Text} {value n : ℕ} (hvalue : value ≤ maxWord)
    (h : readDigits value digits = .ok n) :
    (∀ c ∈ digits, c.isDigit = true) ∧ n = Nat.ofDigitChars 10 digits value ∧ n ≤ maxWord := by
  induction digits generalizing value with
  | nil =>
    cases h
    exact ⟨by simp, Nat.ofDigitChars_nil.symm, hvalue⟩
  | cons c digits ih =>
    rw [readDigits] at h
    dsimp only at h
    split_ifs at h with hdigit hfits
    obtain ⟨hdigits, hn, hword⟩ := ih hfits h
    rw [Nat.ofDigitChars_cons, Nat.mul_comm]
    exact ⟨List.forall_mem_cons.2 ⟨hdigit, hdigits⟩, hn, hword⟩

theorem readWord_eq_ok_iff {t : Text} {n : ℕ} : readWord t = .ok n ↔ t.Writes n := by
  have hmax : maxWord + 1 = 2 ^ 64 := by decide
  constructor
  · intro h
    unfold readWord at h
    split at h
    · cases h
    · cases h
    · rename_i digits hne
      obtain ⟨hdigits, hn, hword⟩ := digits_of_readDigits (Nat.zero_le _) h
      exact ⟨digits, Or.inr rfl, fun hnil => hne (by rw [hnil]), hdigits, hn, by omega⟩
    · rename_i hne _ _
      obtain ⟨hdigits, hn, hword⟩ := digits_of_readDigits (Nat.zero_le _) h
      exact ⟨_, Or.inl rfl, hne, hdigits, hn, by omega⟩
  · rintro ⟨digits, rfl | rfl, hne, hdigits, rfl, hword⟩
    · exact readWord_of_digits hne hdigits hword
    · have hread : readWord ('+' :: digits) = readDigits 0 digits := by
        obtain ⟨c, rest, rfl⟩ := List.exists_cons_of_ne_nil hne
        rfl
      rw [hread, readDigits_of_digits hdigits (by omega)]

/-! ## Fields -/

theorem isBlank_of_isDigit {c : Char} (h : c.isDigit = true) : isBlank c = false :=
  isBlank_eq_false (by decide) h

/-- the number in the second field of an error is found, if the first field has no colon -/
theorem errorLineNumber?_of_fields {file digits : Text} (rest : Text) (hfile : ':' ∉ file) (hne : digits ≠ [])
    (hdigits : ∀ c ∈ digits, c.isDigit = true) (hword : Nat.ofDigitChars 10 digits 0 < 2 ^ 64) :
    errorLineNumber? (errorMark ++ (file ++ ':' :: (digits ++ ':' :: rest))) = some (Nat.ofDigitChars 10 digits 0) := by
  have hcolon : ':' ∉ digits := fun hmem => absurd (hdigits ':' hmem) (by decide)
  have htrim : Text.trim digits = digits := Text.trim_eq_self fun c hc => isBlank_of_isDigit (hdigits c hc)
  unfold errorLineNumber?
  rw [Text.afterFirst?_append]
  change (Text.splitOn ':' (file ++ ':' :: (digits ++ ':' :: rest)))[1]? >>= _ = _
  rw [Text.splitOn_append_cons _ hfile, Text.splitOn_append_cons _ hcolon]
  change (readWord (Text.trim digits)).toOption = _
  rw [htrim, readWord_of_digits hne hdigits hword]
  rfl

/-! ## Windows -/

namespace ContextWindow

variable {source : Source} {n : ℕ} {window : ContextWindow}

theorem isSome_around? : (around? source n).isSome = true ↔ 1 ≤ n ∧ n ≤ source.lineCount := by
  unfold around?
  split
  · simp
    omega
  · simp
    omega

theorem exists_lineText? (hfirst : 1 ≤ n) (hlast : n ≤ source.lineCount) : ∃ text, source.lineText? n = some text := by
  obtain ⟨m, rfl⟩ := Nat.exists_eq_add_of_le' hfirst
  have hlt : m < source.length := hlast
  exact ⟨_, by rw [Source.lineText?, List.getElem?_eq_getElem hlt, Option.map_some]⟩

theorem mem_numbers (hfirst : 1 ≤ n) (hlast : n ≤ source.lineCount) :
    n ∈ numbers (first n) (last source.lineCount n) := by
  unfold numbers first last linesBefore linesAfter
  rw [List.mem_range'_1]
  omega

/-- lines other than the one that a window is around are not marked -/
theorem filter_isTarget_eq_nil {numbers : List ℕ} (h : n ∉ numbers) :
    ((numbers.filterMap fun number => (source.lineText? number).map fun text =>
      (⟨number, text, number = n⟩ : ContextLine)).filter ContextLine.isTarget) = [] := by
  rw [List.filter_eq_nil_iff]
  intro line hline
  obtain ⟨number, hnumber, hshown⟩ := List.mem_filterMap.1 hline
  obtain ⟨text, -, rfl⟩ := Option.map_eq_some_iff.1 hshown
  have hne : number ≠ n := fun heq => h (heq ▸ hnumber)
  simpa using hne

theorem target_of_around? (h : around? source n = some window) :
    ∃ text, source.lineText? n = some text ∧ window.lines.filter ContextLine.isTarget = [⟨n, text, true⟩] := by
  obtain ⟨hfirst, hlast⟩ := isSome_around?.1 (Option.isSome_of_eq_some h)
  obtain ⟨text, htext⟩ := exists_lineText? hfirst hlast
  refine ⟨text, htext, ?_⟩
  unfold around? at h
  split at h
  · cases h
  · cases h
    have hnodup : (numbers (first n) (last source.lineCount n)).Nodup := List.nodup_range'
    obtain ⟨before, after, hsplit⟩ := List.append_of_mem (mem_numbers hfirst hlast)
    rw [hsplit] at hnodup
    obtain ⟨-, hcons, hdisjoint⟩ := List.nodup_append.1 hnodup
    have hbefore : n ∉ before := fun hmem => hdisjoint n hmem n List.mem_cons_self rfl
    have hafter : n ∉ after := (List.nodup_cons.1 hcons).1
    change (List.filterMap _ (numbers (first n) (last source.lineCount n))).filter ContextLine.isTarget = _
    rw [hsplit, List.filterMap_append, List.filter_append, filter_isTarget_eq_nil hbefore, List.nil_append,
      List.filterMap_cons]
    simp only [htext, Option.map_some]
    rw [List.filter_cons_of_pos (by simp), filter_isTarget_eq_nil hafter]
    simp

end ContextWindow

end GlslInspect
