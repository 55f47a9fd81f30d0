/-
Cutting, trimming and searching texts.

What the cuts, the trims and the searches of a text give when the text is known in parts: a separator behind a part
without one, blanks at an end, the sought text in front.
-/
import GlslInspect.Text.Blank

namespace GlslInspect

namespace Text

theorem not_mem_of_all {p : Char → Bool} {t : Text} (h : t.all p = true) {mark : Char} (hmark : p mark = false) :
    mark ∉ t := by
  intro hmem
  rw [List.all_eq_true.1 h mark hmem] at hmark
  cases hmark

theorem isDigit_of_mem_ofNat (n : Nat) : ∀ c ∈ ofNat n, c.isDigit = true :=
  fun _ hc => Nat.isDigit_of_mem_toDigits (by decide) (by decide) hc

theorem not_mem_ofNat {mark : Char} (h : mark.isDigit = false) {n : Nat} : mark ∉ ofNat n :=
  not_mem_of_all (List.all_eq_true.2 (isDigit_of_mem_ofNat n)) h

theorem dropWhile_eq_self {p : Char → Bool} {t : Text} (h : ∀ c ∈ t.head?, p c = false) : t.dropWhile p = t := by
  cases t with
  | nil => rfl
  | cons c t => exact List.dropWhile_cons_of_neg (by simp [h c rfl])

/-- taking stops at an element of another kind -/
theorem takeWhile_append_of_head? {α : Type} {p : α → Bool} {w t : List α} (hw : ∀ c ∈ w, p c = true)
    (ht : ∀ c ∈ t.head?, p c = false) : (w ++ t).takeWhile p = w := by
  rw [List.takeWhile_append_of_pos hw]
  cases t with
  | nil => simp
  | cons c t => simp [ht c rfl]

/-- a text is cut in one way only into characters of a kind and what begins with none -/
theorem append_inj_of_head? {p : Char → Bool} {a b t u : Text} (ha : a.all p = true) (hb : b.all p = true)
    (ht : ∀ c ∈ t.head?, p c = false) (hu : ∀ c ∈ u.head?, p c = false) (h : a ++ t = b ++ u) : a = b ∧ t = u := by
  have hsame : a = b := by
    rw [← takeWhile_append_of_head? (List.all_eq_true.1 ha) ht, h,
      takeWhile_append_of_head? (List.all_eq_true.1 hb) hu]
  subst hsame
  exact ⟨rfl, List.append_cancel_left h⟩

theorem dropWhile_append_cons {p : Char → Bool} {c : Char} (hc : p c = false) (front t : Text) :
    (front ++ c :: t).dropWhile p = front.dropWhile p ++ c :: t := by
  rw [List.dropWhile_append]
  split
  · rename_i hempty
    rw [List.isEmpty_iff.1 hempty, List.dropWhile_cons_of_neg (by simp [hc])]
    rfl
  · rfl

theorem dropEndWhile_eq_self {p : Char → Bool} {t : Text} (h : ∀ c ∈ t.getLast?, p c = false) :
    dropEndWhile p t = t := by
  unfold dropEndWhile
  rw [dropWhile_eq_self (by rwa [List.head?_reverse]), List.reverse_reverse]

/-- a text that neither begins nor ends in a blank is trimmed already -/
theorem trim_of_ends {t : Text} (hhead : ∀ c ∈ t.head?, isBlank c = false)
    (hlast : ∀ c ∈ t.getLast?, isBlank c = false) : trim t = t := by
  unfold trim trimStart
  rw [dropWhile_eq_self hhead, dropEndWhile_eq_self hlast]

theorem trim_eq_self {t : Text} (h : ∀ c ∈ t, isBlank c = false) : trim t = t :=
  trim_of_ends (fun c hc => h c (List.mem_of_mem_head? hc)) fun c hc => h c (List.mem_of_getLast? hc)

theorem dropEndWhile_append_cons {p : Char → Bool} {c : Char} (hc : p c = false) (front t : Text) :
    dropEndWhile p (front ++ c :: t) = front ++ c :: dropEndWhile p t := by
  have hstop : (c :: front.reverse).dropWhile p = c :: front.reverse := List.dropWhile_cons_of_neg (by simp [hc])
  unfold dropEndWhile
  rw [List.reverse_append, List.reverse_cons, List.append_assoc, List.singleton_append, List.dropWhile_append, hstop]
  split
  · rename_i hempty
    rw [List.isEmpty_iff.1 hempty]
    simp
  · simp

theorem dropEndWhile_isPrefix (p : Char → Bool) (t : Text) : dropEndWhile p t <+: t := by
  have hsuffix : t.reverse.dropWhile p <:+ t.reverse := List.dropWhile_suffix p
  rwa [← List.reverse_prefix, List.reverse_reverse] at hsuffix

/-- what is of the kind is dropped at the end, whatever stands in front of it -/
theorem dropEndWhile_append {p : Char → Bool} {u : Text} (h : ∀ c ∈ u, p c = true) (t : Text) :
    dropEndWhile p (t ++ u) = dropEndWhile p t := by
  unfold dropEndWhile
  rw [List.reverse_append, List.dropWhile_append_of_pos fun c hc => h c (List.mem_reverse.1 hc)]

theorem trim_blank_append {t : Text} (u : Text) (h : ∀ c ∈ t, isBlank c = true) : trim (t ++ u) = trim u := by
  unfold trim trimStart
  rw [List.dropWhile_append_of_pos h]

theorem trim_append_blank (t : Text) {u : Text} (h : ∀ c ∈ u, isBlank c = true) : trim (t ++ u) = trim t := by
  have hnil : u.dropWhile isBlank = [] := by
    rw [← List.append_nil u, List.dropWhile_append_of_pos h]
    rfl
  unfold trim trimStart
  rw [List.dropWhile_append]
  split
  · rename_i hempty
    rw [List.isEmpty_iff.1 hempty, hnil]
  · exact dropEndWhile_append h _

/-- a text between two characters that are no blanks stays when what follows is trimmed -/
theorem trim_cons_append_cons {a b : Char} (ha : isBlank a = false) (hb : isBlank b = false) (mid t : Text) :
    trim (a :: (mid ++ b :: t)) = a :: (mid ++ b :: dropEndWhile isBlank t) := by
  have hstart : trimStart (a :: (mid ++ b :: t)) = a :: (mid ++ b :: t) := List.dropWhile_cons_of_neg (by simp [ha])
  unfold trim
  rw [hstart, ← List.cons_append, dropEndWhile_append_cons hb]
  rfl

theorem words_blank_append {b : Text} (h : ∀ c ∈ b, isBlank c = true) (t : Text) : words (b ++ t) = words t := by
  induction b with
  | nil => rfl
  | cons c b ih =>
    have hrest := ih fun d hd => h d (List.mem_cons_of_mem c hd)
    rw [List.cons_append, words.eq_def, ← hrest]
    exact if_pos (h c List.mem_cons_self)

/-- characters that are no blanks make up one word, up to the next blank -/
theorem words_append {w t : Text} (hne : w ≠ []) (hw : ∀ c ∈ w, isBlank c = false)
    (ht : ∀ c ∈ t.head?, isBlank c = true) : words (w ++ t) = w :: words t := by
  induction w with
  | nil => exact absurd rfl hne
  | cons c w ih =>
    have hc : isBlank c = false := hw c List.mem_cons_self
    cases w with
    | nil =>
      cases t with
      | nil => simp [words, hc]
      | cons d t => simp [words, hc, ht d rfl]
    | cons d w =>
      have hd : isBlank d = false := hw d (by simp)
      have hrest := ih (by simp) fun e he => hw e (List.mem_cons_of_mem c he)
      rw [List.cons_append, List.cons_append, words, ← List.cons_append, hrest]
      simp [hc, hd, consHead]

theorem words_singleton {w : Text} (hne : w ≠ []) (hw : ∀ c ∈ w, isBlank c = false) : words w = [w] := by
  have hwords : words (w ++ []) = w :: words [] := words_append hne hw (by simp)
  rwa [List.append_nil, words] at hwords

section Parts

variable {α : Type} [DecidableEq α] {sep : α}

/-- a text without separator is one part -/
theorem splitOn_of_not_mem {t : List α} (h : sep ∉ t) : splitOn sep t = [t] := by
  induction t with
  | nil => rfl
  | cons c t ih =>
    have hc : c ≠ sep := fun heq => h (heq ▸ List.mem_cons_self)
    rw [splitOn, if_neg hc, ih fun hmem => h (List.mem_cons_of_mem c hmem)]
    rfl

/-- a separator ends the part in front of it -/
theorem splitOn_append_cons {a : List α} (b : List α) (h : sep ∉ a) :
    splitOn sep (a ++ sep :: b) = a :: splitOn sep b := by
  induction a with
  | nil => simp [splitOn]
  | cons c a ih =>
    have hc : c ≠ sep := fun heq => h (heq ▸ List.mem_cons_self)
    rw [List.cons_append, splitOn, if_neg hc, ih fun hmem => h (List.mem_cons_of_mem c hmem)]
    rfl

theorem splitOn_ne_nil (sep : α) (t : List α) : splitOn sep t ≠ [] := by
  cases t with
  | nil => simp [splitOn]
  | cons x t =>
    rw [splitOn]
    split
    · simp
    · cases splitOn sep t <;> simp [consHead]

/-- the parts of a text are those in front of a separator and those behind it -/
theorem splitOn_append (a b : List α) :
    splitOn sep (a ++ sep :: b) = splitOn sep a ++ splitOn sep b := by
  induction a with
  | nil => simp [splitOn]
  | cons x a ih =>
    rw [List.cons_append, splitOn, splitOn, ih]
    split
    · rfl
    · obtain ⟨part, parts, hparts⟩ := List.exists_cons_of_ne_nil (splitOn_ne_nil sep a)
      rw [hparts]
      rfl

/-- the parts of a text between separators have none -/
theorem not_mem_of_mem_splitOn {t part : List α} (h : part ∈ splitOn sep t) : sep ∉ part := by
  induction t generalizing part with
  | nil =>
    rw [splitOn, List.mem_singleton] at h
    simp [h]
  | cons c t ih =>
    rw [splitOn] at h
    split at h
    · rcases List.mem_cons.1 h with rfl | h
      · simp
      · exact ih h
    · rename_i hc
      obtain ⟨first, rest, hparts⟩ := List.exists_cons_of_ne_nil (splitOn_ne_nil sep t)
      rw [hparts, consHead] at h
      rcases List.mem_cons.1 h with rfl | h
      · have hfirst : sep ∉ first := ih (by rw [hparts]; exact List.mem_cons_self)
        simp [Ne.symm hc, hfirst]
      · exact ih (by rw [hparts]; exact List.mem_cons_of_mem first h)

/-- what is joined by a separator is cut there again, and where the parts have one -/
theorem splitOn_join {parts : List (List α)} (h : parts ≠ []) :
    splitOn sep (join [sep] parts) = parts.flatMap (splitOn sep) := by
  induction parts using join.induct with
  | case1 => exact absurd rfl h
  | case2 t => rw [join, List.flatMap_singleton]
  | case3 t u rest ih =>
    rw [join, List.append_assoc, List.singleton_append, splitOn_append, ih (List.cons_ne_nil u rest)]
    rfl

theorem flatMap_splitOn {parts : List (List α)} (h : ∀ part ∈ parts, sep ∉ part) :
    parts.flatMap (splitOn sep) = parts := by
  induction parts with
  | nil => rfl
  | cons part parts ih =>
    rw [List.flatMap_cons, splitOn_of_not_mem (h part List.mem_cons_self),
      ih fun other hother => h other (List.mem_cons_of_mem part hother)]
    rfl

omit [DecidableEq α] in
theorem join_concat {sep : List α} {parts : List (List α)} (hne : parts ≠ []) (part : List α) :
    join sep (parts ++ [part]) = join sep parts ++ sep ++ part := by
  induction parts using join.induct with
  | case1 => exact absurd rfl hne
  | case2 first => rfl
  | case3 first next rest ih =>
    rw [List.cons_append, List.cons_append, join, ← List.cons_append, ih (List.cons_ne_nil _ _), join]
    simp only [List.append_assoc]

end Parts

theorem after?_append (start rest : Text) : after? start (start ++ rest) = some rest :=
  after?_eq_some_iff.2 rfl

theorem afterFirst?_append (needle rest : Text) : afterFirst? needle (needle ++ rest) = some rest := by
  have hafter := after?_append needle rest
  cases htext : needle ++ rest with
  | nil => rwa [htext] at hafter
  | cons c t =>
    rw [htext] at hafter
    rw [afterFirst?, hafter]

/-- what is found behind a text stands behind its first occurrence -/
theorem afterFirst?_eq_some_iff {needle t behind : Text} :
    afterFirst? needle t = some behind ↔ ∃ before, t = before ++ needle ++ behind ∧
      ∀ earlier later, t = earlier ++ needle ++ later → before.length ≤ earlier.length := by
  induction t with
  | nil =>
    rw [afterFirst?, after?_eq_some_iff]
    constructor
    · intro h
      exact ⟨[], h, by simp⟩
    · rintro ⟨before, h, -⟩
      have hbefore : before = [] := by simp_all
      rwa [hbefore] at h
  | cons c t ih =>
    rw [afterFirst?]
    cases hhere : after? needle (c :: t) with
    | some rest =>
      have hstart := after?_eq_some_iff.1 hhere
      constructor
      · rintro ⟨⟩
        exact ⟨[], hstart, by simp⟩
      · rintro ⟨before, h, hfirst⟩
        have hbefore : before = [] := List.length_eq_zero_iff.1 (Nat.le_zero.1 (hfirst [] rest hstart))
        rw [hbefore, List.nil_append, hstart] at h
        exact congrArg some (List.append_cancel_left h)
    | none =>
      -- the text does not begin here, so whatever stands in front of it begins with this character
      have hlater : ∀ {before behind : Text}, c :: t = before ++ needle ++ behind →
          ∃ more, before = c :: more ∧ t = more ++ needle ++ behind := by
        intro before behind h
        cases before with
        | nil =>
          rw [List.nil_append, ← after?_eq_some_iff, hhere] at h
          cases h
        | cons d more =>
          rw [List.cons_append, List.cons_append] at h
          obtain ⟨rfl, hmore⟩ := List.cons.inj h
          exact ⟨more, rfl, hmore⟩
      dsimp only
      rw [ih]
      constructor
      · rintro ⟨before, h, hfirst⟩
        refine ⟨c :: before, by rw [h]; rfl, fun earlier later hearlier => ?_⟩
        obtain ⟨more, rfl, hmore⟩ := hlater hearlier
        exact Nat.succ_le_succ (hfirst more later hmore)
      · rintro ⟨before, h, hfirst⟩
        obtain ⟨more, rfl, hmore⟩ := hlater h
        refine ⟨more, hmore, fun earlier later hearlier => ?_⟩
        exact Nat.le_of_succ_le_succ (hfirst (c :: earlier) later (by rw [hearlier]; rfl))

theorem occursIn_append (needle rest : Text) : occursIn needle (needle ++ rest) = true := by
  have hstarts : startsWith needle (needle ++ rest) = true := by
    rw [startsWith, after?_append]
    rfl
  cases htext : needle ++ rest with
  | nil => rwa [htext] at hstarts
  | cons c t =>
    rw [htext] at hstarts
    rw [occursIn, hstarts, Bool.true_or]

theorem startsWith_iff_isPrefix {start t : Text} : startsWith start t = true ↔ start <+: t := by
  rw [startsWith, Option.isSome_iff_exists]
  constructor
  · rintro ⟨rest, hrest⟩
    exact ⟨rest, (after?_eq_some_iff.1 hrest).symm⟩
  · rintro ⟨rest, hrest⟩
    exact ⟨rest, after?_eq_some_iff.2 hrest.symm⟩

/-- a text is not found across a character that it does not have -/
theorem startsWith_append_cons_of_not_mem {needle : Text} {c : Char} (h : c ∉ needle) (t rest : Text) :
    startsWith needle (t ++ c :: rest) = startsWith needle t := by
  induction needle generalizing t with
  | nil => rfl
  | cons n needle ih =>
    cases t with
    | nil =>
      have hc : n ≠ c := fun heq => h (heq ▸ List.mem_cons_self)
      simp [startsWith, after?, hc]
    | cons d t =>
      have hrest := ih (fun hmem => h (List.mem_cons_of_mem n hmem)) t
      by_cases hd : n = d
      · simpa [startsWith, after?, hd] using hrest
      · simp [startsWith, after?, hd]

theorem occursIn_append_of_not_mem {needle : Text} {c : Char} (h : c ∉ needle) (t : Text) :
    occursIn needle (t ++ [c]) = occursIn needle t := by
  induction t with
  | nil =>
    have hnil : startsWith needle [c] = startsWith needle [] := startsWith_append_cons_of_not_mem h [] []
    simp [occursIn, hnil]
  | cons d t ih =>
    have hstart := startsWith_append_cons_of_not_mem h (d :: t) []
    rw [List.cons_append] at hstart ⊢
    rw [occursIn, occursIn, hstart, ih]

theorem occursIn_iff_isInfix {needle t : Text} : occursIn needle t = true ↔ needle <:+: t := by
  induction t with
  | nil => rw [occursIn, startsWith_iff_isPrefix, List.prefix_nil, List.infix_nil]
  | cons c t ih => rw [occursIn, Bool.or_eq_true, startsWith_iff_isPrefix, ih, List.infix_cons_iff]

end Text

end GlslInspect
