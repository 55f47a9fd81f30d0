/-
Forms of uniform declarations, and the search for them.

A form is read from its keyword on; in front of the keyword there can be a layout qualifier. Read plainly, each line
that begins with a qualifier looks for the closing parenthesis, and each block for its closing brace, however far away
these are. The search remembers instead what the next closing marks lead to: if nothing can be read after one, no line
in front of it needs to look again. `search_eq_scan` says that it finds what the plain reading finds.
-/
import GlslInspect.Pattern

namespace GlslInspect.Uniform

open Pattern

/-! ## layout qualifiers -/

def layoutOpening? (t : Text) : Option Text := do
  let t ← Text.after? "layout" t
  Text.after? "(" (blanks t)

/-- the rest after a layout qualifier, given what follows its opening -/
def layoutRest? (inside : Text) : Option Text := do
  let (_, t) ← upTo? ')' inside
  blanks1? t

/-- the rest after a layout qualifier, if there is one -/
def pastLayout? (t : Text) : Option Text :=
  match layoutOpening? t with
  | some inside => layoutRest? inside
  | none => some t

/-! ## forms -/

/-- whether the next closing brace, if there is one, fails to close something, given how it must go on -/
def Barren (closes : Text → Bool) (t : Text) : Prop := (past? '\x7d' t).any closes = false

structure Form (α : Type) where
  /-- what is read at the keyword of a declaration, and the rest -/
  read? : Text → Option (α × Text)
  shrinks : ∀ {t rest : Text} {a : α}, read? t = some (a, rest) → rest.length < t.length
  /-- how a text must go on after a closing brace that closes a declaration -/
  closes : Text → Bool
  /-- read, given whether the text is known to be barren; and whether it is known to be so then -/
  attempt : Bool → Text → Option (α × Text) × Bool
  attempt_reads : ∀ {known : Bool} {t : Text} {r : α × Text}, (attempt known t).1 = some r → read? t = some r
  attempt_fst : ∀ {known : Bool} {t : Text}, (known = true → Barren closes t) → (attempt known t).1 = read? t
  attempt_snd : ∀ {known : Bool} {t : Text}, (known = true → Barren closes t) → (attempt known t).2 = true →
    Barren closes t

theorem length_of_layoutOpening? {t inside : Text} (h : layoutOpening? t = some inside) :
    inside.length ≤ t.length := by
  simp only [layoutOpening?, Option.bind_eq_bind, Option.bind_eq_some_iff] at h
  obtain ⟨t1, h1, h2⟩ := h
  have := length_of_after? h1
  have := length_blanks t1
  have := length_of_after? h2
  omega

theorem length_of_pastLayout? {t rest : Text} (h : pastLayout? t = some rest) : rest.length ≤ t.length := by
  unfold pastLayout? at h
  split at h
  · rename_i inside hi
    simp only [layoutRest?, Option.bind_eq_bind, Option.bind_eq_some_iff] at h
    obtain ⟨⟨_, t1⟩, h1, h2⟩ := h
    have := length_of_layoutOpening? hi
    have := length_of_upTo? h1
    have := length_of_blanks1? h2
    dsimp only at *
    omega
  · cases h
    exact Nat.le_refl _

namespace Form

variable {α : Type}

/-- a declaration with its layout qualifier, and the rest -/
def declaration? (form : Form α) (t : Text) : Option (α × Text) := (pastLayout? t).bind form.read?

theorem length_of_declaration? {form : Form α} {t rest : Text} {a : α} (h : form.declaration? t = some (a, rest)) :
    rest.length < t.length := by
  obtain ⟨t1, h1, h2⟩ := Option.bind_eq_some_iff.1 h
  exact Nat.lt_of_lt_of_le (form.shrinks h2) (length_of_pastLayout? h1)

def recogniser (form : Form α) : Recogniser α := ⟨form.declaration?, length_of_declaration?⟩

end Form

/-! ## the search -/

/-- what is known of the closing marks ahead -/
structure Outlook where
  /-- nothing can be read after the next closing parenthesis -/
  paren : Bool
  /-- the next closing brace closes nothing -/
  brace : Bool
  deriving DecidableEq, Repr

namespace Outlook

/-- nothing is known -/
def unknown : Outlook := ⟨false, false⟩

/-- what is still known behind a text that was passed -/
def past (outlook : Outlook) (passed : Text) : Outlook :=
  ⟨outlook.paren && !passed.contains ')', outlook.brace && !passed.contains '\x7d'⟩

end Outlook

namespace Form

variable {α : Type}

/-- try to read a declaration, given what is known of the closing marks ahead; and what is known then, if there is
none -/
def tryAt (form : Form α) (outlook : Outlook) (t : Text) : Option (α × Text) × Outlook :=
  match layoutOpening? t with
  | none =>
    let (found, brace) := form.attempt outlook.brace t
    (found, ⟨outlook.paren, brace⟩)
  | some inside =>
    if outlook.paren then (none, outlook)
    else
      match upTo? ')' inside with
      | none => (none, ⟨decide (inside.head? ≠ some ')'), outlook.brace⟩)
      | some (run, rest) =>
        match blanks1? rest with
        | none => (none, ⟨true, outlook.brace⟩)
        | some start =>
          let apart := run.contains '\x7d'
          let (found, brace) := form.attempt (outlook.brace && !apart) start
          (found, ⟨true, if apart then outlook.brace else brace⟩)

/-- an attempt reads nothing but declarations, whatever the outlook -/
theorem declaration?_of_tryAt {form : Form α} {outlook : Outlook} {t : Text} {r : α × Text}
    (h : (form.tryAt outlook t).1 = some r) : form.declaration? t = some r := by
  unfold tryAt at h
  split at h
  · rename_i ho
    simpa [declaration?, pastLayout?, ho] using form.attempt_reads h
  · rename_i inside ho
    split at h
    · cases h
    · split at h
      · cases h
      · rename_i run rest hu
        split at h
        · cases h
        · rename_i start hb
          simpa [declaration?, pastLayout?, ho, layoutRest?, hu, hb] using form.attempt_reads h

theorem length_of_tryAt {form : Form α} {outlook after : Outlook} {t rest : Text} {a : α}
    (h : form.tryAt outlook t = (some (a, rest), after)) : rest.length < t.length :=
  length_of_declaration? (declaration?_of_tryAt (congrArg Prod.fst h))

/-- search for declarations that are the first on their lines, given what is known of the closing marks ahead -/
def searchFrom (form : Form α) (outlook : Outlook) (t : Text) : List α :=
  match _tried : form.tryAt outlook (blanks t) with
  | (some (a, rest), _) =>
    match _next : nextLine? rest with
    | some next => a :: form.searchFrom .unknown next
    | none => [a]
  | (none, outlook) =>
    match _next : nextLine? (blanks t) with
    | some next => form.searchFrom (outlook.past ((blanks t).takeWhile (· != '\n'))) next
    | none => []
termination_by t.length
decreasing_by
  · exact Nat.lt_of_lt_of_le (Nat.lt_trans (length_of_nextLine? _next) (length_of_tryAt _tried)) (length_blanks t)
  · exact Nat.lt_of_lt_of_le (length_of_nextLine? _next) (length_blanks t)

def search (form : Form α) (t : Text) : List α := form.searchFrom .unknown t

/-! ## the search finds what the plain reading finds -/

/-- nothing can be read after the next closing parenthesis -/
def DeadEnd (form : Form α) (t : Text) : Prop :=
  (past? ')' t).bind (fun rest => (blanks1? rest).bind form.read?) = none

def Holds (form : Form α) (outlook : Outlook) (t : Text) : Prop :=
  (outlook.paren = true → form.DeadEnd t) ∧ (outlook.brace = true → Barren form.closes t)

theorem barren_append {closes : Text → Bool} {pre t : Text} (h : '\x7d' ∉ pre) :
    Barren closes (pre ++ t) ↔ Barren closes t := by
  simp only [Barren, past?_append h]

theorem deadEnd_append {form : Form α} {pre t : Text} (h : ')' ∉ pre) :
    form.DeadEnd (pre ++ t) ↔ form.DeadEnd t := by
  simp only [DeadEnd, past?_append h]

theorem holds_append {form : Form α} {outlook : Outlook} {pre t : Text} (hp : ')' ∉ pre) (hb : '\x7d' ∉ pre) :
    form.Holds outlook (pre ++ t) ↔ form.Holds outlook t := by
  simp only [Holds, barren_append hb, deadEnd_append hp]

theorem holds_unknown (form : Form α) (t : Text) : form.Holds .unknown t := by
  simp [Holds, Outlook.unknown]

/-- what is known in front of a text is known behind it as far as no mark is passed -/
theorem holds_past {form : Form α} {outlook : Outlook} {pre t : Text} (h : form.Holds outlook (pre ++ t)) :
    form.Holds (outlook.past pre) t := by
  refine ⟨fun hp => ?_, fun hb => ?_⟩
  · simp only [Outlook.past, Bool.and_eq_true, Bool.not_eq_true', List.contains_eq_mem, decide_eq_false_iff_not] at hp
    exact (deadEnd_append hp.2).1 (h.1 hp.1)
  · simp only [Outlook.past, Bool.and_eq_true, Bool.not_eq_true', List.contains_eq_mem, decide_eq_false_iff_not] at hb
    exact (barren_append hb.2).1 (h.2 hb.1)

end Form

def Reaches (t rest : Text) : Prop := ∃ pre : Text, t = pre ++ rest ∧ ')' ∉ pre ∧ '\x7d' ∉ pre

theorem Reaches.trans {t u v : Text} (h : Reaches t u) (h' : Reaches u v) : Reaches t v := by
  obtain ⟨pre, rfl, hp, hb⟩ := h
  obtain ⟨pre', rfl, hp', hb'⟩ := h'
  exact ⟨pre ++ pre', (List.append_assoc ..).symm, by simp [hp, hp'], by simp [hb, hb']⟩

/-- a run of characters of a kind without closing marks passes none -/
theorem reaches_dropWhile {p : Char → Bool} (hp : p ')' = false) (hb : p '\x7d' = false) (t : Text) :
    Reaches t (t.dropWhile p) := by
  have all (c : Char) (hc : c ∈ t.takeWhile p) : p c = true := List.all_eq_true.1 (List.all_takeWhile ..) c hc
  refine ⟨t.takeWhile p, List.takeWhile_append_dropWhile.symm, fun h => ?_, fun h => ?_⟩
  · exact absurd (all _ h) (by simp [hp])
  · exact absurd (all _ h) (by simp [hb])

theorem reaches_run1? {p : Char → Bool} (hp : p ')' = false) (hb : p '\x7d' = false) {t run rest : Text}
    (h : run1? p t = some (run, rest)) : Reaches t rest := by
  unfold run1? at h
  split at h
  · cases h
  · cases h
    exact reaches_dropWhile hp hb t

theorem reaches_after? {start t rest : Text} (hp : ')' ∉ start) (hb : '\x7d' ∉ start)
    (h : Text.after? start t = some rest) : Reaches t rest :=
  ⟨start, Text.after?_eq_some_iff.1 h, hp, hb⟩

theorem reaches_blanks (t : Text) : Reaches t (blanks t) := reaches_dropWhile (by decide) (by decide) t

theorem reaches_blanks1? {t rest : Text} (h : blanks1? t = some rest) : Reaches t rest := by
  cases t with
  | nil => cases h
  | cons c t =>
    simp only [blanks1?] at h
    split at h
    · rename_i hc
      cases h
      refine Reaches.trans ⟨[c], rfl, ?_, ?_⟩ (reaches_blanks t)
      all_goals
        simp only [List.mem_singleton]
        rintro rfl
        exact absurd hc (by decide)
    · cases h

theorem reaches_layoutOpening? {t inside : Text} (h : layoutOpening? t = some inside) : Reaches t inside := by
  simp only [layoutOpening?, Option.bind_eq_bind, Option.bind_eq_some_iff] at h
  obtain ⟨t1, h1, h2⟩ := h
  exact .trans (reaches_after? (by decide) (by decide) h1)
    (.trans (reaches_blanks t1) (reaches_after? (by decide) (by decide) h2))

namespace Form

variable {α : Type}

theorem holds_iff_of_reaches {form : Form α} {outlook : Outlook} {t rest : Text} (h : Reaches t rest) :
    form.Holds outlook t ↔ form.Holds outlook rest := by
  obtain ⟨pre, rfl, hp, hb⟩ := h
  exact holds_append hp hb

/-- what is read after a layout qualifier is what is read after the next closing parenthesis -/
theorem deadEnd_iff_of_layoutOpening? {form : Form α} {t inside : Text} (ho : layoutOpening? t = some inside)
    (hs : inside.head? ≠ some ')') : form.DeadEnd inside ↔ form.declaration? t = none := by
  simp only [declaration?, pastLayout?, ho, layoutRest?, DeadEnd, Option.bind_eq_bind]
  cases hu : upTo? ')' inside with
  | none => simp [past?_eq_none_of_upTo? hu hs]
  | some p => simp [past?_eq_of_upTo? hu]

/-- nothing is read where the next closing parenthesis leads nowhere -/
theorem declaration?_eq_none_of_deadEnd {form : Form α} {t inside : Text} (ho : layoutOpening? t = some inside)
    (hd : form.DeadEnd inside) : form.declaration? t = none := by
  by_cases hs : inside.head? = some ')'
  · simp [declaration?, pastLayout?, ho, layoutRest?, upTo?, hs]
  · exact (deadEnd_iff_of_layoutOpening? ho hs).1 hd

/-- what is known in front of a layout qualifier is known of the next closing brace behind it, unless the qualifier
has one -/
theorem barren_of_layout {closes : Text → Bool} {t inside run rest start : Text}
    (ho : layoutOpening? t = some inside) (hu : upTo? ')' inside = some (run, rest)) (hb : blanks1? rest = some start)
    (hr : run.contains '\x7d' = false) : Barren closes t ↔ Barren closes start := by
  obtain ⟨pre, rfl, -, hp⟩ := reaches_layoutOpening? ho
  obtain ⟨pre', rfl, -, hp'⟩ := reaches_blanks1? hb
  rw [barren_append hp, eq_of_upTo? hu, barren_append (by simpa using hr)]
  have hc : '\x7d' ∉ ')' :: pre' := List.not_mem_cons_of_ne_of_not_mem (by decide) hp'
  rw [← List.cons_append, barren_append hc]

/-- an attempt with an outlook that holds reads what there is -/
theorem tryAt_fst {form : Form α} {outlook : Outlook} {t : Text} (h : form.Holds outlook t) :
    (form.tryAt outlook t).1 = form.declaration? t := by
  unfold tryAt
  split
  · rename_i ho
    simpa [declaration?, pastLayout?, ho] using form.attempt_fst h.2
  · rename_i inside ho
    have hr : form.Holds outlook inside := (holds_iff_of_reaches (reaches_layoutOpening? ho)).1 h
    split
    · rename_i hp
      exact (declaration?_eq_none_of_deadEnd ho (hr.1 hp)).symm
    · split
      · rename_i hu
        simp [declaration?, pastLayout?, ho, layoutRest?, hu]
      · rename_i run rest hu
        split
        · rename_i hb
          simp [declaration?, pastLayout?, ho, layoutRest?, hu, hb]
        · rename_i start hb
          simp only [declaration?, pastLayout?, ho, layoutRest?, hu, hb, Option.bind_eq_bind, Option.bind_some]
          refine form.attempt_fst fun hk => ?_
          simp only [Bool.and_eq_true, Bool.not_eq_true'] at hk
          exact (barren_of_layout ho hu hb hk.2).1 (h.2 hk.1)

/-- where an attempt reads nothing, what is known after it holds -/
theorem holds_tryAt {form : Form α} {outlook : Outlook} {t : Text} (h : form.Holds outlook t)
    (hn : form.declaration? t = none) : form.Holds (form.tryAt outlook t).2 t := by
  unfold tryAt
  split
  · exact ⟨h.1, form.attempt_snd h.2⟩
  · rename_i inside ho
    have hd (hs : inside.head? ≠ some ')') : form.DeadEnd t := by
      obtain ⟨pre, rfl, hp, -⟩ := reaches_layoutOpening? ho
      exact (deadEnd_append hp).2 ((deadEnd_iff_of_layoutOpening? ho hs).2 hn)
    split
    · exact h
    · split
      · exact ⟨fun hs => hd (of_decide_eq_true hs), h.2⟩
      · rename_i run rest hu
        have hs : inside.head? ≠ some ')' := by
          intro hs
          simp [upTo?, hs] at hu
        split
        · exact ⟨fun _ => hd hs, h.2⟩
        · rename_i start hb
          refine ⟨fun _ => hd hs, fun hk => ?_⟩
          dsimp only at hk
          split at hk
          · exact h.2 hk
          · rename_i ha
            have ha : run.contains '\x7d' = false := by simpa using ha
            refine (barren_of_layout ho hu hb ha).2 (form.attempt_snd (fun hk' => ?_) hk)
            simp only [Bool.and_eq_true] at hk'
            exact (barren_of_layout ho hu hb ha).1 (h.2 hk'.1)

theorem searchFrom_eq_scan {form : Form α} {outlook : Outlook} {t : Text} (h : form.Holds outlook t) :
    form.searchFrom outlook t = form.recogniser.scan t := by
  induction ht : t.length using Nat.strongRecOn generalizing outlook t with
  | ind n ih =>
    subst ht
    have hb : form.Holds outlook (blanks t) := (holds_iff_of_reaches (reaches_blanks t)).1 h
    have hd := tryAt_fst hb
    have hl := length_blanks t
    rw [searchFrom]
    split
    · rename_i a rest _ tried
      rw [tried] at hd
      have hlt : rest.length < (blanks t).length := form.recogniser.shrinks hd.symm
      rw [Recogniser.scan_of_read hd.symm]
      split
      · rename_i next hx
        have hlt' := length_of_nextLine? hx
        rw [ih next.length (by omega) (holds_unknown form next) rfl]
        simp [hx]
      · rename_i hx
        simp [hx]
    · rename_i after tried
      rw [tried] at hd
      rw [Recogniser.scan_of_none hd.symm]
      split
      · rename_i next hx
        have hlt := length_of_nextLine? hx
        have hk := holds_tryAt hb hd.symm
        rw [tried, takeWhile_append_of_past? hx] at hk
        have hk : form.Holds (after.past _) (['\n'] ++ next) := holds_past hk
        rw [ih next.length (by omega) ((holds_append (by decide) (by decide)).1 hk) rfl]
        simp [hx]
      · rename_i hx
        simp [hx]

/-- the search finds what the plain reading finds -/
theorem search_eq_scan (form : Form α) (t : Text) : form.search t = form.recogniser.scan t :=
  searchFrom_eq_scan (holds_unknown form t)

end Form

end GlslInspect.Uniform
