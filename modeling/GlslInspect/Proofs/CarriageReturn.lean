/-
Texts with carriage returns in front of newlines, and what is read in them.

`Text.Returned t u` says that `u` is `t` with carriage returns in front of some of its newlines. A reader that takes
both characters for blanks, or stops at both, cannot tell the two texts apart:
- every pattern reads the same in them, or texts that are related again, and leaves rests that are related
  (`Option.Rel`), so whatever is built from patterns does too (`rel_bind`);
- `declared_returned`: the same uniforms are declared;
- `classify_returned`: a block is classified alike, because lines are trimmed before they are read.
-/
import Mathlib.Data.List.Forall2
import GlslInspect.Block.Scan
import GlslInspect.Proofs.Reading
import GlslInspect.Uniform

namespace GlslInspect

open Pattern

namespace Text

/-! ## Cuts and trims, from the left -/

theorem dropEndWhile_cons (p : Char → Bool) (c : Char) (t : Text) :
    dropEndWhile p (c :: t) = if dropEndWhile p t = [] ∧ p c = true then [] else c :: dropEndWhile p t := by
  unfold dropEndWhile
  rw [List.reverse_cons, List.dropWhile_append]
  by_cases hnil : t.reverse.dropWhile p = []
  · cases hc : p c <;> simp [hnil, hc]
  · simp [hnil]

theorem words_cons {c : Char} (hc : isBlank c = false) (t : Text) :
    words (c :: t) = if t.head?.all isBlank then [c] :: words t else consHead c (words t) := by
  cases t with
  | nil => simp [words, hc]
  | cons d t =>
    rw [words, hc]
    rfl

theorem words_cons_blank {c : Char} (hc : isBlank c = true) (t : Text) : words (c :: t) = words t :=
  words_blank_append (b := [c]) (by simpa using hc) t

/-- parts that are related stay so with one more character in front of the first -/
theorem forall₂_consHead {R : Text → Text → Prop} {c : Char} {ps qs : List Text} (hnew : R [c] [c])
    (hfirst : ∀ p q, R p q → R (c :: p) (c :: q)) (h : List.Forall₂ R ps qs) :
    List.Forall₂ R (consHead c ps) (consHead c qs) := by
  cases h with
  | nil => exact .cons hnew .nil
  | cons hpart hparts => exact .cons (hfirst _ _ hpart) hparts

/-! ## The relation -/

/-- the second text is the first with carriage returns in front of some newlines -/
inductive Returned : Text → Text → Prop
  | nil : Returned [] []
  | cons (c : Char) {t u : Text} (rest : Returned t u) : Returned (c :: t) (c :: u)
  | newline {t u : Text} (rest : Returned t u) : Returned ('\n' :: t) ('\r' :: '\n' :: u)

/-- a kind of characters to which a newline and a carriage return both belong, or neither -/
def AlikeAtEnds (p : Char → Bool) : Prop := p '\r' = p '\n'

theorem alikeAtEnds_isBlank : AlikeAtEnds isBlank := rfl

namespace Returned

variable {t u : Text}

theorem refl (t : Text) : Returned t t := by
  induction t with
  | nil => exact .nil
  | cons c t ih => exact .cons c ih

theorem append {v w : Text} (h : Returned t u) (h' : Returned v w) : Returned (t ++ v) (u ++ w) := by
  induction h with
  | nil => exact h'
  | cons c _ ih => exact .cons c ih
  | newline _ ih => exact .newline ih

theorem eq_of_not_mem (h : Returned t u) (ht : '\n' ∉ t) : t = u := by
  induction h with
  | nil => rfl
  | cons c _ ih => rw [ih fun hmem => ht (List.mem_cons_of_mem c hmem)]
  | newline _ _ => exact absurd List.mem_cons_self ht

theorem eq_nil_iff (h : Returned t u) : t = [] ↔ u = [] := by
  cases h <;> simp

/-- a mark that ends no line stands in front of both texts or of neither -/
theorem head?_eq_some_iff (h : Returned t u) {mark : Char} (hn : mark ≠ '\n') (hr : mark ≠ '\r') :
    t.head? = some mark ↔ u.head? = some mark := by
  cases h with
  | nil => rfl
  | cons c _ => rfl
  | newline _ => simp [hn.symm, hr.symm]

theorem dropWhile {p : Char → Bool} (hp : AlikeAtEnds p) (h : Returned t u) :
    Returned (t.dropWhile p) (u.dropWhile p) := by
  induction h with
  | nil => exact .nil
  | @cons c t u rest ih =>
    cases hc : p c with
    | true => simpa [List.dropWhile_cons, hc] using ih
    | false => simpa [List.dropWhile_cons, hc] using Returned.cons c rest
  | @newline t u rest ih =>
    cases hc : p '\n' with
    | true => simpa [List.dropWhile_cons, hp.trans hc, hc] using ih
    | false => simpa [List.dropWhile_cons, hp.trans hc, hc] using Returned.newline rest

theorem takeWhile {p : Char → Bool} (hp : AlikeAtEnds p) (h : Returned t u) :
    Returned (t.takeWhile p) (u.takeWhile p) := by
  induction h with
  | nil => exact .nil
  | @cons c t u rest ih =>
    cases hc : p c with
    | true => simpa [List.takeWhile_cons, hc] using Returned.cons c ih
    | false => simpa [List.takeWhile_cons, hc] using Returned.nil
  | @newline t u rest ih =>
    cases hc : p '\n' with
    | true => simpa [List.takeWhile_cons, hp.trans hc, hc] using Returned.newline ih
    | false => simpa [List.takeWhile_cons, hp.trans hc, hc] using Returned.nil

/-- a run that stops at the end of a line is the same in both texts -/
theorem takeWhile_eq {p : Char → Bool} (hn : p '\n' = false) (hr : p '\r' = false) (h : Returned t u) :
    t.takeWhile p = u.takeWhile p := by
  refine (h.takeWhile (hr.trans hn.symm)).eq_of_not_mem fun hmem => ?_
  have hin := List.all_eq_true.1 (List.all_takeWhile ..) _ hmem
  rw [hn] at hin
  cases hin

/-! ### Cutting and trimming -/

theorem dropEndWhile {p : Char → Bool} (hp : AlikeAtEnds p) (h : Returned t u) :
    Returned (dropEndWhile p t) (dropEndWhile p u) := by
  induction h with
  | nil => exact .nil
  | @cons c t u rest ih =>
    simp only [dropEndWhile_cons, ih.eq_nil_iff]
    split
    · exact .nil
    · exact .cons c ih
  | @newline t u rest ih =>
    have hr : p '\r' = p '\n' := hp
    simp only [dropEndWhile_cons, ih.eq_nil_iff, hr]
    by_cases hend : Text.dropEndWhile p u = [] ∧ p '\n' = true
    · simpa [hend] using Returned.nil
    · simpa [hend] using Returned.newline ih

theorem trim (h : Returned t u) : Returned (trim t) (trim u) :=
  (h.dropWhile alikeAtEnds_isBlank).dropEndWhile alikeAtEnds_isBlank

theorem words_eq (h : Returned t u) : words t = words u := by
  induction h with
  | nil => rfl
  | @cons c t u rest ih =>
    cases hc : isBlank c with
    | true => rw [words_cons_blank hc, words_cons_blank hc, ih]
    | false =>
      have hhead : t.head?.all isBlank = u.head?.all isBlank := by cases rest <;> rfl
      rw [words_cons hc, words_cons hc, ih, hhead]
  | newline _ ih => rw [words_cons_blank rfl, words_cons_blank rfl, words_cons_blank rfl, ih]

theorem splitOn {sep : Char} (hn : sep ≠ '\n') (hr : sep ≠ '\r') (h : Returned t u) :
    List.Forall₂ Returned (splitOn sep t) (splitOn sep u) := by
  induction h with
  | nil => exact .cons .nil .nil
  | cons c _ ih =>
    simp only [Text.splitOn]
    split
    · exact .cons .nil ih
    · exact forall₂_consHead (.refl [c]) (fun _ _ => .cons c) ih
  | @newline t u _ ih =>
    simp only [Text.splitOn, hn.symm, hr.symm, if_false]
    -- the newline and the carriage return go to the same part
    generalize Text.splitOn sep t = parts at ih ⊢
    generalize Text.splitOn sep u = others at ih ⊢
    cases ih with
    | nil => exact .cons (.newline .nil) .nil
    | cons hpart hparts => exact .cons (.newline hpart) hparts

end Returned

end Text

open Text

/-! ## Patterns -/

/-- what is read in two texts is related, and so are the rests -/
def ReadAlike {α : Type} (R : α → α → Prop) (a b : α × Text) : Prop := R a.1 b.1 ∧ Returned a.2 b.2

theorem rel_isSome {α β : Type} {R : α → β → Prop} {a : Option α} {b : Option β} (h : Option.Rel R a b) :
    a.isSome = b.isSome := by
  cases h <;> rfl

namespace Pattern

variable {t u : Text}

theorem blanks_returned (h : Returned t u) : Returned (blanks t) (blanks u) := h.dropWhile rfl

theorem blanks1?_returned (h : Returned t u) : Option.Rel Returned (blanks1? t) (blanks1? u) := by
  cases h with
  | nil => exact .none
  | cons c rest =>
    simp only [blanks1?]
    split
    · exact .some (blanks_returned rest)
    · exact .none
  | @newline t u rest =>
    have hskip : blanks ('\n' :: u) = blanks u := rfl
    refine .some ?_
    rw [hskip]
    exact blanks_returned rest

theorem run1?_returned {p : Char → Bool} (hn : p '\n' = false) (hr : p '\r' = false) (h : Returned t u) :
    Option.Rel (ReadAlike Eq) (run1? p t) (run1? p u) := by
  unfold run1?
  rw [h.takeWhile_eq hn hr]
  split
  · exact .none
  · exact .some ⟨rfl, h.dropWhile (hr.trans hn.symm)⟩

theorem word?_returned (h : Returned t u) : Option.Rel (ReadAlike Eq) (word? t) (word? u) :=
  run1?_returned (by decide) (by decide) h

theorem past?_returned {mark : Char} (hr : mark ≠ '\r') (h : Returned t u) :
    Option.Rel Returned (past? mark t) (past? mark u) := by
  induction h with
  | nil => exact .none
  | cons c rest ih =>
    simp only [past?]
    split
    · exact .some rest
    · exact ih
  | newline rest ih =>
    simp only [past?, hr.symm, if_false]
    split
    · exact .some rest
    · exact ih

theorem upTo?_returned {stop : Char} (hn : stop ≠ '\n') (hr : stop ≠ '\r') (h : Returned t u) :
    Option.Rel (ReadAlike Returned) (upTo? stop t) (upTo? stop u) := by
  have hrun : AlikeAtEnds (· != stop) := by
    rw [AlikeAtEnds, bne_iff_ne.2 hn.symm, bne_iff_ne.2 hr.symm]
  simp only [upTo?, h.head?_eq_some_iff hn hr]
  split
  · exact .none
  · rw [Option.map_eq_bind, Option.map_eq_bind]
    exact rel_bind (past?_returned hr h) fun _ _ hrest => .some ⟨h.takeWhile hrun, hrest⟩

theorem after?_returned {start : Text} (hn : '\n' ∉ start) (hr : '\r' ∉ start) (h : Returned t u) :
    Option.Rel Returned (after? start t) (after? start u) := by
  induction start generalizing t u with
  | nil => exact .some h
  | cons c start ih =>
    have hlater := fun {t u : Text} => @ih t u (List.not_mem_of_not_mem_cons hn) (List.not_mem_of_not_mem_cons hr)
    cases h with
    | nil => exact .none
    | cons d rest =>
      simp only [after?]
      split
      · exact hlater rest
      · exact .none
    | newline rest =>
      have hc : c ≠ '\n' := fun heq => hn (heq ▸ List.mem_cons_self)
      have hc' : c ≠ '\r' := fun heq => hr (heq ▸ List.mem_cons_self)
      simp only [after?, hc, hc', if_false]
      exact .none

/-- a recogniser that cannot tell two texts apart finds the same in them, one after the other -/
theorem Recogniser.scan_returned {α : Type} {R : α → α → Prop} (recogniser : Recogniser α)
    (hread : ∀ t u, Returned t u → Option.Rel (ReadAlike R) (recogniser.read? t) (recogniser.read? u))
    (h : Returned t u) : List.Forall₂ R (recogniser.scan t) (recogniser.scan u) := by
  induction hlength : t.length using Nat.strongRecOn generalizing t u with
  | ind n ih =>
    subst hlength
    have hblanks := blanks_returned h
    have hlater : ∀ {rest other : Text}, Returned rest other → rest.length ≤ t.length →
        List.Forall₂ R (((nextLine? rest).map recogniser.scan).getD [])
          (((nextLine? other).map recogniser.scan).getD []) := by
      intro rest other hrest hle
      have hrel : Option.Rel Returned (nextLine? rest) (nextLine? other) := past?_returned (by decide) hrest
      generalize hnext : nextLine? rest = next at hrel ⊢
      generalize nextLine? other = after at hrel ⊢
      cases hrel with
      | none => exact .nil
      | some hlines => exact ih _ (Nat.lt_of_lt_of_le (length_of_nextLine? hnext) hle) hlines rfl
    have hrel := hread _ _ hblanks
    generalize hfirst : recogniser.read? (blanks t) = first at hrel
    generalize hsecond : recogniser.read? (blanks u) = second at hrel
    cases hrel with
    | none =>
      rw [scan_of_none hfirst, scan_of_none hsecond]
      exact hlater hblanks (length_blanks t)
    | @some read other halike =>
      obtain ⟨a, rest⟩ := read
      obtain ⟨b, behind⟩ := other
      rw [scan_of_read hfirst, scan_of_read hsecond]
      exact .cons halike.1
        (hlater halike.2 (Nat.le_of_lt (Nat.lt_of_lt_of_le (recogniser.shrinks hfirst) (length_blanks t))))

end Pattern

/-! ## Uniforms -/

namespace Uniform

variable {t u : Text}

theorem keyword?_returned (h : Returned t u) : Option.Rel Returned (keyword? t) (keyword? u) :=
  rel_bind (after?_returned (by decide) (by decide) h) fun _ _ => blanks1?_returned

theorem pastLayout?_returned (h : Returned t u) : Option.Rel Returned (pastLayout? t) (pastLayout? u) := by
  have hopening : Option.Rel Returned (layoutOpening? t) (layoutOpening? u) :=
    rel_bind (after?_returned (by decide) (by decide) h) fun _ _ hrest =>
      after?_returned (by decide) (by decide) (blanks_returned hrest)
  unfold pastLayout?
  generalize layoutOpening? t = first at hopening
  generalize layoutOpening? u = second at hopening
  cases hopening with
  | none => exact .some h
  | some hinside =>
    exact rel_bind (upTo?_returned (by decide) (by decide) hinside) fun _ _ hread => blanks1?_returned hread.2

theorem standalone?_returned (h : Returned t u) :
    Option.Rel (ReadAlike Eq) (standalone? t) (standalone? u) := by
  refine rel_bind (keyword?_returned h) fun _ _ h => ?_
  refine rel_bind (word?_returned h) fun _ _ htype => ?_
  refine rel_bind (blanks1?_returned htype.2) fun _ _ h => ?_
  refine rel_bind (word?_returned h) fun _ _ hname => ?_
  refine rel_bind (after?_returned (by decide) (by decide) (blanks_returned hname.2)) fun _ _ h => ?_
  exact .some ⟨Prod.ext htype.1 hname.1, h⟩

/-- a block is read with the same name, and with a body that is the same up to carriage returns -/
theorem block?_returned (h : Returned t u) :
    Option.Rel (ReadAlike (ReadAlike Eq)) (block? t) (block? u) := by
  have hhead : Option.Rel (ReadAlike Eq) (blockHead? t) (blockHead? u) := by
    refine rel_bind (keyword?_returned h) fun _ _ h => ?_
    refine rel_bind (word?_returned h) fun _ _ hname => ?_
    refine rel_bind (after?_returned (by decide) (by decide) (blanks_returned hname.2)) fun _ _ h => ?_
    exact .some ⟨hname.1, h⟩
  have htail : ∀ {t u : Text}, Returned t u → Option.Rel (ReadAlike Returned) (blockTail? t) (blockTail? u) := by
    intro t u h
    refine rel_bind (upTo?_returned (by decide) (by decide) h) fun _ _ hbody => ?_
    refine rel_bind (after?_returned (by decide) (by decide) hbody.2) fun _ _ h => ?_
    exact .some ⟨hbody.1, h⟩
  refine rel_bind hhead fun _ _ hname => ?_
  refine rel_bind (htail hname.2) fun _ _ hbody => ?_
  exact .some ⟨⟨hname.1, hbody.1⟩, hbody.2⟩

theorem Form.search_returned {α : Type} {R : α → α → Prop} (form : Form α)
    (hread : ∀ t u, Returned t u → Option.Rel (ReadAlike R) (form.read? t) (form.read? u)) (h : Returned t u) :
    List.Forall₂ R (form.search t) (form.search u) := by
  rw [form.search_eq_scan, form.search_eq_scan]
  exact form.recogniser.scan_returned (fun _ _ h => rel_bind (pastLayout?_returned h) hread) h

/-! ### Members -/

theorem member?_returned (h : Returned t u) : member? t = member? u := by
  have htrim := h.trim
  have hcomment : startsWith "//" (Text.trim t) = startsWith "//" (Text.trim u) :=
    rel_isSome (after?_returned (by decide) (by decide) htrim)
  unfold member?
  simp only [hcomment, htrim.words_eq]

theorem members_returned (h : Returned t u) : members t = members u := by
  have hfragments : List.Forall₂ Returned (Text.splitOn ';' t) (Text.splitOn ';' u) :=
    h.splitOn (by decide) (by decide)
  unfold members
  generalize Text.splitOn ';' t = first at hfragments
  generalize Text.splitOn ';' u = second at hfragments
  induction hfragments with
  | nil => rfl
  | cons hfragment _ ih => rw [List.filterMap_cons, List.filterMap_cons, member?_returned hfragment, ih]

/-- carriage returns make no difference to the uniforms that a text declares -/
theorem declared_returned (h : Returned t u) : declared t = declared u := by
  have hstandalone : standalone t = standalone u := by
    have hfound := standaloneForm.search_returned (fun _ _ => standalone?_returned) h
    rw [List.forall₂_eq_eq_eq] at hfound
    unfold standalone
    rw [hfound]
  have hmembers : blockMembers t = blockMembers u := by
    have hfound := blockForm.search_returned (fun _ _ => block?_returned) h
    unfold blockMembers
    generalize blockForm.search t = first at hfound
    generalize blockForm.search u = second at hfound
    induction hfound with
    | nil => rfl
    | @cons block other _ _ hblock _ ih =>
      obtain ⟨name, body⟩ := block
      obtain ⟨name', body'⟩ := other
      obtain ⟨hname, hbody⟩ : name = name' ∧ Returned body body' := hblock
      rw [List.flatMap_cons, List.flatMap_cons, ih]
      simp only [hname, members_returned hbody]
  rw [declared, declared, hstandalone, hmembers]

end Uniform

/-! ## Classification -/

/-- the second line is the first, or the first with a carriage return at its end -/
def ReturnedLine (a b : Text) : Prop := b = a ∨ b = a ++ ['\r']

namespace ReturnedLine

variable {a b : Text}

theorem cons (c : Char) (h : ReturnedLine a b) : ReturnedLine (c :: a) (c :: b) := by
  rcases h with rfl | rfl
  · exact .inl rfl
  · exact .inr rfl

theorem trim_eq (h : ReturnedLine a b) : trim a = trim b := by
  rcases h with rfl | rfl
  · rfl
  · exact (trim_append_blank a (List.all_eq_true.1 rfl)).symm

theorem occursIn_divider (h : ReturnedLine a b) : occursIn divider a = occursIn divider b := by
  rcases h with rfl | rfl
  · rfl
  · exact (occursIn_append_of_not_mem (by decide) a).symm

end ReturnedLine

theorem scanLines_returned {t u : Text} (h : Returned t u) :
    List.Forall₂ ReturnedLine (scanLines t) (scanLines u) := by
  unfold scanLines
  induction h with
  | nil => exact .cons (.inl rfl) .nil
  | cons c _ ih =>
    simp only [splitOn]
    split
    · exact .cons (.inl rfl) ih
    · exact forall₂_consHead (.inl rfl) (fun _ _ => .cons c) ih
  | newline _ ih => exact .cons (.inr rfl) ih

namespace Scan

theorem feed_returned (target : Option Text) (s : Scan) {line other : Text} (h : ReturnedLine line other)
    {next after : Option Text} (hnext : Option.Rel ReturnedLine next after) :
    s.feed target line next = s.feed target other after := by
  have hsection : sectionLabel? line next = sectionLabel? other after := by
    unfold sectionLabel?
    rw [h.occursIn_divider]
    cases hnext with
    | none => rfl
    | some hnext => simp only [Option.bind_some, hnext.trim_eq]
  unfold feed
  rw [h.trim_eq, hsection]

theorem run_returned (target : Option Text) (s : Scan) {lines others : List Text}
    (h : List.Forall₂ ReturnedLine lines others) : s.run target lines = s.run target others := by
  induction h generalizing s with
  | nil => rfl
  | @cons line other rest behind hline hrest ih =>
    have hnext : Option.Rel ReturnedLine rest.head? behind.head? := by
      cases hrest with
      | nil => exact .none
      | cons hfirst _ => exact .some hfirst
    rw [run, run, feed_returned target s hline hnext, ih]

end Scan

/-- carriage returns make no difference to the classification of a block -/
theorem classify_returned (target : Option Text) {t u : Text} (h : Returned t u) :
    classify target t = classify target u := by
  rw [classify, classify, Scan.run_returned target Scan.start (scanLines_returned h)]

end GlslInspect
