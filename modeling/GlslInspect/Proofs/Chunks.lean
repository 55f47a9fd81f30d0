/-
Closed texts, and the uniforms of texts that are put together.

A text is closed if it ends in a semicolon and a line break and each opening mark has a closing one behind it
(`Text.Closed`). Reading in a closed text never gets past its end: every pattern reads the same with a text behind it,
and leaves a rest that is closed again, up to the last semicolon (`Before`, `Settled`). So whatever is put behind a
closed text is read as if it stood alone (`Recogniser.scan_append`).
Main result: `closed_texts_declare_apart`.
-/
import Mathlib.Data.List.Basic
import GlslInspect.Uniform
import GlslInspect.Proofs.Reading

namespace GlslInspect

open Text Pattern

namespace Text

/-! ## Closed texts -/

/-- each opening mark has a closing one behind it -/
def Followed (opening closing : Char) (t : Text) : Prop := ∀ rest, opening :: rest <:+ t → closing ∈ rest

variable {opening closing : Char} {t u : Text}

theorem followed_of_not_mem (h : opening ∉ t) : Followed opening closing t :=
  fun _ hrest => absurd (hrest.subset List.mem_cons_self) h

theorem followed_cons {c : Char} :
    Followed opening closing (c :: t) ↔ (c = opening → closing ∈ t) ∧ Followed opening closing t := by
  simp only [Followed, List.suffix_cons_iff, List.cons.injEq]
  constructor
  · intro h
    exact ⟨fun hc => h t (Or.inl ⟨hc.symm, rfl⟩), fun rest hrest => h rest (Or.inr hrest)⟩
  · rintro ⟨hfirst, hlater⟩ rest (⟨hc, rfl⟩ | hrest)
    · exact hfirst hc.symm
    · exact hlater rest hrest

instance decidableFollowed (opening closing : Char) : (t : Text) → Decidable (Followed opening closing t)
  | [] => isTrue (followed_of_not_mem List.not_mem_nil)
  | c :: t =>
    have := decidableFollowed opening closing t
    decidable_of_iff ((c = opening → closing ∈ t) ∧ Followed opening closing t) followed_cons.symm

theorem Followed.suffix (h : Followed opening closing t) (hu : u <:+ t) : Followed opening closing u :=
  fun rest hrest => h rest (hrest.trans hu)

theorem Followed.append (ht : Followed opening closing t) (hu : Followed opening closing u) :
    Followed opening closing (t ++ u) := by
  induction t with
  | nil => exact hu
  | cons c t ih =>
    obtain ⟨hfirst, hlater⟩ := followed_cons.1 ht
    exact followed_cons.2 ⟨fun hc => List.mem_append_left u (hfirst hc), ih hlater⟩

/-- one opening mark with a closing one behind it -/
theorem followed_append_cons (ht : opening ∉ t) (hmem : closing ∈ u) (hu : opening ∉ u) :
    Followed opening closing (t ++ opening :: u) :=
  (followed_of_not_mem ht).append (followed_cons.2 ⟨fun _ => hmem, followed_of_not_mem hu⟩)

/-- a text that ends in a semicolon and blanks with a newline, and closes what it opens -/
structure Closed (t : Text) : Prop where
  ends : ∃ front blank, t = front ++ ';' :: blank ∧ (∀ c ∈ blank, isBlank c = true) ∧ '\n' ∈ blank
  parens : Followed '(' ')' t
  braces : Followed '\x7b' '\x7d' t

/-- what can stand at the end of a closed text: a closed text or blanks -/
def Settled (t : Text) : Prop := Closed t ∨ ∀ c ∈ t, isBlank c = true

namespace Closed

theorem semicolon_mem (h : Closed t) : ';' ∈ t := by
  obtain ⟨front, blank, rfl, -⟩ := h.ends
  simp

theorem newline_mem (h : Closed t) : '\n' ∈ t := by
  obtain ⟨front, blank, rfl, -, hnewline⟩ := h.ends
  simp [hnewline]

/-- an end of a closed text is closed, or it stands behind the last semicolon -/
theorem settled (h : Closed t) (hu : u <:+ t) : Closed u ∨ ';' ∉ u ∧ ∀ c ∈ u, isBlank c = true := by
  obtain ⟨front, blank, rfl, hblank, hnewline⟩ := h.ends
  have hrest : ';' :: blank <:+ front ++ ';' :: blank := List.suffix_append ..
  rcases List.suffix_or_suffix_of_suffix hrest hu with ⟨before, hbefore⟩ | hwithin
  · exact Or.inl ⟨⟨before, blank, hbefore.symm, hblank, hnewline⟩, h.parens.suffix hu, h.braces.suffix hu⟩
  · rcases List.suffix_cons_iff.1 hwithin with rfl | hbehind
    · exact Or.inl ⟨⟨[], blank, rfl, hblank, hnewline⟩, h.parens.suffix hu, h.braces.suffix hu⟩
    · have hall : ∀ c ∈ u, isBlank c = true := fun c hc => hblank c (hbehind.subset hc)
      exact Or.inr ⟨fun hmem => absurd (hall ';' hmem) (by decide), hall⟩

theorem suffix (h : Closed t) (hu : u <:+ t) (hmem : ';' ∈ u) : Closed u :=
  (h.settled hu).resolve_right fun hbehind => hbehind.1 hmem

/-- behind a character that is no blank and no semicolon, there is still a semicolon -/
theorem tail {c : Char} (h : Closed (c :: t)) (hc : c ≠ ';') : Closed t :=
  h.suffix (List.suffix_cons c t) ((List.mem_cons.1 h.semicolon_mem).resolve_left (Ne.symm hc))

theorem behind {front : Text} {c : Char} (h : Closed (front ++ c :: t)) (hblank : isBlank c = false) (hc : c ≠ ';') :
    Closed t := by
  have hsuffix : c :: t <:+ front ++ c :: t := List.suffix_append ..
  rcases h.settled hsuffix with hclosed | ⟨-, hall⟩
  · exact hclosed.tail hc
  · rw [hall c List.mem_cons_self] at hblank
    cases hblank

/-- behind a semicolon there is a newline -/
theorem settled_tail (h : Closed (';' :: t)) : Settled t ∧ '\n' ∈ t := by
  refine ⟨(h.settled (List.suffix_cons ';' t)).imp_right And.right, ?_⟩
  exact (List.mem_cons.1 h.newline_mem).resolve_left (by decide)

theorem dropWhile {p : Char → Bool} (h : Closed t) (hp : p ';' = false) : Closed (t.dropWhile p) := by
  refine h.suffix (List.dropWhile_suffix p) ?_
  obtain ⟨front, blank, rfl, -⟩ := h.ends
  rw [dropWhile_append_cons hp]
  simp

theorem dropWhile_append {p : Char → Bool} (h : Closed t) (hp : p ';' = false) (s : Text) :
    (t ++ s).dropWhile p = t.dropWhile p ++ s := by
  obtain ⟨front, blank, rfl, -⟩ := h.ends
  rw [List.append_assoc, List.cons_append, dropWhile_append_cons hp, dropWhile_append_cons hp, List.append_assoc,
    List.cons_append]

theorem takeWhile_append {p : Char → Bool} (h : Closed t) (hp : p ';' = false) (s : Text) :
    (t ++ s).takeWhile p = t.takeWhile p := by
  have hsplit : (t ++ s).takeWhile p ++ (t.dropWhile p ++ s) = t.takeWhile p ++ (t.dropWhile p ++ s) := by
    rw [← h.dropWhile_append hp, List.takeWhile_append_dropWhile, h.dropWhile_append hp, ← List.append_assoc,
      List.takeWhile_append_dropWhile]
  exact List.append_cancel_right hsplit

end Closed

/-- a newline in a text leaves a settled rest, with or without a text behind it -/
theorem Settled.exists_nextLine (h : Settled t) (hnewline : '\n' ∈ t) (s : Text) :
    ∃ next, nextLine? t = some next ∧ nextLine? (t ++ s) = some (next ++ s) ∧ Settled next := by
  obtain ⟨line, next, rfl, hline⟩ := List.eq_append_cons_of_mem hnewline
  have hsuffix : next <:+ line ++ '\n' :: next := ⟨line ++ ['\n'], by simp⟩
  refine ⟨next, ?_, ?_, ?_⟩
  · rw [nextLine?, past?_append hline, past?_cons_self]
  · rw [nextLine?, List.append_assoc, past?_append hline, List.cons_append, past?_cons_self]
  · rcases h with hclosed | hall
    · exact (hclosed.settled hsuffix).imp_right And.right
    · exact Or.inr fun c hc => hall c (hsuffix.subset hc)

end Text

/-! ## Reading in front of a text -/

/-- the second text is the first, which is closed, with a text behind it -/
structure Before (s t u : Text) : Prop where
  closed : Closed t
  eq : u = t ++ s

/-- the second text is the first, which is an end of a closed text, with a text behind it -/
structure AtEnd (s t u : Text) : Prop where
  settled : Settled t
  newline : '\n' ∈ t
  eq : u = t ++ s

/-- what is read is the same, and the rests are related -/
def ReadSame {α : Type} (R : Text → Text → Prop) (a b : α × Text) : Prop := a.1 = b.1 ∧ R a.2 b.2

namespace Pattern

variable {s t u : Text}

theorem blanks_before (h : Before s t u) : Before s (blanks t) (blanks u) := by
  obtain ⟨hclosed, rfl⟩ := h
  exact ⟨hclosed.dropWhile (by decide), hclosed.dropWhile_append (by decide) s⟩

theorem blanks1?_before (h : Before s t u) : Option.Rel (Before s) (blanks1? t) (blanks1? u) := by
  obtain ⟨hclosed, rfl⟩ := h
  cases t with
  | nil => exact absurd hclosed.semicolon_mem List.not_mem_nil
  | cons c t =>
    simp only [List.cons_append, blanks1?]
    split
    · rename_i hc
      have hrest : Closed t := hclosed.tail fun heq => by rw [heq] at hc; cases hc
      exact .some (blanks_before ⟨hrest, rfl⟩)
    · exact .none

theorem word?_before (h : Before s t u) : Option.Rel (ReadSame (Before s)) (word? t) (word? u) := by
  obtain ⟨hclosed, rfl⟩ := h
  have hrest : Before s (t.dropWhile isWord) ((t ++ s).dropWhile isWord) :=
    ⟨hclosed.dropWhile (by decide), hclosed.dropWhile_append (by decide) s⟩
  unfold word? run1?
  rw [hclosed.takeWhile_append (by decide)]
  split
  · exact .none
  · exact .some ⟨rfl, hrest⟩

/-- a keyword does not reach the last semicolon -/
theorem after?_before {start : Text} (hstart : ';' ∉ start) (h : Before s t u) :
    Option.Rel (Before s) (after? start t) (after? start u) := by
  obtain ⟨hclosed, rfl⟩ := h
  induction start generalizing t with
  | nil => exact .some ⟨hclosed, rfl⟩
  | cons c start ih =>
    cases t with
    | nil => exact absurd hclosed.semicolon_mem List.not_mem_nil
    | cons d t =>
      simp only [List.cons_append, after?]
      split
      · rename_i heq
        have hd : d ≠ ';' := fun hd => hstart (by simp [heq, hd])
        exact ih (List.not_mem_of_not_mem_cons hstart) (hclosed.tail hd)
      · exact .none

theorem after?_opening_before {opening closing : Char} (hopening : opening ≠ ';')
    (hfollowed : ∀ rest, Closed (opening :: rest) → closing ∈ rest) (h : Before s t u) :
    Option.Rel (fun t u => Before s t u ∧ closing ∈ t) (after? [opening] t) (after? [opening] u) := by
  obtain ⟨hclosed, rfl⟩ := h
  cases t with
  | nil => exact absurd hclosed.semicolon_mem List.not_mem_nil
  | cons c t =>
    simp only [List.cons_append, after?]
    split
    · rename_i heq
      subst heq
      exact .some ⟨⟨hclosed.tail hopening, rfl⟩, hfollowed t hclosed⟩
    · exact .none

theorem after?_paren_before (h : Before s t u) :
    Option.Rel (fun t u => Before s t u ∧ ')' ∈ t) (after? "(" t) (after? "(" u) :=
  after?_opening_before (by decide) (fun rest hclosed => hclosed.parens rest (List.suffix_refl _)) h

theorem after?_brace_before (h : Before s t u) :
    Option.Rel (fun t u => Before s t u ∧ '\x7d' ∈ t) (after? "\x7b" t) (after? "\x7b" u) :=
  after?_opening_before (by decide) (fun rest hclosed => hclosed.braces rest (List.suffix_refl _)) h

theorem after?_semicolon_before (h : Before s t u) : Option.Rel (AtEnd s) (after? ";" t) (after? ";" u) := by
  obtain ⟨hclosed, rfl⟩ := h
  cases t with
  | nil => exact absurd hclosed.semicolon_mem List.not_mem_nil
  | cons c t =>
    have hafter : ∀ c t, after? ";" (c :: t) = if ';' = c then some t else none := fun _ _ => rfl
    rw [List.cons_append, hafter, hafter]
    split
    · rename_i heq
      subst heq
      obtain ⟨hsettled, hnewline⟩ := hclosed.settled_tail
      exact .some ⟨hsettled, hnewline, rfl⟩
    · exact .none

/-- a mark that is there is found in front of the text behind -/
theorem upTo?_before {stop : Char} (hblank : isBlank stop = false) (hstop : stop ≠ ';') (h : Before s t u)
    (hmem : stop ∈ t) : Option.Rel (ReadSame (Before s)) (upTo? stop t) (upTo? stop u) := by
  obtain ⟨hclosed, rfl⟩ := h
  obtain ⟨run, rest, rfl, hrun⟩ := List.eq_append_cons_of_mem hmem
  have hrest : Closed rest := hclosed.behind hblank hstop
  rw [List.append_assoc, List.cons_append]
  by_cases hne : run = []
  · subst hne
    simp only [upTo?, List.nil_append, List.head?_cons, if_true]
    exact .none
  · rw [upTo?_append hne hrun, upTo?_append hne hrun]
    exact .some ⟨rfl, hrest, rfl⟩

namespace Recogniser

variable {α : Type} (recogniser : Recogniser α)

theorem scan_blank_append {b : Text} (h : ∀ c ∈ b, isBlank c = true) (t : Text) :
    recogniser.scan (b ++ t) = recogniser.scan t := by
  rw [scan.eq_def, blanks_append h, ← scan.eq_def]

/-- what cannot be read past the end of a closed text is found in it, and then what stands behind it -/
theorem scan_append (hnil : recogniser.read? [] = none)
    (hread : ∀ t u, Before s t u → Option.Rel (ReadSame (AtEnd s)) (recogniser.read? t) (recogniser.read? u))
    (h : Settled t) : recogniser.scan (t ++ s) = recogniser.scan t ++ recogniser.scan s := by
  induction hlength : t.length using Nat.strongRecOn generalizing t with
  | ind n ih =>
    subst hlength
    rcases h with hclosed | hall
    · -- the search goes on at the next line, which is settled and shorter
      have hlater : ∀ {rest : Text}, Settled rest → '\n' ∈ rest → rest.length ≤ t.length →
          ((nextLine? (rest ++ s)).map recogniser.scan).getD [] =
            ((nextLine? rest).map recogniser.scan).getD [] ++ recogniser.scan s := by
        intro rest hrest hnewline hle
        obtain ⟨next, hnext, hlong, hsettled⟩ := hrest.exists_nextLine hnewline s
        have hshorter : next.length < t.length := Nat.lt_of_lt_of_le (length_of_nextLine? hnext) hle
        rw [hnext, hlong]
        exact ih next.length hshorter hsettled rfl
      have hblanks : Before s (blanks t) (blanks (t ++ s)) := blanks_before ⟨hclosed, rfl⟩
      have hrel := hread _ _ hblanks
      generalize hfirst : recogniser.read? (blanks t) = first at hrel
      generalize hsecond : recogniser.read? (blanks (t ++ s)) = second at hrel
      cases hrel with
      | none =>
        rw [scan_of_none hfirst, scan_of_none hsecond, hblanks.eq]
        exact hlater (Or.inl hblanks.closed) hblanks.closed.newline_mem (length_blanks t)
      | @some read other hsame =>
        obtain ⟨a, rest⟩ := read
        obtain ⟨b, behind⟩ := other
        obtain ⟨rfl, hsettled, hnewline, rfl⟩ : a = b ∧ AtEnd s rest behind := hsame
        have hle : rest.length ≤ t.length :=
          Nat.le_of_lt (Nat.lt_of_lt_of_le (recogniser.shrinks hfirst) (length_blanks t))
        rw [scan_of_read hfirst, scan_of_read hsecond, hlater hsettled hnewline hle]
        rfl
    · rw [recogniser.scan_blank_append hall, recogniser.scan_blank hnil hall, List.nil_append]

end Recogniser

end Pattern

/-! ## Uniforms -/

namespace Uniform

variable {s t u : Text}

theorem keyword?_before (h : Before s t u) : Option.Rel (Before s) (keyword? t) (keyword? u) :=
  rel_bind (after?_before (by decide) h) fun _ _ => blanks1?_before

theorem pastLayout?_before (h : Before s t u) : Option.Rel (Before s) (pastLayout? t) (pastLayout? u) := by
  have hopening : Option.Rel (fun t u => Before s t u ∧ ')' ∈ t) (layoutOpening? t) (layoutOpening? u) :=
    rel_bind (after?_before (by decide) h) fun _ _ hrest => after?_paren_before (blanks_before hrest)
  unfold pastLayout?
  generalize layoutOpening? t = first at hopening
  generalize layoutOpening? u = second at hopening
  cases hopening with
  | none => exact .some h
  | some hinside =>
    exact rel_bind (upTo?_before (by decide) (by decide) hinside.1 hinside.2) fun _ _ hread => blanks1?_before hread.2

theorem standalone?_before (h : Before s t u) :
    Option.Rel (ReadSame (AtEnd s)) (standalone? t) (standalone? u) := by
  refine rel_bind (keyword?_before h) fun _ _ h => ?_
  refine rel_bind (word?_before h) fun _ _ htype => ?_
  refine rel_bind (blanks1?_before htype.2) fun _ _ h => ?_
  refine rel_bind (word?_before h) fun _ _ hname => ?_
  refine rel_bind (after?_semicolon_before (blanks_before hname.2)) fun _ _ h => ?_
  exact .some ⟨Prod.ext htype.1 hname.1, h⟩

theorem block?_before (h : Before s t u) : Option.Rel (ReadSame (AtEnd s)) (block? t) (block? u) := by
  have hhead : Option.Rel (fun a b => ReadSame (Before s) a b ∧ '\x7d' ∈ a.2) (blockHead? t) (blockHead? u) := by
    refine rel_bind (keyword?_before h) fun _ _ h => ?_
    refine rel_bind (word?_before h) fun _ _ hname => ?_
    refine rel_bind (after?_brace_before (blanks_before hname.2)) fun _ _ h => ?_
    exact .some ⟨⟨hname.1, h.1⟩, h.2⟩
  have htail : ∀ {t u : Text}, Before s t u → '\x7d' ∈ t →
      Option.Rel (ReadSame (AtEnd s)) (blockTail? t) (blockTail? u) := by
    intro t u h hmem
    refine rel_bind (upTo?_before (by decide) (by decide) h hmem) fun _ _ hbody => ?_
    refine rel_bind (after?_semicolon_before hbody.2) fun _ _ h => ?_
    exact .some ⟨hbody.1, h⟩
  refine rel_bind hhead fun _ _ hinside => ?_
  refine rel_bind (htail hinside.1.2 hinside.2) fun _ _ hbody => ?_
  exact .some ⟨Prod.ext hinside.1.1 hbody.1, hbody.2⟩

/-- a form that is not read past the end of a closed text is found on either side of it -/
theorem Form.search_append {α : Type} (form : Form α) (hnil : form.read? [] = none)
    (hread : ∀ {t u}, Before s t u → Option.Rel (ReadSame (AtEnd s)) (form.read? t) (form.read? u)) (h : Closed t) :
    form.search (t ++ s) = form.search t ++ form.search s := by
  rw [form.search_eq_scan, form.search_eq_scan, form.search_eq_scan]
  exact form.recogniser.scan_append hnil (fun _ _ h => rel_bind (pastLayout?_before h) fun _ _ => hread) (Or.inl h)

theorem standalone_append (h : Closed t) (s : Text) : standalone (t ++ s) = standalone t ++ standalone s := by
  unfold standalone
  rw [standaloneForm.search_append rfl standalone?_before h, List.map_append]

theorem blockMembers_append (h : Closed t) (s : Text) : blockMembers (t ++ s) = blockMembers t ++ blockMembers s := by
  unfold blockMembers
  rw [blockForm.search_append rfl block?_before h, List.flatMap_append]

end Uniform

/-- **Closed texts declare apart.** For every text that ends in a semicolon and blanks with a newline, and in which
each opening parenthesis and each opening brace has a closing one behind it, and for every text put behind it: the
standalone uniforms of both are those of the first and then those of the second, and so are the members of blocks. -/
theorem closed_texts_declare_apart (t s : Text) (h : Closed t) :
    Uniform.standalone (t ++ s) = Uniform.standalone t ++ Uniform.standalone s ∧
      Uniform.blockMembers (t ++ s) = Uniform.blockMembers t ++ Uniform.blockMembers s :=
  ⟨Uniform.standalone_append h s, Uniform.blockMembers_append h s⟩

/-- a qualifier with a semicolon in it, a block that an unfinished keyword runs into, and a text behind them that ends
inside a block -/
theorem closed_texts_declare_apart_twice :
    let front : Text := "layout(a;\nb)\n uniform vec2 size;\nuniform\nuniform \x7b float x; \x7d"
    let t : Text := front ++ ';' :: "\n \n"
    let s : Text := "uniform uniform layout;\nuniform B \x7b vec3 y; \x7d;\nuniform C \x7b float z;"
    Closed t ∧ Uniform.standalone (t ++ s) = Uniform.standalone t ++ Uniform.standalone s ∧
      Uniform.blockMembers (t ++ s) = Uniform.blockMembers t ++ Uniform.blockMembers s := by
  intro front t s
  have hclosed : Closed t :=
    ⟨⟨front, "\n \n", rfl, List.all_eq_true.1 (by decide), by decide⟩, by decide +kernel, by decide +kernel⟩
  exact ⟨hclosed, closed_texts_declare_apart t s hclosed⟩

end GlslInspect
