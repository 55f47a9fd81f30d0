/-
Uniform blocks as they are written, and the uniforms read in them.

A block is written as a header, a body and a closing brace (`blockText`); a member of it on a line of its own
(`MemberLine`). What is read in a body is put together from what stands in front of each semicolon:
- `members_lines`: a line declares its member, whatever follows;
- `members_comment`: a comment takes with it all that stands in front of the next semicolon;
- `declared_blockText`: a block declares the members of its body and nothing else, where no line of the body can be
  read as a declaration of its own.
-/
import Mathlib.Data.List.Basic
import GlslInspect.Uniform
import GlslInspect.Proofs.Pieces
import GlslInspect.Proofs.Reading

namespace GlslInspect

open Text Pattern

/-! ## Fragments -/

namespace Uniform

theorem member?_blank_append {b : Text} (h : ∀ c ∈ b, isBlank c = true) (t : Text) : member? (b ++ t) = member? t := by
  unfold member?
  rw [trim_blank_append t h]

theorem member?_append_blank (t : Text) {b : Text} (h : ∀ c ∈ b, isBlank c = true) : member? (t ++ b) = member? t := by
  unfold member?
  rw [trim_append_blank t h]

theorem member?_pair (type : Word) {gap : Spacing} (hgap : gap.text ≠ []) {name : Text} (hne : name ≠ [])
    (hname : ∀ c ∈ name, isBlank c = false) :
    member? (type.text ++ (gap.text ++ name)) = some (type.text, name) := by
  have htrim : trim (type.text ++ (gap.text ++ name)) = type.text ++ (gap.text ++ name) := by
    refine trim_of_ends (fun c hc => ?_) fun c hc => ?_
    · rw [List.head?_append_of_ne_nil _ type.ne_nil] at hc
      exact type.visible c (List.mem_of_mem_head? hc)
    · rw [← List.append_assoc, List.getLast?_append_of_ne_nil _ hne] at hc
      exact hname c (List.mem_of_getLast? hc)
  have hstop : ∀ c ∈ (gap.text ++ name).head?, isBlank c = true := by
    intro c hc
    rw [List.head?_append_of_ne_nil _ hgap] at hc
    exact gap.blank c (List.mem_of_mem_head? hc)
  have hwords : words (type.text ++ (gap.text ++ name)) = [type.text, name] := by
    rw [words_append type.ne_nil type.visible hstop, words_blank_append gap.blank, words_singleton hne hname]
  have hcomment : startsWith "//" (type.text ++ (gap.text ++ name)) = false := by
    obtain ⟨c, rest, heq, hc⟩ := type.exists_eq_cons
    have hslash : '/' ≠ c := fun heq => by cases heq ▸ hc
    rw [heq]
    simp [startsWith, after?, hslash]
  unfold member?
  rw [htrim]
  dsimp only
  rw [hcomment, hwords]
  rfl

theorem member?_comment (t : Text) : member? ('/' :: '/' :: t) = none := by
  have htrim : trim ('/' :: '/' :: t) = '/' :: '/' :: dropEndWhile isBlank t :=
    trim_cons_append_cons (by decide) (by decide) [] t
  unfold member?
  rw [htrim]
  rfl

theorem members_of_not_mem {t : Text} (h : ';' ∉ t) : members t = (member? t).toList := by
  rw [members, splitOn_of_not_mem h]
  cases hmember : member? t <;> simp [hmember]

theorem members_append_cons {t : Text} (h : ';' ∉ t) (rest : Text) :
    members (t ++ ';' :: rest) = (member? t).toList ++ members rest := by
  rw [members, splitOn_append_cons rest h]
  cases hmember : member? t <;> simp [hmember, members]

theorem members_blank_append {b : Text} (h : ∀ c ∈ b, isBlank c = true) (t : Text) : members (b ++ t) = members t := by
  have hb : ';' ∉ b := fun hmem => by cases h ';' hmem
  by_cases ht : ';' ∈ t
  · obtain ⟨front, rest, rfl, hfront⟩ := List.eq_append_cons_of_mem ht
    rw [← List.append_assoc, members_append_cons (by simp [hb, hfront]), members_append_cons hfront,
      member?_blank_append h]
  · rw [members_of_not_mem (by simp [hb, ht]), members_of_not_mem ht, member?_blank_append h]

/-- what is declared behind the first semicolon -/
def laterMembers (t : Text) : List (Text × Text) := ((past? ';' t).map members).getD []

/-- a comment takes with it all that stands in front of the next semicolon -/
theorem members_comment {c : Text} (hc : ';' ∉ c) (t : Text) : members ('/' :: '/' :: (c ++ t)) = laterMembers t := by
  unfold laterMembers
  by_cases ht : ';' ∈ t
  · obtain ⟨front, rest, rfl, hfront⟩ := List.eq_append_cons_of_mem ht
    rw [← List.append_assoc, ← List.cons_append, ← List.cons_append, members_append_cons (by simp [hc, hfront]),
      member?_comment, past?_append hfront, past?_cons_self]
    rfl
  · rw [members_of_not_mem (by simp [hc, ht]), member?_comment, ← List.append_nil t, past?_append ht]
    rfl

end Uniform

/-! ## Member lines -/

structure MemberLine where
  lead : Spacing
  type : Word
  gap : Spacing
  gap_ne_nil : gap.text ≠ []
  name : Word
  /-- what stands between the name and the semicolon -/
  trail : Spacing
  /-- what stands between the semicolon and the newline -/
  rest : Spacing

namespace MemberLine

/-- what stands in front of the semicolon, from the type on -/
def declaration (m : MemberLine) : Text := m.type.text ++ (m.gap.text ++ (m.name.text ++ m.trail.text))

/-- a line as it is written -/
def text (m : MemberLine) : Text := m.lead.text ++ (m.declaration ++ ';' :: (m.rest.text ++ ['\n']))

/-- the type and the name that a line declares -/
def member (m : MemberLine) : Text × Text := (m.type.text, m.name.text)

def uniform (block : Word) (m : MemberLine) : Uniform := ⟨m.type.text, m.name.text, some block.text⟩

theorem not_mem_declaration (m : MemberLine) {mark : Char} (hblank : isBlank mark = false)
    (hword : isWord mark = false) : mark ∉ m.declaration := by
  simp [declaration, m.type.not_mem hword, m.gap.not_mem hblank, m.name.not_mem hword, m.trail.not_mem hblank]

theorem text_append (m : MemberLine) (t : Text) :
    m.text ++ t = m.lead.text ++ (m.declaration ++ ';' :: (m.rest.text ++ '\n' :: t)) := by
  simp [text]

theorem newline_not_mem (m : MemberLine) : '\n' ∉ m.declaration ++ ';' :: m.rest.text := by
  have hword : isWord '\n' = false := by decide
  simp [declaration, m.type.not_mem hword, m.gap.inline, m.name.not_mem hword, m.trail.inline, m.rest.inline]

theorem isLine_text (m : MemberLine) : IsLine m.text := by
  refine ⟨m.lead.text ++ (m.declaration ++ ';' :: m.rest.text), fun hmem => ?_, by simp [text]⟩
  rcases List.mem_append.1 hmem with hmem | hmem
  · exact m.lead.inline hmem
  · exact m.newline_not_mem hmem

/-- what a line leaves behind its semicolon does not count -/
theorem members_rest (m : MemberLine) (t : Text) : Uniform.members (m.rest.text ++ '\n' :: t) = Uniform.members t := by
  have hnewline : ∀ c ∈ ['\n'], isBlank c = true := by simp [isBlank]
  rw [Uniform.members_blank_append m.rest.blank, ← List.singleton_append, Uniform.members_blank_append hnewline]

theorem member?_declaration (m : MemberLine) : Uniform.member? m.declaration = some m.member := by
  have hsplit : m.declaration = (m.type.text ++ (m.gap.text ++ m.name.text)) ++ m.trail.text := by simp [declaration]
  rw [hsplit, Uniform.member?_append_blank _ m.trail.blank,
    Uniform.member?_pair m.type m.gap_ne_nil m.name.ne_nil m.name.visible]
  rfl

theorem members_line (m : MemberLine) (t : Text) : Uniform.members (m.text ++ t) = m.member :: Uniform.members t := by
  rw [text_append, Uniform.members_blank_append m.lead.blank,
    Uniform.members_append_cons (m.not_mem_declaration rfl rfl), member?_declaration, members_rest]
  rfl

theorem laterMembers_line (m : MemberLine) (t : Text) : Uniform.laterMembers (m.text ++ t) = Uniform.members t := by
  unfold Uniform.laterMembers
  rw [text_append, past?_append (m.lead.not_mem rfl), past?_append (m.not_mem_declaration rfl rfl), past?_cons_self]
  exact m.members_rest t

/-- lines as they are written -/
def textOf (ms : List MemberLine) : Text := ms.flatMap text

theorem not_mem_textOf {mark : Char} (hblank : isBlank mark = false) (hword : isWord mark = false) (hend : mark ≠ ';')
    (ms : List MemberLine) : mark ∉ textOf ms := by
  intro hmem
  obtain ⟨m, -, hmem⟩ := List.mem_flatMap.1 hmem
  have hnewline : mark ≠ '\n' := fun heq => by rw [heq] at hblank; cases hblank
  simp [text, m.lead.not_mem hblank, m.not_mem_declaration hblank hword, m.rest.not_mem hblank, hend, hnewline] at hmem

theorem members_lines (ms : List MemberLine) (t : Text) :
    Uniform.members (textOf ms ++ t) = ms.map member ++ Uniform.members t := by
  induction ms with
  | nil => rfl
  | cons m ms ih => rw [textOf, List.flatMap_cons, List.append_assoc, members_line, ← textOf, ih]; rfl

end MemberLine

/-! ## Lines that declare nothing of their own -/

/-- a keyword that is read where a word stands is the beginning of that word -/
theorem Word.of_after? (w : Word) {keyword t rest : Text} (hkeyword : keyword.all isWord = true)
    (ht : ∀ c ∈ t.head?, isWord c = false) (h : after? keyword (w.text ++ t) = some rest) :
    ∃ letters, w.text = keyword ++ letters ∧ rest = letters ++ t := by
  rcases List.append_eq_append_iff.1 (after?_eq_some_iff.1 h) with ⟨more, hmore, hrest⟩ | ⟨letters, hw, hrest⟩
  · -- the keyword would go on into the text behind the word
    cases more with
    | nil => exact ⟨[], by simpa using hmore.symm, by simpa using hrest.symm⟩
    | cons c more =>
      have hc : isWord c = false := ht c (by simp [hrest])
      rw [List.all_eq_true.1 hkeyword c (by simp [hmore])] at hc
      cases hc
  · exact ⟨letters, hw, hrest⟩

namespace Uniform

variable (type name : Word) {gap : Spacing}

theorem head_gap (hgap : gap.text ≠ []) {t : Text} : ∀ c ∈ (gap.text ++ t).head?, isWord c = false := by
  intro c hc
  rw [List.head?_append_of_ne_nil _ hgap] at hc
  exact isWord_of_isBlank (gap.blank c (List.mem_of_mem_head? hc))

/-- behind the last letters of a word, the next thing that is no blank is a letter -/
theorem head_letters {letters : Text} (h : ∀ c ∈ letters, isWord c = true) (t : Text) :
    ∃ c rest, isWord c = true ∧ blanks (letters ++ (gap.text ++ (name.text ++ t))) = c :: rest := by
  cases letters with
  | nil =>
    obtain ⟨c, rest, hname, hc⟩ := name.exists_eq_cons
    rw [List.nil_append, blanks_append gap.blank, blanks_word, hname]
    exact ⟨c, rest ++ t, hc, rfl⟩
  | cons c letters =>
    have hc : isWord c = true := h c List.mem_cons_self
    rw [List.cons_append, blanks_cons (isBlank_of_isWord hc)]
    exact ⟨c, _, hc, rfl⟩

/-- even with `layout` for the first word, two words begin no layout qualifier -/
theorem layoutOpening?_words (hgap : gap.text ≠ []) (t : Text) :
    layoutOpening? (type.text ++ (gap.text ++ (name.text ++ t))) = none := by
  unfold layoutOpening?
  cases hlayout : after? "layout" (type.text ++ (gap.text ++ (name.text ++ t))) with
  | none => rfl
  | some rest =>
    obtain ⟨letters, htype, rfl⟩ := type.of_after? (by decide) (head_gap hgap) hlayout
    have hletters : ∀ c ∈ letters, isWord c = true := fun c hc => type.letters c (by simp [htype, hc])
    obtain ⟨c, rest, hc, hblanks⟩ := head_letters name hletters t
    have hparen : '(' ≠ c := fun heq => by cases heq ▸ hc
    rw [Option.bind_eq_bind, Option.bind_some, hblanks]
    simp [after?, hparen]

/-- even with `uniform` for the first word, two words are one too few for a standalone declaration -/
theorem standalone?_words (hgap : gap.text ≠ []) {t : Text} (hend : ∀ c ∈ t.head?, isWord c = false)
    (hthird : ∀ rest ∈ blanks1? t, word? rest = none) :
    standalone? (type.text ++ (gap.text ++ (name.text ++ t))) = none := by
  unfold standalone? keyword?
  cases huniform : after? "uniform" (type.text ++ (gap.text ++ (name.text ++ t))) with
  | none => rfl
  | some rest =>
    obtain ⟨letters, htype, rfl⟩ := type.of_after? (by decide) (head_gap hgap) huniform
    cases letters with
    | cons c letters =>
      have hc : isWord c = true := type.letters c (by simp [htype])
      simp [blanks1?_cons (isBlank_of_isWord hc)]
    | nil =>
      simp only [List.nil_append, Option.bind_eq_bind, Option.bind_some, blanks1?_append hgap gap.blank, blanks_word,
        word?_append name hend]
      cases hblanks : blanks1? t with
      | none => rfl
      | some rest => rw [Option.bind_some, hthird rest hblanks]; rfl

end Uniform

namespace MemberLine

theorem declaration_append (m : MemberLine) (t : Text) :
    m.declaration ++ t = m.type.text ++ (m.gap.text ++ (m.name.text ++ (m.trail.text ++ t))) := by
  simp [declaration]

theorem layoutOpening?_declaration (m : MemberLine) (t : Text) :
    Uniform.layoutOpening? (m.declaration ++ ';' :: t) = none := by
  rw [declaration_append]
  exact Uniform.layoutOpening?_words m.type m.name m.gap_ne_nil _

theorem standalone?_declaration (m : MemberLine) (t : Text) :
    Uniform.standalone? (m.declaration ++ ';' :: t) = none := by
  rw [declaration_append]
  refine Uniform.standalone?_words m.type m.name m.gap_ne_nil (m.trail.head_append (by decide) t) ?_
  intro rest hrest
  by_cases htrail : m.trail.text = []
  · rw [htrail, List.nil_append, blanks1?_cons (by decide)] at hrest
    cases hrest
  · rw [blanks1?_append htrail m.trail.blank, blanks_cons (by decide)] at hrest
    cases hrest
    exact run1?_cons (by decide) t

end MemberLine

namespace Uniform

theorem Form.declaration?_of_unqualified {α : Type} (form : Form α) {t : Text} (h : layoutOpening? t = none) :
    form.declaration? t = form.read? t := by
  simp [declaration?, pastLayout?, h]

/-- no standalone declaration is read in a text, whatever follows it -/
def Unread (t : Text) : Prop :=
  ∀ rest, standaloneForm.recogniser.scan (t ++ rest) = standaloneForm.recogniser.scan rest

theorem Unread.append {t u : Text} (ht : Unread t) (hu : Unread u) : Unread (t ++ u) := by
  intro rest
  rw [List.append_assoc, ht, hu]

theorem unread_comment {c : Text} (h : '\n' ∉ c) : Unread ('/' :: '/' :: (c ++ ['\n'])) := by
  intro rest
  have hline : '\n' ∉ '/' :: '/' :: c := by simp [h]
  have hscan := standaloneForm.recogniser.scan_line .empty rest (blanks_cons (by decide) _) hline rfl
  simpa [Spacing.empty] using hscan

theorem unread_line (m : MemberLine) : Unread m.text := by
  intro rest
  have hsplit : m.text ++ rest = m.lead.text ++ ((m.declaration ++ ';' :: m.rest.text) ++ '\n' :: rest) := by
    simp [m.text_append]
  rw [hsplit]
  refine standaloneForm.recogniser.scan_line m.lead rest ?_ m.newline_not_mem ?_
  · rw [List.append_assoc, m.declaration_append, blanks_word]
  · rw [List.append_assoc]
    exact (standaloneForm.declaration?_of_unqualified (m.layoutOpening?_declaration _)).trans
      (m.standalone?_declaration _)

theorem unread_lines (ms : List MemberLine) : Unread (MemberLine.textOf ms) := by
  induction ms with
  | nil => exact fun _ => rfl
  | cons m ms ih => exact (unread_line m).append ih

end Uniform

/-! ## Blocks -/

def blockOpening (name : Word) : Text := "uniform " ++ (name.text ++ " \x7b\n")

/-- a block as it is written, up to the end of the text -/
def blockText (name : Word) (body ending : Text) : Text := blockOpening name ++ (body ++ '\x7d' :: ';' :: ending)

namespace Uniform

/-- the keyword and the name of a block can be read, and what follows is the brace -/
theorem keyword?_opening (name : Word) (t : Text) :
    keyword? (blockOpening name ++ t) = some (name.text ++ ' ' :: '\x7b' :: '\n' :: t) := by
  have hsplit : blockOpening name ++ t = "uniform" ++ ' ' :: (name.text ++ ' ' :: '\x7b' :: '\n' :: t) := by
    unfold blockOpening
    rw [List.append_assoc, List.append_assoc]
    rfl
  unfold keyword?
  rw [hsplit, after?_append, Option.bind_eq_bind, Option.bind_some]
  exact congrArg some (blanks_word name _)

theorem word?_opening (name : Word) (t : Text) :
    word? (name.text ++ ' ' :: '\x7b' :: '\n' :: t) = some (name.text, ' ' :: '\x7b' :: '\n' :: t) :=
  word?_append name fun c hc => by cases hc; decide

theorem standalone?_opening (name : Word) (t : Text) : standalone? (blockOpening name ++ t) = none := by
  rw [standalone?, keyword?_opening, Option.bind_eq_bind, Option.bind_some, word?_opening]
  rfl

theorem unread_opening (name : Word) : Unread (blockOpening name) := by
  intro rest
  have hline : '\n' ∉ "uniform " ++ (name.text ++ " \x7b") := by
    have hname : '\n' ∉ name.text := name.not_mem (by decide)
    simp [hname]
  have hsplit : blockOpening name ++ rest = "uniform " ++ (name.text ++ " \x7b") ++ '\n' :: rest := by
    unfold blockOpening
    simp
  have hread : standaloneForm.declaration? (blockOpening name ++ rest) = none :=
    (standaloneForm.declaration?_of_unqualified rfl).trans (standalone?_opening name rest)
  rw [hsplit] at hread ⊢
  exact standaloneForm.recogniser.scan_line .empty rest (blanks_cons (by decide) _) hline hread

theorem scan_closing {ending : Text} (hending : ∀ c ∈ ending, isBlank c = true) :
    standaloneForm.recogniser.scan ('\x7d' :: ';' :: ending) = [] := by
  have hblanks : blanks ('\x7d' :: ';' :: ending) = '\x7d' :: ';' :: ending := blanks_cons (by decide) _
  have hnext : nextLine? ('\x7d' :: ';' :: ending) = nextLine? ending := rfl
  rw [Recogniser.scan_of_none (by rw [hblanks]; rfl), hblanks, hnext]
  exact standaloneForm.recogniser.scan_nextLine_blank rfl hending

theorem standalone_blockText (name : Word) {body ending : Text} (hbody : Unread body)
    (hending : ∀ c ∈ ending, isBlank c = true) : standalone (blockText name body ending) = [] := by
  unfold standalone blockText
  rw [Form.search_eq_scan, unread_opening name, hbody, scan_closing hending]
  rfl

theorem block?_blockText (name : Word) {body : Text} (hbody : '\x7d' ∉ body) (ending : Text) :
    block? (blockText name body ending) = some ((name.text, '\n' :: body), ending) := by
  have hhead : blockHead? (blockText name body ending) =
      some (name.text, '\n' :: (body ++ '\x7d' :: ';' :: ending)) := by
    unfold blockHead? blockText
    rw [keyword?_opening, Option.bind_eq_bind, Option.bind_some, word?_opening]
    rfl
  have htail : blockTail? ('\n' :: (body ++ '\x7d' :: ';' :: ending)) = some ('\n' :: body, ending) := by
    unfold blockTail?
    rw [← List.cons_append, upTo?_append (by simp) (by simp [hbody])]
    rfl
  unfold block?
  rw [hhead, Option.bind_eq_bind, Option.bind_some]
  dsimp only
  rw [htail]
  rfl

/-- a block that is read up to the end of a text is the only one, and a newline at the beginning of its body does not
count -/
theorem blockMembers_of_read {t name body ending : Text}
    (hread : blockForm.declaration? (blanks t) = some ((name, '\n' :: body), ending))
    (hending : ∀ c ∈ ending, isBlank c = true) :
    blockMembers t = (members body).map fun m => ⟨m.1, m.2, some name⟩ := by
  have hnewline : ∀ c ∈ ['\n'], isBlank c = true := by simp [isBlank]
  have hmembers : members ('\n' :: body) = members body := members_blank_append hnewline body
  unfold blockMembers
  rw [Form.search_eq_scan, Recogniser.scan_of_read hread, blockForm.recogniser.scan_nextLine_blank rfl hending,
    List.flatMap_singleton]
  dsimp only
  rw [hmembers]

theorem blockMembers_blockText (name : Word) {body ending : Text} (hbody : '\x7d' ∉ body)
    (hending : ∀ c ∈ ending, isBlank c = true) :
    blockMembers (blockText name body ending) = (members body).map fun m => ⟨m.1, m.2, some name.text⟩ := by
  have hread : blockForm.declaration? (blockText name body ending) = some ((name.text, '\n' :: body), ending) :=
    (blockForm.declaration?_of_unqualified rfl).trans (block?_blockText name hbody ending)
  exact blockMembers_of_read hread hending

theorem declared_blockText (name : Word) {body ending : Text} {ms : List MemberLine}
    (hmembers : members body = ms.map MemberLine.member) (hbrace : '\x7d' ∉ body) (hbody : Unread body)
    (hending : ∀ c ∈ ending, isBlank c = true) :
    declared (blockText name body ending) = ms.map (MemberLine.uniform name) := by
  rw [declared, standalone_blockText name hbody hending, blockMembers_blockText name hbrace hending, hmembers,
    List.map_map, List.nil_append]
  rfl

end Uniform

end GlslInspect
