/-
Uniform declarations as they are written, and read back.

A declaration is a standalone uniform on a line of its own, or a block with one line for each member
(`UniformDeclaration`). Words are any words, keywords included. Each of them is a closed text (`closed_text`), so what a
list of them declares is put together from what each declares alone:
- a standalone uniform declares itself and no member of a block (`standalone_uniform`, `blockMembers_uniform`);
- a block declares its members and no standalone uniform (`blockMembers_block`, `standalone_block`), because a line with
  two words in front of its semicolon is none, whatever the words are.
Main result: `declared_written`.
-/
import GlslInspect.Proofs.BlockText
import GlslInspect.Proofs.Chunks

namespace GlslInspect

open Text Pattern

/-! ## How uniforms are written -/

structure BlockMember where
  type : Word
  name : Word
  /-- the digits of the size of an array -/
  size : Option Text
  all_decimal : ∀ digits ∈ size, digits.all isDecimal = true

namespace BlockMember

/-- the size of an array in brackets, and nothing for what is no array -/
def brackets (m : BlockMember) : Text :=
  match m.size with
  | some digits => '[' :: (digits ++ [']'])
  | none => []

/-- the name of a member with the size of an array -/
def fullName (m : BlockMember) : Text := m.name.text ++ m.brackets

/-- what stands in front of the semicolon, from the type on -/
def declaration (m : BlockMember) : Text := m.type.text ++ (" " ++ m.fullName)

def line (m : BlockMember) : Text := "    " ++ (m.declaration ++ ";\n")

def lines (ms : List BlockMember) : Text := ms.flatMap line

end BlockMember

inductive UniformDeclaration where
  | uniform (type name : Word)
  | block (name : Word) (members : List BlockMember)

namespace UniformDeclaration

/-- a standalone declaration up to its semicolon -/
def front (type name : Word) : Text := "uniform " ++ (type.text ++ (" " ++ name.text))

/-- a declaration as it is written -/
def text : UniformDeclaration → Text
  | .uniform type name => front type name ++ ";\n"
  | .block name members => "layout(std140) " ++ blockText name (BlockMember.lines members) "\n"

def standalone : UniformDeclaration → List Uniform
  | .uniform type name => [⟨type.text, name.text, none⟩]
  | .block _ _ => []

def members : UniformDeclaration → List Uniform
  | .uniform _ _ => []
  | .block name members => members.map fun m => ⟨m.type.text, m.fullName, some name.text⟩

end UniformDeclaration

/-! ## Members -/

theorem isBlank_of_isDecimal {c : Char} (h : isDecimal c = true) : isBlank c = false :=
  isBlank_eq_false (by decide +kernel) h

namespace BlockMember

variable (m : BlockMember)

/-- the space between a type and a name -/
def gap : Spacing := ⟨" ", by decide, by decide⟩

/-- the space in front of a member -/
def indent : Spacing := ⟨"    ", by decide, by decide⟩

theorem gap_ne_nil : gap.text ≠ [] := by decide

/-- the characters in front of the semicolon of a member -/
def isMemberChar (c : Char) : Bool := isWord c || isDecimal c || c = ' ' || c = '[' || c = ']'

theorem all_brackets : ∀ c ∈ m.brackets, isDecimal c = true ∨ c = '[' ∨ c = ']' := by
  intro c hc
  unfold brackets at hc
  split at hc
  · rename_i digits hsize
    rcases List.mem_cons.1 hc with rfl | hc
    · exact Or.inr (Or.inl rfl)
    rcases List.mem_append.1 hc with hdigit | hlast
    · exact Or.inl (List.all_eq_true.1 (m.all_decimal digits hsize) c hdigit)
    · exact Or.inr (Or.inr (List.mem_singleton.1 hlast))
  · cases hc

theorem all_declaration : m.declaration.all isMemberChar = true := by
  have hletters : ∀ w : Word, w.text.all isMemberChar = true :=
    fun w => List.all_eq_true.2 fun c hc => by simp [isMemberChar, w.letters c hc]
  have hbrackets : m.brackets.all isMemberChar = true := by
    refine List.all_eq_true.2 fun c hc => ?_
    rcases m.all_brackets c hc with hdigit | rfl | rfl
    · simp [isMemberChar, hdigit]
    · decide
    · decide
  have hspace : (" " : Text).all isMemberChar = true := by decide
  rw [declaration, fullName, List.all_append, List.all_append, List.all_append, hletters, hspace, hletters, hbrackets]
  rfl

theorem not_mem_lines {mark : Char} (hmember : isMemberChar mark = false) (hend : mark ∉ (";\n" : Text))
    (ms : List BlockMember) : mark ∉ lines ms := by
  intro hmem
  obtain ⟨m, -, hmem⟩ := List.mem_flatMap.1 hmem
  have hindent : mark ∉ indent.text := not_mem_of_all (p := isMemberChar) (by decide) hmember
  exact List.not_mem_append hindent (List.not_mem_append (not_mem_of_all m.all_declaration hmember) hend) hmem

theorem member?_declaration : Uniform.member? m.declaration = some (m.type.text, m.fullName) := by
  have hvisible : ∀ c ∈ m.fullName, isBlank c = false := by
    intro c hc
    rcases List.mem_append.1 hc with hc | hc
    · exact m.name.visible c hc
    · rcases m.all_brackets c hc with hdigit | rfl | rfl
      · exact isBlank_of_isDecimal hdigit
      · decide
      · decide
  have hne : m.fullName ≠ [] := List.append_ne_nil_of_left_ne_nil m.name.ne_nil _
  exact Uniform.member?_pair m.type gap_ne_nil hne hvisible

theorem members_line (t : Text) :
    Uniform.members (m.line ++ t) = (m.type.text, m.fullName) :: Uniform.members t := by
  have hsplit : m.line ++ t = indent.text ++ (m.declaration ++ ';' :: (['\n'] ++ t)) := by
    simp only [line, List.append_assoc]
    rfl
  have hnewline : ∀ c ∈ ['\n'], isBlank c = true := by simp [isBlank]
  rw [hsplit, Uniform.members_blank_append indent.blank,
    Uniform.members_append_cons (not_mem_of_all m.all_declaration (by decide)), member?_declaration,
    Uniform.members_blank_append hnewline]
  rfl

theorem members_lines (ms : List BlockMember) :
    Uniform.members (lines ms) = ms.map fun m => (m.type.text, m.fullName) := by
  induction ms with
  | nil => rfl
  | cons m ms ih =>
    rw [lines, List.flatMap_cons, members_line, ← lines, ih]
    rfl

/-- behind the name of a member no word follows -/
theorem head_brackets (t : Text) : ∃ c rest, (c = '[' ∨ c = ';') ∧ m.brackets ++ ';' :: t = c :: rest := by
  unfold brackets
  split
  · exact ⟨'[', _, Or.inl rfl, rfl⟩
  · exact ⟨';', _, Or.inr rfl, rfl⟩

/-- nothing else is declared on the line of a member, even if its type is a keyword -/
theorem unread_line : Uniform.Unread m.line := by
  intro rest
  have hsplit : m.line ++ rest = indent.text ++ ((m.declaration ++ [';']) ++ '\n' :: rest) := by
    simp only [line, List.append_assoc]
    rfl
  have hdeclaration : m.declaration ++ [';'] ++ '\n' :: rest =
      m.type.text ++ (gap.text ++ (m.name.text ++ (m.brackets ++ ';' :: '\n' :: rest))) := by
    simp only [declaration, fullName, List.append_assoc]
    rfl
  have hnewline : '\n' ∉ m.declaration ++ [';'] :=
    List.not_mem_append (not_mem_of_all m.all_declaration (by decide)) (by decide)
  obtain ⟨c, behind, hc, hbehind⟩ := m.head_brackets ('\n' :: rest)
  have hend : isWord c = false ∧ isBlank c = false := by rcases hc with rfl | rfl <;> decide
  rw [hsplit]
  refine Uniform.standaloneForm.recogniser.scan_line indent rest ?_ hnewline ?_
  · rw [hdeclaration, blanks_word]
  · rw [hdeclaration]
    have hopening := Uniform.layoutOpening?_words m.type m.name gap_ne_nil (m.brackets ++ ';' :: '\n' :: rest)
    refine (Uniform.standaloneForm.declaration?_of_unqualified hopening).trans
      (Uniform.standalone?_words m.type m.name gap_ne_nil ?_ ?_)
    · rw [hbehind]
      intro d hd
      cases hd
      exact hend.1
    · rw [hbehind, blanks1?_cons hend.2]
      simp

theorem unread_lines (ms : List BlockMember) : Uniform.Unread (lines ms) := by
  induction ms with
  | nil => exact fun _ => rfl
  | cons m ms ih => exact m.unread_line.append ih

end BlockMember

/-! ## Blocks -/

theorem UniformDeclaration.text_block (name : Word) (ms : List BlockMember) :
    (block name ms).text = "layout(std140) " ++ (blockOpening name ++ (BlockMember.lines ms ++ "\x7d;\n")) := rfl

namespace Uniform

theorem Form.declaration?_layout {α : Type} (form : Form α) (t : Text) :
    form.declaration? ("layout(std140) " ++ t) = form.read? (blanks t) := rfl

/-- the header of a block with a layout qualifier is no standalone declaration -/
theorem unread_layout_opening (name : Word) : Unread ("layout(std140) " ++ blockOpening name) := by
  intro rest
  have hline : '\n' ∉ "layout(std140) " ++ ("uniform " ++ (name.text ++ " \x7b")) :=
    List.not_mem_append (by decide) (List.not_mem_append (by decide)
      (List.not_mem_append (name.not_mem (by decide)) (by decide)))
  have hsplit : "layout(std140) " ++ blockOpening name ++ rest =
      "layout(std140) " ++ ("uniform " ++ (name.text ++ " \x7b")) ++ '\n' :: rest := by
    unfold blockOpening
    rw [List.append_assoc, List.append_assoc, List.append_assoc, List.append_assoc, List.append_assoc,
      List.append_assoc]
    rfl
  have hread : standaloneForm.declaration? ("layout(std140) " ++ blockOpening name ++ rest) = none := by
    rw [List.append_assoc, standaloneForm.declaration?_layout]
    exact standalone?_opening name rest
  rw [hsplit] at hread ⊢
  exact standaloneForm.recogniser.scan_line .empty rest (blanks_cons (by decide) _) hline hread

/-- a block with a layout qualifier declares nothing of its own where its body does not -/
theorem standalone_layout (name : Word) {body ending : Text} (hbody : Unread body)
    (hending : ∀ c ∈ ending, isBlank c = true) :
    standalone ("layout(std140) " ++ blockText name body ending) = [] := by
  unfold standalone blockText
  rw [Form.search_eq_scan, ← List.append_assoc, unread_layout_opening name, hbody]
  exact congrArg (List.map _) (scan_closing hending)

theorem blockMembers_layout (name : Word) {body ending : Text} (hbrace : '\x7d' ∉ body)
    (hending : ∀ c ∈ ending, isBlank c = true) :
    blockMembers ("layout(std140) " ++ blockText name body ending) =
      (members body).map fun m => ⟨m.1, m.2, some name.text⟩ := by
  have hread : blockForm.declaration? ("layout(std140) " ++ blockText name body ending) =
      some ((name.text, '\n' :: body), ending) := by
    rw [blockForm.declaration?_layout]
    exact block?_blockText name hbrace ending
  exact blockMembers_of_read (t := "layout(std140) " ++ blockText name body ending) hread hending

variable (name : Word) (ms : List BlockMember)

theorem standalone_block : standalone (UniformDeclaration.block name ms).text = [] :=
  standalone_layout name (BlockMember.unread_lines ms) (List.all_eq_true.1 (by decide))

theorem blockMembers_block :
    blockMembers (UniformDeclaration.block name ms).text = (UniformDeclaration.block name ms).members := by
  have hbrace : '\x7d' ∉ BlockMember.lines ms := BlockMember.not_mem_lines (by decide) (by decide) ms
  have hending : ∀ c ∈ ("\n" : Text), isBlank c = true := List.all_eq_true.1 (by decide)
  have hmembers := blockMembers_layout name hbrace hending
  rw [BlockMember.members_lines, List.map_map] at hmembers
  exact hmembers

end Uniform

/-! ## Standalone uniforms -/

namespace UniformDeclaration

variable (type name : Word)

theorem text_uniform : (uniform type name).text = "uniform " ++ (type.text ++ (" " ++ (name.text ++ ";\n"))) := by
  have hfront : (uniform type name).text = ("uniform " ++ (type.text ++ (" " ++ name.text))) ++ ";\n" := rfl
  rw [hfront, List.append_assoc, List.append_assoc, List.append_assoc]

/-- up to the semicolon there are letters and spaces -/
theorem not_mem_front {mark : Char} (hword : isWord mark = false) (hspace : mark ≠ ' ') : mark ∉ front type name := by
  have hkeyword : mark ∉ ("uniform " : Text) := by
    refine not_mem_of_all (p := fun c => isWord c || c = ' ') (by decide) ?_
    simp [hword, hspace]
  exact List.not_mem_append hkeyword (List.not_mem_append (type.not_mem hword)
    (List.not_mem_append (by simpa using hspace) (name.not_mem hword)))

end UniformDeclaration

namespace Uniform

variable (type name : Word)

theorem keyword?_uniform :
    keyword? (UniformDeclaration.uniform type name).text =
      some (type.text ++ (BlockMember.gap.text ++ (name.text ++ (";\n" : Text)))) := by
  rw [UniformDeclaration.text_uniform]
  exact congrArg some (blanks_word type _)

theorem standalone?_uniform :
    standalone? (UniformDeclaration.uniform type name).text = some ((type.text, name.text), ("\n" : Text)) := by
  have hname : word? (name.text ++ (";\n" : Text)) = some (name.text, (";\n" : Text)) :=
    word?_append name fun c hc => by cases hc; decide
  rw [standalone?, keyword?_uniform, Option.bind_eq_bind, Option.bind_some,
    word?_append type (head_gap BlockMember.gap_ne_nil), Option.bind_eq_bind, Option.bind_some]
  dsimp only
  rw [blanks1?_append BlockMember.gap_ne_nil BlockMember.gap.blank, blanks_word, Option.bind_some, hname]
  rfl

/-- where the brace of a block would stand, there is the name -/
theorem block?_uniform : block? (UniformDeclaration.uniform type name).text = none := by
  have hhead : blockHead? (UniformDeclaration.uniform type name).text = none := by
    obtain ⟨c, rest, hname, hc⟩ := name.exists_eq_cons
    have hbrace : '\x7b' ≠ c := fun heq => by cases heq ▸ hc
    rw [blockHead?, keyword?_uniform, Option.bind_eq_bind, Option.bind_some,
      word?_append type (head_gap BlockMember.gap_ne_nil), Option.bind_eq_bind, Option.bind_some]
    dsimp only
    rw [blanks_append BlockMember.gap.blank, blanks_word, hname]
    simp [after?, hbrace]
  rw [block?, hhead]
  rfl

theorem standalone_uniform :
    standalone (UniformDeclaration.uniform type name).text = (UniformDeclaration.uniform type name).standalone := by
  have hread : standaloneForm.declaration? (UniformDeclaration.uniform type name).text =
      some ((type.text, name.text), ("\n" : Text)) :=
    (standaloneForm.declaration?_of_unqualified rfl).trans (standalone?_uniform type name)
  unfold standalone
  rw [Form.search_eq_scan, Recogniser.scan_of_read hread,
    standaloneForm.recogniser.scan_nextLine_blank rfl (List.all_eq_true.1 (by decide))]
  rfl

theorem blockMembers_uniform : blockMembers (UniformDeclaration.uniform type name).text = [] := by
  have hread : blockForm.declaration? (UniformDeclaration.uniform type name).text = none :=
    (blockForm.declaration?_of_unqualified rfl).trans (block?_uniform type name)
  have hsplit : (UniformDeclaration.uniform type name).text =
      Spacing.empty.text ++ ((UniformDeclaration.front type name ++ [';']) ++ '\n' :: []) := by
    rw [List.append_assoc]
    rfl
  have hline : '\n' ∉ UniformDeclaration.front type name ++ [';'] :=
    List.not_mem_append (UniformDeclaration.not_mem_front type name (by decide) (by decide)) (by decide)
  have hscan : blockForm.recogniser.scan (UniformDeclaration.uniform type name).text = [] := by
    rw [hsplit] at hread ⊢
    rw [blockForm.recogniser.scan_line .empty [] rfl hline hread]
    exact blockForm.recogniser.scan_blank rfl (by simp)
  unfold blockMembers
  rw [Form.search_eq_scan, hscan]
  rfl

end Uniform

/-! ## Lists of declarations -/

namespace UniformDeclaration

theorem closed_uniform (type name : Word) : Closed (uniform type name).text := by
  have hplain : ∀ mark, isWord mark = false → mark ∉ (" ;\n" : Text) → mark ∉ (uniform type name).text := by
    intro mark hword hother
    have hspace : mark ≠ ' ' := fun heq => hother (heq ▸ by decide)
    have hend : mark ∉ (";\n" : Text) := fun hmem => hother (List.mem_cons_of_mem ' ' hmem)
    exact List.not_mem_append (not_mem_front type name hword hspace) hend
  refine ⟨⟨front type name, "\n", rfl, List.all_eq_true.1 (by decide), by decide⟩, ?_, ?_⟩
  · exact followed_of_not_mem (hplain _ (by decide) (by decide))
  · exact followed_of_not_mem (hplain _ (by decide) (by decide))

theorem closed_block (name : Word) (ms : List BlockMember) : Closed (block name ms).text := by
  have hlines : ∀ mark, BlockMember.isMemberChar mark = false → mark ∉ ("\x7d;\n" : Text) →
      mark ∉ BlockMember.lines ms ++ ("\x7d;\n" : Text) := by
    intro mark hmember hother
    have hend : mark ∉ (";\n" : Text) := fun hmem => hother (List.mem_cons_of_mem '\x7d' hmem)
    exact List.not_mem_append (BlockMember.not_mem_lines hmember hend ms) hother
  have hparens : (block name ms).text = "layout" ++ '(' :: ("std140) " ++
      (blockOpening name ++ (BlockMember.lines ms ++ "\x7d;\n"))) := rfl
  have hopening : '(' ∉ blockOpening name :=
    List.not_mem_append (by decide) (List.not_mem_append (name.not_mem (by decide)) (by decide))
  have hbraces : (block name ms).text = ("layout(std140) " ++ ("uniform " ++ (name.text ++ " "))) ++ '\x7b' :: ("\n" ++
      (BlockMember.lines ms ++ "\x7d;\n")) := by
    rw [text_block, List.append_assoc, List.append_assoc, List.append_assoc]
    unfold blockOpening
    rw [List.append_assoc, List.append_assoc]
    rfl
  have hheader : '\x7b' ∉ "layout(std140) " ++ ("uniform " ++ (name.text ++ " ")) :=
    List.not_mem_append (by decide) (List.not_mem_append (by decide)
      (List.not_mem_append (name.not_mem (by decide)) (by decide)))
  refine ⟨⟨"layout(std140) " ++ (blockOpening name ++ (BlockMember.lines ms ++ "\x7d")), "\n", ?_,
    List.all_eq_true.1 (by decide), by decide⟩, ?_, ?_⟩
  · rw [text_block, List.append_assoc, List.append_assoc, List.append_assoc]
    rfl
  · rw [hparens]
    exact followed_append_cons (by decide) (by simp) (List.not_mem_append (by decide)
      (List.not_mem_append hopening (hlines _ (by decide) (by decide))))
  · rw [hbraces]
    exact followed_append_cons hheader (by simp) (List.not_mem_append (by decide) (hlines _ (by decide) (by decide)))

theorem closed_text (d : UniformDeclaration) : Closed d.text := by
  cases d with
  | uniform type name => exact closed_uniform type name
  | block name ms => exact closed_block name ms

end UniformDeclaration

theorem Uniform.standalone_written (ds : List UniformDeclaration) :
    standalone (ds.flatMap UniformDeclaration.text) = ds.flatMap UniformDeclaration.standalone := by
  induction ds with
  | nil => decide +kernel
  | cons d ds ih =>
    rw [List.flatMap_cons, List.flatMap_cons, standalone_append d.closed_text, ih]
    cases d with
    | uniform type name => rw [standalone_uniform]
    | block name ms => rw [standalone_block]; rfl

theorem Uniform.blockMembers_written (ds : List UniformDeclaration) :
    blockMembers (ds.flatMap UniformDeclaration.text) = ds.flatMap UniformDeclaration.members := by
  induction ds with
  | nil => decide +kernel
  | cons d ds ih =>
    rw [List.flatMap_cons, List.flatMap_cons, blockMembers_append d.closed_text, ih]
    cases d with
    | uniform type name => rw [blockMembers_uniform]; rfl
    | block name ms => rw [blockMembers_block]

/-- **Written uniforms are read back.** For every list of declarations, each a standalone uniform on a line of its own
or a block with one line for each member, whatever words they are made of: the uniforms that the whole text declares
are the standalone ones in order, without a block, and behind them the members, block by block in order, each with the
name of its block. -/
theorem declared_written (ds : List UniformDeclaration) :
    Uniform.declared (ds.flatMap UniformDeclaration.text) =
      ds.flatMap UniformDeclaration.standalone ++ ds.flatMap UniformDeclaration.members := by
  rw [Uniform.declared, Uniform.standalone_written, Uniform.blockMembers_written]

/-- keywords for names, an array, and a block in front of a standalone uniform -/
example :
    let word : Word := ⟨"uniform", by decide, by decide⟩
    let size : BlockMember := ⟨⟨"layout", by decide, by decide⟩, word, some "16", by simp [isDecimal]⟩
    Uniform.declared ((UniformDeclaration.block word [size]).text ++ (UniformDeclaration.uniform word word).text) =
      [⟨"uniform", "uniform", none⟩, ⟨"layout", "uniform[16]", some "uniform"⟩] := by
  decide +kernel

end GlslInspect
