/-
Blocks without comments: two readers find the same members.

A search for declarations takes the body of a block as one text, cuts it at its semicolons, and keeps the last two words
in front of each (`Uniform.declared`). A scan goes line by line, and knows the types it looks for (`classify`). A plain
block has a header, lines that are blank or declare one member, and a closing line (`PlainBlock`); spacing is free
within a line. Each reader finds what the lines are written from:
- on one line both find its member, if it has one (`BodyLine.members_line`, `BodyLine.declaration?_trim`), so both find
  the members of all lines in order (`PlainBlock.members_bodyText`, `PlainBlock.declarations_readLines`);
- nothing else is found (`PlainBlock.unread_bodyText`, `PlainBlock.exists_classify`).
Main result: `classified_eq_declared`.
-/
import GlslInspect.Proofs.AnnotatedBlock
import GlslInspect.Proofs.WrittenUniforms

namespace GlslInspect

open Text Pattern

/-! ## How a block without comments is written -/

/-- a line that declares a member of a type that a parameter can have -/
structure ParameterLine extends MemberLine where
  kind : GlslType
  type_eq : type.text = kind.keyword

inductive BodyLine where
  | blank (spacing : Spacing)
  | member (line : ParameterLine)

namespace BodyLine

/-- a line as it is written, without its newline -/
def text : BodyLine → Text
  | blank spacing => spacing.text
  | member line => line.lead.text ++ (line.declaration ++ ';' :: line.rest.text)

def member? : BodyLine → Option ParameterLine
  | blank _ => none
  | member line => some line

end BodyLine

/-- a block without comments, up to the end of a text -/
structure PlainBlock where
  name : Word
  body : List BodyLine
  /-- what stands behind the semicolon of the closing line -/
  ending : Text
  all_blank : ending.all isBlank = true

namespace PlainBlock

def bodyLines (body : List BodyLine) : List Text := body.map BodyLine.text

/-- a block as it is written -/
def text (b : PlainBlock) : Text :=
  closedLines (annotatedHeader b.name :: bodyLines b.body) ++ ("\x7d;" ++ b.ending)

/-- the members of a block in order -/
def members (b : PlainBlock) : List ParameterLine := b.body.filterMap BodyLine.member?

end PlainBlock

def ClassifiedBlock.uniforms (c : ClassifiedBlock) : List Uniform :=
  c.parameters.map fun p => ⟨p.type.keyword, p.name, c.name⟩

/-! ## One line -/

namespace ParameterLine

variable (line : ParameterLine)

/-- the declaration of a line in its parts, without what stands at its ends -/
def statement : Statement where
  type := line.kind
  gap := line.gap.text
  name := line.name
  trail := line.trail.text
  rest := []
  gap_blank := line.gap.all_blank
  gap_ne_nil := line.gap_ne_nil
  trail_blank := line.trail.all_blank

theorem text_statement : line.statement.text = line.declaration ++ [';'] := by
  simp [Statement.text, Statement.front, MemberLine.declaration, statement, line.type_eq]

theorem declaration_statement : line.statement.declaration = ⟨line.kind, line.name.text, []⟩ := rfl

/-- without its spacing, a line is a declaration -/
theorem trim_text : trim (BodyLine.member line).text = line.statement.text := by
  have hsplit : (BodyLine.member line).text = line.lead.text ++ ((line.declaration ++ [';']) ++ line.rest.text) := by
    simp [BodyLine.text]
  have hstart : blanks line.declaration = line.declaration := blanks_word line.type _
  rw [hsplit, trim_blank_append _ line.lead.blank, trim_append_blank _ line.rest.blank, trim_append_cons (by decide),
    hstart, text_statement]
  rfl

end ParameterLine

namespace BodyLine

theorem newline_not_mem (line : BodyLine) : '\n' ∉ line.text := by
  cases line with
  | blank spacing => exact spacing.inline
  | member line => exact List.not_mem_append line.lead.inline line.newline_not_mem

theorem text_member (line : ParameterLine) : (member line).text ++ ['\n'] = line.toMemberLine.text := by
  simp [text, MemberLine.text]

theorem blank_text (spacing : Spacing) : ∀ c ∈ (blank spacing).text ++ ['\n'], isBlank c = true := by
  intro c hc
  rcases List.mem_append.1 hc with hc | hc
  · exact spacing.blank c hc
  · obtain rfl := List.mem_singleton.1 hc
    decide

theorem brace_not_mem (line : BodyLine) : '\x7d' ∉ line.text := by
  cases line with
  | blank spacing => exact spacing.not_mem (by decide)
  | member line =>
    have hrest : '\x7d' ∉ line.rest.text := line.rest.not_mem (by decide)
    exact List.not_mem_append (line.lead.not_mem (by decide))
      (List.not_mem_append (line.not_mem_declaration (by decide) (by decide)) (by simp [hrest]))

theorem members_line (line : BodyLine) (t : Text) :
    Uniform.members (line.text ++ ['\n'] ++ t) = (line.member?.map (·.member)).toList ++ Uniform.members t := by
  cases line with
  | blank spacing => exact Uniform.members_blank_append (blank_text spacing) t
  | member line => rw [text_member, line.members_line]; rfl

theorem unread_line (line : BodyLine) : Uniform.Unread (line.text ++ ['\n']) := by
  cases line with
  | blank spacing => exact fun rest => Uniform.standaloneForm.recogniser.scan_blank_append (blank_text spacing) rest
  | member line => rw [text_member]; exact Uniform.unread_line line.toMemberLine

/-- no line ends the block -/
theorem startsWithBrace_text (line : BodyLine) : startsWithBrace line.text = false := by
  refine Bool.eq_false_iff.2 fun hstart => line.brace_not_mem ?_
  obtain ⟨x, rest, hline, -⟩ := hasClosingBrace_iff.1 (hasClosingBrace_of_startsWithBrace hstart)
  rw [hline]
  simp

/-- what a scan reads on a line -/
theorem declaration?_trim (line : BodyLine) :
    declaration? (trim line.text) = line.member?.map fun m => m.statement.declaration := by
  cases line with
  | blank spacing =>
    have htrim : trim spacing.text = [] := by
      rw [← List.append_nil spacing.text, trim_blank_append [] spacing.blank]
      rfl
    rw [text, htrim]
    rfl
  | member line => rw [line.trim_text, line.statement.declaration?_text]; rfl

end BodyLine

/-! ## All lines -/

theorem Text.closedLines_cons (line : Text) (lines : List Text) :
    closedLines (line :: lines) = line ++ ['\n'] ++ closedLines lines := List.flatMap_cons ..

namespace PlainBlock

theorem members_bodyText (body : List BodyLine) :
    Uniform.members (closedLines (bodyLines body)) = (body.filterMap BodyLine.member?).map (·.member) := by
  induction body with
  | nil => rfl
  | cons line body ih =>
    rw [bodyLines, List.map_cons, closedLines_cons, line.members_line, ← bodyLines, ih]
    cases hline : line.member? <;> simp [hline]

theorem unread_bodyText (body : List BodyLine) : Uniform.Unread (closedLines (bodyLines body)) := by
  induction body with
  | nil => exact fun _ => rfl
  | cons line body ih =>
    rw [bodyLines, List.map_cons, closedLines_cons]
    exact line.unread_line.append ih

theorem brace_not_mem_bodyText (body : List BodyLine) : '\x7d' ∉ closedLines (bodyLines body) := by
  intro hmem
  obtain ⟨text, htext, hmem⟩ := List.mem_flatMap.1 hmem
  obtain ⟨line, -, rfl⟩ := List.mem_map.1 htext
  exact List.not_mem_append line.brace_not_mem (by decide) hmem

theorem declarations_readLines (body : List BodyLine) {closing : Text} (hclosing : startsWithBrace closing = true)
    (more : List Text) :
    declarations (readLines (bodyLines body ++ closing :: more)) =
      (body.filterMap BodyLine.member?).map fun m => m.statement.declaration := by
  induction body with
  | nil => rw [bodyLines, List.map_nil, List.nil_append, readLines_cons_of_brace hclosing]; rfl
  | cons line body ih =>
    rw [bodyLines, List.map_cons, List.cons_append, readLines_cons line.startsWithBrace_text, declarations_cons,
      line.declaration?_trim, ← bodyLines, ih]
    cases hline : line.member? <;> simp [hline]

/-! ## Whole blocks -/

variable (b : PlainBlock)

theorem ending_blank : ∀ c ∈ b.ending, isBlank c = true := List.all_eq_true.1 b.all_blank

theorem text_eq : b.text = "layout(std140) " ++ blockText b.name (closedLines (bodyLines b.body)) b.ending := by
  have hheader : annotatedHeader b.name ++ ['\n'] = "layout(std140) " ++ blockOpening b.name := by
    unfold annotatedHeader blockOpening
    rw [List.append_assoc, List.append_assoc]
    rfl
  rw [text, closedLines_cons, hheader, blockText, List.append_assoc, List.append_assoc]
  rfl

/-- the uniforms that the members of a block are written for -/
def uniforms : List Uniform := b.members.map fun m => m.uniform b.name

/-- a search for declarations finds the members and nothing else -/
theorem declared_text : Uniform.declared b.text = b.uniforms := by
  rw [Uniform.declared, text_eq, Uniform.standalone_layout b.name (unread_bodyText b.body) b.ending_blank,
    Uniform.blockMembers_layout b.name (brace_not_mem_bodyText b.body) b.ending_blank, members_bodyText, List.map_map]
  rfl

theorem exists_scanLines : ∃ closing more, startsWithBrace closing = true ∧
    scanLines b.text = annotatedHeader b.name :: (bodyLines b.body ++ closing :: more) := by
  have hlines : ∀ line ∈ annotatedHeader b.name :: bodyLines b.body, '\n' ∉ line := by
    intro line hline
    rcases List.mem_cons.1 hline with rfl | hline
    · exact newline_not_mem_annotatedHeader b.name
    · obtain ⟨line, -, rfl⟩ := List.mem_map.1 hline
      exact line.newline_not_mem
  obtain ⟨closing, more, hmore, hclosing⟩ := exists_scanLines_closing b.ending
  refine ⟨closing, more, hclosing, ?_⟩
  rw [text, scanLines_closedLines hlines, hmore]
  rfl

/-- a scan for the block finds its name, and one parameter for each member -/
theorem exists_classify {target : Option Text} (htarget : Scan.wanted target b.name.text = true) :
    ∃ found, classify target b.text = ⟨some b.name.text, found⟩ ∧
      List.Forall₂ Parameter.ComesFrom found (b.members.map fun m => m.statement.declaration) := by
  obtain ⟨closing, more, hclosing, hlines⟩ := b.exists_scanLines
  obtain ⟨hname, found, hfound, hall⟩ := Scan.run_inBlock target
    (s := { Scan.start with phase := .inBlock, blockName := some b.name.text }) rfl
    (bodyLines b.body ++ closing :: more)
  rw [declarations_readLines b.body hclosing] at hall
  refine ⟨found, ?_, hall⟩
  rw [classify, hlines, Scan.run, Scan.feed_start_of_entered (Scan.entered?_annotatedHeader htarget)]
  exact congrArg₂ ClassifiedBlock.mk hname hfound

theorem uniforms_of_comesFrom (name : Word) {ps : List Parameter} {ms : List ParameterLine}
    (h : List.Forall₂ Parameter.ComesFrom ps (ms.map fun m => m.statement.declaration)) :
    ClassifiedBlock.uniforms ⟨some name.text, ps⟩ = ms.map fun m => m.uniform name := by
  induction ms generalizing ps with
  | nil => cases h; rfl
  | cons m ms ih =>
    cases h with
    | cons hfirst hrest =>
      obtain ⟨hname, htype, -⟩ := hfirst
      rw [List.map_cons, ← ih hrest]
      simp [ClassifiedBlock.uniforms, hname, htype, MemberLine.uniform, m.type_eq, m.declaration_statement]

theorem classify_text {target : Option Text} (htarget : Scan.wanted target b.name.text = true) :
    (classify target b.text).name = some b.name.text ∧ (classify target b.text).uniforms = b.uniforms := by
  obtain ⟨found, hfound, hall⟩ := b.exists_classify htarget
  rw [hfound]
  exact ⟨rfl, uniforms_of_comesFrom b.name hall⟩

end PlainBlock

/-- **Two readers, one block.** For every block name and every list of members of the types a parameter can have, laid
out with the header and the closing brace on lines of their own, one member a line with any spacing, and blank lines
anywhere between them: the uniforms that the text declares are the members of that block in order, and a scan, with the
block's name for a target or with none, finds the same block, and parameters of the same types and names in the same
order. -/
theorem classified_eq_declared (b : PlainBlock) :
    Uniform.declared b.text = b.uniforms ∧
      ((classify none b.text).name = some b.name.text ∧ (classify none b.text).uniforms = Uniform.declared b.text) ∧
      (classify (some b.name.text) b.text).name = some b.name.text ∧
      (classify (some b.name.text) b.text).uniforms = Uniform.declared b.text := by
  rw [b.declared_text]
  exact ⟨rfl, b.classify_text rfl, b.classify_text (by simp [Scan.wanted])⟩

/-- a block and a member named like keywords, behind a line of blanks that are no spaces -/
example :
    let uniform : Word := ⟨"uniform", by decide, by decide⟩
    let tab : Spacing := ⟨"\t\x0b", by decide, by decide⟩
    let line : ParameterLine :=
      ⟨⟨tab, ⟨"mat4", by decide, by decide⟩, tab, by decide, uniform, tab, .empty⟩, .mat4, rfl⟩
    let b : PlainBlock := ⟨uniform, [.blank tab, .member line], [], rfl⟩
    b.text = "layout(std140) uniform uniform \x7b\n\t\x0b\n\t\x0bmat4\t\x0buniform\t\x0b;\n\x7d;" ∧
      Uniform.declared b.text = [⟨"mat4", "uniform", some "uniform"⟩] ∧
      classify none b.text = ⟨some "uniform", [⟨0, "uniform", .mat4, "Unknown", "(4 slots) "⟩]⟩ := by
  decide +kernel

end GlslInspect
