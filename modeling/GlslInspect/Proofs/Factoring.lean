/-
Members of a block in a file of their own.

A run of member lines is moved to another file, and a directive stands where they stood. The directive is replaced by
the moved lines between two markers (`Library.text_flatten_include`), so the block has the same lines as before and two
comments more. Each of the comments takes the next member with it (`MemberLine.members_factored`).
Main result: `declared_factored`, which says what is still declared, and `factoring_loses_members`.
-/
import GlslInspect.Include.Catalog
import GlslInspect.Proofs.Alignment
import GlslInspect.Proofs.BlockText
import GlslInspect.Proofs.Guard
import GlslInspect.Proofs.Outline
import GlslInspect.Proofs.Visit

namespace GlslInspect

open Text

/-! ## One include -/

structure IncludeLine where
  text : Text
  path : Text
  isLine : IsLine text
  asks : includePath? text = some path

/-- no line of a text asks for a file -/
def Text.Plain (t : Text) : Prop := ∀ piece ∈ pieces t, includePath? piece = none

/-- a text as an include writes it: unless it is empty, it ends in a newline -/
def Text.closed (t : Text) : Text := if t = [] ∨ t.getLast? = some '\n' then t else t ++ ['\n']

theorem plain_of_not_mem {t : Text} (h : '#' ∉ t) : t.Plain := by
  intro piece hpiece
  have hmem : '#' ∉ piece := fun hmem => h (by rw [← flatten_pieces t]; exact List.mem_flatten_of_mem hpiece hmem)
  cases hpath : includePath? piece with
  | none => rfl
  | some path =>
    obtain ⟨d, rfl, -⟩ := exists_directive_of_includePath? hpath
    exact absurd (by simp [Directive.text, Directive.front]) hmem

theorem prefix_closed (t : Text) : t <+: t.closed := by
  unfold Text.closed
  split
  · exact List.prefix_refl t
  · exact List.prefix_append t _

theorem Source.text_append (a b : Source) : text (a ++ b) = text a ++ text b := List.flatMap_append

theorem Source.text_code (t : Text) : text ((pieces t).map .code) = t := by
  rw [text, List.flatMap_map]
  exact List.flatMap_id'.trans (flatten_pieces t)

theorem Source.text_closeLast_code (t : Text) : text (closeLast ((pieces t).map .code)) = t.closed := by
  rcases List.eq_nil_or_concat (pieces t) with hnil | ⟨before, last, heq⟩
  · have ht : t = [] := by rw [← flatten_pieces t, hnil]; rfl
    subst ht
    rfl
  · rw [List.concat_eq_append] at heq
    have hlast : last ≠ [] := ((wellCut_pieces t).isPiece last (by simp [heq])).1
    have ht : t = before.flatten ++ last := by rw [← flatten_pieces t, heq]; simp
    have hend : t.getLast? = last.getLast? := by rw [ht, List.getLast?_append_of_ne_nil _ hlast]
    have hne : t ≠ [] := by simp [ht, hlast]
    have hbefore : text (before.map .code) = before.flatten := by
      rw [text, List.flatMap_map]
      exact List.flatMap_id'
    have hline : text (closeLast ([last].map .code)) = if last.getLast? = some '\n' then last else last ++ ['\n'] :=
      List.flatMap_singleton ..
    rw [heq, List.map_append, closeLast_append_of_ne_nil _ (by simp), text_append, hbefore, hline, Text.closed, hend]
    by_cases hclosed : last.getLast? = some '\n'
    · simp [hclosed, ht]
    · simp [hclosed, ht, hlast]

namespace Library

variable {ι κ : Type} [DecidableEq ι] {library : Library ι κ} {limit : Option ℕ} {ask : Request κ}

/-- a directive among plain lines is replaced by the text that it asks for, between two markers -/
theorem text_flatten_include {root file : Opened ι κ} {before after : Text} (directive : IncludeLine)
    (hroot : library.enter limit [] ask = .ok root) (htext : root.text = before ++ (directive.text ++ after))
    (hfile : library.enter limit [root.identity] ⟨directive.path, root.context⟩ = .ok file)
    (hfresh : EndsFresh before) (hbefore : before.Plain) (hafter : after.Plain) (hplain : file.text.Plain) :
    (library.flatten limit ask.context ask.path).source.text =
      before ++ ((Line.includeStart directive.path).text ++
        (file.text.closed ++ ((Line.includeEnd directive.path).text ++ after))) := by
  rw [source_of_opened hroot, htext, pieces_append hfresh, pieces_line_append directive.isLine, lines_expand_append,
    expand_nested directive.asks hfile, Expansion.lines, lines_expand_of_plain _ _ hbefore,
    lines_expand_of_plain _ _ hafter, lines_expand_of_plain _ _ hplain, Source.text_append, Source.text_code]
  congr 1
  rw [Source.text, List.flatMap_cons, ← Source.text, Source.text_append, Source.text_closeLast_code]
  congr 2
  rw [Source.text, List.flatMap_cons, ← Source.text, Source.text_code]

end Library

/-! ## Members behind a marker -/

namespace MemberLine

open GlslInspect.Uniform

theorem laterMembers_comment {c : Text} (hc : ';' ∉ c) (t : Text) :
    laterMembers ('/' :: '/' :: (c ++ t)) = laterMembers t := by
  have hfront : ';' ∉ '/' :: '/' :: c := by simp [hc]
  unfold laterMembers
  rw [← List.cons_append, ← List.cons_append, Pattern.past?_append hfront]

/-- behind a comment all lines but the first declare their members -/
theorem laterMembers_lines (ms : List MemberLine) {t : Text} (ht : laterMembers t = members t) :
    laterMembers (textOf ms ++ t) = ms.tail.map member ++ members t := by
  cases ms with
  | nil => exact ht
  | cons m ms =>
    rw [textOf, List.flatMap_cons, List.append_assoc, laterMembers_line, ← textOf, members_lines]
    rfl

/-- of lines between two comments and behind them, the first ones are lost -/
theorem members_factored (before moved after : List MemberLine) {start stop : Text} (hstart : ';' ∉ start)
    (hstop : ';' ∉ stop) :
    members (textOf before ++ ('/' :: '/' :: (start ++ (textOf moved ++ ('/' :: '/' :: (stop ++ textOf after)))))) =
      (before ++ moved.tail ++ after.tail).map member := by
  have hafter : laterMembers (textOf after) = after.tail.map member := by
    have hlines : laterMembers (textOf after ++ []) = after.tail.map member ++ [] := laterMembers_lines after rfl
    rwa [List.append_nil, List.append_nil] at hlines
  rw [members_lines, members_comment hstart, laterMembers_lines, members_comment hstop, hafter]
  · simp
  · rw [members_comment hstop, laterMembers_comment hstop]

end MemberLine

/-! ## Factored blocks -/

/-- a block with a run of its member lines in a file of their own -/
structure FactoredBlock where
  name : Word
  before : List MemberLine
  moved : List MemberLine
  after : List MemberLine
  /-- the line that stands where the moved lines stood -/
  directive : IncludeLine
  /-- what stands behind the block -/
  ending : Text
  all_blank : ending.all isBlank = true

namespace FactoredBlock

open GlslInspect.Uniform MemberLine

theorem blank (block : FactoredBlock) : ∀ c ∈ block.ending, isBlank c = true := List.all_eq_true.1 block.all_blank

/-- the block in one file -/
def whole (block : FactoredBlock) : Text :=
  blockText block.name (textOf (block.before ++ block.moved ++ block.after)) block.ending

/-- what is left of the block where lines are moved away -/
def remainder (block : FactoredBlock) : Text :=
  blockText block.name (textOf block.before ++ (block.directive.text ++ textOf block.after)) block.ending

/-- a file holds what is left of the block, and the file that it asks for holds the moved lines, whose last newline may
be missing -/
structure StoredIn {ι κ : Type} [DecidableEq ι] (block : FactoredBlock) (library : Library ι κ) (limit : Option ℕ)
    (ask : Request κ) (root file : Opened ι κ) : Prop where
  opened : library.enter limit [] ask = .ok root
  remainder : root.text = block.remainder
  asked : library.enter limit [root.identity] ⟨block.directive.path, root.context⟩ = .ok file
  moved : file.text.closed = textOf block.moved

/-- what the block is flattened to: its lines in their places, and a marker in front of and behind the moved ones -/
def flattened (block : FactoredBlock) : Text :=
  blockText block.name
    (textOf block.before ++ ((Line.includeStart block.directive.path).text ++
      (textOf block.moved ++ ((Line.includeEnd block.directive.path).text ++ textOf block.after)))) block.ending

theorem endsFresh_append {a b : Text} (ha : EndsFresh a) (hb : EndsFresh b) : EndsFresh (a ++ b) := by
  rcases hb with rfl | hb
  · rwa [List.append_nil]
  · exact .inr (by simp [hb])

theorem endsFresh_textOf (ms : List MemberLine) : EndsFresh (textOf ms) := by
  induction ms with
  | nil => exact .inl rfl
  | cons m ms ih => exact endsFresh_append (.inr m.isLine_text.getLast?) ih

theorem endsFresh_opening (name : Word) : EndsFresh (blockOpening name) := by
  unfold blockOpening
  rw [← List.append_assoc]
  exact .inr (List.getLast?_append_of_ne_nil _ (by decide))

theorem StoredIn.text_flatten {ι κ : Type} [DecidableEq ι] {block : FactoredBlock} {library : Library ι κ}
    {limit : Option ℕ} {ask : Request κ} {root file : Opened ι κ} (h : block.StoredIn library limit ask root file) :
    (library.flatten limit ask.context ask.path).source.text = block.flattened := by
  have hlines : ∀ ms : List MemberLine, '#' ∉ textOf ms := not_mem_textOf (by decide) (by decide) (by decide)
  have hopening : '#' ∉ blockOpening block.name := by
    have hname : '#' ∉ block.name.text := block.name.not_mem (by decide)
    unfold blockOpening
    simp [hname]
  have hending : '#' ∉ block.ending := fun hmem => by cases block.blank _ hmem
  have hfresh : EndsFresh (blockOpening block.name ++ textOf block.before) :=
    endsFresh_append (endsFresh_opening block.name) (endsFresh_textOf block.before)
  have htext : root.text = (blockOpening block.name ++ textOf block.before) ++
      (block.directive.text ++ (textOf block.after ++ '\x7d' :: ';' :: block.ending)) := by
    rw [h.remainder]
    unfold FactoredBlock.remainder blockText
    simp
  have hmoved : '#' ∉ file.text := fun hmem => hlines block.moved (h.moved ▸ (prefix_closed file.text).subset hmem)
  rw [Library.text_flatten_include block.directive h.opened htext h.asked hfresh
    (plain_of_not_mem (by simp [hopening, hlines])) (plain_of_not_mem (by simp [hlines, hending]))
    (plain_of_not_mem hmoved), h.moved]
  unfold flattened blockText
  simp

theorem declared_whole (block : FactoredBlock) :
    declared block.whole = (block.before ++ block.moved ++ block.after).map (uniform block.name) := by
  have hmembers := members_lines (block.before ++ block.moved ++ block.after) []
  rw [List.append_nil] at hmembers
  exact declared_blockText block.name (hmembers.trans (List.append_nil _))
    (not_mem_textOf (by decide) (by decide) (by decide) _) (unread_lines _) block.blank

theorem declared_flattened (block : FactoredBlock) (hend : ';' ∉ block.directive.path)
    (hbrace : '\x7d' ∉ block.directive.path) :
    declared block.flattened = (block.before ++ block.moved.tail ++ block.after.tail).map (uniform block.name) := by
  have hline : '\n' ∉ block.directive.path :=
    newline_not_mem_of_includePath? block.directive.isLine.isPiece block.directive.asks
  have hlines : ∀ ms : List MemberLine, '\x7d' ∉ textOf ms := not_mem_textOf (by decide) (by decide) (by decide)
  have hstart : (Line.includeStart block.directive.path).text =
      '/' :: '/' :: (" >>> INCLUDE START: " ++ block.directive.path ++ ['\n']) := rfl
  have hstop : (Line.includeEnd block.directive.path).text =
      '/' :: '/' :: (" <<< INCLUDE END: " ++ block.directive.path ++ ['\n']) := rfl
  unfold flattened
  rw [hstart, hstop]
  refine declared_blockText block.name ?_ ?_ ?_ block.blank
  · exact members_factored block.before block.moved block.after (by simp [hend]) (by simp [hend])
  · simp [hlines, hbrace]
  · exact (unread_lines _).append (.append (unread_comment (by simp [hline])) (.append (unread_lines _)
      (.append (unread_comment (by simp [hline])) (unread_lines _))))

end FactoredBlock

/-- **Factoring.** A block with one member on each line, of which a run of lines is moved to a file of its own, and a
directive stands in their place: flattened, it declares the same uniforms in the same order as in one file, but for the
first of the moved members and the first of those behind them. The path of the directive has no semicolon and no
closing brace. -/
theorem declared_factored {ι κ : Type} [DecidableEq ι] (library : Library ι κ) (limit : Option ℕ) (ask : Request κ)
    (block : FactoredBlock) (root file : Opened ι κ) (h : block.StoredIn library limit ask root file)
    (hend : ';' ∉ block.directive.path) (hbrace : '\x7d' ∉ block.directive.path) :
    Uniform.declared block.whole = (block.before ++ block.moved ++ block.after).map (MemberLine.uniform block.name) ∧
      Uniform.declared (library.flatten limit ask.context ask.path).source.text =
        (block.before ++ block.moved.tail ++ block.after.tail).map (MemberLine.uniform block.name) := by
  refine ⟨block.declared_whole, ?_⟩
  rw [h.text_flatten]
  exact block.declared_flattened hend hbrace

/-- five members, the second and the third in a file without final newline: `b` and `d` are lost -/
theorem declared_factored_catalog :
    let space : Spacing := ⟨" ", by decide, by decide⟩
    let float : Word := ⟨"float", by decide, by decide⟩
    let line (name : Word) : MemberLine := ⟨space, float, space, by decide, name, .empty, .empty⟩
    let a := line ⟨"a", by decide, by decide⟩
    let b := line ⟨"b", by decide, by decide⟩
    let c := line ⟨"c", by decide, by decide⟩
    let d := line ⟨"d", by decide, by decide⟩
    let e := line ⟨"e", by decide, by decide⟩
    let directive : IncludeLine :=
      ⟨"  #include \"part\" // moved\n", "part", ⟨"  #include \"part\" // moved", by decide, rfl⟩, by decide⟩
    let block : FactoredBlock :=
      ⟨⟨"B", by decide, by decide⟩, [a], [b, c], [d, e], directive, "\n", by decide⟩
    let catalog : Catalog := ⟨[("main", block.remainder), ("part", " float b;\n float c;")], [], []⟩
    let root : Opened Text := ⟨⟨"main", "main", "main"⟩, block.remainder⟩
    let file : Opened Text := ⟨⟨"part", "part", "main>part"⟩, " float b;\n float c;"⟩
    block.StoredIn catalog.library (some 1) ⟨"main", []⟩ root file ∧ ';' ∉ block.directive.path ∧
      '\x7d' ∉ block.directive.path ∧
      Uniform.declared (catalog.library.flatten (some 1) [] "main").source.text =
        [a, c, e].map (MemberLine.uniform block.name) := by
  intro space float line a b c d e directive block catalog root file
  have hstored : block.StoredIn catalog.library (some 1) ⟨"main", []⟩ root file := ⟨by rfl, by rfl, by rfl, by rfl⟩
  have hend : ';' ∉ block.directive.path := by decide
  have hbrace : '\x7d' ∉ block.directive.path := by decide
  exact ⟨hstored, hend, hbrace,
    (declared_factored catalog.library (some 1) ⟨"main", []⟩ block root file hstored hend hbrace).2⟩

/-- what factoring can do: the members behind the markers are lost, a path with semicolons declares uniforms, and a path
with a closing brace loses all -/
theorem factoring_loses_members :
    let flat (files : List (Text × Text)) : List Uniform :=
      Uniform.declared ((Catalog.library ⟨files, [], []⟩).flatten none [] "main").source.text
    let member (type name : Text) : Uniform := ⟨type, name, some "B"⟩
    Uniform.declared "uniform B \x7b\nfloat a;\nfloat b;\nfloat c;\n\x7d;\n" =
        [member "float" "a", member "float" "b", member "float" "c"] ∧
      flat [("main", "uniform B \x7b\n#include \"part\"\nfloat c;\n\x7d;\n"), ("part", "float a;\nfloat b;\n")] =
        [member "float" "b"] ∧
      flat [("main", "uniform B \x7b\n#include \"p;vec2 x;q\"\n\x7d;\n"), ("p;vec2 x;q", "float a;\n")] =
        [member "vec2" "x", member "float" "a", member "vec2" "x"] ∧
      flat [("main", "uniform B \x7b\nfloat a;\n#include \"\x7d\"\n\x7d;\n"), ("\x7d", "float b;\n")] = [] := by
  decide +kernel

end GlslInspect
