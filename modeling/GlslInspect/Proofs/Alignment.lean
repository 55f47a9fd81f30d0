/-
Lines of a flattened source and lines of its text.

A flattened source is a list of lines; what is written is a text, and a compiler counts the newlines of that text. The
two counts agree as long as files are shown on one line (`Provider.ShowsOneLine`):
- `Expands.wellCut`: whatever is empty, unended, nested or refused, the lines of an expansion are the pieces of a text;
- `Source.aligned_of_wellCut`: so the line with a number is the piece with that number.
A path of a directive cannot hold a newline (`newline_not_mem_of_includePath?`), because it stands inside one piece.
-/
import GlslInspect.Include.Catalog
import GlslInspect.Proofs.Directive
import GlslInspect.Proofs.Expansion
import GlslInspect.Proofs.Location

namespace GlslInspect

open Text

/-! ## Sources as pieces of their text -/

/-- the piece of a text with a number, counted from one -/
def Text.piece? (t : Text) : ℕ → Option Text
  | 0 => none
  | n + 1 => (pieces t)[n]?

/-- a source has one entry for each physical line of its text -/
structure Source.Aligned (source : Source) : Prop where
  /-- nothing is written for no line -/
  nonempty : ∀ line ∈ source, line.text ≠ []
  /-- a newline stands only at the end of a line -/
  newline_last : ∀ line ∈ source, '\n' ∉ line.text.dropLast
  /-- only the last line may lack its newline -/
  ended : ∀ line ∈ source.dropLast, line.text.getLast? = some '\n'
  /-- the lines are the pieces of the text -/
  map_text : source.map Line.text = pieces source.text
  /-- a line is found under the number of its piece, and nothing under any other number -/
  lineText : ∀ n, source.lineText? n = (piece? source.text n).map (dropEndWhile Source.isLineEnd)

theorem Source.aligned_of_wellCut {source : Source} (h : WellCut (source.map Line.text)) : source.Aligned := by
  have hpieces : source.map Line.text = pieces source.text := by
    unfold Source.text
    rw [List.flatMap_def, pieces_flatten h]
  refine ⟨fun line hl => ?_, fun line hl => ?_, fun line hl => ?_, hpieces, fun n => ?_⟩
  · exact (h.isPiece _ (List.mem_map_of_mem hl)).1
  · exact (h.isPiece _ (List.mem_map_of_mem hl)).2
  · have hmem : line.text ∈ (source.map Line.text).dropLast := by
      rw [← List.map_dropLast]
      exact List.mem_map_of_mem hl
    exact (h.isLine_of_mem_dropLast _ hmem).getLast?
  · cases n with
    | zero => rfl
    | succ n =>
      rw [piece?, ← hpieces, List.getElem?_map, Option.map_map]
      rfl

/-! ## Lines that the tool makes -/

def Line.path : Line → Text
  | .code _ => []
  | .includeStart path => path
  | .includeEnd path => path
  | .circular path => path
  | .missing path => path
  | .depthLimit path _ => path

theorem Line.isLine_text {line : Line} (h : line.isMarker = true) (hpath : '\n' ∉ line.path) : IsLine line.text := by
  cases line with
  | code text => cases h
  | includeStart path => exact ⟨_, List.not_mem_append (by decide) hpath, rfl⟩
  | includeEnd path => exact ⟨_, List.not_mem_append (by decide) hpath, rfl⟩
  | circular path => exact ⟨_, List.not_mem_append (by decide) hpath, rfl⟩
  | missing path => exact ⟨_, List.not_mem_append (by decide) hpath, rfl⟩
  | depthLimit path limit =>
    refine ⟨_, List.not_mem_append (List.not_mem_append ?_ (by decide)) hpath, rfl⟩
    exact List.not_mem_append (by decide) (not_mem_ofNat (by decide))

theorem Line.isLine_of_marker {line : Line} (h : line.isMarker = true) (hpiece : IsPiece line.text) :
    IsLine line.text := by
  have hend : ∃ body, line.text = body ++ ['\n'] := by
    cases line with
    | code text => cases h
    | _ => exact ⟨_, rfl⟩
  obtain ⟨body, hbody⟩ := hend
  exact hpiece.isLine (by rw [hbody, List.getLast?_concat])

theorem Line.closed_of_marker {line : Line} (h : line.isMarker = true) : line.closed = line := by
  cases line with
  | code text => cases h
  | _ => rfl

theorem Line.isLine_closed {line : Line} (h : IsPiece line.text) : IsLine line.closed.text := by
  cases hm : line.isMarker with
  | true =>
    rw [Line.closed_of_marker hm]
    exact Line.isLine_of_marker hm h
  | false =>
    cases line with
    | code text =>
      change IsLine (if text.getLast? = some '\n' then text else text ++ ['\n'])
      split_ifs with hend
      · exact IsPiece.isLine h hend
      · exact IsPiece.isLine_append h hend
    | _ => cases hm

theorem Source.isLine_closeLast {source : Source} (h : WellCut (source.map Line.text)) :
    ∀ line ∈ source.closeLast, IsLine line.text := by
  induction source using Source.closeLast.induct with
  | case1 => simp [Source.closeLast]
  | case2 line =>
    intro last hlast
    rw [Source.closeLast, List.mem_singleton] at hlast
    subst hlast
    exact Line.isLine_closed h
  | case3 line next rest ih =>
    intro other hother
    rw [Source.closeLast] at hother
    rcases List.mem_cons.1 hother with rfl | hother
    · exact h.1
    · exact ih h.2 other hother

/-- an include between its markers is made of lines -/
theorem Source.isLine_group {path : Text} {child : Source} (hpath : '\n' ∉ path)
    (hchild : WellCut (child.map Line.text)) : ∀ line ∈ Source.group path child, IsLine line.text := by
  intro line hline
  unfold Source.group at hline
  rcases List.mem_cons.1 hline with rfl | hline
  · exact Line.isLine_text rfl hpath
  · rcases List.mem_append.1 hline with hline | hline
    · exact Source.isLine_closeLast hchild line hline
    · rw [List.mem_singleton] at hline
      subst hline
      exact Line.isLine_text rfl hpath

/-! ## Providers that show files on one line -/

namespace Provider

variable {σ ι κ : Type}

/-- in good contexts, a path without newline leads to files that are shown without newline, in good contexts again -/
def OneLine (provider : Provider σ ι κ) (good : κ → Prop) : Prop :=
  ∀ {state : σ} {context : κ} {path : Text} {file : Resolved ι κ} {next : σ}, good context → '\n' ∉ path →
    provider.resolve state context path = (.ok file, next) → '\n' ∉ file.display ∧ good file.context

/-- from a context on, files are shown without newline if all paths are spelled without -/
def ShowsOneLine (provider : Provider σ ι κ) (context : κ) : Prop :=
  ∃ good : κ → Prop, good context ∧ provider.OneLine good

variable [DecidableEq ι] {provider : Provider σ ι κ} {limit : Option ℕ} {guard : Finset ι} {depth : ℕ} {state : σ}
  {context : κ} {good : κ → Prop}

theorem isLine_of_enter (shows : provider.OneLine good) (hcontext : good context) {path : Text} (hpath : '\n' ∉ path)
    {line : Line} {next : σ} (h : provider.enter limit guard depth state ⟨path, context⟩ = (.error line, next)) :
    IsLine line.text := by
  rcases enter_eq_error h with rfl | ⟨file, mid, hresolve, hline⟩
  · exact Line.isLine_text rfl hpath
  · have hdisplay : '\n' ∉ file.display := (shows hcontext hpath hresolve).1
    rcases hline with rfl | ⟨n, rfl⟩ | rfl
    · exact Line.isLine_text rfl hdisplay
    · exact Line.isLine_text rfl hdisplay
    · exact Line.isLine_text rfl hdisplay

/-- pieces expand to lines that are pieces again: an include brings whole lines to where its directive stood -/
theorem Expands.wellCut (shows : provider.OneLine good) {pending : List Text} {out : Source} {final : σ}
    (h : provider.Expands limit guard depth context state pending out final) (hcontext : good context)
    (hpending : WellCut pending) : WellCut (out.map Line.text) := by
  induction h with
  | done => trivial
  | @code guard depth context state final piece rest out hcode later ih =>
    cases rest with
    | nil =>
      cases later
      exact hpending
    | cons next rest => exact wellCut_cons hpending.1 (ih hcontext hpending.2)
  | refused hpath hentered _ ih =>
    have hspelled := newline_not_mem_of_includePath? hpending.head hpath
    have hline := isLine_of_enter shows hcontext hspelled hentered
    rw [List.map_append]
    refine wellCut_append ?_ (ih hcontext hpending.tail)
    exact List.forall_mem_map.2 (Source.isLine_group hspelled hline.isPiece)
  | nested hpath hentered _ _ ihin ih =>
    have hspelled := newline_not_mem_of_includePath? hpending.head hpath
    obtain ⟨_, hresolve, -, -⟩ := enter_eq_ok hentered
    have hchild := ihin (shows hcontext hspelled hresolve).2 (wellCut_pieces _)
    rw [List.map_append]
    refine wellCut_append ?_ (ih hcontext hpending.tail)
    exact List.forall_mem_map.2 (Source.isLine_group hspelled hchild)

theorem Includes.wellCut (shows : provider.OneLine good) {path : Text} {answer : Source} {final : σ}
    (h : provider.Includes limit guard depth context state path answer final) (hcontext : good context)
    (hpath : '\n' ∉ path) : WellCut (answer.map Line.text) := by
  rcases h with ⟨line, hentered, rfl⟩ | ⟨file, next, hentered, hexpands⟩
  · exact (isLine_of_enter shows hcontext hpath hentered).isPiece
  · obtain ⟨_, hresolve, -, -⟩ := enter_eq_ok hentered
    exact hexpands.wellCut shows (shows hcontext hpath hresolve).2 (wellCut_pieces _)

theorem Answers.aligned {path : Text} {answer : Source} (h : provider.Answers limit state context path answer)
    (shows : provider.ShowsOneLine context) (hpath : '\n' ∉ path) : answer.Aligned := by
  obtain ⟨good, hcontext, hgood⟩ := shows
  obtain ⟨final, hanswer⟩ := answers_iff.1 h
  exact Source.aligned_of_wellCut (hanswer.wellCut hgood hcontext hpath)

end Provider

theorem Catalog.oneLine (catalog : Catalog) : catalog.library.provider.OneLine fun _ => True := by
  intro _ context path file next _ hpath hresolve
  have hfile : catalog.resolve context path = .ok file := congrArg Prod.fst hresolve
  unfold Catalog.resolve at hfile
  split at hfile
  · cases hfile
  · cases hfile
    exact ⟨hpath, trivial⟩

theorem Catalog.showsOneLine (catalog : Catalog) (context : Text) :
    catalog.library.provider.ShowsOneLine context :=
  ⟨_, trivial, catalog.oneLine⟩

theorem FileTree.showsOneLine (tree : FileTree) (cwd : Location) {context : Text} (h : '\n' ∉ context) :
    (tree.library cwd).provider.ShowsOneLine context := by
  refine ⟨fun context => '\n' ∉ context, h, fun {_ context path file next} hcontext hpath hresolve => ?_⟩
  have hfile : (tree.library cwd).resolve context path = .ok file := congrArg Prod.fst hresolve
  rw [resolve_library] at hfile
  cases hfile
  have hjoined : '\n' ∉ Path.join context path := by
    intro hmem
    rcases Path.mem_join hmem with hmem | hmem | hmem
    · exact hcontext hmem
    · exact hpath hmem
    · cases hmem
  refine ⟨hjoined, fun hmem => ?_⟩
  rcases Path.mem_directory hmem with hmem | hmem | hmem
  · exact hjoined hmem
  · cases hmem
  · cases hmem

/-! ## Alignment -/

/-- **Lines align.** A file that is named without newline, of any library and of any provider that shows its files on
one line: whatever the depth limit, what is flattened has one entry for each physical line of its text. -/
theorem flatten_aligned {ι κ : Type} [DecidableEq ι] (limit : Option ℕ) (context : κ) (path : Text)
    (hpath : '\n' ∉ path) :
    (∀ library : Library ι κ, library.provider.ShowsOneLine context →
      (library.flatten limit context path).source.Aligned) ∧
    ∀ {σ : Type} (provider : Provider σ ι κ) (state : σ) (answer : Source), provider.ShowsOneLine context →
      provider.Answers limit state context path answer → answer.Aligned := by
  refine ⟨fun library shows => ?_, fun provider state answer shows hanswer => ?_⟩
  · exact (Library.answers_iff.2 rfl).aligned shows hpath
  · exact hanswer.aligned shows hpath

/-- a file tree in which a shader includes a file without final newline, an empty one, itself and one that is missing -/
theorem flatten_aligned_tree :
    let tree : FileTree :=
      ⟨[(["main.fsh"], .file (.text "#include \"lib/a.glsl\"\r\n#include \"gone.glsl\"\nvoid main() {}")),
        (["lib"], .directory), (["lib", "a.glsl"], .file (.text "#include \"../main.fsh\"\n#include \"b.glsl\"")),
        (["lib", "b.glsl"], .file (.text ""))]⟩
    '\n' ∉ ("main.fsh" : Text) ∧ (tree.library []).provider.ShowsOneLine ([] : Text) ∧
      ((tree.library []).flatten none [] "main.fsh").source.Aligned := by
  intro tree
  have hpath : '\n' ∉ ("main.fsh" : Text) := by decide
  have shows : (tree.library []).provider.ShowsOneLine ([] : Text) := tree.showsOneLine [] (by simp)
  exact ⟨hpath, shows, (flatten_aligned none [] _ hpath).1 _ shows⟩

end GlslInspect
