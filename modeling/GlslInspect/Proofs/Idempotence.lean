/-
Flattening what is flattened already.

A flattened text asks for nothing more: its code is made of pieces that are no directives, closed by a newline or not,
and its markers are comments (`Library.plain_flatten`). Its lines are the pieces of its text as long as files are shown
on one line, so no two of them run together to a directive; and a text without directives is copied when it is flattened
(`Library.source_flatten_plain`).
Main result: `flatten_idempotent`.
-/
import GlslInspect.Proofs.Alignment
import GlslInspect.Proofs.Directive
import GlslInspect.Proofs.Factoring
import GlslInspect.Proofs.IncludeGraph

namespace GlslInspect

open Text

/-! ## Lines that ask for nothing -/

theorem Skip.isMarker_line {ι κ : Type} (ask : Request κ) (why : Skip ι κ) : (why.line ask).isMarker = true := by
  cases why <;> rfl

theorem Line.includePath?_marker {line : Line} (h : line.isMarker = true) : includePath? line.text = none := by
  cases line with
  | code text => cases h
  | _ => rfl

theorem Line.includePath?_closed {line : Line} (h : includePath? line.text = none) :
    includePath? line.closed.text = none := by
  cases line with
  | code text =>
    change includePath? (if text.getLast? = some '\n' then text else text ++ ['\n']) = none
    split_ifs with hend
    · exact h
    · rw [includePath?_append_of_not_mem text (by decide)]
      exact h
  | _ => exact h

namespace Library

variable {ι κ : Type} [DecidableEq ι] {library : Library ι κ} {limit : Option ℕ}

theorem plain_expand (stack : List ι) (context : κ) (pieces : List Text) :
    ∀ line ∈ (library.expand limit stack context pieces).lines, includePath? line.text = none := by
  refine expand_induction library limit
    (motive := fun _ _ _ tree => ∀ line ∈ tree.lines, includePath? line.text = none)
    ?_ ?_ ?_ ?_ stack context pieces
  · intro stack context line hline
    cases hline
  · intro stack context piece rest tree hpath ih line hline
    rcases List.mem_cons.1 hline with rfl | hline
    · exact hpath
    · exact ih line hline
  · intro stack context piece rest path why tree _ _ ih line hline
    rcases List.mem_cons.1 hline with rfl | hline
    · rfl
    rcases List.mem_cons.1 hline with rfl | hline
    · exact Line.includePath?_marker (why.isMarker_line _)
    rcases List.mem_cons.1 hline with rfl | hline
    · rfl
    · exact ih line hline
  · intro stack context piece rest path file body tree _ _ ihbody ih line hline
    rcases List.mem_cons.1 hline with rfl | hline
    · rfl
    rcases List.mem_append.1 hline with hline | hline
    · exact Source.forall_mem_closeLast (P := fun line => includePath? line.text = none)
        (fun _ => Line.includePath?_closed) ihbody line hline
    rcases List.mem_cons.1 hline with rfl | hline
    · rfl
    · exact ih line hline

theorem plain_flatten (context : κ) (path : Text) :
    ∀ line ∈ (library.flatten limit context path).source, includePath? line.text = none := by
  cases hentered : library.enter limit [] ⟨path, context⟩ with
  | error why =>
    have hsource := source_of_refused hentered
    dsimp only at hsource
    rw [hsource]
    intro line hline
    rw [List.mem_singleton] at hline
    subst hline
    exact Line.includePath?_marker (why.isMarker_line _)
  | ok file =>
    have hsource := source_of_opened hentered
    dsimp only at hsource
    rw [hsource]
    exact plain_expand _ _ _

theorem enter_first (limit : Option ℕ) (ask : Request κ) {file : Resolved ι κ} {text : Text}
    (hresolve : library.resolve ask.context ask.path = .ok file) (hread : library.read file.identity = .ok text) :
    library.enter limit [] ask = .ok { file with text := text } := by
  have hwithin : pastLimit limit ([] : List ι) = none := pastLimit_eq_none_iff.2 fun n _ => Nat.zero_le n
  simp only [enter, hresolve, List.not_mem_nil, if_false, hwithin, hread]

/-- a text without directives is copied -/
theorem source_flatten_plain {ask : Request κ} {file : Opened ι κ} (h : library.enter limit [] ask = .ok file)
    (hplain : file.text.Plain) :
    (library.flatten limit ask.context ask.path).source = (pieces file.text).map .code := by
  rw [source_of_opened h, lines_expand_of_plain _ _ hplain]

end Library

/-- the lines of a text, cut at the newlines, are its pieces, with their newlines or without -/
theorem Text.exists_piece_of_mem_splitOn {ps : List Text} (h : WellCut ps) :
    ∀ line ∈ splitOn '\n' ps.flatten, line = [] ∨ ∃ piece ∈ ps, piece = line ∨ piece = line ++ ['\n'] := by
  induction ps with
  | nil =>
    intro line hline
    exact Or.inl (List.mem_singleton.1 hline)
  | cons piece ps ih =>
    intro line hline
    rw [List.flatten_cons] at hline
    by_cases hend : piece.getLast? = some '\n'
    · obtain ⟨body, hbody, rfl⟩ := h.head.isLine hend
      rw [List.append_assoc, List.singleton_append, splitOn_append_cons _ hbody] at hline
      rcases List.mem_cons.1 hline with rfl | hline
      · exact Or.inr ⟨_, List.mem_cons_self, Or.inr rfl⟩
      · rcases ih h.tail line hline with hnil | ⟨other, hother, hsame⟩
        · exact Or.inl hnil
        · exact Or.inr ⟨other, List.mem_cons_of_mem _ hother, hsame⟩
    · -- only the last piece can lack its newline
      have hps : ps = [] := by
        cases ps with
        | nil => rfl
        | cons next ps => exact absurd h.1.getLast? hend
      subst hps
      have hplain : '\n' ∉ piece := by
        obtain ⟨body, hbody, hclosed⟩ := h.head.isLine_append hend
        rwa [← List.append_cancel_right hclosed] at hbody
      rw [List.flatten_nil, List.append_nil, splitOn_of_not_mem hplain, List.mem_singleton] at hline
      exact Or.inr ⟨piece, List.mem_cons_self, Or.inl hline.symm⟩

/-- **Flattening is idempotent.** A file of a catalog that is named without newline: whatever the depth limit, no line
of what it is flattened to is a directive. A catalog with that text for its only file, asked for by any path that
leads to it, is flattened to that text again, and every line of it is code. -/
theorem flatten_idempotent (catalog : Catalog) (limit : Option ℕ) (context root : Text) (hroot : '\n' ∉ root) :
    let text := (catalog.library.flatten limit context root).source.text
    (∀ line ∈ splitOn '\n' text, includePath? line = none) ∧
    ∀ (copy : Catalog) (name path : Text) (again : Option ℕ) (start : Text),
      copy.files = [(name, text)] → copy.name? path = some name →
      (copy.library.flatten again start path).source = (pieces text).map .code ∧
      (copy.library.flatten again start path).source.text = text := by
  intro text
  have haligned := (Library.answers_iff.2 rfl : catalog.library.provider.Answers limit () context root _).aligned
    (catalog.showsOneLine context) hroot
  have hpieces : pieces text = (catalog.library.flatten limit context root).source.map Line.text :=
    haligned.map_text.symm
  have hplain : text.Plain := by
    intro piece hpiece
    rw [hpieces] at hpiece
    obtain ⟨line, hline, rfl⟩ := List.mem_map.1 hpiece
    exact Library.plain_flatten context root line hline
  refine ⟨fun line hline => ?_, fun copy name path again start hfiles hname => ?_⟩
  · rw [← flatten_pieces text] at hline
    rcases exists_piece_of_mem_splitOn (wellCut_pieces text) line hline with rfl | ⟨piece, hpiece, rfl | rfl⟩
    · rfl
    · exact hplain _ hpiece
    · rw [← includePath?_append_of_not_mem line (t := ['\n']) (by decide)]
      exact hplain _ hpiece
  · obtain ⟨file, hresolve, rfl⟩ := copy.names.exists_resolve start hname
    have hread : copy.library.read file.identity = .ok text := by
      change copy.read file.identity = .ok text
      simp [Catalog.read, hfiles]
    have hentered := Library.enter_first again ⟨path, start⟩ hresolve hread
    have hcopy := Library.source_flatten_plain hentered hplain
    dsimp only at hcopy
    rw [hcopy]
    exact ⟨rfl, Source.text_code text⟩

/-- a file with a circular include and half a directive at its end, flattened and flattened again under another name,
with no include allowed -/
theorem flatten_idempotent_renamed :
    let catalog : Catalog :=
      ⟨[("main", "#include \"part\"\r\nvoid main() {}"), ("part", "#include \"main\"\n#include \"half")], [], []⟩
    let text := (catalog.library.flatten none [] "main").source.text
    let copy : Catalog := ⟨[("flat", text)], [("again", "flat")], []⟩
    '\n' ∉ ("main" : Text) ∧ copy.name? "again" = some "flat" ∧ (∀ line ∈ splitOn '\n' text, includePath? line = none) ∧
      (copy.library.flatten (some 0) [] "again").source = (pieces text).map .code ∧
      (copy.library.flatten (some 0) [] "again").source.text = text := by
  intro catalog text copy
  have hroot : '\n' ∉ ("main" : Text) := by decide
  have hname : copy.name? "again" = some "flat" := rfl
  obtain ⟨hlines, hagain⟩ := flatten_idempotent catalog none [] "main" hroot
  exact ⟨hroot, hname, hlines, hagain copy "flat" "again" (some 0) [] rfl hname⟩

end GlslInspect
