/-
Line endings.

Files are written with a newline at the end of each line, or with a carriage return in front of it.
`Catalog.withReturns` rewrites the files of a catalog to the second form. Flattening then goes the same way: a directive
ends at its closing quote, so the same files are opened and the same markers written, and each line of code is what it
was or has a carriage return in front of its newline (`Line.Returned`). Markers, and newlines added where a file lacks
its last one, stay as they are, so the flattened text has line endings of both forms.
Main result: `line_endings_do_not_matter`.
-/
import Mathlib.Data.List.Forall2
import GlslInspect.Include.Catalog
import GlslInspect.Proofs.CarriageReturn
import GlslInspect.Proofs.Directive
import GlslInspect.Proofs.Expansion
import GlslInspect.Proofs.Pieces

namespace GlslInspect

open Text

/-! ## Texts -/

namespace Text

/-- a text with a carriage return in front of each newline -/
def withReturns (t : Text) : Text := t.flatMap fun c => if c = '\n' then ['\r', '\n'] else [c]

@[simp] theorem withReturns_nil : withReturns [] = [] := rfl

theorem withReturns_append (t u : Text) : withReturns (t ++ u) = withReturns t ++ withReturns u := List.flatMap_append

theorem withReturns_cons {c : Char} (h : c ≠ '\n') (t : Text) : withReturns (c :: t) = c :: withReturns t := by
  simp [withReturns, h]

theorem withReturns_of_not_mem {t : Text} (h : '\n' ∉ t) : withReturns t = t := by
  induction t with
  | nil => rfl
  | cons c t ih =>
    have hc : c ≠ '\n' := fun heq => h (heq ▸ List.mem_cons_self)
    rw [withReturns_cons hc, ih (List.not_mem_of_not_mem_cons h)]

theorem IsPiece.withReturns_cases {t : Text} (h : IsPiece t) :
    withReturns t = t ∨ ∃ body, t = body ++ ['\n'] ∧ withReturns t = body ++ ['\r', '\n'] := by
  by_cases hend : t.getLast? = some '\n'
  · obtain ⟨body, hbody, rfl⟩ := h.isLine hend
    rw [withReturns_append, withReturns_of_not_mem hbody]
    exact Or.inr ⟨body, rfl, rfl⟩
  · obtain ⟨body, hbody, heq⟩ := h.isLine_append hend
    rw [List.append_cancel_right heq]
    exact Or.inl (withReturns_of_not_mem hbody)

theorem pieces_withReturns (t : Text) : pieces (withReturns t) = (pieces t).map withReturns := by
  induction t with
  | nil => rfl
  | cons c t ih =>
    by_cases hc : c = '\n'
    · subst hc
      change pieces ('\r' :: '\n' :: withReturns t) = _
      rw [pieces, if_neg (by decide), pieces, if_pos rfl, ih]
      rfl
    · rw [withReturns_cons hc, pieces, if_neg hc, ih, pieces, if_neg hc]
      cases pieces t <;> simp [consHead, withReturns_cons hc]

end Text

/-- a directive is the same with a carriage return in front of its newline -/
theorem includePath?_withReturns {piece : Text} (h : IsPiece piece) :
    includePath? (withReturns piece) = includePath? piece := by
  rcases h.withReturns_cases with hsame | ⟨body, rfl, hreturned⟩
  · rw [hsame]
  · rw [hreturned, includePath?_append_of_not_mem body (by decide), includePath?_append_of_not_mem body (by decide)]

/-! ## Sources -/

namespace Line

def marker? : Line → Option Line
  | .code _ => none
  | line => some line

/-- the second line is the first, or its code with a carriage return in front of the newline -/
inductive Returned : Line → Line → Prop
  | same (line : Line) : Returned line line
  | code (body : Text) : Returned (.code (body ++ ['\n'])) (.code (body ++ ['\r', '\n']))

namespace Returned

variable {a b : Line}

theorem marker?_eq (h : Returned a b) : a.marker? = b.marker? := by
  cases h <;> rfl

theorem text (h : Returned a b) : Text.Returned a.text b.text := by
  cases h with
  | same => exact .refl _
  | code body => exact (Text.Returned.refl body).append (.newline .nil)

theorem dropEndWhile_eq (h : Returned a b) :
    dropEndWhile Source.isLineEnd a.text = dropEndWhile Source.isLineEnd b.text := by
  cases h with
  | same => rfl
  | code body =>
    have hends : ∀ ending : Text, (∀ c ∈ ending, Source.isLineEnd c = true) →
        dropEndWhile Source.isLineEnd (body ++ ending) = dropEndWhile Source.isLineEnd body :=
      fun ending h => dropEndWhile_append h body
    exact (hends ['\n'] (List.all_eq_true.1 rfl)).trans (hends ['\r', '\n'] (List.all_eq_true.1 rfl)).symm

theorem closed (h : Returned a b) : Returned a.closed b.closed := by
  cases h with
  | same => exact .same _
  | code body =>
    have hfirst : Line.closed (.code (body ++ ['\n'])) = .code (body ++ ['\n']) := by simp [Line.closed]
    have hsecond : Line.closed (.code (body ++ ['\r', '\n'])) = .code (body ++ ['\r', '\n']) := by simp [Line.closed]
    rw [hfirst, hsecond]
    exact .code body

end Returned

theorem returned_of_isPiece {piece : Text} (h : IsPiece piece) :
    Returned (.code piece) (.code (withReturns piece)) := by
  rcases h.withReturns_cases with hsame | ⟨body, rfl, hreturned⟩
  · rw [hsame]
    exact .same _
  · rw [hreturned]
    exact .code body

end Line

namespace Source

/-- two sources with the same lines, up to carriage returns -/
def Returned (a b : Source) : Prop := List.Forall₂ Line.Returned a b

variable {a b : Source}

theorem Returned.closeLast (h : Returned a b) : Returned a.closeLast b.closeLast :=
  forall₂_closeLast (fun _ _ hline => hline.closed) h

theorem Returned.text (h : Returned a b) : Text.Returned a.text b.text := by
  induction h with
  | nil => exact .nil
  | cons hline _ ih => exact hline.text.append ih

theorem Returned.map_marker? (h : Returned a b) : a.map Line.marker? = b.map Line.marker? := by
  induction h with
  | nil => rfl
  | cons hline _ ih => rw [List.map_cons, List.map_cons, hline.marker?_eq, ih]

theorem Returned.lineText?_eq (h : Returned a b) (n : ℕ) : a.lineText? n = b.lineText? n := by
  cases n with
  | zero => rfl
  | succ n =>
    induction h generalizing n with
    | nil => rfl
    | cons hline _ ih =>
      cases n with
      | zero => exact congrArg some hline.dropEndWhile_eq
      | succ n => exact ih n

end Source

/-! ## Catalogs -/

namespace Catalog

/-- the catalog with a carriage return in front of each newline of its files -/
def withReturns (catalog : Catalog) : Catalog :=
  { catalog with files := catalog.files.map fun file => (file.1, Text.withReturns file.2) }

theorem lookup_withReturns (files : List (Text × Text)) (identity : Text) :
    (files.map fun file => (file.1, Text.withReturns file.2)).lookup identity =
      (files.lookup identity).map Text.withReturns := by
  induction files with
  | nil => rfl
  | cons file files ih =>
    rw [List.map_cons, List.lookup_cons, List.lookup_cons, ih]
    split <;> rfl

theorem read_withReturns (catalog : Catalog) (identity : Text) :
    catalog.withReturns.library.read identity = (catalog.library.read identity).map Text.withReturns := by
  have hlookup : catalog.withReturns.files.lookup identity = (catalog.files.lookup identity).map Text.withReturns :=
    lookup_withReturns catalog.files identity
  change catalog.withReturns.read identity = (catalog.read identity).map Text.withReturns
  unfold read
  rw [hlookup]
  cases catalog.files.lookup identity <;> rfl

/-- the same includes are answered; an opened file has its text with carriage returns -/
theorem enter_withReturns (catalog : Catalog) (limit : Option ℕ) (stack : List Text) (ask : Request) :
    catalog.withReturns.library.enter limit stack ask =
      (catalog.library.enter limit stack ask).map fun file => { file with text := Text.withReturns file.text } := by
  have hresolve : catalog.withReturns.library.resolve = catalog.library.resolve := rfl
  unfold Library.enter
  rw [hresolve]
  cases catalog.library.resolve ask.context ask.path with
  | error reason => rfl
  | ok file =>
    by_cases hopen : file.identity ∈ stack
    · simp only [hopen, if_true]
      rfl
    · simp only [hopen, if_false, read_withReturns]
      cases Library.pastLimit limit stack with
      | some n => rfl
      | none => cases catalog.library.read file.identity <;> rfl

/-- pieces with carriage returns are expanded to the same lines, up to carriage returns -/
theorem expand_withReturns (catalog : Catalog) (limit : Option ℕ) (stack : List Text) (context : Text)
    (pieces : List Text) (hpieces : ∀ piece ∈ pieces, IsPiece piece) :
    Source.Returned (catalog.library.expand limit stack context pieces).lines
      (catalog.withReturns.library.expand limit stack context (pieces.map Text.withReturns)).lines := by
  refine Library.expand_induction catalog.library limit
    (motive := fun stack context pieces tree => (∀ piece ∈ pieces, IsPiece piece) → Source.Returned tree.lines
      (catalog.withReturns.library.expand limit stack context (pieces.map Text.withReturns)).lines)
    ?_ ?_ ?_ ?_ stack context pieces hpieces
  · intro stack context _
    rw [List.map_nil, Library.expand_nil]
    exact .nil
  · intro stack context piece rest tree hpath ih hpieces
    obtain ⟨hpiece, hrest⟩ := List.forall_mem_cons.1 hpieces
    rw [← includePath?_withReturns hpiece] at hpath
    rw [List.map_cons, Library.expand_code hpath]
    exact .cons (Line.returned_of_isPiece hpiece) (ih hrest)
  · intro stack context piece rest path why tree hpath hentered ih hpieces
    obtain ⟨hpiece, hrest⟩ := List.forall_mem_cons.1 hpieces
    rw [← includePath?_withReturns hpiece] at hpath
    have hsame := catalog.enter_withReturns limit stack ⟨path, context⟩
    rw [hentered] at hsame
    rw [List.map_cons, Library.expand_skipped hpath hsame]
    exact .cons (.same _) (.cons (.same _) (.cons (.same _) (ih hrest)))
  · intro stack context piece rest path file body tree hpath hentered ihbody ih hpieces
    obtain ⟨hpiece, hrest⟩ := List.forall_mem_cons.1 hpieces
    rw [← includePath?_withReturns hpiece] at hpath
    have hsame := catalog.enter_withReturns limit stack ⟨path, context⟩
    rw [hentered] at hsame
    rw [List.map_cons, Library.expand_nested hpath hsame]
    have hbody := ihbody (wellCut_pieces file.text).isPiece
    rw [← pieces_withReturns] at hbody
    exact .cons (.same _) (List.rel_append hbody.closeLast (.cons (.same _) (ih hrest)))

/-- a file with carriage returns is flattened to the same lines, up to carriage returns -/
theorem flatten_withReturns (catalog : Catalog) (limit : Option ℕ) (context root : Text) :
    Source.Returned (catalog.library.flatten limit context root).source
      (catalog.withReturns.library.flatten limit context root).source := by
  have hsame := catalog.enter_withReturns limit [] ⟨root, context⟩
  unfold Library.flatten Flattening.source
  rw [hsame]
  cases catalog.library.enter limit [] ⟨root, context⟩ with
  | error why => exact .cons (.same _) .nil
  | ok file =>
    have hlines := catalog.expand_withReturns limit [file.identity] file.context (Text.pieces file.text)
      (wellCut_pieces file.text).isPiece
    rwa [← pieces_withReturns] at hlines

end Catalog

/-- **Line endings do not matter.** A file of a catalog, and the same file of the catalog with a carriage return in
front of every newline: whatever the depth limit and the wanted block, they are flattened to equally many lines, with
the same markers at the same places, the same text is shown for each line number, the same uniforms are declared and
the same block is found with the same parameters. -/
theorem line_endings_do_not_matter (catalog : Catalog) (limit : Option ℕ) (context root : Text)
    (target : Option Text) :
    let source := (catalog.library.flatten limit context root).source
    let returned := (catalog.withReturns.library.flatten limit context root).source
    returned.lineCount = source.lineCount ∧ returned.map Line.marker? = source.map Line.marker? ∧
      (∀ n, returned.lineText? n = source.lineText? n) ∧
      Uniform.declared returned.text = Uniform.declared source.text ∧
      classify target returned.text = classify target source.text := by
  intro source returned
  have hlines : Source.Returned source returned := catalog.flatten_withReturns limit context root
  refine ⟨hlines.length_eq.symm, hlines.map_marker?.symm, fun n => (hlines.lineText?_eq n).symm, ?_, ?_⟩
  · exact (Uniform.declared_returned hlines.text).symm
  · exact (classify_returned target hlines.text).symm

end GlslInspect
