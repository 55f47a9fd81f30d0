/-
Spellings of one file.

The directory handed on to a file's own includes is cut from the path as it was spelled, while files are told apart by
their identities. The two stay in step: along any chain of includes (`Path.chain`) whose paths end in names, an include
is found from the parent of the identity of the file that asks for it (`Path.identity_join_of_fileName?`), however that
file was spelled. So what a file expands to does not hang on its spelling either: two requests for one file are answered
alike (`FileTree.enter_alike`), and then so are all requests below them, even by paths that end in a double dot
(`FileTree.alike_expand`).
Main result: `includes_found_beside_their_file`.
-/
import GlslInspect.Proofs.Location
import GlslInspect.Proofs.Visit

namespace GlslInspect

/-! ## Chains of includes -/

namespace Path

/-- the paths of the files along a chain of includes, each taken relative to the directory of the one before it -/
def chain (context : Text) : List Text → List Text
  | [] => []
  | path :: rest => join context path :: chain (directory (join context path)) rest

theorem chain_concat {context joined : Text} {paths : List Text} (h : (chain context paths).getLast? = some joined)
    (path : Text) : chain context (paths ++ [path]) = chain context paths ++ [join (directory joined) path] := by
  induction paths generalizing context with
  | nil => cases h
  | cons first rest ih =>
    cases rest with
    | nil =>
      obtain rfl : join context first = joined := by simpa [chain] using h
      rfl
    | cons second rest =>
      have hlater : (chain (directory (join context first)) (second :: rest)).getLast? = some joined := by
        rwa [chain, chain, List.getLast?_cons_cons, ← chain] at h
      rw [List.cons_append, chain, ih hlater]
      rfl

/-- from a path that ends in a name, an include is found from the parent of the identity of the file -/
theorem identity_join_of_fileName? (cwd : Location) {joined : Text} (h : (fileName? joined).isSome = true)
    (path : Text) :
    identity cwd (join (directory joined) path) = normalize (join (directory (identity cwd joined)) path) := by
  obtain ⟨name, hname⟩ := Option.isSome_iff_exists.1 h
  have hjoined : spelledNames cwd joined = spelledNames cwd (directory joined) ++ [name] :=
    (locate_of_fileName? _ hname).2
  have hplain := isPlain_of_mem_spelledNames cwd joined
  have hdirectory : directory (identity cwd joined) = rooted (spelledNames cwd (directory joined)) := by
    rw [hjoined] at hplain
    rw [identity_eq, hjoined, directory_rooted hplain (by simp), List.dropLast_concat]
  rw [hdirectory, normalize_join (isAbsolute_rooted _), identity_eq, spelledNames_join,
    locate_rooted (isPlain_of_mem_spelledNames cwd (directory joined))]

end Path

/-! ## Answers to two spellings -/

/-- two lines that are the same but for how a file is spelled -/
inductive Line.Alike (cwd : Location) : Line → Line → Prop
  | same (line : Line) : Alike cwd line line
  | circular {first second : Text} (identity : Path.identity cwd first = Path.identity cwd second) :
    Alike cwd (.circular first) (.circular second)
  | missing {first second : Text} (identity : Path.identity cwd first = Path.identity cwd second) :
    Alike cwd (.missing first) (.missing second)
  | depthLimit {first second : Text} (identity : Path.identity cwd first = Path.identity cwd second) (limit : ℕ) :
    Alike cwd (.depthLimit first limit) (.depthLimit second limit)

/-- two sources with the same lines but for how files are spelled -/
def Source.Alike (cwd : Location) (first second : Source) : Prop := List.Forall₂ (Line.Alike cwd) first second

theorem Line.Alike.closed {cwd : Location} {a b : Line} (h : Alike cwd a b) : Alike cwd a.closed b.closed := by
  cases h with
  | same line => exact .same _
  | circular hplace => exact .circular hplace
  | missing hplace => exact .missing hplace
  | depthLimit hplace limit => exact .depthLimit hplace limit

def Library.included {ι κ : Type} [DecidableEq ι] (library : Library ι κ) (limit : Option ℕ) (stack : List ι)
    (ask : Request κ) : Source :=
  match library.enter limit stack ask with
  | .error why => [why.line ask]
  | .ok file => (library.expand limit (file.identity :: stack) file.context (Text.pieces file.text)).lines

/-- the path of the file that is asked for -/
def Request.joined (ask : Request) : Text := Path.join ask.context ask.path

namespace FileTree

variable {tree : FileTree} {cwd : Location} {limit : Option ℕ} {stack : List Text}

/-- the root is no file, so a path without names leads to a file only where the directory it is joined to is one -/
theorem dropIdle_ne_nil_of_read {context path text : Text}
    (hnone : ∀ other, (tree.library cwd).read (Path.identity cwd context) ≠ .ok other)
    (hread : (tree.library cwd).read (Path.identity cwd (Path.join context path)) = .ok text) :
    Path.dropIdle (Path.segments path) ≠ [] := by
  intro hnil
  have hidle : ∀ segment ∈ Path.segments path, Path.isIdle segment = true := List.rdropWhile_eq_nil_iff.1 hnil
  have hnames := Path.spelledNames_join cwd context path
  rw [Path.locate, Path.walk_of_idle hidle] at hnames
  cases habsolute : Path.isAbsolute path with
  | true =>
    rw [habsolute, if_pos rfl] at hnames
    rw [Path.identity_eq, hnames] at hread
    exact read_root [] (read_of_library hread)
  | false =>
    rw [habsolute, if_neg Bool.false_ne_true] at hnames
    rw [Path.identity_eq_iff.2 hnames] at hread
    exact hnone text hread

/-- two requests for one file are both refused, with lines that differ in the spelling, or both open it -/
theorem enter_alike (tree : FileTree) (limit : Option ℕ) (stack : List Text) {first second : Request}
    (h : Path.identity cwd first.joined = Path.identity cwd second.joined) :
    (∃ why why', (tree.library cwd).enter limit stack first = .error why ∧
      (tree.library cwd).enter limit stack second = .error why' ∧
      Line.Alike cwd (why.line first) (why'.line second)) ∨
    ∃ text, (tree.library cwd).read (Path.identity cwd first.joined) = .ok text ∧
      (tree.library cwd).enter limit stack first =
        .ok ⟨⟨Path.identity cwd first.joined, first.joined, Path.directory first.joined⟩, text⟩ ∧
      (tree.library cwd).enter limit stack second =
        .ok ⟨⟨Path.identity cwd first.joined, second.joined, Path.directory second.joined⟩, text⟩ := by
  have hresolve (ask : Request) : (tree.library cwd).resolve ask.context ask.path =
      .ok ⟨Path.identity cwd ask.joined, ask.joined, Path.directory ask.joined⟩ := tree.resolve_library cwd _ _
  unfold Library.enter
  rw [hresolve, hresolve]
  dsimp only
  rw [← h]
  by_cases hopen : Path.identity cwd first.joined ∈ stack
  · rw [if_pos hopen, if_pos hopen]
    exact Or.inl ⟨_, _, rfl, rfl, .circular h⟩
  · rw [if_neg hopen, if_neg hopen]
    cases Library.pastLimit limit stack with
    | some n => exact Or.inl ⟨_, _, rfl, rfl, .depthLimit h n⟩
    | none =>
      cases hread : (tree.library cwd).read (Path.identity cwd first.joined) with
      | error reason => exact Or.inl ⟨_, _, rfl, rfl, .missing h⟩
      | ok text => exact Or.inr ⟨text, rfl, rfl, rfl⟩

/-- from two spellings of a directory that is no file, the same pieces expand alike -/
theorem alike_expand {context other : Text} (pieces : List Text)
    (hsame : Path.identity cwd context = Path.identity cwd other)
    (hnone : ∀ text, (tree.library cwd).read (Path.identity cwd context) ≠ .ok text) :
    Source.Alike cwd ((tree.library cwd).expand limit stack context pieces).lines
      ((tree.library cwd).expand limit stack other pieces).lines := by
  have hjoined {context other : Text} (path : Text) (hsame : Path.identity cwd context = Path.identity cwd other) :
      Path.identity cwd (Request.joined ⟨path, context⟩) = Path.identity cwd (Request.joined ⟨path, other⟩) := by
    rw [Path.identity_eq_iff] at hsame ⊢
    unfold Request.joined
    rw [Path.spelledNames_join, Path.spelledNames_join, hsame]
  refine Library.expand_induction (tree.library cwd) limit
    (motive := fun stack context pieces expansion => ∀ other, Path.identity cwd context = Path.identity cwd other →
      (∀ text, (tree.library cwd).read (Path.identity cwd context) ≠ .ok text) →
      Source.Alike cwd expansion.lines ((tree.library cwd).expand limit stack other pieces).lines)
    ?_ ?_ ?_ ?_ stack context pieces other hsame hnone
  · intro stack context other _ _
    rw [Library.expand_nil]
    exact .nil
  · intro stack context piece rest expansion hpath ih other hsame hnone
    rw [Library.expand_code hpath]
    exact .cons (.same _) (ih other hsame hnone)
  · intro stack context piece rest path why expansion hpath hentered ih other hsame hnone
    rcases enter_alike tree limit stack (hjoined path hsame) with
      ⟨_, why', hfirst, hsecond, hline⟩ | ⟨_, -, hfirst, -⟩
    · cases hentered.symm.trans hfirst
      rw [Library.expand_skipped hpath hsecond]
      exact .cons (.same _) (.cons hline (.cons (.same _) (ih other hsame hnone)))
    · cases hentered.symm.trans hfirst
  · intro stack context piece rest path file body expansion hpath hentered ihbody ih other hsame hnone
    rcases enter_alike tree limit stack (hjoined path hsame) with
      ⟨_, _, hfirst, -, -⟩ | ⟨text, hread, hfirst, hsecond⟩
    · cases hentered.symm.trans hfirst
    · cases hentered.symm.trans hfirst
      have hnamed : Path.dropIdle (Path.segments path) ≠ [] := dropIdle_ne_nil_of_read hnone hread
      have hinner : Path.identity cwd (Path.directory (Path.join context path)) =
          Path.identity cwd (Path.directory (Path.join other path)) := by
        rw [Path.identity_eq_iff] at hsame ⊢
        unfold Path.spelledNames at hsame ⊢
        rw [Path.locate_directory_join _ context hnamed, Path.locate_directory_join _ other hnamed, hsame]
      have hbody := ihbody (Path.directory (Path.join other path)) hinner
        (read_directory (Path.dropIdle_join_ne_nil context hnamed) hread)
      rw [Library.expand_nested hpath hsecond]
      refine .cons (.same _) (List.rel_append ?_ (.cons (.same _) (ih other hsame hnone)))
      exact Source.forall₂_closeLast (fun _ _ hline => hline.closed) hbody

/-- two spellings of one file, each of which ends in a name, are answered alike -/
theorem alike_included (tree : FileTree) (limit : Option ℕ) (stack : List Text) {first second : Request}
    (hfirst : (Path.fileName? first.joined).isSome = true) (hsecond : (Path.fileName? second.joined).isSome = true)
    (hsame : Path.identity cwd first.joined = Path.identity cwd second.joined) :
    Source.Alike cwd ((tree.library cwd).included limit stack first)
      ((tree.library cwd).included limit stack second) := by
  unfold Library.included
  rcases enter_alike tree limit stack hsame with ⟨why, why', hwhy, hwhy', hline⟩ | ⟨text, hread, hopened, hopened'⟩
  · rw [hwhy, hwhy']
    exact .cons hline .nil
  · obtain ⟨name, hname⟩ := Option.isSome_iff_exists.1 hfirst
    obtain ⟨name', hname'⟩ := Option.isSome_iff_exists.1 hsecond
    obtain ⟨hne, hplace⟩ := Path.locate_of_fileName? (Path.locate [] cwd.text) hname
    obtain ⟨-, hplace'⟩ := Path.locate_of_fileName? (Path.locate [] cwd.text) hname'
    have hdirectory :
        Path.identity cwd (Path.directory first.joined) = Path.identity cwd (Path.directory second.joined) := by
      rw [Path.identity_eq_iff] at hsame ⊢
      exact (List.append_inj' (hplace.symm.trans (hsame.trans hplace')) rfl).1
    rw [hopened, hopened']
    exact alike_expand _ hdirectory (read_directory hne hread)

/-! ## Visits -/

theorem resolved_of_enter {ask : Request} {file : Opened Text}
    (h : (tree.library cwd).enter limit stack ask = .ok file) :
    file.identity = Path.identity cwd ask.joined ∧ file.context = Path.directory ask.joined := by
  have hresolved := (Library.opens_of_enter h).resolved
  rw [resolve_library] at hresolved
  rw [← Except.ok.inj hresolved]
  exact ⟨rfl, rfl⟩

theorem exists_chain_of_visits {ask : Request} {visit : Visit Text Text}
    (h : (tree.library cwd).Visits limit ask visit) :
    ∃ joined rest, (Path.chain ask.context (ask.path :: visit.around.reverse)).getLast? = some joined ∧
      visit.context = Path.directory joined ∧ visit.stack = Path.identity cwd joined :: rest := by
  induction h with
  | first hentered =>
    obtain ⟨hidentity, hcontext⟩ := resolved_of_enter hentered
    exact ⟨ask.joined, [], rfl, hcontext, by rw [hidentity]⟩
  | @inner visit path file _ _ hentered ih =>
    obtain ⟨joined, rest, hlast, houter, -⟩ := ih
    obtain ⟨hidentity, hcontext⟩ := resolved_of_enter hentered
    rw [houter] at hidentity hcontext
    refine ⟨Path.join (Path.directory joined) path, visit.stack, ?_, hcontext, by rw [hidentity]; rfl⟩
    rw [List.reverse_cons, ← List.cons_append, Path.chain_concat hlast, List.getLast?_concat]

end FileTree

/-- **Includes are found beside their file.** Along any chain of includes from any context, if each path on it ends in a
name, an include means the normal form of its path, taken relative to the parent of the identity of the file that asks
for it, or taken by itself if it is absolute. So it is for each file that is visited when a file is flattened. And so
the spelling of a file does not matter for what it expands to: two spellings of one file, each of which ends in a name,
are replaced by the same lines of code and the same markers where the same files are open; only the paths that sentinels
show differ, and they have the same identities. -/
theorem includes_found_beside_their_file (tree : FileTree) (cwd : Location) (limit : Option ℕ) :
    (∀ (context : Text) (paths : List Text) (joined : Text),
      (∀ path ∈ Path.chain context paths, (Path.fileName? path).isSome = true) →
      (Path.chain context paths).getLast? = some joined → ∀ path : Text,
        (FileTree.resolveInclude cwd (Path.directory joined) path).identity =
          Path.normalize (Path.join (Path.directory (Path.identity cwd joined)) path)) ∧
    (∀ (ask : Request) (visit : Visit Text Text), (tree.library cwd).Visits limit ask visit →
      (∀ path ∈ Path.chain ask.context (ask.path :: visit.around.reverse), (Path.fileName? path).isSome = true) →
      ∃ identity rest, visit.stack = identity :: rest ∧ ∀ path : Text, ∃ file,
        (tree.library cwd).resolve visit.context path = .ok file ∧
          file.identity = Path.normalize (Path.join (Path.directory identity) path)) ∧
    (∀ (stack : List Text) (first second : Request),
      (Path.fileName? first.joined).isSome = true → (Path.fileName? second.joined).isSome = true →
      Path.identity cwd first.joined = Path.identity cwd second.joined →
      Source.Alike cwd ((tree.library cwd).included limit stack first)
        ((tree.library cwd).included limit stack second)) := by
  refine ⟨fun context paths joined hnamed hlast path => ?_, fun ask visit hvisits hnamed => ?_,
    fun stack first second hfirst hsecond hsame => ?_⟩
  · exact Path.identity_join_of_fileName? cwd (hnamed joined (List.mem_of_getLast? hlast)) path
  · obtain ⟨joined, rest, hlast, hcontext, hstack⟩ := FileTree.exists_chain_of_visits hvisits
    refine ⟨_, rest, hstack, fun path => ⟨_, tree.resolve_library cwd visit.context path, ?_⟩⟩
    rw [hcontext]
    exact Path.identity_join_of_fileName? cwd (hnamed joined (List.mem_of_getLast? hlast)) path
  · exact FileTree.alike_included tree limit stack hfirst hsecond hsame

/-- a file that is asked for by two paths, and asked for again by the file that it includes, through a link: the two
spellings show in the sentinels only -/
theorem includes_found_beside_their_file_twice :
    let tree : FileTree := ⟨[(["work"], .directory), (["work", "lib"], .directory), (["work", "l"], .link "lib"),
      (["work", "lib", "a"], .file (.text "#include \"../b\"\nfloat x;")),
      (["work", "b"], .file (.text "#include \"./l/a\"\n#include \"l/..\"\n#include \"/c\"\n"))]⟩
    let cwd : Location := ["work"]
    let first : Request := ⟨"l/a", []⟩
    let second : Request := ⟨"../../work//l/./a", "lib"⟩
    let visit : Visit Text Text := ⟨["/work/b", "/work/l/a"], ["../b"], "l/..",
      "#include \"./l/a\"\n#include \"l/..\"\n#include \"/c\"\n"⟩
    (∀ path ∈ Path.chain [] ["l/a", "../b"], (Path.fileName? path).isSome = true) ∧
      (FileTree.resolveInclude cwd "l/.." "./l/a").identity = "/work/l/a" ∧
      (tree.library cwd).Visits none first visit ∧
      (∃ identity rest, visit.stack = identity :: rest ∧ ∀ path : Text, ∃ file,
        (tree.library cwd).resolve visit.context path = .ok file ∧
          file.identity = Path.normalize (Path.join (Path.directory identity) path)) ∧
      Path.identity cwd first.joined = Path.identity cwd second.joined ∧
      Source.Alike cwd ((tree.library cwd).included none [] first) ((tree.library cwd).included none [] second) ∧
      (tree.library cwd).included none [] first ≠ (tree.library cwd).included none [] second := by
  intro tree cwd first second visit
  have hnamed : ∀ path ∈ Path.chain [] ["l/a", "../b"], (Path.fileName? path).isSome = true := by decide
  have hidentity : (FileTree.resolveInclude cwd "l/.." "./l/a").identity =
      Path.normalize (Path.join (Path.directory (Path.identity cwd "l/../b")) "./l/a") :=
    (includes_found_beside_their_file tree cwd none).1 [] ["l/a", "../b"] "l/../b" hnamed (by decide) "./l/a"
  let file : Opened Text := ⟨⟨"/work/l/a", "l/a", "l"⟩, "#include \"../b\"\nfloat x;"⟩
  let inner : Opened Text := ⟨⟨"/work/b", "l/../b", "l/.."⟩, visit.text⟩
  have hfile : (tree.library cwd).enter none [] first = .ok file := by decide +kernel
  have hinner : (tree.library cwd).enter none [file.identity] ⟨"../b", file.context⟩ = .ok inner := by decide +kernel
  have hasks : Visit.Asks ⟨[file.identity], [], file.context, file.text⟩ "../b" :=
    ⟨"#include \"../b\"\n", by decide, by decide⟩
  have hvisits : (tree.library cwd).Visits none first visit := .inner (.first hfile) hasks hinner
  have hsame : Path.identity cwd first.joined = Path.identity cwd second.joined := by decide +kernel
  refine ⟨hnamed, hidentity.trans (by decide +kernel), hvisits, ?_, hsame, ?_, by decide +kernel⟩
  · exact (includes_found_beside_their_file tree cwd none).2.1 first visit hvisits hnamed
  · exact (includes_found_beside_their_file tree cwd none).2.2 [] first second (by decide) (by decide) hsame

end GlslInspect
