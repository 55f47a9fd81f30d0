/-
The identities of files in a tree.

A file is told apart by its identity, the normal form of the path that was spelled, seen from the working directory
(`Path.identity`). Two paths have one identity exactly when they are walked to one stack of names
(`Path.identity_eq_iff`); where links stand on the way, that need not be where they lead, and reading goes by the
identity. An identity is a path from the root with plain names only, so it is followed name by name
(`FileTree.way_rooted`), and no file that is read stands inside another (`FileTree.read_rooted_concat`).
-/
import GlslInspect.Include.Disk
import GlslInspect.Proofs.FileTree
import GlslInspect.Proofs.NormalForm

namespace GlslInspect

/-! ## Include paths -/

section IncludePaths

variable {α ε : Type} [DecidableEq α] [PathUnit α] (shown : List α → Text) {context path : List α}

/-- the working directory is not asked for where the path is absolute without it -/
theorem resolvePath_of_isAbsolute (h : Path.isAbsolute (Path.join context path) = true) (here : Except ε (List α)) :
    resolvePath shown here context path = .ok ⟨shown (Path.normalize (Path.join context path)),
      shown (Path.join context path), Path.directory (Path.join context path)⟩ := by
  unfold resolvePath
  dsimp only
  rw [if_pos h]
  rfl

theorem resolvePath_of_relative (h : Path.isAbsolute (Path.join context path) = false) (here : Except ε (List α)) :
    resolvePath shown here context path = here.map fun cwd => ⟨shown (Path.normalize (Path.join cwd
      (Path.join context path))), shown (Path.join context path), Path.directory (Path.join context path)⟩ := by
  unfold resolvePath
  dsimp only
  rw [if_neg (Bool.eq_false_iff.1 h)]
  cases here <;> rfl

/-- where the working directory is known, it is always the same to join it -/
theorem resolvePath_ok (cwd : List α) : resolvePath shown (.ok cwd : Except ε (List α)) context path =
    .ok ⟨shown (Path.normalize (Path.join cwd (Path.join context path))), shown (Path.join context path),
      Path.directory (Path.join context path)⟩ := by
  cases h : Path.isAbsolute (Path.join context path) with
  | true => rw [resolvePath_of_isAbsolute shown h, Path.join_of_isAbsolute cwd h]
  | false => rw [resolvePath_of_relative shown h, Except.map]

end IncludePaths

/-! ## Identities -/

namespace Path

variable {cwd names : Location} {path other : Text}

/-- the identity of the file that a path names, seen from a working directory, by the spelling of both -/
def identity (cwd : Location) (path : Text) : Text := normalize (join cwd.text path)

/-- the names that a path spells, seen from a working directory that is known by its path -/
def spelledNames (cwd : Location) (path : Text) : Location := locate (locate [] cwd.text) path

theorem isPlain_of_mem_spelledNames (cwd : Location) (path : Text) : ∀ name ∈ spelledNames cwd path, IsPlain name :=
  isPlain_of_mem_locate_locate cwd.text path

theorem identity_eq (cwd : Location) (path : Text) : identity cwd path = rooted (spelledNames cwd path) :=
  normalize_join (isAbsolute_rooted cwd) path

theorem identity_eq_iff : identity cwd path = identity cwd other ↔ spelledNames cwd path = spelledNames cwd other := by
  rw [identity_eq, identity_eq]
  exact ⟨rooted_inj (isPlain_of_mem_spelledNames cwd path) (isPlain_of_mem_spelledNames cwd other),
    fun hsame => by rw [hsame]⟩

theorem spelledNames_join (cwd : Location) (base path : Text) :
    spelledNames cwd (join base path) = locate (spelledNames cwd base) path :=
  locate_join _ base path

end Path

namespace FileTree

variable {tree : FileTree} {cwd place names : Location} {path text : Text}

def resolveInclude (cwd : Location) (context path : Text) : Resolved Text where
  identity := Path.identity cwd (Path.join context path)
  display := Path.join context path
  context := Path.directory (Path.join context path)

theorem resolve_library (tree : FileTree) (cwd : Location) (context path : Text) :
    (tree.library cwd).resolve context path = .ok (resolveInclude cwd context path) :=
  resolvePath_ok id cwd.text

/-! ## Reading by identity -/

theorem read_of_library {identity : Text} (h : (tree.library cwd).read identity = .ok text) :
    tree.read [] identity = .ok text := by
  change tree.readInclude identity = .ok text at h
  unfold readInclude at h
  split at h
  · rename_i hread
    cases h
    exact hread
  · cases h

/-- an identity is followed by its names -/
theorem way_rooted (h : ∀ name ∈ names, Path.IsPlain name) (hne : names ≠ []) : way (Path.rooted names) = names := by
  have hnonempty : ∀ name ∈ names, decide (name ≠ []) = true := fun name hname => decide_eq_true (h name hname).ne_nil
  have hsegments : Path.segments (Path.rooted names) = [] :: names := by
    rw [Path.rooted, Path.segments_slash_cons, Path.segments_join_names hne h]
  have hslash : endsInSlash (Path.rooted names) = false := decide_eq_false (Path.getLast?_rooted hne h)
  rw [way, hslash, followed, hsegments, List.filter_cons_of_neg (by simp), List.filter_eq_self.2 hnonempty]
  exact List.append_nil names

theorem origin_rooted (cwd names : Location) : origin cwd (Path.rooted names) = [] :=
  if_pos (Path.isAbsolute_rooted names)

theorem read_root (cwd : Location) : tree.read cwd (Path.rooted []) ≠ .ok text := by
  intro h
  obtain ⟨place, hlocate, hnode⟩ := read_eq_ok_iff.1 h
  obtain ⟨-, left, hled⟩ := locate?_eq_ok_iff.1 hlocate
  have hway : way (Path.rooted []) = [['.']] := rfl
  have hroot : tree.node? [] = some .directory := rfl
  rw [hway, origin_rooted] at hled
  have hstays : tree.Leads [] [['.']] linkLimit ⟨[], linkLimit⟩ :=
    .step (step?_dot hroot) (linkAt?_of_directory hroot) (.here _ _)
  obtain rfl : place = [] := hled.unique (.refl tree) hstays
  cases hnode

theorem read_rooted_concat {name other : Text} (h : ∀ each ∈ names ++ [name], Path.IsPlain each)
    (hread : tree.read [] (Path.rooted (names ++ [name])) = .ok text) :
    tree.read [] (Path.rooted names) ≠ .ok other := by
  intro hother
  by_cases hne : names = []
  · subst hne
    exact read_root [] hother
  · obtain ⟨place, hlocate, -⟩ := read_eq_ok_iff.1 hread
    obtain ⟨-, left, hled⟩ := locate?_eq_ok_iff.1 hlocate
    obtain ⟨file, hfile, hnode⟩ := read_eq_ok_iff.1 hother
    obtain ⟨-, left', hled'⟩ := locate?_eq_ok_iff.1 hfile
    rw [way_rooted h (by simp), origin_rooted] at hled
    rw [way_rooted (fun each heach => h each (List.mem_append_left _ heach)) hne, origin_rooted] at hled'
    obtain ⟨mid, hfirst, hlast⟩ := hled.exists_mid
    obtain rfl : mid.place = file := hfirst.unique (.refl tree) hled'
    rw [hlast.start_of_cons] at hnode
    cases hnode

/-- the directory of a path to a file that can be included is no such file -/
theorem read_directory (hne : Path.dropIdle (Path.segments path) ≠ [])
    (hread : (tree.library cwd).read (Path.identity cwd path) = .ok text) (other : Text) :
    (tree.library cwd).read (Path.identity cwd (Path.directory path)) ≠ .ok other := by
  intro hother
  have hfile := read_of_library hread
  have hfile' := read_of_library hother
  have hidle : ¬ Path.isIdle ((Path.dropIdle (Path.segments path)).getLast hne) = true :=
    List.rdropWhile_last_not Path.isIdle _ hne
  have hstep : Path.spelledNames cwd path =
      Path.step (Path.spelledNames cwd (Path.directory path)) ((Path.dropIdle (Path.segments path)).getLast hne) :=
    Path.locate_eq_step _ hne
  have hplain := Path.isPlain_of_mem_spelledNames cwd path
  have hplain' := Path.isPlain_of_mem_spelledNames cwd (Path.directory path)
  rw [Path.identity_eq] at hfile hfile'
  rw [Path.step, if_neg hidle] at hstep
  split_ifs at hstep
  · -- behind a double dot the file would stand around the other one
    rcases List.eq_nil_or_concat' (Path.spelledNames cwd (Path.directory path)) with hnil | ⟨before, name, hconcat⟩
    · rw [hnil] at hfile'
      exact read_root [] hfile'
    · rw [hconcat, List.dropLast_concat] at hstep
      rw [hconcat] at hfile' hplain'
      rw [hstep] at hfile
      exact read_rooted_concat hplain' hfile' hfile
  · rw [hstep] at hfile hplain
    exact read_rooted_concat hplain hfile hfile'

end FileTree

end GlslInspect
