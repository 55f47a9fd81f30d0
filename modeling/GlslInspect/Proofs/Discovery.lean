/-
The shaders of a directory.

A directory is listed by its path, and each file in it is named by that path with the name behind it. Such a path leads
to the file unless it is too long (`FileTree.locate?_join`), so the shaders found are the files with the extension and
the links to files, but for those (`Host.mem_discover`); they come sorted and without repetition
(`Host.sorted_discover`). That names are spelled like names and places are listed once is what makes a list of entries a
file tree (`FileTree.WellFormed`).
-/
import Mathlib.Data.List.Basic
import GlslInspect.Proofs.FileTree
import GlslInspect.Proofs.Paths
import GlslInspect.Proofs.Text
import GlslInspect.Validation

namespace GlslInspect

/-! ## The order of texts -/

namespace Text

variable {a b c : Text}

theorem le_total (a b : Text) : le a b = true ∨ le b a = true := by
  induction a generalizing b with
  | nil => exact Or.inl rfl
  | cons x a ih =>
    cases b with
    | nil => exact Or.inr rfl
    | cons y b =>
      by_cases hxy : x = y
      · subst hxy
        simpa [le] using ih b
      · simp only [le, hxy, Ne.symm hxy, if_false, decide_eq_true_eq]
        by_cases hlt : x < y
        · exact Or.inl hlt
        · exact Or.inr (Char.not_le.1 fun hle => hxy (Char.le_antisymm hle (Char.not_lt.1 hlt)))

theorem le_trans (hab : le a b = true) (hbc : le b c = true) : le a c = true := by
  induction a generalizing b c with
  | nil => rfl
  | cons x a ih =>
    cases b with
    | nil => cases hab
    | cons y b =>
      cases c with
      | nil => cases hbc
      | cons z c =>
        rw [le] at hab hbc ⊢
        by_cases hxy : x = y
        · subst hxy
          rw [if_pos rfl] at hab
          split_ifs at hbc ⊢ with hxz
          · exact ih hab hbc
          · exact hbc
        · rw [if_neg hxy, decide_eq_true_eq] at hab
          by_cases hyz : y = z
          · subst hyz
            rw [if_neg hxy, decide_eq_true_eq]
            exact hab
          · rw [if_neg hyz, decide_eq_true_eq] at hbc
            have hxz : x < z := Char.lt_trans hab hbc
            rw [if_neg (fun heq : x = z => Char.lt_irrefl x (heq ▸ hxz)), decide_eq_true_eq]
            exact hxz

/-- what two texts begin with does not matter for their order -/
theorem le_append_left (front : Text) : le (front ++ a) (front ++ b) = le a b := by
  induction front with
  | nil => rfl
  | cons x front ih => rw [List.cons_append, List.cons_append, le, if_pos rfl, ih]

end Text

/-! ## Names and places -/

namespace FileTree

/-- the names that a directory can hold -/
structure IsName (name : Text) : Prop where
  ne_nil : name ≠ []
  slash : '/' ∉ name
  nul : '\x00' ∉ name
  dot : name ≠ "."
  dots : name ≠ ".."
  short : Text.byteLength name ≤ nameLimit

/-- each place is listed once, under names -/
structure WellFormed (tree : FileTree) : Prop where
  distinct : (tree.entries.map Prod.fst).Nodup
  named : ∀ entry ∈ tree.entries, ∀ name ∈ entry.1, IsName name

instance (name : Text) : Decidable (IsName name) :=
  decidable_of_iff (name ≠ [] ∧ '/' ∉ name ∧ '\x00' ∉ name ∧ name ≠ "." ∧ name ≠ ".." ∧
      Text.byteLength name ≤ nameLimit)
    ⟨fun ⟨a, b, c, d, e, f⟩ => ⟨a, b, c, d, e, f⟩, fun ⟨a, b, c, d, e, f⟩ => ⟨a, b, c, d, e, f⟩⟩

instance (tree : FileTree) : Decidable tree.WellFormed :=
  decidable_of_iff ((tree.entries.map Prod.fst).Nodup ∧ ∀ entry ∈ tree.entries, ∀ name ∈ entry.1, IsName name)
    ⟨fun ⟨a, b⟩ => ⟨a, b⟩, fun ⟨a, b⟩ => ⟨a, b⟩⟩

variable {tree : FileTree} {cwd place : Location} {directory name : Text} {node : Node}

theorem WellFormed.mem_entries_iff (h : tree.WellFormed) (hplace : place ≠ []) :
    (place, node) ∈ tree.entries ↔ tree.node? place = some node := by
  rw [node?, if_neg hplace]
  constructor
  · intro hmem
    obtain ⟨before, after, hentries⟩ := List.append_of_mem hmem
    refine List.lookup_eq_some_iff.2 ⟨before, after, hentries, fun entry hentry => ?_⟩
    have hdistinct := h.distinct
    rw [hentries, List.map_append, List.map_cons, List.nodup_append] at hdistinct
    have hne : entry.1 ≠ place :=
      hdistinct.2.2 entry.1 (List.mem_map_of_mem hentry) place List.mem_cons_self
    exact bne_iff_ne.2 hne.symm
  · intro hlookup
    obtain ⟨before, after, hentries, -⟩ := List.lookup_eq_some_iff.1 hlookup
    rw [hentries]
    exact List.mem_append_right _ List.mem_cons_self

/-- an entry as a child of a directory, if it is one -/
def childOf? (place : Location) (entry : Location × Node) : Option (Text × Node) :=
  if entry.1.dropLast = place then entry.1.getLast?.map fun name => (name, entry.2) else none

theorem children_eq (tree : FileTree) (place : Location) :
    tree.children place = tree.entries.filterMap (childOf? place) := by
  unfold children
  refine List.filterMap_congr fun ⟨other, node⟩ _ => ?_
  unfold childOf?
  dsimp only
  cases other.getLast? <;> simp

theorem childOf?_eq_some_iff {entry : Location × Node} :
    childOf? place entry = some (name, node) ↔ entry = (place ++ [name], node) := by
  obtain ⟨other, found⟩ := entry
  unfold childOf?
  constructor
  · intro h
    split_ifs at h with hparent
    obtain ⟨last, hlast, heq⟩ := Option.map_eq_some_iff.1 h
    obtain ⟨before, rfl⟩ := List.getLast?_eq_some_iff.1 hlast
    rw [List.dropLast_concat] at hparent
    cases heq
    rw [hparent]
  · rintro ⟨⟩
    simp

/-- what stands in a directory, by its name -/
theorem WellFormed.mem_children_iff (h : tree.WellFormed) :
    (name, node) ∈ tree.children place ↔ tree.node? (place ++ [name]) = some node := by
  rw [children_eq, List.mem_filterMap, ← h.mem_entries_iff (by simp)]
  constructor
  · rintro ⟨entry, hentry, hchild⟩
    exact childOf?_eq_some_iff.1 hchild ▸ hentry
  · intro hentry
    exact ⟨_, hentry, childOf?_eq_some_iff.2 rfl⟩

/-- no name stands twice in a directory -/
theorem WellFormed.distinct_children (h : tree.WellFormed) (place : Location) :
    (tree.children place).Pairwise fun child other => child.1 ≠ other.1 := by
  rw [children_eq, List.pairwise_filterMap]
  refine (List.pairwise_map.1 h.distinct).imp ?_
  rintro entry other hne ⟨name, node⟩ hchild ⟨second, found⟩ hsecond rfl
  rw [childOf?_eq_some_iff] at hchild hsecond
  exact hne (by rw [hchild, hsecond])

theorem WellFormed.isName (h : tree.WellFormed) (hnode : tree.node? (place ++ [name]) = some node) : IsName name :=
  h.named _ ((h.mem_entries_iff (by simp)).2 hnode) name (List.mem_append_right _ (List.mem_singleton_self name))

end FileTree

/-! ## Paths into a directory -/

/-- a directory's path as it stands in front of names -/
def Path.front (directory : Text) : Text := if directory.getLast? = some '/' then directory else directory ++ "/"

namespace FileTree

variable {tree : FileTree} {cwd place : Location} {directory name path : Text} {node : Node}

theorem join_eq_front (hdirectory : directory ≠ []) (hname : IsName name) :
    Path.join directory name = Path.front directory ++ name := by
  have hrelative : Path.isAbsolute name = false := by
    obtain ⟨c, rest, rfl⟩ := List.exists_cons_of_ne_nil hname.ne_nil
    have hc : c ≠ '/' := fun heq => hname.slash (heq ▸ List.mem_cons_self)
    rw [Path.isAbsolute_cons]
    exact decide_eq_false hc
  have hnonempty : directory.isEmpty = false := by simpa using hdirectory
  unfold Path.join Path.front
  rw [hrelative, hnonempty]
  split_ifs <;> simp_all

/-- a path with a name behind it goes where the path goes, and on by the name -/
theorem followed_front (hname : IsName name) :
    followed (Path.front directory ++ name) = followed directory ++ [name] := by
  have hlast : Path.segments name = [name] := Text.splitOn_of_not_mem hname.slash
  unfold Path.front followed
  split_ifs with hslash
  · obtain ⟨before, rfl⟩ := List.getLast?_eq_some_iff.1 hslash
    unfold Path.segments at hlast ⊢
    rw [PathUnit.slash_char] at hlast ⊢
    rw [List.append_assoc, List.singleton_append, Text.splitOn_append, Text.splitOn_append, hlast]
    simp [Text.splitOn, hname.ne_nil]
  · unfold Path.segments at hlast ⊢
    rw [PathUnit.slash_char] at hlast ⊢
    rw [List.append_assoc, show ("/" : Text) ++ name = '/' :: name from rfl, Text.splitOn_append, hlast]
    simp [hname.ne_nil]

theorem origin_front (hdirectory : directory ≠ []) :
    origin cwd (Path.front directory ++ name) = origin cwd directory := by
  obtain ⟨c, rest, rfl⟩ := List.exists_cons_of_ne_nil hdirectory
  unfold origin Path.front
  split_ifs <;> simp_all [Path.isAbsolute_cons]

theorem endsInSlash_front (hname : IsName name) : endsInSlash (Path.front directory ++ name) = false := by
  have hlast : (Path.front directory ++ name).getLast? = name.getLast? :=
    List.getLast?_append_of_ne_nil _ hname.ne_nil
  unfold endsInSlash
  rw [hlast, decide_eq_false_iff_not]
  exact fun heq => hname.slash (List.mem_of_getLast? heq)

theorem way_front (hname : IsName name) : way (Path.front directory ++ name) = followed directory ++ [name] := by
  rw [way, endsInSlash_front hname, followed_front hname]
  exact List.append_nil _

theorem checkPath_eq_ok_iff :
    checkPath path = .ok () ↔ '\x00' ∉ path ∧ path ≠ [] ∧ Text.byteLength path ≤ pathLimit := by
  unfold checkPath
  split_ifs with hnul hempty hlong <;> simp_all

/-- a final slash changes nothing about where a path to a directory leads -/
theorem leads_followed (h : tree.locate? cwd directory = .ok place) :
    ∃ left, tree.Leads (origin cwd directory) (followed directory) linkLimit ⟨place, left⟩ := by
  obtain ⟨left, hled⟩ := (locate?_eq_ok_iff.1 h).2
  unfold way at hled
  split_ifs at hled with hslash
  · obtain ⟨⟨mid, more⟩, hfirst, hdot⟩ := hled.exists_mid
    have hstays : tree.step? mid ['.'] = .ok mid := step?_dot (hdot.start_of_cons)
    cases hdot with
    | step goes _ later =>
      cases later
      obtain rfl := step?_unique goes hstays
      exact ⟨_, hfirst⟩
    | link goes aside _ _ =>
      obtain rfl := step?_unique goes hstays
      rw [linkAt?_of_directory (node?_of_step? goes)] at aside
      cases aside
  · rw [List.append_nil] at hled
    exact ⟨left, hled⟩

theorem checkPath_front (hdirectory : checkPath directory = .ok ()) (hname : IsName name) :
    checkPath (Path.front directory ++ name) = .ok () ↔
      Text.byteLength (Path.front directory ++ name) ≤ pathLimit := by
  have hfront : '\x00' ∉ Path.front directory := by
    unfold Path.front
    split_ifs
    · exact (checkPath_eq_ok_iff.1 hdirectory).1
    · simpa using (checkPath_eq_ok_iff.1 hdirectory).1
  have hclean : '\x00' ∉ Path.front directory ++ name := by simpa using ⟨hfront, hname.nul⟩
  rw [checkPath_eq_ok_iff]
  exact ⟨fun h => h.2.2, fun hshort => ⟨hclean, by simp [hname.ne_nil], hshort⟩⟩

/-- the path of a directory leads on to what stands in it under a name, unless that makes it too long -/
theorem locate?_join (hlocate : tree.locate? cwd directory = .ok place) (hplace : tree.node? place = some .directory)
    (hname : IsName name) (hthere : (tree.node? (place ++ [name])).isSome = true)
    (plain : tree.linkAt? (place ++ [name]) = none) :
    tree.locate? cwd (Path.join directory name) = .ok (place ++ [name]) ↔
      Text.byteLength (Path.join directory name) ≤ pathLimit := by
  have hchecked := (locate?_eq_ok_iff.1 hlocate).1
  have hnonempty := (checkPath_eq_ok_iff.1 hchecked).2.1
  obtain ⟨left, hled⟩ := leads_followed hlocate
  have hstep : tree.step? place name = .ok (place ++ [name]) :=
    step?_of_name hplace hname.dot hname.dots hname.short hthere
  rw [join_eq_front hnonempty hname, locate?_eq_ok_iff, checkPath_front hchecked hname, way_front hname,
    origin_front hnonempty]
  exact ⟨fun h => h.1, fun hshort => ⟨hshort, left, hled.append (.step hstep plain (.here _ _))⟩⟩

theorem byteLength_of_locate? (h : tree.locate? cwd path = .ok place) : Text.byteLength path ≤ pathLimit :=
  (checkPath_eq_ok_iff.1 (locate?_eq_ok_iff.1 h).1).2.2

theorem isFile_iff : tree.isFile cwd path = true ↔
    ∃ place, tree.locate? cwd path = .ok place ∧ (tree.node? place).any Node.isFile = true := by
  unfold isFile
  cases tree.locate? cwd path <;> simp

/-- what is no link is a file for the path that leads to it when it is one, unless that path is too long -/
theorem isFile_join (hlocate : tree.locate? cwd directory = .ok place) (hplace : tree.node? place = some .directory)
    (hname : IsName name) (hnode : tree.node? (place ++ [name]) = some node)
    (plain : tree.linkAt? (place ++ [name]) = none) :
    tree.isFile cwd (Path.join directory name) = true ↔
      node.isFile = true ∧ Text.byteLength (Path.join directory name) ≤ pathLimit := by
  have hthere : (tree.node? (place ++ [name])).isSome = true := by rw [hnode]; rfl
  have hled := locate?_join hlocate hplace hname hthere plain
  rw [isFile_iff]
  constructor
  · rintro ⟨found, hfound, hfile⟩
    have hshort := byteLength_of_locate? hfound
    obtain rfl := Except.ok.inj (hfound.symm.trans (hled.2 hshort))
    rw [hnode] at hfile
    exact ⟨hfile, hshort⟩
  · rintro ⟨hfile, hshort⟩
    exact ⟨_, hled.2 hshort, by rw [hnode]; exact hfile⟩

end FileTree

/-! ## Shaders -/

namespace Host

variable {host : Host} {directory extension path : Text}

/-- what stands at the end of a path is a file, or a link that leads to one -/
def IsShaderFile (host : Host) (path : Text) (node : Node) : Prop :=
  node.isFile = true ∨ (∃ target, node = .link target) ∧ host.isFile path = true

/-- a path is that of a shader in a directory: a file, or a link to one, stands there with the extension, and its path
is not too long -/
def HasShader (host : Host) (directory extension path : Text) : Prop :=
  ∃ place name node, host.tree.locate? host.cwd directory = .ok place ∧ host.tree.node? place = some .directory ∧
    host.tree.node? (place ++ [name]) = some node ∧ host.IsShaderFile path node ∧
    Path.extension? name = some extension ∧ path = Path.join directory name ∧
    Text.byteLength path ≤ FileTree.pathLimit

def shaderNames (host : Host) (place : Location) (directory extension : Text) : List Text :=
  ((host.tree.children place).map Prod.fst).filter fun name =>
    host.isFile (Path.join directory name) ∧ Path.extension? name = some extension

theorem discover_of_listed {place : Location} (hlocate : host.tree.locate? host.cwd directory = .ok place)
    (hplace : host.tree.node? place = some .directory) : (host.discover directory extension).1 =
      ((host.shaderNames place directory extension).mergeSort Text.le).map (Path.join directory) := by
  have hlist : host.tree.list host.cwd directory = .ok (host.tree.children place) := by
    unfold FileTree.list
    refine bind_eq_ok.2 ⟨place, hlocate, ?_⟩
    rw [hplace]
  unfold discover
  rw [hlist]
  rfl

theorem discover_of_unlisted
    (h : ∀ place, host.tree.locate? host.cwd directory = .ok place → host.tree.node? place ≠ some .directory) :
    (host.discover directory extension).1 = [] := by
  unfold discover
  split
  · rfl
  · rename_i children hlist
    obtain ⟨place, hlocate, hchildren⟩ := bind_eq_ok.1 hlist
    split at hchildren
    · rename_i hplace
      exact absurd hplace (h place hlocate)
    · cases hchildren

/-- a path into a directory leads to a file exactly when a file, or a link to one, stands there and it is not too
long -/
theorem isFile_join_iff {place : Location} {name : Text} {node : Node}
    (hlocate : host.tree.locate? host.cwd directory = .ok place) (hplace : host.tree.node? place = some .directory)
    (hname : FileTree.IsName name) (hnode : host.tree.node? (place ++ [name]) = some node) :
    host.isFile (Path.join directory name) = true ↔ host.IsShaderFile (Path.join directory name) node ∧
      Text.byteLength (Path.join directory name) ≤ FileTree.pathLimit := by
  unfold IsShaderFile
  cases hlink : host.tree.linkAt? (place ++ [name]) with
  | none =>
    have hplain : ∀ target, node ≠ .link target := by
      rintro target rfl
      rw [FileTree.linkAt?_eq_some_iff.2 hnode] at hlink
      cases hlink
    rw [isFile, FileTree.isFile_join hlocate hplace hname hnode hlink]
    exact ⟨fun ⟨hfile, hshort⟩ => ⟨.inl hfile, hshort⟩, fun ⟨hfile, hshort⟩ =>
      ⟨hfile.resolve_right fun ⟨⟨target, heq⟩, _⟩ => hplain target heq, hshort⟩⟩
  | some target =>
    obtain rfl : node = .link target := Option.some.inj (hnode.symm.trans (FileTree.linkAt?_eq_some_iff.1 hlink))
    constructor
    · intro hfile
      obtain ⟨found, hfound, -⟩ := FileTree.isFile_iff.1 hfile
      exact ⟨.inr ⟨⟨target, rfl⟩, hfile⟩, FileTree.byteLength_of_locate? hfound⟩
    · rintro ⟨hfile | ⟨-, hfile⟩, -⟩
      · cases hfile
      · exact hfile

theorem mem_shaderNames_iff (wellFormed : host.tree.WellFormed) {place : Location} {name : Text}
    (hlocate : host.tree.locate? host.cwd directory = .ok place) (hplace : host.tree.node? place = some .directory) :
    name ∈ host.shaderNames place directory extension ↔ ∃ node, host.tree.node? (place ++ [name]) = some node ∧
      host.IsShaderFile (Path.join directory name) node ∧ Path.extension? name = some extension ∧
      Text.byteLength (Path.join directory name) ≤ FileTree.pathLimit := by
  have hfile {node : Node} (hnode : host.tree.node? (place ++ [name]) = some node) :=
    isFile_join_iff hlocate hplace (wellFormed.isName hnode) hnode
  unfold shaderNames
  rw [List.mem_filter, decide_eq_true_eq]
  constructor
  · rintro ⟨hchild, hisFile, hextension⟩
    obtain ⟨⟨found, node⟩, hmem, rfl⟩ := List.mem_map.1 hchild
    have hnode := wellFormed.mem_children_iff.1 hmem
    obtain ⟨hshader, hshort⟩ := (hfile hnode).1 hisFile
    exact ⟨node, hnode, hshader, hextension, hshort⟩
  · rintro ⟨node, hnode, hshader, hextension, hshort⟩
    have hchild : name ∈ (host.tree.children place).map Prod.fst :=
      List.mem_map.2 ⟨(name, node), wellFormed.mem_children_iff.2 hnode, rfl⟩
    exact ⟨hchild, (hfile hnode).2 ⟨hshader, hshort⟩, hextension⟩

theorem mem_discover (wellFormed : host.tree.WellFormed) :
    path ∈ (host.discover directory extension).1 ↔ host.HasShader directory extension path := by
  by_cases hlisted : ∃ place, host.tree.locate? host.cwd directory = .ok place ∧
      host.tree.node? place = some .directory
  · obtain ⟨place, hlocate, hplace⟩ := hlisted
    simp only [discover_of_listed hlocate hplace, List.mem_map, List.mem_mergeSort,
      mem_shaderNames_iff wellFormed hlocate hplace]
    constructor
    · rintro ⟨name, ⟨node, hnode, hshader, hextension, hshort⟩, rfl⟩
      exact ⟨place, name, node, hlocate, hplace, hnode, hshader, hextension, rfl, hshort⟩
    · rintro ⟨other, name, node, hother, -, hnode, hshader, hextension, rfl, hshort⟩
      obtain rfl : place = other := Except.ok.inj (hlocate.symm.trans hother)
      exact ⟨name, ⟨node, hnode, hshader, hextension, hshort⟩, rfl⟩
  · rw [discover_of_unlisted fun place hlocate hplace => hlisted ⟨place, hlocate, hplace⟩]
    constructor
    · intro hmem
      cases hmem
    · rintro ⟨place, _, _, hlocate, hplace, -⟩
      exact absurd ⟨place, hlocate, hplace⟩ hlisted

theorem sorted_shaderNames (wellFormed : host.tree.WellFormed) (place : Location) (directory extension : Text) :
    ((host.shaderNames place directory extension).mergeSort Text.le).Pairwise fun name other =>
      Text.le name other = true ∧ name ≠ other := by
  have hdistinct : (host.shaderNames place directory extension).Nodup := by
    exact (List.pairwise_map.2 (wellFormed.distinct_children place)).filter _
  refine List.Pairwise.and ?_ ((List.mergeSort_perm _ _).nodup_iff.2 hdistinct)
  refine List.pairwise_mergeSort ?_ ?_ _
  · intro name other last
    exact Text.le_trans
  · intro name other
    simpa using Text.le_total name other

/-- shaders come in order, each once -/
theorem sorted_discover (wellFormed : host.tree.WellFormed) :
    (host.discover directory extension).1.Pairwise fun path other => Text.le path other = true ∧ path ≠ other := by
  by_cases hlisted : ∃ place, host.tree.locate? host.cwd directory = .ok place ∧
      host.tree.node? place = some .directory
  · obtain ⟨place, hlocate, hplace⟩ := hlisted
    have hnonempty := (FileTree.checkPath_eq_ok_iff.1 (FileTree.locate?_eq_ok_iff.1 hlocate).1).2.1
    have hnamed : ∀ name ∈ (host.shaderNames place directory extension).mergeSort Text.le,
        Path.join directory name = Path.front directory ++ name := by
      intro name hname
      rw [List.mem_mergeSort, mem_shaderNames_iff wellFormed hlocate hplace] at hname
      obtain ⟨node, hnode, -⟩ := hname
      exact FileTree.join_eq_front hnonempty (wellFormed.isName hnode)
    rw [discover_of_listed hlocate hplace, List.map_congr_left hnamed, List.pairwise_map]
    refine (sorted_shaderNames wellFormed place directory extension).imp ?_
    rintro name other ⟨hle, hne⟩
    exact ⟨by rwa [Text.le_append_left], fun heq => hne (List.append_cancel_left heq)⟩
  · rw [discover_of_unlisted fun place hlocate hplace => hlisted ⟨place, hlocate, hplace⟩]
    exact List.Pairwise.nil

end Host

end GlslInspect
