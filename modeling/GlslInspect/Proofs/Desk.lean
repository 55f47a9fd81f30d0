/-
Scratch files that are held while files come and go around them.

Scratch files on one place get in each other's way: letting go of one removes the file of another, and between the
writing and the letting go a file can vanish or a directory can take its place. The device may refuse to open a file, or
to remove one. What is never lost is the account of the files, as long as no writing breaks off and nothing is written
or removed through a link at the end of its path (`Desk.Clean`). Each step changes one place at most, from which no way
goes on, so a path that ended at an entry once ends there for good (`FileTree.SameBut.takesFile`), and letting go of it
removes what was written there, unless another got there first or the device refuses, which is noted. `Accounted` is
what each change of one place keeps (`Accounted.change`), whichever of the four it is:
- `Accounted.write`: a scratch file is written, and held from then on;
- `Accounted.release`: one that was held is let go of;
- `Accounted.unlink` and `Accounted.makeDirectory`: what others do in between.
So every step keeps it (`Desk.Sound.step`), and every run (`Desk.Sound.run`).
Main result: `held_files_accounted`, and `held_files_lost` for what it cannot say.
-/
import Mathlib.Data.List.Basic
import GlslInspect.Proofs.Cleanup

namespace GlslInspect

/-! ## What is done to files -/

/-- a file that was written on purpose, with its text, or removed on purpose -/
structure Touch where
  place : Location
  /-- what was written; nothing for a removal -/
  written : Option Text
  deriving DecidableEq, Repr

/-- a place that was neither written nor removed on purpose -/
def Untouched (touches : List Touch) (place : Location) : Prop := ∀ touch ∈ touches, touch.place ≠ place

/-- what was written last at a place, if the latest touches come first -/
def lastWritten? (touches : List Touch) (place : Location) : Option Text :=
  touches.findSome? fun touch => if touch.place = place then touch.written else none

namespace Desk

/-- the file that a step writes or the entry that it removes on purpose; letting go of a scratch file is none of
these -/
def touch? (device : Device) (desk : Desk) (step : Step) : Option Touch :=
  match step, (desk.step device step).2.1 with
  | .create path contents _, .created _ =>
    (desk.tree.fileNamed? desk.cwd path).map fun place => ⟨place, some contents⟩
  | .unlink path, .changed true => (desk.tree.entryNamed? desk.cwd path).map fun place => ⟨place, none⟩
  | _, _ => none

/-- the place of a scratch file that letting go left where it was, and noted so -/
def leftAt (device : Device) (desk : Desk) (key : Text) : List Location :=
  if (desk.letGo device key).2 = [] then []
  else ((desk.held.lookup key).bind fun path => desk.tree.entryNamed? desk.cwd path).toList

/-- what a step left of the scratch file that it let go of -/
def left (device : Device) (desk : Desk) : Step → List Location
  | .create path contents key =>
    let created := Scratch.create desk.tree device desk.cwd path contents
    if created.2.isOk then leftAt device { desk with tree := created.1 } key else []
  | .drop key => desk.leftAt device key
  | _ => []

/-- a step whose writing does not break off, and which neither writes nor removes at the end of a link -/
def Clean (device : Device) (desk : Desk) : Step → Prop
  | .create path contents _ => ∀ place ∈ (desk.tree.openFile? device desk.cwd path).toOption,
    desk.tree.entryNamed? desk.cwd path = some place ∧ (device.written place contents).2 = .ok ()
  | .unlink path => ∀ place ∈ desk.tree.entryNamed? desk.cwd path, desk.tree.linkAt? place = none
  | _ => True

instance (device : Device) (desk : Desk) : (step : Step) → Decidable (Clean device desk step)
  | .create path contents _ =>
    inferInstanceAs (Decidable (∀ place ∈ (desk.tree.openFile? device desk.cwd path).toOption,
      desk.tree.entryNamed? desk.cwd path = some place ∧ (device.written place contents).2 = .ok ()))
  | .unlink path =>
    inferInstanceAs (Decidable (∀ place ∈ desk.tree.entryNamed? desk.cwd path, desk.tree.linkAt? place = none))
  | .drop _ => .isTrue trivial
  | .makeDirectory _ => .isTrue trivial
  | .read _ => .isTrue trivial

/-- the desk after some steps, each on the device as it is then -/
def run (desk : Desk) (steps : List (Device × Step)) : Desk :=
  steps.foldl (fun desk step => (desk.step step.1 step.2).1) desk

/-- the files that some steps write or remove on purpose, the latest first -/
def touches (desk : Desk) : List (Device × Step) → List Touch
  | [] => []
  | (device, step) :: rest => touches (desk.step device step).1 rest ++ (desk.touch? device step).toList

/-- what some steps left of scratch files that they let go of -/
def leftBehind (desk : Desk) : List (Device × Step) → List Location
  | [] => []
  | (device, step) :: rest => leftBehind (desk.step device step).1 rest ++ desk.left device step

def CleanRun (desk : Desk) : List (Device × Step) → Prop
  | [] => True
  | (device, step) :: rest => desk.Clean device step ∧ CleanRun (desk.step device step).1 rest

end Desk

/-! ## The account of the files -/

section Account

variable {first tree next : FileTree} {device : Device} {cwd : Location} {paths : List Text} {touches : List Touch}
  {left : List Location}

/-- the path of a scratch file ends at an entry that is no link -/
def HeldAt (tree : FileTree) (cwd : Location) (path : Text) (place : Location) : Prop :=
  tree.linkAt? place = none ∧
    ∃ destination more, tree.TakesFile cwd path FileTree.linkLimit destination more ∧ destination.place = place

/-- where a file comes from: it was there at first and nobody touched it, or it was written, nothing was written there
since, and a path that is held leads to it or it was left behind -/
def Explained (first tree : FileTree) (cwd : Location) (paths : List Text) (touches : List Touch)
    (left : List Location) (place : Location) (node : Node) : Prop :=
  (first.node? place = some node ∧ Untouched touches place) ∨
    ∃ contents, node = .file (.text contents) ∧ lastWritten? touches place = some contents ∧
      ((∃ path ∈ paths, HeldAt tree cwd path place) ∨ place ∈ left)

/-- the account of a tree, of the paths that are held in it, of what was touched since the first tree and of what was
left behind -/
structure Accounted (first tree : FileTree) (cwd : Location) (paths : List Text) (touches : List Touch)
    (left : List Location) : Prop where
  held : ∀ path ∈ paths, ∃ place, HeldAt tree cwd path place ∧ ¬ Untouched touches place
  kept : ∀ place node, first.node? place = some node → Untouched touches place → tree.node? place = some node
  files : ∀ place node, tree.node? place = some node → node ≠ .directory →
    Explained first tree cwd paths touches left place node

theorem HeldAt.unique {path : Text} {place other : Location} (h : HeldAt tree cwd path place)
    (h' : HeldAt tree cwd path other) : place = other := by
  obtain ⟨-, destination, more, htakes, rfl⟩ := h
  obtain ⟨-, destination', more', htakes', rfl⟩ := h'
  rw [htakes.unique (.refl tree) htakes'.toEndsAt]

/-- a path goes on being held at its entry whatever becomes of a place that is no directory and no link, as long as it
becomes no link -/
theorem HeldAt.change {path : Text} {place spot : Location} (same : FileTree.SameBut spot tree next)
    (dead : tree.DeadEnd spot) (plain : next.linkAt? spot = none) (h : HeldAt tree cwd path place) :
    HeldAt next cwd path place := by
  obtain ⟨hplain, destination, more, htakes, hplace⟩ := h
  refine ⟨?_, destination, more, same.takesFile dead htakes, hplace⟩
  by_cases hspot : place = spot
  · rwa [hspot]
  · rw [FileTree.linkAt?_of_node? (same place hspot), hplain]

theorem untouched_append {more : List Touch} {place : Location} :
    Untouched (more ++ touches) place ↔ Untouched more place ∧ Untouched touches place :=
  List.forall_mem_append

theorem lastWritten?_append_of_untouched {more : List Touch} {place : Location} (h : Untouched more place) :
    lastWritten? (more ++ touches) place = lastWritten? touches place := by
  have hnone : more.findSome? (fun touch => if touch.place = place then touch.written else none) = none :=
    List.findSome?_eq_none_iff.2 fun touch htouch => if_neg (h touch htouch)
  unfold lastWritten?
  rw [List.findSome?_append, hnone, Option.none_or]

/-- Whatever changes at one place, the account is kept, if no way goes on from that place, what is touched is that
place, and the account is right there; of the paths that are held only those that end there may change. -/
theorem Accounted.change {spot : Location} {paths' : List Text} {left' : List Location}
    (h : Accounted first tree cwd paths touches left) (more : List Touch) (same : FileTree.SameBut spot tree next)
    (dead : tree.DeadEnd spot) (plain : next.linkAt? spot = none)
    (hmore : ∀ place, place ≠ spot → Untouched more place) (hleft : left ⊆ left')
    (hheld : ∀ path ∈ paths', path ∈ paths ∨ HeldAt tree cwd path spot ∧ ¬ Untouched more spot)
    (hstay : ∀ path ∈ paths, HeldAt tree cwd path spot ∨ path ∈ paths')
    (hkept : ∀ node, first.node? spot = some node → Untouched (more ++ touches) spot → next.node? spot = some node)
    (hfile : ∀ node, next.node? spot = some node → node ≠ .directory →
      Explained first next cwd paths' (more ++ touches) left' spot node) :
    Accounted first next cwd paths' (more ++ touches) left' := by
  refine ⟨fun path hpath => ?_, fun place node hfirst huntouched => ?_, fun place node hnode hfile' => ?_⟩
  · rcases hheld path hpath with hold | ⟨hnew, htouched⟩
    · obtain ⟨place, hplace, htouched⟩ := h.held path hold
      exact ⟨place, hplace.change same dead plain, fun huntouched => htouched (untouched_append.1 huntouched).2⟩
    · exact ⟨spot, hnew.change same dead plain, fun huntouched => htouched (untouched_append.1 huntouched).1⟩
  · by_cases hplace : place = spot
    · subst hplace
      exact hkept node hfirst huntouched
    · rw [same place hplace]
      exact h.kept place node hfirst (untouched_append.1 huntouched).2
  · by_cases hplace : place = spot
    · subst hplace
      exact hfile node hnode hfile'
    · rw [same place hplace] at hnode
      rcases h.files place node hnode hfile' with ⟨hfirst, huntouched⟩ | ⟨contents, hcontents, hlast, hwhy⟩
      · exact Or.inl ⟨hfirst, untouched_append.2 ⟨hmore place hplace, huntouched⟩⟩
      · refine Or.inr ⟨contents, hcontents, ?_, ?_⟩
        · rw [lastWritten?_append_of_untouched (hmore place hplace), hlast]
        · rcases hwhy with ⟨path, hpath, hat⟩ | hleftover
          · have hstays := (hstay path hpath).resolve_left fun hspot => hplace (hat.unique hspot)
            exact .inl ⟨path, hstays, hat.change same dead plain⟩
          · exact .inr (hleft hleftover)

/-- a touch of one place leaves all others untouched, and not that one -/
theorem untouched_singleton {touch : Touch} {place : Location} : Untouched [touch] place ↔ touch.place ≠ place :=
  List.forall_mem_singleton

theorem Accounted.write (h : Accounted first tree cwd paths touches left) {path contents : Text} {place : Location}
    (hat : HeldAt tree cwd path place) (hfree : tree.node? place ≠ some .directory) :
    Accounted first (tree.put place (.file (.text contents))) cwd (path :: paths)
      (⟨place, some contents⟩ :: touches) left := by
  have same := FileTree.SameBut.put tree place (.file (.text contents))
  have dead : tree.DeadEnd place := FileTree.deadEnd_of_linkAt? hfree hat.1
  have hplain : (tree.put place (.file (.text contents))).linkAt? place = none :=
    FileTree.linkAt?_put_self (FileTree.place_ne_nil hfree) nofun
  have htouched : ¬ Untouched [⟨place, some contents⟩] place := by
    rw [untouched_singleton]
    exact fun hne => hne rfl
  refine h.change [⟨place, some contents⟩] same dead hplain ?_ (List.Subset.refl _) ?_ ?_ ?_ ?_
  · exact fun other hother => untouched_singleton.2 (Ne.symm hother)
  · intro other hother
    rcases List.mem_cons.1 hother with rfl | hother
    · exact Or.inr ⟨hat, htouched⟩
    · exact Or.inl hother
  · exact fun other hother => Or.inr (List.mem_cons_of_mem path hother)
  · exact fun node _ huntouched => absurd (untouched_append.1 huntouched).1 htouched
  · intro node hnode _
    rw [FileTree.node?_put_self (FileTree.place_ne_nil hfree)] at hnode
    cases hnode
    refine Or.inr ⟨contents, rfl, ?_, .inl ⟨path, List.mem_cons_self, hat.change same dead hplain⟩⟩
    simp [lastWritten?]

theorem Accounted.unlink (h : Accounted first tree cwd paths touches left) {place : Location}
    (dead : tree.DeadEnd place) : Accounted first (tree.erase place) cwd paths (⟨place, none⟩ :: touches) left := by
  have same := FileTree.SameBut.erase tree place
  have hgone : (tree.erase place).node? place = none := FileTree.node?_erase_self (FileTree.place_ne_nil dead.directory)
  refine h.change [⟨place, none⟩] same dead (FileTree.linkAt?_of_empty hgone) ?_ (List.Subset.refl _) ?_ ?_ ?_ ?_
  · exact fun other hother => untouched_singleton.2 (Ne.symm hother)
  · exact fun path hpath => Or.inl hpath
  · exact fun path hpath => Or.inr hpath
  · exact fun node _ huntouched => absurd rfl (untouched_singleton.1 (untouched_append.1 huntouched).1)
  · intro node hnode _
    rw [hgone] at hnode
    cases hnode

theorem Accounted.makeDirectory (h : Accounted first tree cwd paths touches left) {place : Location}
    (hempty : tree.node? place = none) : Accounted first (tree.put place .directory) cwd paths touches left := by
  have hfree : tree.node? place ≠ some .directory := by simp [hempty]
  have same := FileTree.SameBut.put tree place .directory
  have dead : tree.DeadEnd place := FileTree.deadEnd_of_linkAt? hfree (FileTree.linkAt?_of_empty hempty)
  have hplain : (tree.put place .directory).linkAt? place = none :=
    FileTree.linkAt?_put_self (FileTree.place_ne_nil hfree) nofun
  refine h.change [] same dead hplain ?_ (List.Subset.refl _) ?_ ?_ ?_ ?_
  · exact fun other _ touch htouch => nomatch htouch
  · exact fun path hpath => Or.inl hpath
  · exact fun path hpath => Or.inr hpath
  · intro node hfirst huntouched
    rw [h.kept place node hfirst huntouched] at hempty
    cases hempty
  · intro node hnode hfile
    rw [FileTree.node?_put_self (FileTree.place_ne_nil hfree)] at hnode
    cases hnode
    exact absurd rfl hfile

/-- a scratch file is let go of: no file is left at the end of its path, unless that is noted -/
theorem Accounted.release (h : Accounted first tree cwd paths touches left) {path : Text} (hpath : path ∈ paths)
    {paths' : List Text} (hsub : paths' ⊆ paths) (hstay : ∀ other ∈ paths, other = path ∨ other ∈ paths')
    {left' : List Location} (hleft : left ⊆ left')
    (hnoted : (Scratch.release tree device cwd path).2 ≠ [] → ∀ place, tree.entryNamed? cwd path = some place →
      place ∈ left') :
    Accounted first (Scratch.release tree device cwd path).1 cwd paths' touches left' := by
  obtain ⟨place, hat, htouched⟩ := h.held path hpath
  have hpaths : ∀ other ∈ paths, HeldAt tree cwd other place ∨ other ∈ paths' := by
    intro other hother
    rcases hstay other hother with rfl | hstays
    · exact Or.inl hat
    · exact Or.inr hstays
  obtain ⟨hplain, destination, more, htakes, rfl⟩ := hat
  -- where nothing is removed, the files are those that were there, and what was held may be left behind
  have hkeep (hnode : tree.node? destination.place = none ∨ destination.place ∈ left') :
      Accounted first tree cwd paths' touches left' := by
    refine ⟨fun other hother => h.held other (hsub hother), h.kept, fun other node hother hfile => ?_⟩
    rcases h.files other node hother hfile with hfirst | ⟨contents, hcontents, hlast, hwhy⟩
    · exact .inl hfirst
    · refine .inr ⟨contents, hcontents, hlast, ?_⟩
      rcases hwhy with ⟨holder, hholder, hheld⟩ | hleftover
      · rcases hpaths holder hholder with hhere | hstays
        · obtain rfl := hheld.unique hhere
          rcases hnode with hnone | hleftover
          · rw [hnone] at hother
            cases hother
          · exact .inr hleftover
        · exact .inl ⟨holder, hstays, hheld⟩
      · exact .inr (hleft hleftover)
  rcases Scratch.release_cases device htakes with
    ⟨hnone, hsame⟩ | ⟨-, -, error, hsame⟩ | ⟨-, hfree, -, herased⟩
  · rw [hsame]
    exact hkeep (.inl hnone)
  · rw [hsame] at hnoted ⊢
    exact hkeep (.inr (hnoted (List.cons_ne_nil _ _) _ htakes.entryNamed?))
  · rw [herased]
    have hgone : (tree.erase destination.place).node? destination.place = none :=
      FileTree.node?_erase_self (FileTree.place_ne_nil hfree)
    refine h.change [] (.erase tree destination.place) (FileTree.deadEnd_of_linkAt? hfree hplain)
      (FileTree.linkAt?_of_empty hgone) ?_ hleft ?_ hpaths ?_ ?_
    · exact fun other _ touch htouch => nomatch htouch
    · exact fun other hother => Or.inl (hsub hother)
    · exact fun node _ huntouched => absurd huntouched htouched
    · intro node hnode _
      rw [hgone] at hnode
      cases hnode

end Account

/-! ## Desks -/

namespace Desk

variable {first : FileTree} {device : Device} {desk : Desk} {before : List Touch} {leftBefore : List Location}

/-- the paths of the scratch files that are held -/
def paths (desk : Desk) : List Text := desk.held.map Prod.snd

/-- a desk as it can be: no two scratch files are held under one key, and all files are accounted for -/
structure Sound (first : FileTree) (desk : Desk) (before : List Touch) (leftBefore : List Location) : Prop where
  distinct : desk.held.Pairwise fun a b => a.1 ≠ b.1
  accounted : Accounted first desk.tree desk.cwd desk.paths before leftBefore

/-- what is held under a key is the only thing held there -/
theorem eq_of_lookup {held : List (Text × Text)} (hdistinct : held.Pairwise fun a b => a.1 ≠ b.1) {key path : Text}
    (hlookup : held.lookup key = some path) : ∀ guard ∈ held, guard.1 = key → guard.2 = path := by
  induction held with
  | nil => cases hlookup
  | cons guard held ih =>
    obtain ⟨hothers, hrest⟩ := List.pairwise_cons.1 hdistinct
    by_cases hkey : key = guard.1
    · subst hkey
      rw [List.lookup_cons_self] at hlookup
      intro other hother hsame
      rcases List.mem_cons.1 hother with rfl | hother
      · exact Option.some.inj hlookup
      · exact absurd hsame.symm (hothers other hother)
    · have hne : (key == guard.1) = false := by simpa using hkey
      rw [List.lookup_cons, hne] at hlookup
      intro other hother hsame
      rcases List.mem_cons.1 hother with rfl | hother
      · exact absurd hsame.symm hkey
      · exact ih hrest hlookup other hother hsame

theorem mem_of_lookup {held : List (Text × Text)} {key path : Text} (h : held.lookup key = some path) :
    (key, path) ∈ held := by
  obtain ⟨front, rest, rfl, -⟩ := List.lookup_eq_some_iff.1 h
  simp

/-- letting go of a scratch file keeps the account, and frees its key; other paths may be held besides -/
theorem accounted_letGo (device : Device) (desk : Desk) (key : Text) (others : List Text)
    (hdistinct : desk.held.Pairwise fun a b => a.1 ≠ b.1)
    (h : Accounted first desk.tree desk.cwd (others ++ desk.paths) before leftBefore) :
    (desk.letGo device key).1.cwd = desk.cwd ∧
      (desk.letGo device key).1.held = desk.held.filter (fun guard => guard.1 ≠ key) ∧
      Accounted first (desk.letGo device key).1.tree desk.cwd (others ++ (desk.letGo device key).1.paths) before
        (desk.leftAt device key ++ leftBefore) := by
  unfold leftAt letGo
  cases hlookup : desk.held.lookup key with
  | none =>
    have hfilter : desk.held.filter (fun guard => guard.1 ≠ key) = desk.held := by
      refine List.filter_eq_self.2 fun guard hguard => ?_
      have hne : key ≠ guard.1 := bne_iff_ne.1 (List.lookup_eq_none_iff.1 hlookup guard hguard)
      exact decide_eq_true hne.symm
    exact ⟨rfl, hfilter.symm, h⟩
  | some path =>
    have hheld : path ∈ others ++ desk.paths :=
      List.mem_append_right others (List.mem_map.2 ⟨_, mem_of_lookup hlookup, rfl⟩)
    refine ⟨rfl, rfl, h.release hheld ?_ ?_ (List.subset_append_right ..) fun hnoted place hplace => ?_⟩
    · refine List.append_subset.2 ⟨List.subset_append_left .., fun other hother => ?_⟩
      obtain ⟨guard, hguard, rfl⟩ := List.mem_map.1 hother
      exact List.mem_append_right others (List.mem_map.2 ⟨guard, List.mem_of_mem_filter hguard, rfl⟩)
    · intro other hother
      rcases List.mem_append.1 hother with hother | hother
      · exact Or.inr (List.mem_append_left _ hother)
      · obtain ⟨guard, hguard, rfl⟩ := List.mem_map.1 hother
        by_cases hkey : guard.1 = key
        · exact Or.inl (eq_of_lookup hdistinct hlookup guard hguard hkey)
        · exact Or.inr (List.mem_append_right _ (List.mem_map.2 ⟨guard, List.mem_filter.2 ⟨hguard, by simpa⟩, rfl⟩))
    · refine List.mem_append_left _ ?_
      dsimp only
      rw [if_neg hnoted, Option.bind_some, hplace]
      exact List.mem_singleton_self place

/-- a scratch file that cannot be opened changes nothing -/
theorem step_of_refused {path : Text} {error : FileError}
    (h : desk.tree.openFile? device desk.cwd path = .error error) (contents key : Text) :
    desk.step device (.create path contents key) = (desk, .failed (.scratchFile path error), []) := by
  simp only [Desk.step, Scratch.create_of_refused h]

/-- one that is written is held under its key, and what was held there before is let go of -/
theorem step_of_created {path contents : Text} {tree : FileTree}
    (h : Scratch.create desk.tree device desk.cwd path contents = (tree, .ok ())) (key : Text) :
    desk.step device (.create path contents key) =
      ({ (letGo device { desk with tree := tree } key).1 with
          held := (key, path) :: (letGo device { desk with tree := tree } key).1.held },
        .created path, (letGo device { desk with tree := tree } key).2) := by
  simp only [Desk.step, h]

theorem Sound.create (h : Sound first desk before leftBefore) {path contents key : Text}
    (hclean : desk.Clean device (.create path contents key)) :
    Sound first (desk.step device (.create path contents key)).1
      ((desk.touch? device (.create path contents key)).toList ++ before)
      (desk.left device (.create path contents key) ++ leftBefore) := by
  cases hopened : desk.tree.openFile? device desk.cwd path with
  | error error =>
    have hleft : desk.left device (.create path contents key) = [] := by
      simp only [left, Scratch.create_of_refused hopened]
      rfl
    unfold touch?
    rw [step_of_refused hopened, hleft]
    exact h
  | ok place =>
    obtain ⟨hentry, hwhole⟩ := hclean place (by rw [hopened]; rfl)
    obtain ⟨hwrites, hfree, -⟩ := FileTree.openFile?_eq_ok_iff.1 hopened
    obtain ⟨destination, more, htakes⟩ := hwrites.exists_takesFile
    obtain rfl : destination.place = place := Option.some.inj (htakes.entryNamed?.symm.trans hentry)
    have hcreate := Scratch.create_of_opened hopened hwhole
    obtain ⟨hcwd, hheld, haccounted⟩ :=
      accounted_letGo device { desk with tree := desk.tree.put destination.place (.file (.text contents)) } key [path]
        h.distinct (h.accounted.write ⟨hwrites.linkAt?_eq, destination, more, htakes, rfl⟩ hfree)
    have hleft : desk.left device (.create path contents key) =
        leftAt device { desk with tree := desk.tree.put destination.place (.file (.text contents)) } key := by
      simp only [left, hcreate]
      rfl
    unfold touch?
    rw [step_of_created hcreate, hleft]
    dsimp only
    rw [FileTree.fileNamed?_of_openFile? hopened]
    refine ⟨?_, ?_⟩
    · dsimp only
      rw [hheld]
      refine List.pairwise_cons.2 ⟨fun guard hguard => ?_, h.distinct.filter _⟩
      exact (of_decide_eq_true (List.mem_filter.1 hguard).2 : guard.1 ≠ key).symm
    · dsimp only
      rw [hcwd]
      exact haccounted

theorem Sound.drop (h : Sound first desk before leftBefore) (key : Text) :
    Sound first (desk.letGo device key).1 before (desk.leftAt device key ++ leftBefore) := by
  obtain ⟨hcwd, hheld, haccounted⟩ := accounted_letGo device desk key [] h.distinct h.accounted
  refine ⟨?_, ?_⟩
  · rw [hheld]
    exact h.distinct.filter _
  · rw [hcwd]
    exact haccounted

theorem Sound.unlink (h : Sound first desk before leftBefore) {path : Text}
    (hclean : desk.Clean device (.unlink path)) :
    Sound first (desk.step device (.unlink path)).1 ((desk.touch? device (.unlink path)).toList ++ before)
      leftBefore := by
  have hstep : desk.step device (.unlink path) = desk.change (desk.tree.remove device desk.cwd path) := rfl
  unfold touch?
  rw [hstep]
  cases hremove : desk.tree.remove device desk.cwd path with
  | error failure => exact h
  | ok tree =>
    obtain ⟨destination, more, htakes, hremoval⟩ := FileTree.exists_of_remove hremove
    obtain ⟨-, hfree, -, rfl⟩ := FileTree.removal_eq_ok_iff.1 hremoval
    have hplain : desk.tree.linkAt? destination.place = none := hclean _ htakes.entryNamed?
    dsimp only [change]
    rw [htakes.entryNamed?]
    exact ⟨h.distinct, h.accounted.unlink (FileTree.deadEnd_of_linkAt? hfree hplain)⟩

theorem Sound.makeDirectory (h : Sound first desk before leftBefore) (path : Text) :
    Sound first (desk.step device (.makeDirectory path)).1 before leftBefore := by
  have hstep : desk.step device (.makeDirectory path) = desk.change (desk.tree.makeDirectory desk.cwd path) := rfl
  rw [hstep]
  cases hmake : desk.tree.makeDirectory desk.cwd path with
  | error failure => exact h
  | ok tree =>
    obtain ⟨place, hempty, rfl⟩ := FileTree.exists_of_makeDirectory hmake
    exact ⟨h.distinct, h.accounted.makeDirectory hempty⟩

theorem Sound.step (h : Sound first desk before leftBefore) {step : Step} (hclean : desk.Clean device step) :
    Sound first (desk.step device step).1 ((desk.touch? device step).toList ++ before)
      (desk.left device step ++ leftBefore) := by
  cases step with
  | create path contents key => exact h.create hclean
  | drop key => exact h.drop key
  | unlink path => exact h.unlink hclean
  | makeDirectory path => exact h.makeDirectory path
  | read path => exact h

theorem Sound.run (h : Sound first desk before leftBefore) {steps : List (Device × Step)}
    (hclean : desk.CleanRun steps) :
    Sound first (desk.run steps) (desk.touches steps ++ before) (desk.leftBehind steps ++ leftBefore) := by
  induction steps generalizing desk before leftBefore with
  | nil => exact h
  | cons step steps ih =>
    obtain ⟨device, step⟩ := step
    rw [touches, leftBehind, List.append_assoc, List.append_assoc]
    exact ih (h.step hclean.1) hclean.2

/-- at first nothing is held, touched or left behind -/
theorem sound_start (tree : FileTree) (cwd : Location) : Sound tree ⟨tree, cwd, []⟩ [] [] :=
  ⟨.nil, ⟨nofun, fun _ _ hnode _ => hnode, fun _ _ hnode _ => Or.inl ⟨hnode, nofun⟩⟩⟩

end Desk

end GlslInspect
