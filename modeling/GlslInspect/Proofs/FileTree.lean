/-
Files that are written, read and removed by one path.

A path ends at an entry of a directory (`FileTree.EndsAt`). Removing takes that entry away. Writing goes on from an
entry that is a link, until there is none (`FileTree.Writes`), and so comes where following the path comes
(`Writes.place_eq`).

A path is followed through the tree as it stands, so whatever happens to a file could change where a path leads, the
path of that file among them. It does not: no way goes on from a file, nor from a link to one (`Writes.deadEnd`), so a
path goes on ending at its entry while that is written, removed or replaced (`SameBut.takesFile`). What was written is
read back by the same path (`read_of_write`), and what removing does depends only on what stands there then and on the
device (`TakesFile.remove`).
-/
import GlslInspect.Proofs.Follow

namespace GlslInspect

/-- a device that refuses to remove what stands at one place -/
def Device.keeping (spot : Location) : Device where
  refusesWriting _ := none
  breaksOff _ _ := none
  refusesRemoval place := if place = spot then some (.other "Operation not permitted (os error 1)") else none
  refused_found place := by split <;> simp

/-- a device on which there is room for so many bytes of each text that is written -/
def Device.full (room : Nat) : Device where
  refusesWriting _ := none
  breaksOff _ _ := some (room, .other "No space left on device (os error 28)")
  refusesRemoval _ := none
  refused_found place := by simp

namespace FileTree

variable {tree next : FileTree} {device : Device} {cwd place spot : Location} {path : Text} {links left : Nat}
  {destination : Destination}

/-! ## Where paths end -/

/-- a path ends at a destination: all but its last segment lead to the directory of the destination -/
structure EndsAt (tree : FileTree) (cwd : Location) (path : Text) (links : Nat) (destination : Destination)
    (left : Nat) : Prop where
  checked : checkPath path = .ok ()
  led : tree.Leads (origin cwd path) (followed path).dropLast links ⟨destination.directory, left⟩
  directory : tree.node? destination.directory = some .directory
  name : destination.name = (followed path).getLast?.getD "."
  slash : destination.slash = endsInSlash path

/-- a path ends where a file can be put: its last segment is a name that is short enough, and no slash follows -/
structure TakesFile (tree : FileTree) (cwd : Location) (path : Text) (links : Nat) (destination : Destination)
    (left : Nat) : Prop extends tree.EndsAt cwd path links destination left where
  named : destination.isNamed = true
  plain : destination.slash = false
  short : Text.byteLength destination.name ≤ nameLimit

theorem destination?_eq_ok_iff :
    tree.destination? cwd path links = .ok (destination, left) ↔ tree.EndsAt cwd path links destination left := by
  unfold destination?
  constructor
  · intro h
    obtain ⟨_, hchecked, h⟩ := bind_eq_ok.1 h
    obtain ⟨stand, hled, h⟩ := bind_eq_ok.1 h
    split at h
    · cases h
    · rename_i hdirectory
      cases h
      exact ⟨hchecked, follow?_eq_ok_iff.1 hled, hdirectory, rfl, rfl⟩
    · cases h
  · intro h
    refine bind_eq_ok.2 ⟨(), h.checked, bind_eq_ok.2 ⟨_, follow?_eq_ok_iff.2 h.led, ?_⟩⟩
    rw [h.directory, ← h.name, ← h.slash]

/-- a path ends at one entry in all trees with the same links, however many links may be followed -/
theorem EndsAt.unique (same : tree.SameLinks next) {links' left' : Nat} {destination' : Destination}
    (h : tree.EndsAt cwd path links destination left) (h' : next.EndsAt cwd path links' destination' left') :
    destination = destination' := by
  have hdirectory : destination.directory = destination'.directory := h.led.unique same h'.led
  obtain ⟨directory, name, slash⟩ := destination
  obtain ⟨directory', name', slash'⟩ := destination'
  rw [Destination.mk.injEq]
  exact ⟨hdirectory, h.name.trans h'.name.symm, h.slash.trans h'.slash.symm⟩

/-- a path goes on ending at its entry whatever becomes of a dead end, that of the entry included -/
theorem SameBut.endsAt (same : SameBut spot tree next) (dead : tree.DeadEnd spot)
    (h : tree.EndsAt cwd path links destination left) : next.EndsAt cwd path links destination left := by
  have hother : destination.directory ≠ spot := fun heq => dead.directory (heq ▸ h.directory)
  exact ⟨h.checked, same.leads dead h.led h.directory, by rw [same _ hother, h.directory], h.name, h.slash⟩

theorem SameBut.takesFile (same : SameBut spot tree next) (dead : tree.DeadEnd spot)
    (h : tree.TakesFile cwd path links destination left) : next.TakesFile cwd path links destination left :=
  ⟨same.endsAt dead h.toEndsAt, h.named, h.plain, h.short⟩

theorem occupant?_eq_ok_iff {occupant : Option Node} :
    tree.occupant? destination = .ok occupant ↔
      Text.byteLength destination.name ≤ nameLimit ∧ tree.node? destination.place = occupant := by
  unfold occupant?
  split_ifs with hlong
  · simp [Nat.not_le.2 hlong]
  · simp [Nat.le_of_not_lt hlong]

theorem TakesFile.occupant? (h : tree.TakesFile cwd path links destination left) :
    tree.occupant? destination = .ok (tree.node? destination.place) := occupant?_eq_ok_iff.2 ⟨h.short, rfl⟩

theorem TakesFile.name_ne (h : tree.TakesFile cwd path links destination left) :
    destination.name ≠ "." ∧ destination.name ≠ ".." := by
  simpa only [Destination.isNamed, Bool.and_eq_true, decide_eq_true_eq] using h.named

theorem TakesFile.way_eq (h : tree.TakesFile cwd path links destination left) :
    way path = (followed path).dropLast ++ [destination.name] := by
  have hslash : endsInSlash path = false := h.slash ▸ h.plain
  have hlast : (followed path).getLast? = some destination.name := by
    cases hl : (followed path).getLast? with
    | none => exact absurd (by rw [h.name, hl]; rfl) h.name_ne.1
    | some last => rw [h.name, hl, Option.getD_some]
  obtain ⟨before, hbefore⟩ := List.getLast?_eq_some_iff.1 hlast
  rw [way, hslash, hbefore, List.dropLast_concat]
  exact List.append_nil _

theorem TakesFile.step? (h : tree.TakesFile cwd path links destination left)
    (hthere : (tree.node? destination.place).isSome = true) :
    tree.step? destination.directory destination.name = .ok destination.place :=
  step?_of_name h.directory h.name_ne.1 h.name_ne.2 h.short hthere

theorem TakesFile.place_eq_of_step? (h : tree.TakesFile cwd path links destination left)
    (goes : tree.step? destination.directory destination.name = .ok place) : place = destination.place := by
  -- something may be put there, so that a step leads there, and where a step leads does not change
  have hput : (tree.put destination.place .directory).step? destination.directory destination.name =
      .ok destination.place := by
    refine step?_of_name ?_ h.name_ne.1 h.name_ne.2 h.short ?_
    · rw [node?_put_of_ne (by simp [Destination.place]), h.directory]
    · rw [show destination.directory ++ [destination.name] = destination.place from rfl,
        node?_put_self (by simp [Destination.place])]
      rfl
  exact step?_unique goes hput

/-- a way along the path comes to the directory, with one name left -/
theorem TakesFile.last (h : tree.TakesFile cwd path links destination left) {links' : Nat} {stand : Stand}
    (h' : tree.Leads (origin cwd path) (way path) links' stand) :
    ∃ more, tree.Leads destination.directory [destination.name] more stand := by
  rw [h.way_eq] at h'
  obtain ⟨⟨mid, more⟩, hfirst, hlast⟩ := h'.exists_mid
  obtain rfl : mid = destination.directory := hfirst.unique (.refl tree) h.led
  exact ⟨more, hlast⟩

/-! ## Where files are written -/

/-- a path leads on to a place for writing, through the links at its end -/
inductive Writes (tree : FileTree) : Location → Text → Nat → Location → Prop
  | here {cwd : Location} {path : Text} {links left : Nat} {destination : Destination}
    (takes : tree.TakesFile cwd path links destination left) (plain : tree.linkAt? destination.place = none) :
    Writes tree cwd path links destination.place
  | link {cwd : Location} {path target : Text} {links left : Nat} {destination : Destination} {place : Location}
    (takes : tree.TakesFile cwd path links destination (left + 1))
    (aside : tree.linkAt? destination.place = some target)
    (later : Writes tree destination.directory target left place) : Writes tree cwd path links place

theorem dropLast_place (destination : Destination) : destination.place.dropLast = destination.directory :=
  List.dropLast_concat

theorem target?_of_takesFile (h : tree.TakesFile cwd path links destination left)
    (plain : tree.linkAt? destination.place = none) : tree.target? cwd path links = .ok destination.place := by
  rw [target?]
  split
  · rename_i error hends
    rw [destination?_eq_ok_iff.2 h.toEndsAt] at hends
    cases hends
  · rename_i other more hends
    rw [destination?_eq_ok_iff.2 h.toEndsAt] at hends
    cases hends
    rw [h.named, h.plain, h.occupant?]
    cases hnode : tree.node? destination.place with
    | none => rfl
    | some node =>
      cases node with
      | link target =>
        rw [linkAt?_eq_some_iff.2 hnode] at plain
        cases plain
      | _ => rfl

theorem target?_of_link {target : Text} (h : tree.TakesFile cwd path links destination left)
    (aside : tree.linkAt? destination.place = some target) :
    tree.target? cwd path links =
      if left = 0 then .error .tooManyLinks else tree.target? destination.directory target (left - 1) := by
  rw [target?]
  split
  · rename_i error hends
    rw [destination?_eq_ok_iff.2 h.toEndsAt] at hends
    cases hends
  · rename_i other more hends
    rw [destination?_eq_ok_iff.2 h.toEndsAt] at hends
    cases hends
    rw [h.named, h.plain, h.occupant?, linkAt?_eq_some_iff.1 aside]
    cases left <;> rfl

theorem exists_takesFile_of_target? (h : tree.target? cwd path links = .ok place) :
    ∃ destination left, tree.TakesFile cwd path links destination left := by
  rw [target?] at h
  split at h
  · cases h
  · rename_i destination left hends
    have hends := destination?_eq_ok_iff.1 hends
    split at h
    · cases h
    · rename_i hplain
      simp only [Bool.or_eq_true, Bool.not_eq_true', not_or, Bool.not_eq_false, Bool.not_eq_true] at hplain
      refine ⟨destination, left, hends, hplain.1, hplain.2, ?_⟩
      by_cases hshort : Text.byteLength destination.name ≤ nameLimit
      · exact hshort
      · have hlong : tree.occupant? destination = .error .nameTooLong := if_pos (Nat.lt_of_not_le hshort)
        rw [hlong] at h
        cases h

theorem Writes.target?_eq (h : tree.Writes cwd path links place) : tree.target? cwd path links = .ok place := by
  induction h with
  | here takes plain => exact target?_of_takesFile takes plain
  | link takes aside _ ih =>
    rw [target?_of_link takes aside, if_neg (Nat.succ_ne_zero _)]
    exact ih

theorem writes_of_target? (h : tree.target? cwd path links = .ok place) : tree.Writes cwd path links place := by
  induction links using Nat.strongRecOn generalizing cwd path with
  | ind links ih =>
    obtain ⟨destination, left, htakes⟩ := exists_takesFile_of_target? h
    cases hlink : tree.linkAt? destination.place with
    | none =>
      rw [target?_of_takesFile htakes hlink] at h
      cases h
      exact .here htakes hlink
    | some target =>
      rw [target?_of_link htakes hlink] at h
      split_ifs at h with hleft
      obtain ⟨left, rfl⟩ := Nat.exists_eq_succ_of_ne_zero hleft
      have hfewer : left + 1 ≤ links := links_le_of_destination? (destination?_eq_ok_iff.2 htakes.toEndsAt)
      exact .link htakes hlink (ih left hfewer h)

theorem target?_eq_ok_iff : tree.target? cwd path links = .ok place ↔ tree.Writes cwd path links place :=
  ⟨writes_of_target?, Writes.target?_eq⟩

namespace Writes

theorem linkAt?_eq (h : tree.Writes cwd path links place) : tree.linkAt? place = none := by
  induction h with
  | here _ plain => exact plain
  | link _ _ _ ih => exact ih

theorem exists_takesFile (h : tree.Writes cwd path links place) :
    ∃ destination left, tree.TakesFile cwd path links destination left := by
  cases h with
  | here takes _ => exact ⟨_, _, takes⟩
  | link takes _ _ => exact ⟨_, _, takes⟩

/-- a path leads to where it is written, as soon as something stands there -/
theorem leads (h : tree.Writes cwd path links place) (hthere : (tree.node? place).isSome = true) :
    ∃ left, tree.Leads (origin cwd path) (way path) links ⟨place, left⟩ := by
  induction h with
  | here takes plain =>
    rw [takes.way_eq]
    exact ⟨_, takes.led.append (.step (takes.step? hthere) plain (.here _ _))⟩
  | @link _ _ target _ _ destination _ takes aside later ih =>
    obtain ⟨left, hled⟩ := ih hthere
    have hlink : (tree.node? destination.place).isSome = true := by rw [linkAt?_eq_some_iff.1 aside]; rfl
    obtain ⟨other, _, hother⟩ := later.exists_takesFile
    rw [takes.way_eq]
    refine ⟨left, takes.led.append (.link (takes.step? hlink) aside hother.checked ?_)⟩
    rwa [dropLast_place, List.append_nil]

/-- a path does not lead elsewhere than where it is written -/
theorem place_eq (h : tree.Writes cwd path links place) {links' : Nat} {stand : Stand}
    (h' : tree.Leads (origin cwd path) (way path) links' stand) : stand.place = place := by
  induction h generalizing links' with
  | here takes plain =>
    obtain ⟨more, hlast⟩ := takes.last h'
    cases hlast with
    | step goes _ later =>
      cases later
      exact takes.place_eq_of_step? goes
    | link goes aside _ _ =>
      rw [takes.place_eq_of_step? goes, plain] at aside
      cases aside
  | link takes aside later ih =>
    obtain ⟨more, hlast⟩ := takes.last h'
    cases hlast with
    | step goes plain _ =>
      rw [takes.place_eq_of_step? goes, aside] at plain
      cases plain
    | link goes other _ further =>
      rw [takes.place_eq_of_step? goes, aside] at other
      cases other
      rw [takes.place_eq_of_step? goes, dropLast_place, List.append_nil] at further
      exact ih further

theorem deadEnd (h : tree.Writes cwd path links place) (hfree : tree.node? place ≠ some .directory)
    (takes : tree.TakesFile cwd path links destination left) : tree.DeadEnd destination.place := by
  cases h with
  | here takes' plain =>
    obtain rfl := takes'.unique (.refl tree) takes.toEndsAt
    exact deadEnd_of_linkAt? hfree plain
  | link takes' aside later =>
    obtain rfl := takes'.unique (.refl tree) takes.toEndsAt
    refine ⟨by rw [linkAt?_eq_some_iff.1 aside]; simp, fun target htarget links' stand hled => ?_⟩
    rw [aside] at htarget
    cases htarget
    rw [dropLast_place] at hled
    rwa [later.place_eq hled]

/-- what becomes of the place itself does not matter, as long as it becomes no link -/
theorem sameBut (h : tree.Writes cwd path links place) (same : SameBut place tree next)
    (hfree : tree.node? place ≠ some .directory) (hplain : next.linkAt? place = none) :
    next.Writes cwd path links place := by
  have dead : tree.DeadEnd place := deadEnd_of_linkAt? hfree h.linkAt?_eq
  induction h with
  | here takes _ => exact .here (same.takesFile dead takes) hplain
  | @link _ _ _ _ _ destination place takes aside later ih =>
    have hne : destination.place ≠ place := by
      rintro rfl
      rw [later.linkAt?_eq] at aside
      cases aside
    refine .link (same.takesFile dead takes) ?_ (ih same hfree hplain dead)
    rw [linkAt?_of_node? (same _ hne), aside]

end Writes

/-! ## What happens to a file -/

/-- a file is opened for writing where a path leads, unless a directory stands there or the device refuses -/
theorem openFile?_eq_ok_iff : tree.openFile? device cwd path = .ok place ↔
    tree.Writes cwd path linkLimit place ∧ tree.node? place ≠ some .directory ∧ device.refusesWriting place = none := by
  unfold openFile?
  rw [bind_eq_ok]
  constructor
  · rintro ⟨found, htarget, h⟩
    split at h
    · cases h
    · rename_i hfree
      split at h
      · cases h
      · rename_i hwilling
        cases h
        exact ⟨target?_eq_ok_iff.1 htarget, hfree, hwilling⟩
  · rintro ⟨hwrites, hfree, hwilling⟩
    refine ⟨place, target?_eq_ok_iff.2 hwrites, ?_⟩
    split
    · rename_i hdirectory
      exact absurd hdirectory hfree
    · rw [hwilling]

theorem write_of_opened (h : tree.openFile? device cwd path = .ok place) (t : Text) :
    tree.write device cwd path t =
      (tree.put place (.file (device.written place t).1), (device.written place t).2) := by
  unfold write
  rw [h]

theorem write_of_refused {error : FileError} (h : tree.openFile? device cwd path = .error error) (t : Text) :
    tree.write device cwd path t = (tree, .error error) := by
  unfold write
  rw [h]

/-- what was written in full is there in full -/
theorem contents_of_written {t : Text} (h : (device.written place t).2 = .ok ()) :
    (device.written place t).1 = .text t := by
  unfold Device.written at h ⊢
  split
  · rename_i count error hbreaks
    rw [hbreaks] at h
    dsimp only at h
    split_ifs at h ⊢
    · rfl
  · rfl

/-- a text that is written in full is written where a path leads, and no directory stands there -/
theorem exists_of_write {t : Text} (h : tree.write device cwd path t = (next, .ok ())) :
    ∃ place, tree.openFile? device cwd path = .ok place ∧ (device.written place t).2 = .ok () ∧
      next = tree.put place (.file (.text t)) := by
  cases hopened : tree.openFile? device cwd path with
  | error error =>
    rw [write_of_refused hopened] at h
    cases h
  | ok place =>
    rw [write_of_opened hopened] at h
    obtain ⟨hnext, hwhole⟩ := Prod.mk.inj h
    rw [contents_of_written hwhole] at hnext
    exact ⟨place, rfl, hwhole, hnext.symm⟩

/-- removing takes away what is there, unless it is a directory or the device refuses -/
def removal (tree : FileTree) (device : Device) (place : Location) : Except FileError FileTree :=
  match tree.node? place with
  | none => .error .notFound
  | some node =>
    match device.refusesRemoval place with
    | some error => .error error
    | none => if node = .directory then .error .isADirectory else .ok (tree.erase place)

theorem TakesFile.remove (device : Device) (h : tree.TakesFile cwd path linkLimit destination left) :
    tree.remove device cwd path = tree.removal device destination.place := by
  unfold FileTree.remove removal
  rw [destination?_eq_ok_iff.2 h.toEndsAt]
  change (if _ then _ else _ >>= _) = _
  rw [h.occupant?, h.named, h.plain]
  cases tree.node? destination.place <;> rfl

theorem removal_eq_ok_iff : tree.removal device place = .ok next ↔ (tree.node? place).isSome = true ∧
    tree.node? place ≠ some .directory ∧ device.refusesRemoval place = none ∧ next = tree.erase place := by
  unfold removal
  cases hnode : tree.node? place with
  | none => simp
  | some node =>
    cases hrefused : device.refusesRemoval place with
    | some error => simp
    | none =>
      dsimp only
      split_ifs with hdirectory
      · simp [hdirectory]
      · simp [hdirectory, eq_comm]

theorem exists_of_remove (h : tree.remove device cwd path = .ok next) :
    ∃ destination left, tree.TakesFile cwd path linkLimit destination left ∧
      tree.removal device destination.place = .ok next := by
  have hall := h
  unfold remove at h
  obtain ⟨⟨destination, left⟩, hdestination, h⟩ := bind_eq_ok.1 h
  dsimp only at h
  split at h
  · cases h
  · rename_i hnamed
    obtain ⟨occupant, hoccupant, h⟩ := bind_eq_ok.1 h
    obtain ⟨hshort, -⟩ := occupant?_eq_ok_iff.1 hoccupant
    split at h
    · cases h
    · have hplain : destination.slash = false := by
        cases hslash : destination.slash with
        | true =>
          rw [hslash] at h
          cases h
        | false => rfl
      rw [Bool.not_eq_true', Bool.not_eq_false] at hnamed
      have htakes : tree.TakesFile cwd path linkLimit destination left :=
        ⟨destination?_eq_ok_iff.1 hdestination, hnamed, hplain, hshort⟩
      exact ⟨destination, left, htakes, htakes.remove device ▸ hall⟩

theorem TakesFile.makeDirectory (h : tree.TakesFile cwd path linkLimit destination left)
    (hfree : tree.node? destination.place = none) :
    tree.makeDirectory cwd path = .ok (tree.put destination.place .directory) := by
  unfold FileTree.makeDirectory
  refine bind_eq_ok.2 ⟨_, destination?_eq_ok_iff.2 h.toEndsAt, ?_⟩
  refine bind_eq_ok.2 ⟨none, hfree ▸ h.occupant?, ?_⟩
  rw [h.named]
  rfl

/-- a directory is made only where nothing stands -/
theorem exists_of_makeDirectory (h : tree.makeDirectory cwd path = .ok next) :
    ∃ place, tree.node? place = none ∧ next = tree.put place .directory := by
  unfold makeDirectory at h
  obtain ⟨⟨destination, left⟩, -, h⟩ := bind_eq_ok.1 h
  obtain ⟨occupant, hoccupant, h⟩ := bind_eq_ok.1 h
  obtain ⟨-, rfl⟩ := occupant?_eq_ok_iff.1 hoccupant
  split_ifs at h with hstop
  cases h
  simp only [Bool.or_eq_true, not_or, Bool.not_eq_true, Option.isSome_eq_false_iff, Option.isNone_iff_eq_none] at hstop
  exact ⟨destination.place, hstop.2, rfl⟩

/-! ## Reading -/

theorem locate?_eq_ok_iff : tree.locate? cwd path = .ok place ↔ checkPath path = .ok () ∧
    ∃ left, tree.Leads (origin cwd path) (way path) linkLimit ⟨place, left⟩ := by
  unfold locate?
  constructor
  · intro h
    obtain ⟨_, hchecked, h⟩ := bind_eq_ok.1 h
    obtain ⟨stand, hled, h⟩ := bind_eq_ok.1 h
    cases h
    exact ⟨hchecked, stand.links, follow?_eq_ok_iff.1 hled⟩
  · rintro ⟨hchecked, left, hled⟩
    exact bind_eq_ok.2 ⟨(), hchecked, bind_eq_ok.2 ⟨_, follow?_eq_ok_iff.2 hled, rfl⟩⟩

/-- a path leads to the place where it is written, as soon as something stands there -/
theorem Writes.locate? (h : tree.Writes cwd path linkLimit place) (hthere : (tree.node? place).isSome = true) :
    tree.locate? cwd path = .ok place := by
  obtain ⟨_, _, htakes⟩ := h.exists_takesFile
  exact locate?_eq_ok_iff.2 ⟨htakes.checked, h.leads hthere⟩

theorem node?_of_textAt {t : Text} (h : tree.textAt place = .ok t) : tree.node? place = some (.file (.text t)) := by
  unfold textAt at h
  split at h
  · cases h
  · cases h
  · rename_i hnode
    cases h
    exact hnode
  · cases h
  · cases h
  · cases h

theorem textAt_of_node? {t : Text} (h : tree.node? place = some (.file (.text t))) : tree.textAt place = .ok t := by
  unfold textAt
  rw [h]

theorem read_eq_ok_iff {t : Text} : tree.read cwd path = .ok t ↔
    ∃ place, tree.locate? cwd path = .ok place ∧ tree.node? place = some (.file (.text t)) := by
  unfold read
  rw [bind_eq_ok]
  exact ⟨fun ⟨place, hplace, htext⟩ => ⟨place, hplace, node?_of_textAt htext⟩,
    fun ⟨place, hplace, hnode⟩ => ⟨place, hplace, textAt_of_node? hnode⟩⟩

theorem linkAt?_put_self {node : Node} (hplace : place ≠ []) (h : ∀ target, node ≠ .link target) :
    (tree.put place node).linkAt? place = none := by
  unfold linkAt?
  rw [node?_put_self hplace]
  split
  · rename_i target htarget
    exact absurd (Option.some.inj htarget) (h target)
  · rfl

/-- a path goes on naming its file when that is put there -/
theorem Writes.put (h : tree.Writes cwd path links place) (hfree : tree.node? place ≠ some .directory)
    (contents : Contents) : (tree.put place (.file contents)).Writes cwd path links place :=
  h.sameBut (.put tree place _) hfree (linkAt?_put_self (place_ne_nil hfree) nofun)

theorem Writes.takesFile_put (h : tree.Writes cwd path links place) (hfree : tree.node? place ≠ some .directory)
    (takes : tree.TakesFile cwd path links destination left) (contents : Contents) :
    (tree.put place (.file contents)).TakesFile cwd path links destination left ∧
      (tree.put place (.file contents)).DeadEnd destination.place := by
  have hput : (tree.put place (.file contents)).TakesFile cwd path links destination left :=
    (SameBut.put tree place _).takesFile (deadEnd_of_linkAt? hfree h.linkAt?_eq) takes
  refine ⟨hput, (h.put hfree contents).deadEnd ?_ hput⟩
  rw [node?_put_self (place_ne_nil hfree)]
  simp

theorem read_of_write {t : Text} (h : tree.write device cwd path t = (next, .ok ())) : next.read cwd path = .ok t := by
  obtain ⟨place, hopened, -, rfl⟩ := exists_of_write h
  obtain ⟨hwrites, hfree, -⟩ := openFile?_eq_ok_iff.1 hopened
  have hnode : (tree.put place (.file (.text t))).node? place = some (.file (.text t)) :=
    node?_put_self (place_ne_nil hfree)
  exact read_eq_ok_iff.2 ⟨place, (hwrites.put hfree _).locate? (by rw [hnode]; rfl), hnode⟩

/-! ## The file and the entry that a path names -/

/-- the place of the file that a path names, whether or not there is one: where it is written -/
def fileNamed? (tree : FileTree) (cwd : Location) (path : Text) : Option Location :=
  (tree.target? cwd path linkLimit).toOption

/-- the place of the entry that a path ends at, which is what removing takes away: its directory is there, and it ends
with a name and no slash -/
def entryNamed? (tree : FileTree) (cwd : Location) (path : Text) : Option Location :=
  match tree.destination? cwd path linkLimit with
  | .ok (destination, _) => if destination.isNamed && !destination.slash then some destination.place else none
  | .error _ => none

theorem fileNamed?_eq_some_iff : tree.fileNamed? cwd path = some place ↔ tree.Writes cwd path linkLimit place := by
  rw [← target?_eq_ok_iff, fileNamed?]
  cases tree.target? cwd path linkLimit <;> simp [Except.toOption]

theorem fileNamed?_of_openFile? (h : tree.openFile? device cwd path = .ok place) :
    tree.fileNamed? cwd path = some place :=
  fileNamed?_eq_some_iff.2 (openFile?_eq_ok_iff.1 h).1

/-- writing changes nothing but the file that is named, whether all was written or not -/
theorem node?_write {t : Text} (h : tree.fileNamed? cwd path ≠ some place) :
    (tree.write device cwd path t).1.node? place = tree.node? place := by
  cases hopened : tree.openFile? device cwd path with
  | error error => rw [write_of_refused hopened]
  | ok file =>
    have hne : place ≠ file := fun heq => h (heq ▸ fileNamed?_of_openFile? hopened)
    rw [write_of_opened hopened]
    exact node?_put_of_ne hne

theorem TakesFile.entryNamed? (h : tree.TakesFile cwd path linkLimit destination left) :
    tree.entryNamed? cwd path = some destination.place := by
  unfold FileTree.entryNamed?
  rw [destination?_eq_ok_iff.2 h.toEndsAt]
  dsimp only
  rw [h.named, h.plain]
  rfl

theorem TakesFile.fileNamed? (h : tree.TakesFile cwd path linkLimit destination left)
    (plain : tree.linkAt? destination.place = none) : tree.fileNamed? cwd path = some destination.place :=
  fileNamed?_eq_some_iff.2 (.here h plain)

end FileTree

end GlslInspect
