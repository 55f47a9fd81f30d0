/-
What a validation leaves in the file tree.

The scratch file is written over whatever the scratch path names, the compiler may take it away or put a directory in
its place, and at the end it is removed; nothing else is touched. The scratch path keeps naming the same file all along
(`FileTree.SameBut.takesFile`), so what is left there is known for each thing the compiler may have done:
- `Host.exists_of_staged`: before the compiler is called, the scratch file is put where the scratch path takes a file;
- `Interference.tree_apply`: what the compiler may leave there;
- `Scratch.release_of_takesFile`: what letting go makes of it.
Main results: `scratch_cleaned_up` and, for compilers that keep files as they are, `inputs_survive`. A file that was
read for the validation is lost if the scratch path names it (`input_lost_as_scratch`).
-/
import Mathlib.Data.Nat.Notation
import GlslInspect.Proofs.Location
import GlslInspect.Proofs.Validation

namespace GlslInspect

variable {host seen : Host} {settings : Settings} {shader : Text}

/-! ## Notes -/

theorem Skip.level_of_mem {ι κ : Type} {depth : ℕ} {ask : Request κ} {why : Skip ι κ} {note : Note}
    (h : .note note ∈ why.events depth ask) : note.level ≠ .error := by
  cases why <;>
    · simp only [Skip.events, List.mem_cons, reduceCtorEq, Event.note.injEq, false_or, List.not_mem_nil, or_false] at h
      rw [h]
      simp [Note.level]

theorem Opened.level_of_mem {ι κ : Type} {depth : ℕ} {ask : Request κ} {file : Opened ι κ} {note : Note}
    (h : .note note ∈ file.events depth ask) : note.level ≠ .error := by
  simp only [Opened.events, List.mem_cons, reduceCtorEq, Event.note.injEq, false_or, List.not_mem_nil, or_false] at h
  rw [h]
  simp [Note.level]

theorem Expansion.level_of_mem {ι κ : Type} {expansion : Expansion ι κ} {depth : ℕ} {note : Note}
    (h : .note note ∈ expansion.events depth) : note.level ≠ .error := by
  induction expansion generalizing depth with
  | done => cases h
  | code piece rest ih => exact ih h
  | skipped ask why rest ih =>
    rcases List.mem_append.1 h with h | h
    · exact Skip.level_of_mem h
    · exact ih h
  | nested ask file body rest ihbody ih =>
    rcases List.mem_append.1 h with h | h
    · rcases List.mem_append.1 h with h | h
      · exact Opened.level_of_mem h
      · exact ihbody h
    · exact ih h

/-- nothing that happens while a file is flattened is an error -/
theorem Flattening.level_of_mem {ι κ : Type} {flattening : Flattening ι κ} {note : Note}
    (h : note ∈ flattening.notes) : note.level ≠ .error := by
  obtain ⟨event, hevent, hnote⟩ := List.mem_filterMap.1 h
  have hmem : .note note ∈ flattening.events := by
    cases event with
    | note other =>
      cases hnote
      exact hevent
    | _ => cases hnote
  unfold events at hmem
  split at hmem
  · exact Skip.level_of_mem hmem
  · rcases List.mem_append.1 hmem with hmem | hmem
    · exact Opened.level_of_mem hmem
    · exact Expansion.level_of_mem hmem

/-! ## The scratch file -/

namespace FileTree

/-- a place that was empty is left as it was when what is put there is cleared -/
theorem erase_put {tree : FileTree} {place : Location} (node : Node) (h : tree.node? place = none) :
    (tree.put place node).erase place = tree := by
  have hfree : tree.entries.lookup place = none := by
    unfold node? at h
    split at h
    · cases h
    · exact h
  have hkeep : (tree.entries.filter fun entry => entry.1 ≠ place) = tree.entries := by
    rw [List.filter_eq_self]
    intro entry hentry
    have hne : place ≠ entry.1 := bne_iff_ne.1 (List.lookup_eq_none_iff.1 hfree entry hentry)
    exact decide_eq_true hne.symm
  unfold erase put
  rw [List.filter_append, hkeep, hkeep]
  simp

end FileTree

namespace Scratch

variable {tree : FileTree} {device : Device} {cwd : Location} {path : Text} {destination : FileTree.Destination}
  {left : ℕ}

/-- all that letting go of a scratch file can do -/
theorem release_cases (device : Device) (h : tree.TakesFile cwd path FileTree.linkLimit destination left) :
    (tree.node? destination.place = none ∧ release tree device cwd path = (tree, [])) ∨
    (tree.node? destination.place ≠ none ∧
      (tree.node? destination.place = some .directory ∨ device.refusesRemoval destination.place ≠ none) ∧
      ∃ error : FileError, release tree device cwd path = (tree, [.notRemoved path error.message])) ∨
    (tree.node? destination.place ≠ none ∧ tree.node? destination.place ≠ some .directory ∧
      device.refusesRemoval destination.place = none ∧
      release tree device cwd path = (tree.erase destination.place, [])) := by
  unfold release
  rw [h.remove, FileTree.removal]
  cases hnode : tree.node? destination.place with
  | none => exact .inl ⟨rfl, rfl⟩
  | some node =>
    cases hrefused : device.refusesRemoval destination.place with
    | some error =>
      -- a refusal is never that nothing was found, which would be passed over
      have hfound : error ≠ .notFound := fun heq => device.refused_found _ (heq ▸ hrefused)
      refine .inr (.inl ⟨by simp, .inr (by simp), error, ?_⟩)
      cases error <;> first | rfl | exact absurd rfl hfound
    | none =>
      by_cases hdirectory : node = .directory
      · subst hdirectory
        exact .inr (.inl ⟨by simp, .inl rfl, .isADirectory, rfl⟩)
      · refine .inr (.inr ⟨by simp, by simpa using hdirectory, rfl, ?_⟩)
        dsimp only
        rw [if_neg hdirectory]

theorem sameBut_release (h : tree.TakesFile cwd path FileTree.linkLimit destination left) :
    FileTree.SameBut destination.place tree (release tree device cwd path).1 := by
  rcases release_cases device h with ⟨-, hsame⟩ | ⟨-, -, error, hsame⟩ | ⟨-, -, -, herased⟩
  · rw [hsame]
    exact .refl _ tree
  · rw [hsame]
    exact .refl _ tree
  · rw [herased]
    exact .erase tree destination.place

theorem left_behind (device : Device) (h : tree.TakesFile cwd path FileTree.linkLimit destination left) :
    (release tree device cwd path).1.node? destination.place = none ∨
      (release tree device cwd path).1.node? destination.place = some .directory ∨
      device.refusesRemoval destination.place ≠ none := by
  rcases release_cases device h with ⟨hnone, hsame⟩ | ⟨-, hstays, error, hsame⟩ | ⟨-, hfree, -, herased⟩
  · rw [hsame]
    exact .inl hnone
  · rw [hsame]
    exact .inr hstays
  · rw [herased]
    exact .inl (FileTree.node?_erase_self (FileTree.place_ne_nil hfree))

theorem exists_error_iff (h : tree.TakesFile cwd path FileTree.linkLimit destination left) :
    (∃ note ∈ (release tree device cwd path).2, note.level = .error) ↔
      (release tree device cwd path).1.node? destination.place ≠ none := by
  rcases release_cases device h with ⟨hnone, hsame⟩ | ⟨hthere, -, error, hsame⟩ | ⟨-, hfree, -, herased⟩
  · rw [hsame]
    simp [hnone]
  · rw [hsame]
    simpa [Note.level] using hthere
  · rw [herased]
    simp [FileTree.node?_erase_self (FileTree.place_ne_nil hfree)]

end Scratch

theorem Host.exists_of_staged (h : host.staged settings shader = .ok seen) :
    ∃ place contents, host.tree.Writes host.cwd settings.scratchFile FileTree.linkLimit place ∧
      host.tree.node? place ≠ some .directory ∧
      seen = { host with tree := host.tree.put place (.file contents) } := by
  obtain ⟨-, tree, hcreate, rfl⟩ := staged_eq_ok_iff.1 h
  obtain ⟨place, hopened, -, rfl⟩ := FileTree.exists_of_write (Scratch.create_eq_ok_iff.1 hcreate)
  obtain ⟨hwrites, hfree, -⟩ := FileTree.openFile?_eq_ok_iff.1 hopened
  exact ⟨place, _, hwrites, hfree, rfl⟩

/-- a scratch file that cannot be opened leaves the tree as it was -/
theorem Host.scratched_of_refused {error : FileError}
    (h : host.tree.openFile? host.device host.cwd settings.scratchFile = .error error) :
    (host.scratched settings shader).1 = host.tree := by
  rw [scratched, Scratch.create_of_refused h]

/-- where no compiler is called, nothing changes but the file that the scratch path names -/
theorem Host.node?_of_unstaged {failure : Failure} {place : Location}
    (h : host.staged settings shader = .error failure)
    (hplace : host.tree.fileNamed? host.cwd settings.scratchFile ≠ some place) (compiler : Compiler) :
    (host.validateWith settings compiler shader).host.tree.node? place = host.tree.node? place := by
  obtain ⟨tree, notes, hleft, hsame⟩ := validateWith_of_unstaged h
  rw [hsame]
  rcases hleft with rfl | rfl
  · rfl
  · rw [scratched, Scratch.tree_create]
    exact FileTree.node?_write hplace

/-! ## Compilers -/

/-- whatever a compiler answers, it stays where it is, on the same device, and does no more to the file tree than to
leave, remove or replace the file that it is given -/
def Compiler.Confined (compiler : Compiler) : Prop :=
  ∀ path host, (compiler path host).1.cwd = host.cwd ∧ (compiler path host).1.device = host.device ∧
    ∃ interference : Interference, (compiler path host).1.tree = (interference.apply path host).tree

/-- what a compiler can leave of a scratch file: the file, nothing, or a directory in its place -/
def FileTree.Replaced (written after : FileTree) (place : Location) : Prop :=
  after = written ∨ after = written.erase place ∨ after = (written.erase place).put place .directory

theorem FileTree.Replaced.sameBut {written after : FileTree} {place : Location} (h : Replaced written after place) :
    SameBut place written after := by
  rcases h with rfl | rfl | rfl
  · exact .refl place _
  · exact .erase _ place
  · exact (SameBut.erase _ place).trans (.put _ place _)

namespace Interference

theorem eq_of_apply (interference : Interference) (path : Text) (host : Host) :
    interference.apply path host = { host with tree := (interference.apply path host).tree } := by
  unfold apply
  split
  · rfl
  · split <;> rfl
  · split
    · split <;> rfl
    · rfl

theorem replaced_apply {path : Text} {destination : FileTree.Destination} {left : ℕ}
    (htakes : host.tree.TakesFile host.cwd path FileTree.linkLimit destination left)
    (dead : host.tree.DeadEnd destination.place) (interference : Interference) :
    host.tree.Replaced (interference.apply path host).tree destination.place := by
  have hremove := htakes.remove host.device
  cases hremoval : host.tree.removal host.device destination.place with
  | error error =>
    rw [hremoval] at hremove
    left
    cases interference <;> simp [apply, hremove]
  | ok next =>
    obtain ⟨-, -, -, rfl⟩ := FileTree.removal_eq_ok_iff.1 hremoval
    have herased : (host.tree.erase destination.place).node? destination.place = Option.none :=
      FileTree.node?_erase_self (FileTree.place_ne_nil dead.directory)
    have hmake : (host.tree.erase destination.place).makeDirectory host.cwd path =
        .ok ((host.tree.erase destination.place).put destination.place .directory) :=
      ((FileTree.SameBut.erase host.tree destination.place).takesFile dead htakes).makeDirectory herased
    rw [hremoval] at hremove
    cases interference with
    | none => exact .inl rfl
    | remove => exact .inr (.inl (by simp [apply, hremove]))
    | replaceByDirectory => exact .inr (.inr (by simp [apply, hremove, hmake]))

end Interference

theorem Compiler.confined_canned (interference : Interference) (answer : Except Failure Compiled) :
    (Compiler.canned interference answer).Confined := by
  intro path host
  have hrecorded : (Compiler.canned interference answer path host).1.tree = (interference.apply path host).tree := by
    unfold canned Interference.apply
    cases interference with
    | none => rfl
    | remove =>
      dsimp only
      split <;> rfl
    | replaceByDirectory =>
      dsimp only
      split
      · split <;> rfl
      · rfl
  refine ⟨?_, ?_, interference, hrecorded⟩
  · unfold canned
    rw [Interference.eq_of_apply]
  · unfold canned
    rw [Interference.eq_of_apply]

/-- a program that is run is recorded, and that is all -/
theorem Host.of_launch {executable : Text} {arguments : List Text} {next : Host} {reply : Reply}
    (h : host.launch executable arguments = .ok (next, reply)) :
    next = { host with calls := host.calls ++ [host.callOf arguments] } := by
  unfold launch at h
  dsimp only at h
  split at h
  · cases h
  · obtain ⟨_, -, h⟩ := bind_eq_ok.1 h
    split at h
    · cases h
    · cases h
      rfl

theorem Compiler.confined_external (settings : Settings) : (Compiler.external settings).Confined := by
  intro path host
  unfold external
  split
  · rename_i h
    rw [Host.of_launch h]
    exact ⟨rfl, rfl, .none, rfl⟩
  · exact ⟨rfl, rfl, .none, rfl⟩
  · exact ⟨rfl, rfl, .none, rfl⟩

/-! ## Cleaning up -/

/-- what was put on an empty place is cleared away, if no directory takes its place and no removal is refused -/
theorem Scratch.tree_release_of_empty {tree written after : FileTree} {device : Device} {cwd : Location} {path : Text}
    {destination : FileTree.Destination} {left : ℕ}
    (hends : after.TakesFile cwd path FileTree.linkLimit destination left)
    (hback : written.erase destination.place = tree) (hfile : written.node? destination.place ≠ none)
    (hreplaced : FileTree.Replaced written after destination.place)
    (hnone : after.node? destination.place ≠ some .directory)
    (hwilling : device.refusesRemoval destination.place = none) : (release after device cwd path).1 = tree := by
  have hne : destination.place ≠ [] := FileTree.place_ne_nil hnone
  rcases release_cases device hends with
    ⟨hgone, hsame⟩ | ⟨-, hdirectory | hrefused, -⟩ | ⟨hthere, -, -, herase⟩
  · rw [hsame]
    rcases hreplaced with rfl | rfl | rfl
    · exact absurd hgone hfile
    · exact hback
    · exact absurd (FileTree.node?_put_self hne) hnone
  · exact absurd hdirectory hnone
  · exact absurd hwilling hrefused
  · rw [herase]
    rcases hreplaced with rfl | rfl | rfl
    · exact hback
    · exact absurd (FileTree.node?_erase_self hne) hthere
    · exact absurd (FileTree.node?_put_self hne) hnone

/-- what a confined compiler leaves: the scratch path ends at the same entry as before, nothing has changed but that
entry and the file that was written, and what was put on an empty place is cleared away -/
theorem Host.after_staged {compiler : Compiler} {after : Host} (h : host.staged settings shader = .ok seen)
    (confined : compiler.Confined) (hafter : (compiler settings.scratchFile seen).1 = after) :
    ∃ destination left place,
      host.tree.TakesFile host.cwd settings.scratchFile FileTree.linkLimit destination left ∧
      host.tree.fileNamed? host.cwd settings.scratchFile = some place ∧
      after.tree.TakesFile after.cwd settings.scratchFile FileTree.linkLimit destination left ∧
      (∀ other, other ≠ place → other ≠ destination.place → after.tree.node? other = host.tree.node? other) ∧
      (host.tree.node? destination.place = none → after.tree.node? destination.place ≠ some .directory →
        host.device.refusesRemoval destination.place = none →
        (Scratch.release after.tree after.device after.cwd settings.scratchFile).1 = host.tree) := by
  obtain ⟨place, contents, hwrites, hfree, rfl⟩ := exists_of_staged h
  obtain ⟨destination, left, htakes⟩ := hwrites.exists_takesFile
  obtain ⟨hseen, dead⟩ := hwrites.takesFile_put hfree htakes contents
  obtain ⟨hstays, hdevice, interference, htree⟩ :=
    confined settings.scratchFile { host with tree := host.tree.put place (.file contents) }
  rw [hafter] at hstays hdevice htree
  have hreplaced : FileTree.Replaced (host.tree.put place (.file contents)) after.tree destination.place := by
    rw [htree]
    exact interference.replaced_apply hseen dead
  have hends := hreplaced.sameBut.takesFile dead hseen
  rw [← show after.cwd = host.cwd from hstays] at hends
  refine ⟨destination, left, place, htakes, FileTree.fileNamed?_eq_some_iff.2 hwrites, hends,
    fun other hother hentry => (hreplaced.sameBut other hentry).trans (FileTree.node?_put_of_ne hother),
    fun hempty hnone hwilling => ?_⟩
  -- where nothing stood there was no link to follow
  have hplain : host.tree.linkAt? destination.place = none := by
    unfold FileTree.linkAt?
    rw [hempty]
  obtain rfl : place = destination.place := Option.some.inj
    ((FileTree.fileNamed?_eq_some_iff.2 hwrites).symm.trans (htakes.fileNamed? hplain))
  refine Scratch.tree_release_of_empty hends (FileTree.erase_put _ hempty) ?_ hreplaced hnone (hdevice ▸ hwilling)
  rw [FileTree.node?_put_self (FileTree.place_ne_nil hfree)]
  exact Option.some_ne_none _

/-- nothing is noted as an error but what letting go of the scratch file notes -/
theorem Host.exists_error_iff (h : host.staged settings shader = .ok seen) (compiler : Compiler) :
    (∃ note ∈ (host.validateWith settings compiler shader).notes, note.level = .error) ↔
      ∃ note ∈ (Scratch.release (compiler settings.scratchFile seen).1.tree
        (compiler settings.scratchFile seen).1.device (compiler settings.scratchFile seen).1.cwd
        settings.scratchFile).2, note.level = .error := by
  rw [notes_of_staged h]
  constructor
  · rintro ⟨note, hmem, hlevel⟩
    rcases List.mem_append.1 hmem with hmem | hmem
    · rcases List.mem_append.1 hmem with hmem | hmem
      · exact absurd hlevel (Flattening.level_of_mem hmem)
      · rw [List.mem_singleton.1 hmem] at hlevel
        cases hlevel
    · exact ⟨note, hmem, hlevel⟩
  · rintro ⟨note, hmem, hlevel⟩
    exact ⟨note, List.mem_append_right _ hmem, hlevel⟩

/-- **Scratch files are cleaned up.** Whatever a confined compiler does and answers:
every place is left as it was, but for that of the file that the scratch path names and that of the entry it ends at;
if the shader is not there or the scratch file is not written, no compiler plays a part, and if it cannot even be
opened, the host is left as it was; if the scratch file is written, nothing is left at the end of its path but a
directory or what the device refuses to remove, and an error is noted exactly if something is left. So if nothing was
there before, the compiler puts no directory there and the removal is not refused, the tree is as before. -/
theorem scratch_cleaned_up (host : Host) (settings : Settings) (compiler : Compiler) (shader : Text)
    (confined : compiler.Confined) :
    let scratched := host.scratched settings shader
    let validation := host.validateWith settings compiler shader
    (∀ place, host.tree.fileNamed? host.cwd settings.scratchFile ≠ some place →
      host.tree.entryNamed? host.cwd settings.scratchFile ≠ some place →
      validation.host.tree.node? place = host.tree.node? place) ∧
    (host.pathExists shader = false ∨ (∃ failure, scratched.2 = .error failure) →
      ∀ other, host.validateWith settings other shader = validation) ∧
    (host.pathExists shader = false ∨
        (∃ error, host.tree.openFile? host.device host.cwd settings.scratchFile = .error error) →
      validation.host = host) ∧
    ∀ tree, host.pathExists shader = true → scratched = (tree, .ok ()) →
      ∃ place, host.tree.entryNamed? host.cwd settings.scratchFile = some place ∧
        (validation.host.tree.node? place = none ∨ validation.host.tree.node? place = some .directory ∨
          host.device.refusesRemoval place ≠ none) ∧
        ((∃ note ∈ validation.notes, note.level = .error) ↔ validation.host.tree.node? place ≠ none) ∧
        (host.tree.node? place = none →
          (compiler settings.scratchFile { host with tree := tree }).1.tree.node? place ≠ some .directory →
          host.device.refusesRemoval place = none → validation.host.tree = host.tree) := by
  intro scratched validation
  refine ⟨fun place hplace hentry => ?_, fun hstop => ?_, fun hstop => ?_, fun tree hexists hcreate => ?_⟩
  · cases hstaged : host.staged settings shader with
    | error failure => exact Host.node?_of_unstaged hstaged hplace compiler
    | ok seen =>
      obtain ⟨destination, left, file, htakes, hfile, hends, hsame, -⟩ := Host.after_staged hstaged confined rfl
      have hne : place ≠ file := fun heq => hplace (heq ▸ hfile)
      have hne' : place ≠ destination.place := fun heq => hentry (heq ▸ htakes.entryNamed?)
      rw [show validation.host = _ from Host.host_of_staged hstaged compiler]
      exact (Scratch.sameBut_release hends place hne').trans (hsame place hne hne')
  · obtain ⟨failure, hstaged⟩ := Host.exists_unstaged_iff.2 hstop
    obtain ⟨tree, notes, -, hsame⟩ := Host.validateWith_of_unstaged hstaged
    rw [show validation = _ from hsame compiler]
    exact hsame
  · rcases hstop with hmissing | ⟨error, hrefused⟩
    · rw [show validation = _ from Host.validateWith_of_missing hmissing compiler]
    · have hkept : scratched.1 = host.tree := Host.scratched_of_refused hrefused
      cases hstaged : host.staged settings shader with
      | error failure =>
        obtain ⟨tree, notes, hleft, hsame⟩ := Host.validateWith_of_unstaged hstaged
        rw [show validation = _ from hsame compiler, hleft.elim id fun heq => heq.trans hkept]
      | ok seen =>
        obtain ⟨-, tree, hcreate, -⟩ := Host.staged_eq_ok_iff.1 hstaged
        obtain ⟨place, hopened, -⟩ := FileTree.exists_of_write (Scratch.create_eq_ok_iff.1 hcreate)
        cases hrefused.symm.trans hopened
  · have hstaged : host.staged settings shader = .ok { host with tree := tree } :=
      Host.staged_eq_ok_iff.2 ⟨hexists, tree, hcreate, rfl⟩
    obtain ⟨destination, left, file, htakes, -, hends, -, hback⟩ := Host.after_staged hstaged confined rfl
    have hdevice : (compiler settings.scratchFile { host with tree := tree }).1.device = host.device :=
      (confined _ _).2.1
    have herror := (Host.exists_error_iff hstaged compiler).trans (Scratch.exists_error_iff hends)
    have hleft := Scratch.left_behind (compiler settings.scratchFile { host with tree := tree }).1.device hends
    rw [show validation.host = _ from Host.host_of_staged hstaged compiler]
    refine ⟨destination.place, htakes.entryNamed?, ?_, herror, hback⟩
    exact hleft.imp_right fun h => h.imp_right fun hrefused => hdevice ▸ hrefused

/-- a scratch path that ends in a link, and a compiler that fails after it put a directory in the place of the link: the
file behind the link is written, the directory is left -/
theorem scratch_cleaned_up_directory :
    let host := Host.start ⟨[(["main.fsh"], .file (.text "void main() {}")), (["out"], .directory),
      (["out", "tmp"], .file (.text "old")), (["tmp.frag"], .link "out/tmp")]⟩ [] (Host.scripted [])
    let compiler := Compiler.canned .replaceByDirectory (.error (.validatorNotFound "glslangValidator"))
    let settings := { Settings.standard with scratchFile := "tmp.frag" }
    let validation := host.validateWith settings compiler "main.fsh"
    compiler.Confined ∧ host.pathExists "main.fsh" = true ∧
      validation.host.tree.node? ["main.fsh"] = host.tree.node? ["main.fsh"] ∧
      validation.host.tree.node? ["tmp.frag"] = some .directory ∧ ∃ note ∈ validation.notes, note.level = .error := by
  intro host compiler settings validation
  have confined : compiler.Confined := Compiler.confined_canned _ _
  have hexists : host.pathExists "main.fsh" = true := by decide +kernel
  have hfile : host.tree.fileNamed? host.cwd settings.scratchFile = some (["out", "tmp"] : Location) := by
    decide +kernel
  have hentry : host.tree.entryNamed? host.cwd settings.scratchFile = some (["tmp.frag"] : Location) := by
    decide +kernel
  have hdirectory : validation.host.tree.node? ["tmp.frag"] = some .directory := by decide +kernel
  have hwritten : (host.scratched settings "main.fsh").2 = .ok () := by decide +kernel
  obtain ⟨hothers, -, -, hscratch⟩ := scratch_cleaned_up host settings compiler "main.fsh" confined
  obtain ⟨place, hplace, -, herror, -⟩ := hscratch (host.scratched settings "main.fsh").1 hexists
    (Prod.ext rfl hwritten)
  obtain rfl := Option.some.inj (hplace.symm.trans hentry)
  refine ⟨confined, hexists, hothers _ ?_ ?_, hdirectory, herror.2 fun hnone => ?_⟩
  · rw [hfile]
    decide
  · rw [hentry]
    decide
  · rw [hdirectory] at hnone
    cases hnone

/-- three scratch files that are not cleaned up, with a compiler that does nothing: one whose removal is refused, where
no directory stands; one whose writing breaks off, so that no compiler is called; and one behind a link that led
nowhere, so that nothing was there before -/
theorem scratch_left_behind :
    (let host := { Host.start ⟨[(["main.fsh"], .file (.text "void main() { }\n")), (["proc"], .directory),
        (["proc", "comm"], .file (.text "name"))]⟩ [] (Host.scripted []) with
        device := .keeping ["proc", "comm"] }
    let settings := { Settings.standard with scratchFile := "/proc/comm" }
    let validation := host.validateWith settings (Compiler.canned .none (.ok ⟨true, []⟩)) "main.fsh"
    validation.outcome.isOk = true ∧ (∃ note ∈ validation.notes, note.level = .error) ∧
      validation.host.tree.node? ["proc", "comm"] = some (.file (.text "void main() { }\n"))) ∧
    (let host := { Host.start ⟨[(["main.fsh"], .file (.text "void main() { }\n"))]⟩ [] (Host.scripted []) with
        device := .full 4 }
    let settings := { Settings.standard with scratchFile := "tmp.frag" }
    let validation := host.validateWith settings (Compiler.canned .none (.ok ⟨true, []⟩)) "main.fsh"
    validation.outcome.isOk = false ∧ validation.host.calls = [] ∧
      validation.host.tree.node? ["tmp.frag"] = some (.file (.text "void"))) ∧
    let host := Host.start ⟨[(["main.fsh"], .file (.text "void main() { }\n")), (["tmp.frag"], .link "out")]⟩ []
      (Host.scripted [])
    let settings := { Settings.standard with scratchFile := "tmp.frag" }
    let validation := host.validateWith settings (Compiler.canned .none (.ok ⟨true, []⟩)) "main.fsh"
    host.pathExists "tmp.frag" = false ∧ validation.outcome.isOk = true ∧
      validation.host.tree.node? ["out"] = some (.file (.text "void main() { }\n")) := by
  refine ⟨⟨by decide +kernel, by decide +kernel, by decide +kernel⟩,
    ⟨by decide +kernel, by decide +kernel, by decide +kernel⟩, by decide +kernel, by decide +kernel, by decide +kernel⟩

/-! ## Inputs -/

/-- a compiler that changes no file: when it answers, each file is there and holds what it held -/
def Compiler.KeepsFiles (compiler : Compiler) : Prop :=
  ∀ path host place contents, host.tree.node? place = some (.file contents) →
    (compiler path host).1.tree.node? place = some (.file contents)

/-- letting go changes nothing, or clears the place of the entry that the scratch path ends at -/
theorem Scratch.tree_release (tree : FileTree) (device : Device) (cwd : Location) (path : Text) :
    (release tree device cwd path).1 = tree ∨
      ∃ destination left, tree.TakesFile cwd path FileTree.linkLimit destination left ∧
        tree.node? destination.place ≠ some .directory ∧
        (release tree device cwd path).1 = tree.erase destination.place := by
  unfold release
  split
  · rename_i next hremove
    obtain ⟨destination, left, htakes, hremoval⟩ := FileTree.exists_of_remove hremove
    obtain ⟨-, hfree, -, rfl⟩ := FileTree.removal_eq_ok_iff.1 hremoval
    exact Or.inr ⟨destination, left, htakes, hfree, rfl⟩
  · exact Or.inl rfl
  · exact Or.inl rfl

/-- a file outlasts letting go, unless the scratch path names it, before or after what has moved or was linked anew -/
theorem Scratch.node?_release_of_file {before tree : FileTree} {device : Device} {cwd moved place : Location}
    {path : Text} {contents : Contents} (hfile : tree.node? place = some (.file contents))
    (hnamed : before.fileNamed? cwd path ≠ some place)
    (hmoved : ¬ (moved = cwd ∧ before.SameLinks (release tree device moved path).1) →
      (release tree device moved path).1.entryNamed? moved path ≠ some place)
    (hends : ∃ destination left, before.TakesFile cwd path FileTree.linkLimit destination left) :
    (release tree device moved path).1.node? place = some (.file contents) := by
  rcases tree_release tree device moved path with hsame | ⟨removed, left, hremoved, hfree, herased⟩
  · rwa [hsame]
  rw [herased] at hmoved ⊢
  have hother : place ≠ removed.place := by
    rintro rfl
    have hplain : tree.linkAt? removed.place = none := by
      unfold FileTree.linkAt?
      rw [hfile]
    have hgone : (tree.erase removed.place).TakesFile moved path FileTree.linkLimit removed left :=
      (FileTree.SameBut.erase _ _).takesFile (FileTree.deadEnd_of_linkAt? hfree hplain) hremoved
    by_cases hstays : moved = cwd ∧ before.SameLinks (tree.erase removed.place)
    · -- with the same links the path ends where it did before
      obtain ⟨rfl, hlinks⟩ := hstays
      obtain ⟨destination, left, htakes⟩ := hends
      obtain rfl := htakes.unique hlinks hgone.toEndsAt
      refine hnamed (htakes.fileNamed? ?_)
      rw [hlinks, FileTree.linkAt?]
      rw [FileTree.node?_erase_self (FileTree.place_ne_nil hfree)]
    · exact hmoved hstays hgone.entryNamed?
  rwa [FileTree.node?_erase_of_ne hother]

/-- **Inputs survive.** If a compiler changes no file, neither does the validation, among all files that were read to
flatten the shader, unless the scratch path names the file; should the compiler change the working directory or the
links, also unless the scratch path then ends at it. -/
theorem inputs_survive (host : Host) (settings : Settings) (compiler : Compiler) (shader : Text)
    (keeps : compiler.KeepsFiles) :
    let validation := host.validateWith settings compiler shader
    ∀ identity text place, .read identity ∈ (host.flatten settings.depthLimit shader).events →
      (host.tree.library host.cwd).read identity = .ok text → host.tree.locate? [] identity = .ok place →
      host.tree.fileNamed? host.cwd settings.scratchFile ≠ some place →
      (¬ (validation.host.cwd = host.cwd ∧ host.tree.SameLinks validation.host.tree) →
        validation.host.tree.entryNamed? validation.host.cwd settings.scratchFile ≠ some place) →
      validation.host.tree.node? place = some (.file (.text text)) := by
  intro validation identity text place _ hread hplace hbefore hafter
  have hfile : host.tree.node? place = some (.file (.text text)) := by
    obtain ⟨other, hother, hnode⟩ := FileTree.read_eq_ok_iff.1 (FileTree.read_of_library hread)
    obtain rfl : place = other := Except.ok.inj (hplace.symm.trans hother)
    exact hnode
  cases hstaged : host.staged settings shader with
  | error failure => exact (Host.node?_of_unstaged hstaged hbefore compiler).trans hfile
  | ok seen =>
    obtain ⟨written, contents, hwrites, -, hput⟩ := Host.exists_of_staged hstaged
    have hne : place ≠ written := fun heq => hbefore (heq ▸ FileTree.fileNamed?_eq_some_iff.2 hwrites)
    have hseen : seen.tree.node? place = some (.file (.text text)) := by
      rw [hput]
      exact (FileTree.node?_put_of_ne hne).trans hfile
    have hkept := keeps settings.scratchFile seen place _ hseen
    rw [show validation.host = _ from Host.host_of_staged hstaged compiler] at hafter ⊢
    exact Scratch.node?_release_of_file hkept hbefore hafter hwrites.exists_takesFile

/-- a compiler that goes into a directory where the scratch path names another file; the included file is reached by a
link -/
theorem inputs_survive_moved :
    let host := Host.start ⟨[(["main.fsh"], .file (.text "#include \"lib/lib.glsl\"\nvoid main() {}\n")),
      (["sub"], .directory), (["lib"], .link "sub"), (["sub", "lib.glsl"], .file (.text "float x;\n")),
      (["sub", "tmp.frag"], .file (.text "y"))]⟩ [] (Host.scripted [])
    let compiler : Compiler := fun _ host => ({ host with cwd := ["sub"] }, .ok ⟨true, []⟩)
    let settings := { Settings.standard with scratchFile := "tmp.frag" }
    let validation := host.validateWith settings compiler "main.fsh"
    compiler.KeepsFiles ∧ .read "/lib/lib.glsl" ∈ (host.flatten settings.depthLimit "main.fsh").events ∧
      validation.host.cwd ≠ host.cwd ∧
      validation.host.tree.node? ["sub", "lib.glsl"] = some (.file (.text "float x;\n")) := by
  intro host compiler settings validation
  have keeps : compiler.KeepsFiles := fun path host place contents h => h
  have hevent : .read "/lib/lib.glsl" ∈ (host.flatten settings.depthLimit "main.fsh").events := by decide +kernel
  have hread : (host.tree.library host.cwd).read "/lib/lib.glsl" = .ok "float x;\n" := by decide +kernel
  have hplace : host.tree.locate? [] "/lib/lib.glsl" = .ok ["sub", "lib.glsl"] := by decide +kernel
  have hbefore : host.tree.fileNamed? host.cwd settings.scratchFile ≠ some (["sub", "lib.glsl"] : Location) := by
    decide +kernel
  have hafter : validation.host.tree.entryNamed? validation.host.cwd settings.scratchFile ≠
      some (["sub", "lib.glsl"] : Location) := by
    decide +kernel
  exact ⟨keeps, hevent, by decide +kernel,
    inputs_survive host settings compiler "main.fsh" keeps _ _ _ hevent hread hplace hbefore fun _ => hafter⟩

/-- a scratch path that is another spelling of an included file: the file is read, and gone when the validation ends -/
theorem input_lost_as_scratch :
    let host := Host.start ⟨[(["main.fsh"], .file (.text "#include \"lib.glsl\"\nvoid main() {}\n")),
      (["lib.glsl"], .file (.text "float x;\n"))]⟩ [] (Host.scripted [])
    let compiler := Compiler.canned .none (.ok ⟨true, []⟩)
    let settings := { Settings.standard with scratchFile := "./lib.glsl" }
    let validation := host.validateWith settings compiler "main.fsh"
    compiler.KeepsFiles ∧ .read "/lib.glsl" ∈ (host.flatten settings.depthLimit "main.fsh").events ∧
      (host.tree.library host.cwd).read "/lib.glsl" = .ok "float x;\n" ∧ validation.outcome.isOk = true ∧
      validation.host.tree.node? ["lib.glsl"] = none :=
  ⟨fun _ _ _ _ h => h, by decide +kernel, by decide +kernel, by decide +kernel, by decide +kernel⟩

end GlslInspect
