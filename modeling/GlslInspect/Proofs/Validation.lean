/-
The course of a validation.

Before a compiler is called the shader must be there and the scratch file must be written in full; `Host.staged` is the
host that the compiler then finds, or why none is called. What a validation gives and leaves is told from there on:
- `outcome_validateWith`: the report reads the compiler's answer against the flattened shader;
- `validateWith_of_unstaged`: where no compiler is called, nothing happens, but for what was written of the scratch
  file if it could be opened;
- `host_of_staged`, `notes_of_staged`: behind the compiler, only the scratch file is let go.
-/
import GlslInspect.Proofs.FileTree
import GlslInspect.Validation

namespace GlslInspect

theorem Scratch.create_eq_ok_iff {tree next : FileTree} {device : Device} {cwd : Location} {path contents : Text} :
    Scratch.create tree device cwd path contents = (next, .ok ()) ↔
      tree.write device cwd path contents = (next, .ok ()) := by
  unfold Scratch.create
  split
  · rename_i other hwrite
    simp [hwrite]
  · rename_i other error hwrite
    simp [hwrite]

/-- what is there when a scratch file was not written is what writing leaves -/
theorem Scratch.tree_create (tree : FileTree) (device : Device) (cwd : Location) (path contents : Text) :
    (Scratch.create tree device cwd path contents).1 = (tree.write device cwd path contents).1 := by
  unfold Scratch.create
  split
  · rename_i other hwrite
    rw [hwrite]
  · rename_i other error hwrite
    rw [hwrite]

theorem Scratch.create_of_opened {tree : FileTree} {device : Device} {cwd place : Location} {path contents : Text}
    (h : tree.openFile? device cwd path = .ok place) (hwhole : (device.written place contents).2 = .ok ()) :
    Scratch.create tree device cwd path contents = (tree.put place (.file (.text contents)), .ok ()) := by
  rw [create_eq_ok_iff, FileTree.write_of_opened h, hwhole, FileTree.contents_of_written hwhole]

/-- a scratch file that cannot be opened changes nothing -/
theorem Scratch.create_of_refused {tree : FileTree} {device : Device} {cwd : Location} {path : Text} {error : FileError}
    (h : tree.openFile? device cwd path = .error error) (contents : Text) :
    Scratch.create tree device cwd path contents = (tree, .error (.scratchFile path error)) := by
  unfold Scratch.create
  rw [FileTree.write_of_refused h]

namespace Host

/-- the scratch file of a validation, written or not -/
def scratched (host : Host) (settings : Settings) (shader : Text) : FileTree × Except Failure Unit :=
  Scratch.create host.tree host.device host.cwd settings.scratchFile
    (host.flatten settings.depthLimit shader).source.text

/-- the host as a compiler finds it, with the flattened shader in the scratch file; or why no compiler is called -/
def staged (host : Host) (settings : Settings) (shader : Text) : Except Failure Host :=
  if host.pathExists shader then
    (host.scratched settings shader).2.map fun _ => { host with tree := (host.scratched settings shader).1 }
  else .error (.shaderNotFound shader)

variable {host seen : Host} {settings : Settings} {shader : Text}

/-- a compiler finds the host with the scratch file in it -/
theorem staged_eq_ok_iff : host.staged settings shader = .ok seen ↔ host.pathExists shader = true ∧
    ∃ tree, host.scratched settings shader = (tree, .ok ()) ∧ { host with tree := tree } = seen := by
  unfold staged
  obtain ⟨tree, made⟩ := host.scratched settings shader
  cases host.pathExists shader with
  | false => simp
  | true => cases made <;> simp [Except.map]

/-- no compiler is called if the shader is not there or the scratch file is not written -/
theorem exists_unstaged_iff : (∃ failure, host.staged settings shader = .error failure) ↔
    host.pathExists shader = false ∨ ∃ failure, (host.scratched settings shader).2 = .error failure := by
  unfold staged
  cases host.pathExists shader with
  | false => simp
  | true => cases (host.scratched settings shader).2 <;> simp [Except.map]

theorem validateWith_of_missing (h : host.pathExists shader = false) (compiler : Compiler) :
    host.validateWith settings compiler shader = ⟨host, [], .error (.shaderNotFound shader)⟩ := by
  simp [validateWith, h]

theorem validateWith_of_failed {tree : FileTree} {failure : Failure} (hexists : host.pathExists shader = true)
    (h : host.scratched settings shader = (tree, .error failure)) (compiler : Compiler) :
    host.validateWith settings compiler shader =
      ⟨{ host with tree := tree }, (host.flatten settings.depthLimit shader).notes, .error failure⟩ := by
  unfold scratched at h
  simp [validateWith, hexists, h]

/-- a validation ends with a report exactly when a compiler is called and answers; the report reads the answer against
the flattened shader -/
theorem outcome_validateWith (host : Host) (settings : Settings) (compiler : Compiler) (shader : Text) :
    (host.validateWith settings compiler shader).outcome = (do
      let seen ← host.staged settings shader
      let answer ← (compiler settings.scratchFile seen).2
      .ok ⟨Path.shortName shader, Uniform.declared (host.flatten settings.depthLimit shader).source.text,
        Diagnosis.ofCompiled (host.flatten settings.depthLimit shader).source settings.scratchFile
          (Path.shortName shader) answer.log, answer.success⟩) := by
  cases hexists : host.pathExists shader with
  | false =>
    rw [validateWith_of_missing hexists, staged, hexists]
    rfl
  | true =>
    cases hscratched : host.scratched settings shader with
    | mk tree made =>
      cases made with
      | error failure =>
        rw [validateWith_of_failed hexists hscratched, staged, hexists, hscratched]
        rfl
      | ok =>
        rw [staged_eq_ok_iff.2 ⟨hexists, tree, hscratched, rfl⟩]
        unfold scratched at hscratched
        cases hanswer : (compiler settings.scratchFile { host with tree := tree }).2 with
        | error failure => simp [validateWith, hexists, hscratched, hanswer, bind, Except.bind]
        | ok answer => simp [validateWith, hexists, hscratched, hanswer, bind, Except.bind]

/-- where no compiler is called, only the scratch file can have changed, whatever the compiler would have done -/
theorem validateWith_of_unstaged {failure : Failure} (h : host.staged settings shader = .error failure) :
    ∃ tree notes, (tree = host.tree ∨ tree = (host.scratched settings shader).1) ∧
      ∀ compiler, host.validateWith settings compiler shader = ⟨{ host with tree := tree }, notes, .error failure⟩ := by
  unfold staged at h
  split at h
  · rename_i hexists
    cases hscratched : host.scratched settings shader with
    | mk tree made =>
      cases made with
      | error other =>
        rw [hscratched] at h
        cases h
        exact ⟨tree, _, .inr rfl, validateWith_of_failed hexists hscratched⟩
      | ok =>
        rw [hscratched] at h
        cases h
  · rename_i hexists
    cases h
    exact ⟨host.tree, [], .inl rfl, validateWith_of_missing (Bool.eq_false_iff.2 hexists)⟩

/-- behind a compiler, the scratch file is let go -/
theorem host_of_staged (h : host.staged settings shader = .ok seen) (compiler : Compiler) :
    (host.validateWith settings compiler shader).host =
      { (compiler settings.scratchFile seen).1 with
        tree := (Scratch.release (compiler settings.scratchFile seen).1.tree
          (compiler settings.scratchFile seen).1.device (compiler settings.scratchFile seen).1.cwd
          settings.scratchFile).1 } := by
  obtain ⟨hexists, tree, hcreate, rfl⟩ := staged_eq_ok_iff.1 h
  unfold scratched at hcreate
  simp [validateWith, hexists, hcreate]

theorem notes_of_staged (h : host.staged settings shader = .ok seen) (compiler : Compiler) :
    (host.validateWith settings compiler shader).notes = (host.flatten settings.depthLimit shader).notes ++
      [.uniformsFound (Uniform.declared (host.flatten settings.depthLimit shader).source.text).length] ++
      (Scratch.release (compiler settings.scratchFile seen).1.tree
        (compiler settings.scratchFile seen).1.device (compiler settings.scratchFile seen).1.cwd
        settings.scratchFile).2 := by
  obtain ⟨hexists, tree, hcreate, rfl⟩ := staged_eq_ok_iff.1 h
  unfold scratched at hcreate
  simp [validateWith, hexists, hcreate]

/-- when a compiler is called, the scratch file holds the text of the flattened shader -/
theorem read_of_staged (h : host.staged settings shader = .ok seen) :
    seen.tree.read seen.cwd settings.scratchFile = .ok (host.flatten settings.depthLimit shader).source.text := by
  obtain ⟨-, tree, hcreate, rfl⟩ := staged_eq_ok_iff.1 h
  exact FileTree.read_of_write (Scratch.create_eq_ok_iff.1 hcreate)

end Host

end GlslInspect
