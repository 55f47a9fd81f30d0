/-
Validating all shaders of a directory.

Validations share the scratch file and the record of the validator's runs. Where nothing was at the scratch path and
the scratch file can be written in full and removed again (`Host.Clear`), the tree is the same behind a validation as in
front of it (`Scratch.release_of_create`); so only the record grows, and a validator that does not look at it answers
each shader as if it were the first (`Host.exists_validate`). By induction over the shaders, what a batch shows is what
the single validations show (`CommandLine.validateEach_eq`). Main result: `batch_is_single_validations`, and
`batch_not_single_validations` for what it cannot say.
-/
import GlslInspect.CommandLine.Tool
import GlslInspect.Proofs.Cleanup
import GlslInspect.Proofs.Discovery

namespace GlslInspect

/-! ## Scratch files that leave no trace -/

/-- nothing stands at the end of a path, not even a link, and what is written there is written in full and can be
removed -/
structure Host.Clear (host : Host) (path : Text) : Prop where
  empty : ∀ place ∈ host.tree.entryNamed? host.cwd path, host.tree.node? place = none
  whole : ∀ place ∈ host.tree.entryNamed? host.cwd path, ∀ t, (host.device.written place t).2 = .ok ()
  willing : ∀ place ∈ host.tree.entryNamed? host.cwd path, host.device.refusesRemoval place = none

namespace Scratch

variable {host : Host} {tree : FileTree} {path contents : Text}

/-- where a scratch file is opened, its path ends, and nothing stands there -/
theorem exists_of_opened (clear : host.Clear path) {place : Location}
    (hopened : host.tree.openFile? host.device host.cwd path = .ok place) :
    ∃ destination left, host.tree.TakesFile host.cwd path FileTree.linkLimit destination left ∧
      destination.place = place ∧ host.tree.node? place = none := by
  have hnamed := FileTree.fileNamed?_of_openFile? hopened
  obtain ⟨destination, left, htakes⟩ := (FileTree.openFile?_eq_ok_iff.1 hopened).1.exists_takesFile
  have hempty : host.tree.node? destination.place = none := clear.empty _ htakes.entryNamed?
  have hplace : destination.place = place :=
    Option.some.inj ((htakes.fileNamed? (FileTree.linkAt?_of_empty hempty)).symm.trans hnamed)
  exact ⟨destination, left, htakes, hplace, hplace ▸ hempty⟩

/-- a scratch file that is not written leaves no trace -/
theorem tree_of_failed (clear : host.Clear path) {failure : Failure}
    (h : create host.tree host.device host.cwd path contents = (tree, .error failure)) : tree = host.tree := by
  cases hopened : host.tree.openFile? host.device host.cwd path with
  | error error =>
    rw [create_of_refused hopened] at h
    cases h
    rfl
  | ok place =>
    obtain ⟨destination, left, htakes, rfl, -⟩ := exists_of_opened clear hopened
    have hwhole := clear.whole _ htakes.entryNamed? contents
    rw [create_of_opened hopened hwhole] at h
    cases h

theorem release_of_create (clear : host.Clear path)
    (h : create host.tree host.device host.cwd path contents = (tree, .ok ())) :
    release tree host.device host.cwd path = (host.tree, []) := by
  obtain ⟨place, hopened, -, rfl⟩ := FileTree.exists_of_write (create_eq_ok_iff.1 h)
  obtain ⟨destination, left, htakes, rfl, hempty⟩ := exists_of_opened clear hopened
  obtain ⟨hwrites, hfree, -⟩ := FileTree.openFile?_eq_ok_iff.1 hopened
  have hthere : (host.tree.put destination.place (.file (.text contents))).node? destination.place =
      some (.file (.text contents)) := FileTree.node?_put_self (FileTree.place_ne_nil hfree)
  obtain ⟨hafter, -⟩ := hwrites.takesFile_put hfree htakes (.text contents)
  rcases release_cases host.device hafter with
    ⟨hnone, -⟩ | ⟨-, hdirectory | hrefused, -⟩ | ⟨-, -, -, hreleased⟩
  · rw [hthere] at hnone
    cases hnone
  · rw [hthere] at hdirectory
    cases hdirectory
  · exact absurd (clear.willing _ htakes.entryNamed?) hrefused
  · rw [hreleased, FileTree.erase_put _ hempty]

end Scratch

/-! ## Validators that answer alike -/

namespace Host

variable {host : Host} {settings : Settings} {reply : Call → Reply}

def recording (host : Host) (calls : List Call) : Host := { host with calls := calls }

/-- what comes of running a program does not hang on the runs before -/
theorem launch_recording (steady : host.answer = fun _ => reply) (executable : Text) (arguments : List Text)
    (calls : List Call) :
    (host.recording calls).launch executable arguments = (host.launch executable arguments).map fun _ =>
      (host.recording (calls ++ [host.callOf arguments]), reply (host.callOf arguments)) := by
  have hstart : (host.recording calls).startable executable = host.startable executable := rfl
  have hcall : (host.recording calls).callOf arguments = host.callOf arguments := rfl
  unfold launch
  rw [hstart, hcall]
  dsimp only
  split
  · rfl
  · cases host.startable executable with
    | error error => rfl
    | ok =>
      dsimp only [bind, Except.bind, pure, Except.pure]
      split
      · rfl
      · change Except.ok (host.recording (calls ++ [host.callOf arguments]), host.answer _ _) = .ok _
        rw [steady]

/-- a validator that answers alike is called alike, and only adds to the record -/
theorem exists_external (steady : host.answer = fun _ => reply) (settings : Settings) (path : Text) :
    ∃ made answer, ∀ calls, Compiler.external settings path (host.recording calls) =
      (host.recording (calls ++ made), answer) := by
  have hlaunch := launch_recording steady settings.executable ["-S", settings.stage, "-C", path]
  cases hrun : host.launch settings.executable ["-S", settings.stage, "-C", path] with
  | ok result =>
    let answer := reply (host.callOf ["-S", settings.stage, "-C", path])
    refine ⟨[host.callOf ["-S", settings.stage, "-C", path]], .ok ⟨answer.succeeded, answer.output.lossyText⟩,
      fun calls => ?_⟩
    unfold Compiler.external
    rw [hlaunch, hrun]
    rfl
  | error error =>
    refine ⟨[], (Compiler.external settings path host).2, fun calls => ?_⟩
    unfold Compiler.external
    rw [hlaunch, hrun, List.append_nil]
    cases error <;> rfl

def report (host : Host) (settings : Settings) (shader : Text) (answer : Compiled) : Validated :=
  let source := (host.flatten settings.depthLimit shader).source
  ⟨Path.shortName shader, Uniform.declared source.text,
    Diagnosis.ofCompiled source settings.scratchFile (Path.shortName shader) answer.log, answer.success⟩

/-- what is noted of a shader before a compiler is called -/
def stagedNotes (host : Host) (settings : Settings) (shader : Text) : List Note :=
  let flattening := host.flatten settings.depthLimit shader
  flattening.notes ++ [.uniformsFound (Uniform.declared flattening.source.text).length]

/-- a validation in which a compiler is called and its scratch file goes without a trace -/
theorem validateWith_of_released {compiler : Compiler} {shader : Text} {tree last : FileTree} {after : Host}
    {answer : Except Failure Compiled} (hexists : host.pathExists shader = true)
    (hcreate : host.scratched settings shader = (tree, .ok ()))
    (hcompiled : compiler settings.scratchFile { host with tree := tree } = (after, answer))
    (hreleased : Scratch.release after.tree after.device after.cwd settings.scratchFile = (last, [])) :
    host.validateWith settings compiler shader =
      ⟨{ after with tree := last }, host.stagedNotes settings shader, answer.map (host.report settings shader)⟩ := by
  unfold scratched at hcreate
  unfold validateWith
  dsimp only
  rw [hexists, hcreate]
  dsimp only [Bool.not_true]
  rw [hcompiled]
  dsimp only
  rw [hreleased, List.append_nil]
  cases answer <;> rfl

/-- where the scratch path is clear, a validation does not hang on the runs before, and only adds to them -/
theorem exists_validate (steady : host.answer = fun _ => reply) (clear : host.Clear settings.scratchFile)
    (shader : Text) :
    ∃ made notes outcome, ∀ calls, (host.recording calls).validate settings shader =
      ⟨host.recording (calls ++ made), notes, outcome⟩ := by
  have hscratched (calls : List Call) : (host.recording calls).scratched settings shader =
      host.scratched settings shader := rfl
  unfold validate
  cases hshader : host.pathExists shader with
  | false =>
    refine ⟨[], [], .error (.shaderNotFound shader), fun calls => ?_⟩
    have hmissing : (host.recording calls).pathExists shader = false := hshader
    rw [validateWith_of_missing hmissing, List.append_nil]
  | true =>
    cases hwritten : host.scratched settings shader with
    | mk tree made =>
      cases made with
      | error failure =>
        obtain rfl := Scratch.tree_of_failed clear hwritten
        refine ⟨[], (host.flatten settings.depthLimit shader).notes, .error failure, fun calls => ?_⟩
        have hexists : (host.recording calls).pathExists shader = true := hshader
        rw [validateWith_of_failed hexists ((hscratched calls).trans hwritten), List.append_nil]
        rfl
      | ok =>
        have staged : ({ host with tree := tree } : Host).answer = fun _ => reply := steady
        obtain ⟨made, answer, hanswer⟩ := exists_external staged settings settings.scratchFile
        have hreleased : Scratch.release tree host.device host.cwd settings.scratchFile = (host.tree, []) :=
          Scratch.release_of_create clear hwritten
        refine ⟨made, host.stagedNotes settings shader, answer.map (host.report settings shader), fun calls => ?_⟩
        have hthere : (host.recording calls).pathExists shader = true := hshader
        exact validateWith_of_released hthere ((hscratched calls).trans hwritten) (hanswer calls) hreleased

end Host

/-! ## Batches -/

namespace CommandLine

variable {palette : Palette} {host : Host} {settings : Settings} {reply : Call → Reply}

theorem exists_validateOne (palette : Palette) (steady : host.answer = fun _ => reply)
    (clear : host.Clear settings.scratchFile) (shader : Text) :
    ∃ made, (validateOne palette settings host shader).host = host.recording (host.calls ++ made) ∧
      ∀ calls, validateOne palette settings (host.recording calls) shader =
        { validateOne palette settings host shader with host := host.recording (calls ++ made) } := by
  obtain ⟨made, notes, outcome, hvalidate⟩ := Host.exists_validate steady clear shader
  have hself : host.validate settings shader = ⟨host.recording (host.calls ++ made), notes, outcome⟩ :=
    hvalidate host.calls
  unfold validateOne
  rw [hself]
  cases outcome with
  | error failure => exact ⟨made, rfl, fun calls => by rw [hvalidate]⟩
  | ok validated => exact ⟨made, rfl, fun calls => by rw [hvalidate]⟩

/-- the runs of the validator that a validation adds to the record -/
def runsOf (palette : Palette) (settings : Settings) (host : Host) (shader : Text) : List Call :=
  (validateOne palette settings host shader).host.calls.drop host.calls.length

/-- shaders validated one after the other are validated each as if it were the first -/
theorem validateEach_eq (palette : Palette) (steady : host.answer = fun _ => reply)
    (clear : host.Clear settings.scratchFile) (shaders : List Text) (calls : List Call) :
    validateEach palette settings (host.recording calls) shaders =
      { results := shaders.map fun shader => (shaderName shader, (validateOne palette settings host shader).passed)
        emissions := shaders.flatMap fun shader =>
          banner palette ("Validating: " ++ shaderName shader) ++ (validateOne palette settings host shader).emissions
        host := host.recording (calls ++ shaders.flatMap (runsOf palette settings host)) } := by
  induction shaders generalizing calls with
  | nil => simp [validateEach]
  | cons shader rest ih =>
    obtain ⟨made, hmade, hone⟩ := exists_validateOne palette steady clear shader
    have hruns : runsOf palette settings host shader = made := by
      unfold runsOf
      rw [hmade]
      exact List.drop_left
    have hcalls : calls ++ (shader :: rest).flatMap (runsOf palette settings host) =
        calls ++ made ++ rest.flatMap (runsOf palette settings host) := by
      rw [List.flatMap_cons, hruns, List.append_assoc]
    rw [validateEach, hone, hcalls]
    dsimp only
    rw [ih]
    rfl

/-- where shaders are found, nothing is noted of the search -/
theorem notes_of_discover {directory extension : Text} (h : (host.discover directory extension).1 ≠ []) :
    (host.discover directory extension).2 = [] := by
  unfold Host.discover at h ⊢
  split
  · rename_i hlist
    rw [hlist] at h
    exact absurd rfl h
  · rfl

theorem validateAll_of_nil (h : (host.discover settings.shaderDirectory settings.extension).1 = []) :
    (validateAll palette settings host).passed = false ∧ (validateAll palette settings host).host = host := by
  have hdiscover : host.discover settings.shaderDirectory settings.extension =
      ([], (host.discover settings.shaderDirectory settings.extension).2) := Prod.ext h rfl
  unfold validateAll
  rw [hdiscover]
  exact ⟨rfl, rfl⟩

def verdicts (shaders : List Text) (passes : Text → Bool) : List (Text × Bool) :=
  shaders.map fun shader => (shaderName shader, passes shader)

/-- what is shown of a batch: each shader with what is shown of it, and the summary -/
def batchShown (palette : Palette) (shaders : List Text) (passes : Text → Bool) (shown : Text → List Emission) :
    List Emission :=
  [outLine (palette.paint .cyan ("════ VALIDATING " ++ Text.ofNat shaders.length ++ " SHADERS ════") ++ "\n")] ++
  (shaders.flatMap fun shader => banner palette ("Validating: " ++ shaderName shader) ++ shown shader) ++
  banner palette "SUMMARY" ++ (verdicts shaders passes).map (resultLine palette) ++
  [outLine [], totalLine palette (verdicts shaders passes)]

theorem validateAll_eq (palette : Palette) (steady : host.answer = fun _ => reply)
    (clear : host.Clear settings.scratchFile)
    (h : (host.discover settings.shaderDirectory settings.extension).1 ≠ []) :
    let shaders := (host.discover settings.shaderDirectory settings.extension).1
    let single := validateOne palette settings host
    validateAll palette settings host =
      { passed := failedCount (verdicts shaders fun shader => (single shader).passed) = 0
        emissions := batchShown palette shaders (fun shader => (single shader).passed)
          fun shader => (single shader).emissions
        host := host.recording (host.calls ++ shaders.flatMap (runsOf palette settings host)) } := by
  intro shaders single
  have hdiscover : host.discover settings.shaderDirectory settings.extension = (shaders, []) :=
    Prod.ext rfl (notes_of_discover h)
  have hsome : shaders.isEmpty = false := by simpa using h
  have heach : validateEach palette settings host shaders = _ :=
    validateEach_eq palette steady clear shaders host.calls
  unfold validateAll
  rw [hdiscover]
  dsimp only
  rw [hsome, heach]
  rfl

/-- how the tool ends after a run -/
def SingleRun.finished (run : SingleRun) : Finished := ⟨if run.passed then 0 else 1, run.emissions, run.host⟩

theorem SingleRun.status_finished (run : SingleRun) : run.finished.status = 0 ↔ run.passed = true := by
  unfold finished
  cases run.passed <;> simp

theorem runValidate_of_auto {options : ValidateOptions} (h : options.auto = true) :
    runValidate palette options host = (validateAll palette options.settings host).finished := by
  unfold runValidate
  rw [h]
  rfl

theorem runValidate_shader (options : ValidateOptions) (path : Text) :
    runValidate palette { options with auto := false, shader := some path } host =
      (validateOne palette options.settings host path).finished := rfl

theorem passedCount_add_failedCount (results : List (Text × Bool)) :
    passedCount results + failedCount results = results.length := by
  have hle : passedCount results ≤ results.length := List.length_filter_le _ _
  unfold failedCount
  omega

theorem failedCount_eq_zero_iff {results : List (Text × Bool)} :
    failedCount results = 0 ↔ ∀ result ∈ results, result.2 = true := by
  have hle : passedCount results ≤ results.length := List.length_filter_le _ _
  have hall : passedCount results = results.length ↔ ∀ result ∈ results, result.2 = true :=
    List.length_filter_eq_length_iff
  rw [← hall]
  unfold failedCount
  omega

end CommandLine

open CommandLine in
/-- **A batch is its single validations.** Where nothing is at the scratch path, what is written there is written in
full and can be removed, and the validator's replies hang on nothing but what it is asked: the shaders that are
validated are all those in the directory, in order and each once;
of each is shown what is shown when it is validated alone on the same host, and the verdict is the same; the counts of
the summary make up the number of shaders; the status is zero exactly if there are shaders and all pass alone; and
the validator is run as in the single validations, one after the other, and nothing else has changed. -/
theorem batch_is_single_validations (palette : Palette) (given : Given) (host : Host) (reply : Call → Reply)
    (auto : given.has "auto" = true) (wellFormed : host.tree.WellFormed)
    (clear : host.Clear Settings.standard.scratchFile) (steady : host.answer = fun _ => reply) :
    let options := ValidateOptions.ofGiven given
    let batch := Tool.validate.perform palette given host
    let alone (path : Text) := runValidate palette { options with auto := false, shader := some path } host
    let passes (path : Text) : Bool := (alone path).status = 0
    ∃ found : List Text,
      (∀ path, path ∈ found ↔ host.HasShader options.settings.shaderDirectory "fsh" path) ∧
      (found.Pairwise fun path other => Text.le path other = true ∧ path ≠ other) ∧
      (found ≠ [] → batch.emissions = batchShown palette found passes fun path => (alone path).emissions) ∧
      passedCount (verdicts found passes) + failedCount (verdicts found passes) = found.length ∧
      (batch.status = 0 ↔ found ≠ [] ∧ ∀ path ∈ found, (alone path).status = 0) ∧
      batch.host = { host with
        calls := host.calls ++ found.flatMap fun path => (alone path).host.calls.drop host.calls.length } := by
  intro options batch alone passes
  let shaders := (host.discover options.settings.shaderDirectory options.settings.extension).1
  let run := validateAll palette options.settings host
  have hbatch : batch = run.finished := runValidate_of_auto auto
  have hstatus : batch.status = 0 ↔ run.passed = true := by rw [hbatch, SingleRun.status_finished]
  have halone (path : Text) :
      (alone path).status = 0 ↔ (validateOne palette options.settings host path).passed = true := by
    rw [show alone path = _ from runValidate_shader options path, SingleRun.status_finished]
  have hpasses : passes = fun path => (validateOne palette options.settings host path).passed := by
    funext path
    exact Bool.eq_iff_iff.2 (decide_eq_true_iff.trans (halone path))
  have hcount : (verdicts shaders passes).length = shaders.length := List.length_map _
  refine ⟨shaders, fun path => Host.mem_discover wellFormed, Host.sorted_discover wellFormed, ?_, ?_, ?_, ?_⟩
  · intro hsome
    rw [hbatch, hpasses, show run = _ from validateAll_eq palette steady clear hsome]
    rfl
  · rw [passedCount_add_failedCount, hcount]
  · rw [hstatus]
    by_cases hnone : shaders = []
    · simp [show run.passed = false from (validateAll_of_nil hnone).1, hnone]
    · rw [show run = _ from validateAll_eq palette steady clear hnone]
      dsimp only
      rw [decide_eq_true_iff, failedCount_eq_zero_iff]
      simp [verdicts, hnone, halone, shaders]
  · rw [hbatch]
    change run.host = _
    by_cases hnone : shaders = []
    · rw [show run.host = host from (validateAll_of_nil hnone).2, hnone]
      simp
    · rw [show run = _ from validateAll_eq palette steady clear hnone]
      rfl

open CommandLine in
/-- a directory with a shader, a link to another, a directory and another file, and a validator that passes only one of
the shaders -/
theorem batch_is_single_validations_one_fails :
    let host := Host.start ⟨[(["d"], .directory), (["d", "b.fsh"], .link "../x"), (["d", "old.fsh"], .directory),
      (["x"], .file (.text "int x\n")), (["d", "a.fsh"], .file (.text "int x;\n")), (["d", "c.glsl"], .program)]⟩ []
      fun _ call => ⟨if call.source = some "int x;\n" then 0 else 1, .text []⟩
    let given : Given := ⟨[("shader-dir", "d"), ("auto", [])], none⟩
    let alone (path : Text) :=
      runValidate .plain { ValidateOptions.ofGiven given with auto := false, shader := some path } host
    given.has "auto" = true ∧ host.tree.WellFormed ∧ host.Clear Settings.standard.scratchFile ∧
      (alone "d/a.fsh").status = 0 ∧ (alone "d/b.fsh").status = 1 ∧
      (Tool.validate.perform .plain given host).status ≠ 0 := by
  intro host given alone
  have hauto : given.has "auto" = true := by decide +kernel
  have hformed : host.tree.WellFormed := by decide +kernel
  have hclear : host.Clear Settings.standard.scratchFile :=
    ⟨by decide +kernel, fun _ _ _ => rfl, fun _ _ => rfl⟩
  have hpass : (alone "d/a.fsh").status = 0 := by decide +kernel
  have hfail : (alone "d/b.fsh").status = 1 := by decide +kernel
  obtain ⟨found, hfound, -, -, -, hstatus, -⟩ :=
    batch_is_single_validations .plain given host _ hauto hformed hclear rfl
  refine ⟨hauto, hformed, hclear, hpass, hfail, fun hzero => ?_⟩
  have hmem : "d/b.fsh".toList ∈ found := by
    refine (hfound _).2 ⟨["d"], "b.fsh", .link "../x", by decide +kernel, by decide +kernel, by decide +kernel,
      .inr ⟨⟨_, rfl⟩, by decide +kernel⟩, by decide +kernel, by decide +kernel, by decide +kernel⟩
  have hpassed : (alone "d/b.fsh").status = 0 := (hstatus.1 hzero).2 _ hmem
  rw [hfail] at hpassed
  cases hpassed

theorem Host.discover_of_pairwise {host : Host} {place : Location} {directory extension : Text} {names : List Text}
    (hlocate : host.tree.locate? host.cwd directory = .ok place) (hplace : host.tree.node? place = some .directory)
    (hnames : host.shaderNames place directory extension = names)
    (hsorted : names.Pairwise fun name other => Text.le name other) :
    (host.discover directory extension).1 = names.map (Path.join directory) := by
  rw [discover_of_listed hlocate hplace, hnames, List.mergeSort_of_pairwise hsorted]

open CommandLine in
/-- A shader in a directory that is given by a path of almost the greatest length: with its name behind it the path is
too long to be followed, and the shader is passed over. And three batches in which the second shader, which passes
alone, fails because of what the first one left behind: a scratch file that is not allowed to be removed, the beginning
of one whose writing broke off, and a file at the end of a link at the scratch path that led nowhere; the last of these
shaders is a link to a file. -/
theorem batch_not_single_validations :
    (let directory : Text := (List.replicate 2045 ("./" : Text)).flatten ++ "d"
    let host := Host.start ⟨[(["d"], .directory), (["d", "a.fsh"], .file (.text "int x;\n"))]⟩ [] (Host.scripted [])
    let given : Given := ⟨[("shader-dir", directory), ("auto", [])], none⟩
    let batch := Tool.validate.perform .plain given host
    given.has "auto" = true ∧ host.tree.WellFormed ∧ host.pathExists Settings.standard.scratchFile = false ∧
      host.tree.locate? host.cwd directory = .ok ["d"] ∧
      host.tree.node? ["d", "a.fsh"] = some (.file (.text "int x;\n")) ∧
      Path.extension? "a.fsh".toList = some "fsh".toList ∧ batch.emissions = [outLine "No shaders found!"] ∧
      batch.status = 1) ∧
    let reply (call : Call) : Reply :=
      ⟨if call.source.any fun t => Text.occursIn "int" (t.drop 3) then 1 else 0, .text []⟩
    let including (path : Text) : Node := .file (.text ("#include \"" ++ path ++ "\"\n"))
    let host (second : Node) (others : List (Location × Node)) (device : Device) : Host :=
      { Host.start ⟨(["d"], .directory) :: (["d", "a.fsh"], .file (.text "int x;\n")) ::
          (["d", "b.fsh"], second) :: others⟩ [] (fun _ => reply) with
        device := device }
    let scratch : Location := [Settings.standard.scratchFile]
    let shaders : List Text := ["d/a.fsh", "d/b.fsh"]
    let differs (host : Host) : Prop :=
      host.tree.WellFormed ∧ host.pathExists Settings.standard.scratchFile = false ∧
        (host.discover "d" "fsh").1 = shaders ∧ (validateOne .plain .standard host "d/b.fsh").passed = true ∧
        (validateEach .plain .standard host shaders).results.getLast? = some ("b.fsh".toList, false)
    differs (host (including "../temp_validated_shader.frag") [] (.keeping scratch)) ∧
      differs (host (including "../temp_validated_shader.frag") []
        { Device.sound with breaksOff := fun _ t => if t = "int x;\n" then some (4, .notFound) else none }) ∧
      differs (host (.link "../b") [(["b"], including "../lib"), (scratch, .link "lib")] .sound) := by
  refine ⟨?_, ?_⟩
  · intro directory host given batch
    have hlocate : host.tree.locate? host.cwd directory = .ok (["d"] : Location) := by decide +kernel
    have hbatch : batch.emissions = [outLine "No shaders found!"] ∧ batch.status = 1 := by decide +kernel
    exact ⟨by decide +kernel, by decide +kernel, by decide +kernel, hlocate, by decide +kernel, by decide +kernel,
      hbatch⟩
  · intro reply including host scratch shaders differs
    have hfound {host : Host} (hlocate : host.tree.locate? host.cwd "d" = .ok ["d"])
        (hplace : host.tree.node? ["d"] = some .directory)
        (hnames : host.shaderNames ["d"] "d" "fsh" = ["a.fsh", "b.fsh"]) : (host.discover "d" "fsh").1 = shaders :=
      Host.discover_of_pairwise hlocate hplace hnames (by decide +kernel)
    refine ⟨⟨?_, ?_, hfound ?_ ?_ ?_, ?_, ?_⟩, ⟨?_, ?_, hfound ?_ ?_ ?_, ?_, ?_⟩,
      ⟨?_, ?_, hfound ?_ ?_ ?_, ?_, ?_⟩⟩ <;> decide +kernel

end GlslInspect
