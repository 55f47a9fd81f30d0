/-
Diagnoses point at the line that the compiler saw.

A compiler counts the lines of the text in the scratch file; a diagnosis looks a number up among the lines of the
flattened source. The two agree because the scratch file holds the text of that source when the compiler is called
(`Host.read_of_staged`), and the lines of the source are the pieces of its text (`Host.aligned_flatten`).
Names are replaced in the log only after it was read, so they change nothing in severities and windows
(`Diagnosis.judged_ofCompiled`).
-/
import GlslInspect.Proofs.Alignment
import GlslInspect.Proofs.LogLine
import GlslInspect.Proofs.Validation

namespace GlslInspect

/-! ## The shader -/

/-- a shader that is named without newline is flattened to the physical lines of its text -/
theorem Host.aligned_flatten (host : Host) (limit : Option ℕ) {shader : Text} (h : '\n' ∉ shader) :
    (host.flatten limit shader).source.Aligned :=
  (Library.answers_iff.2 rfl).aligned (host.tree.showsOneLine host.cwd List.not_mem_nil) h

/-! ## Entries -/

/-- what is found out about a line of the log, its wording apart -/
def LogEntry.judged (entry : LogEntry) : Severity × Option ContextWindow := (entry.severity, entry.context)

/-- names are replaced in the wording of entries only -/
theorem Diagnosis.judged_ofCompiled (source : Source) (scratch shader log : Text) :
    (Diagnosis.ofCompiled source scratch shader log).map LogEntry.judged =
      (Text.lines log).map fun line => (LogEntry.ofLine source line).judged := by
  unfold Diagnosis.ofCompiled Diagnosis.ofLog
  rw [List.map_map, List.map_map]
  rfl

/-- an error whose second field is a number gets the window around the line with that number -/
theorem LogEntry.context_of_fields {source : Source} {file digits : Text} (message : Text) (hfile : ':' ∉ file)
    (hne : digits ≠ []) (hdigits : ∀ c ∈ digits, c.isDigit = true) (hword : Nat.ofDigitChars 10 digits 0 < 2 ^ 64) :
    (LogEntry.ofLine source (errorMark ++ (file ++ ':' :: (digits ++ ':' :: message)))).context =
      ContextWindow.around? source (Nat.ofDigitChars 10 digits 0) := by
  have hseverity : Severity.ofLine (errorMark ++ (file ++ ':' :: (digits ++ ':' :: message))) = .error := by
    unfold Severity.ofLine
    rw [if_pos (Text.occursIn_append errorMark _)]
  unfold LogEntry.ofLine
  rw [hseverity, errorLineNumber?_of_fields message hfile hne hdigits hword]
  rfl

theorem LogEntry.context_of_error {source : Source} {file digits : Text} (message : Text) (hfile : ':' ∉ file)
    (hne : digits ≠ []) (hdigits : ∀ c ∈ digits, c.isDigit = true) (hword : Nat.ofDigitChars 10 digits 0 < 2 ^ 64) :
    (LogEntry.ofLine source ("ERROR: " ++ file ++ ":" ++ digits ++ ": " ++ message)).context =
      ContextWindow.around? source (Nat.ofDigitChars 10 digits 0) := by
  have hspaced : ':' ∉ ' ' :: file := by simpa using hfile
  have hmark : ("ERROR: " : Text) = errorMark ++ [' '] := rfl
  have hfields : ("ERROR: " ++ file ++ ":" ++ digits ++ ": " ++ message : Text) =
      errorMark ++ (' ' :: file ++ ':' :: (digits ++ ':' :: (' ' :: message))) := by
    rw [hmark]
    simp only [List.append_assoc]
    rfl
  rw [hfields, context_of_fields _ hspaced hne hdigits hword]

/-- a window points at a line of a text: it is there exactly when the text has the line, and the one line that it marks
is that line, without the line ends at its end -/
def ContextWindow.PointsAt (written : Text) (n : ℕ) (context : Option ContextWindow) : Prop :=
  (context.isSome = true ↔ 1 ≤ n ∧ n ≤ (Text.pieces written).length) ∧
  ∀ window ∈ context, ∃ piece, Text.piece? written n = some piece ∧
    window.lines.filter ContextLine.isTarget = [⟨n, Text.dropEndWhile Source.isLineEnd piece, true⟩]

theorem ContextWindow.pointsAt_around? {source : Source} (h : source.Aligned) (n : ℕ) :
    PointsAt source.text n (around? source n) := by
  have hcount : source.lineCount = (Text.pieces source.text).length := by
    rw [← h.map_text, List.length_map, Source.lineCount]
  refine ⟨hcount ▸ isSome_around?, fun window hwindow => ?_⟩
  obtain ⟨text, htext, htarget⟩ := target_of_around? hwindow
  rw [h.lineText n] at htext
  obtain ⟨piece, hpiece, rfl⟩ := Option.map_eq_some_iff.1 htext
  exact ⟨piece, hpiece, htarget⟩

/-- **Diagnoses point at what the compiler saw.** A validation gives a report exactly when a compiler is called and
answers. The scratch file holds some text then, and severities and windows are found in the log as it is. If the shader
is named without newline, each line `ERROR: file:number: message` of the log has an entry that points at the line of
that text with that number. Whatever names are replaced in a log, its severities and windows stay. -/
theorem diagnosis_points_at_written_line (host : Host) (settings : Settings) (compiler : Compiler) (shader : Text) :
    (∀ validated, (host.validateWith settings compiler shader).outcome = .ok validated →
      ∃ seen answer, host.staged settings shader = .ok seen ∧
        (compiler settings.scratchFile seen).2 = .ok answer) ∧
    (∀ (seen : Host) (answer : Compiled), host.staged settings shader = .ok seen →
      (compiler settings.scratchFile seen).2 = .ok answer →
      ∃ validated written, (host.validateWith settings compiler shader).outcome = .ok validated ∧
        seen.tree.read seen.cwd settings.scratchFile = .ok written ∧
        validated.diagnosis.map LogEntry.judged = (Text.lines answer.log).map (fun line =>
          (LogEntry.ofLine (host.flatten settings.depthLimit shader).source line).judged) ∧
        ('\n' ∉ shader → ∀ (i : ℕ) (file digits message : Text),
          (Text.lines answer.log)[i]? = some ("ERROR: " ++ file ++ ":" ++ digits ++ ": " ++ message) → ':' ∉ file →
          digits ≠ [] → (∀ c ∈ digits, c.isDigit = true) → Nat.ofDigitChars 10 digits 0 < 2 ^ 64 →
          ∃ entry, validated.diagnosis[i]? = some entry ∧
            ContextWindow.PointsAt written (Nat.ofDigitChars 10 digits 0) entry.context)) ∧
    ∀ (source : Source) (log scratch name : Text),
      (Diagnosis.ofCompiled source scratch name log).map LogEntry.judged =
        (Text.lines log).map fun line => (LogEntry.ofLine source line).judged := by
  rw [Host.outcome_validateWith]
  refine ⟨fun validated hvalidated => ?_, fun seen answer hstaged hanswer => ?_,
    fun source log scratch name => Diagnosis.judged_ofCompiled source scratch name log⟩
  · obtain ⟨seen, hstaged, hrest⟩ := bind_eq_ok.1 hvalidated
    obtain ⟨answer, hanswer, -⟩ := bind_eq_ok.1 hrest
    exact ⟨seen, answer, hstaged, hanswer⟩
  · have hjudged := Diagnosis.judged_ofCompiled (host.flatten settings.depthLimit shader).source settings.scratchFile
      (Path.shortName shader) answer.log
    refine ⟨_, _, bind_eq_ok.2 ⟨seen, hstaged, bind_eq_ok.2 ⟨answer, hanswer, rfl⟩⟩, Host.read_of_staged hstaged,
      hjudged, ?_⟩
    intro hshader i file digits message hline hfile hne hdigits hword
    have hentry := congrArg (fun judgements => judgements[i]?) hjudged
    simp only [List.getElem?_map, hline, Option.map_some] at hentry
    obtain ⟨entry, hmem, hentry⟩ := Option.map_eq_some_iff.1 hentry
    have hcontext : entry.context = (LogEntry.ofLine (host.flatten settings.depthLimit shader).source
        ("ERROR: " ++ file ++ ":" ++ digits ++ ": " ++ message)).context := congrArg Prod.snd hentry
    refine ⟨entry, hmem, ?_⟩
    rw [hcontext, LogEntry.context_of_error message hfile hne hdigits hword]
    exact ContextWindow.pointsAt_around? (host.aligned_flatten settings.depthLimit hshader) _

/-- a compiler that finds fault with the second line of a shader, a line of an included file, and with a line that does
not exist -/
theorem diagnosis_points_at_written_line_twice :
    let host := Host.start ⟨[(["main.fsh"], .file (.text "#include \"lib.glsl\"\nvoid main() {}")),
      (["lib.glsl"], .file (.text "float x\r\n"))]⟩ [] (Host.scripted [])
    let log : Text := "ERROR: 0:2: 'x' : syntax error\nERROR: tmp.frag:18446744073709551615: too far\n"
    let compiler := Compiler.canned .none (.ok ⟨false, log⟩)
    let settings := { Settings.standard with scratchFile := "tmp.frag" }
    ∃ seen validated written first second, host.staged settings "main.fsh" = .ok seen ∧
      (host.validateWith settings compiler "main.fsh").outcome = .ok validated ∧
      seen.tree.read seen.cwd settings.scratchFile = .ok written ∧
      validated.diagnosis[0]? = some first ∧ ContextWindow.PointsAt written 2 first.context ∧
      validated.diagnosis[1]? = some second ∧ ContextWindow.PointsAt written 18446744073709551615 second.context := by
  intro host log compiler settings
  have hstaged : (host.staged settings "main.fsh").isOk = true := by decide +kernel
  cases hseen : host.staged settings "main.fsh" with
  | error failure =>
    rw [hseen] at hstaged
    cases hstaged
  | ok seen =>
    obtain ⟨validated, written, houtcome, hread, -, hpoints⟩ :=
      (diagnosis_points_at_written_line host settings compiler "main.fsh").2.1 seen ⟨false, log⟩ hseen rfl
    obtain ⟨first, hfirst, hfirstPoints⟩ :=
      hpoints (by decide) 0 "0" "2" "'x' : syntax error" (by decide +kernel) (by decide) (by decide)
        (List.all_eq_true.1 rfl) (by decide)
    obtain ⟨second, hsecond, hsecondPoints⟩ :=
      hpoints (by decide) 1 "tmp.frag" "18446744073709551615" "too far" (by decide +kernel) (by decide) (by decide)
        (List.all_eq_true.1 rfl) (by decide)
    exact ⟨seen, validated, written, first, second, rfl, houtcome, hread, hfirst, hfirstPoints, hsecond, hsecondPoints⟩

end GlslInspect
