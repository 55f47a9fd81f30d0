/-
The Markdown document on a classified block: a legend of the domains, a table with one row for each parameter, cut
where the slot changes, the number of parameters in each suggested domain, and the next steps.
-/
import GlslInspect.Block.Parameter

namespace GlslInspect.Report

def row (p : Parameter) : Text :=
  "| " ++ Text.ofNat p.slot ++ " | `" ++ p.name ++ "` | " ++ p.sectionLabel ++ " | " ++ p.domain.label ++ " | " ++
    p.frequency.label ++ " | " ++ p.comment ++ " |"

/-- the line between rows of different slots -/
def separator : Text := "|---|---|---|---|---|---|"

def rowsAfter (slot : Nat) : List Parameter → List Text
  | [] => []
  | p :: rest =>
    if p.slot = slot then row p :: rowsAfter p.slot rest else separator :: row p :: rowsAfter p.slot rest

def rows : List Parameter → List Text
  | [] => []
  | p :: rest => row p :: rowsAfter p.slot rest

/-- count one more parameter of a domain; a new domain is put at the end -/
def tally (domain : Domain) : List (Domain × Nat) → List (Domain × Nat)
  | [] => [(domain, 1)]
  | (d, count) :: rest => if d = domain then (d, count + 1) :: rest else (d, count) :: tally domain rest

/-- the domains of some parameters in the order of their first one, with how many there are of each -/
def domainCounts (parameters : List Parameter) : List (Domain × Nat) :=
  parameters.foldl (fun counts p => tally p.domain counts) []

/-- the domains of some parameters, the most frequent first; equal ones stay in the order of their first parameter -/
def domainSummary (parameters : List Parameter) : List (Domain × Nat) :=
  (domainCounts parameters).mergeSort fun a b => decide (b.2 ≤ a.2)

/-- the domains a parameter can be moved to -/
def legend : List (Text × Text × Text) := [
  ("**Frame**", "Global per-frame drivers", "Every frame"),
  ("**Camera**", "View definition and matrices", "Every frame"),
  ("**Object**", "Per-instance identity/transform", "Per draw (future)"),
  ("**EffectConfig**", "Preset/style parameters", "On preset change"),
  ("**EffectRuntime**", "Per-frame instance state", "Per frame (if CPU-driven)"),
  ("**Debug**", "Debug flags and values", "Dev only"),
  ("**REMOVE**", "Candidate for removal", "N/A")]

def legendRow (entry : Text × Text × Text) : Text :=
  "| " ++ entry.1 ++ " | " ++ entry.2.1 ++ " | " ++ entry.2.2 ++ " |"

/-- what is left to do, and whether it belongs to this review -/
def nextSteps : List (Bool × Text) := [
  (true, "Review each parameter classification"),
  (true, "Confirm update frequencies"),
  (true, "Identify consolidation opportunities (e.g., X/Y/Z/W → vec4)"),
  (false, "Group by target UBO"),
  (false, "Create new UBO record definitions"),
  (false, "Update shader uniform blocks")]

def stepLine (entry : (Bool × Text) × Nat) : Text :=
  Text.ofNat (entry.2 + 1) ++ ". " ++ (if entry.1.1 then ("✅" : Text) else "⬜") ++ " " ++ entry.1.2

def summaryLine (entry : Domain × Nat) : Text :=
  "- " ++ entry.1.label ++ ": " ++ Text.ofNat entry.2 ++ " parameters"

/-- what the document is about -/
def introduction (count : Nat) (sourceFile blockName : Text) : List Text := [
  "# UBO Parameter Classification - Phase 0 Audit",
  "",
  "> **Source:** `" ++ sourceFile ++ "`",
  "> **Uniform Block:** `" ++ blockName ++ "`",
  "> **Total Parameters:** " ++ Text.ofNat count,
  "> ",
  "> **Instructions:** Review and confirm the `Domain Target` and `Update Freq` columns.",
  "> Values marked with `**bold**` or `?` are suggestions that need verification."]

/-- the title of the legend and the head of its table -/
def legendHead : List Text := [
  "", "---", "", "## Domain Legend", "",
  "| Domain | Description | Update Policy |",
  "|--------|-------------|---------------|"]

def tableHead : List Text := [
  "", "---", "", "## Parameter Classification", "",
  "| Slot | Name | Section | Domain Target | Update Freq | Notes |",
  "|------|------|---------|---------------|-------------|-------|"]

def summaryHead : List Text := ["", "---", "", "## Summary by Suggested Domain", ""]

/-- the title of the next steps -/
def stepsHead : List Text := ["", "---", "", "## Next Steps", ""]

/-- the lines in front of the rows of the parameter table -/
def opening (parameters : List Parameter) (sourceFile blockName : Text) : List Text :=
  introduction parameters.length sourceFile blockName ++ legendHead ++ legend.map legendRow ++ tableHead

/-- the lines after the rows of the parameter table -/
def closing (parameters : List Parameter) : List Text :=
  summaryHead ++ (domainSummary parameters).map summaryLine ++ stepsHead ++ nextSteps.zipIdx.map stepLine

def lines (parameters : List Parameter) (sourceFile blockName : Text) : List Text :=
  opening parameters sourceFile blockName ++ rows parameters ++ closing parameters

/-- the document -/
def text (parameters : List Parameter) (sourceFile blockName : Text) : Text :=
  Text.join "\n" (lines parameters sourceFile blockName)

end GlslInspect.Report
