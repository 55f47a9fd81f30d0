/-
Which notes are shown.

A filter is read from a text: rules with commas between, and after a slash an expression that the wording of a note must
match. How expressions are read is not said here: `Matcher` is any way to do so.

A rule gives the level for the speakers whose names begin in some way, or for all. A later rule takes the place of an
earlier one about the same speakers; of the rules that apply to the speaker of a note, the one with the longest name
decides, and of two without a name to tell them apart the last in place. What cannot be read is left out, with a
complaint.
-/
import GlslInspect.Log
import GlslInspect.Text.Blank

namespace GlslInspect.CommandLine

/-- a rule: a beginning of speakers' names, or none, and the largest rank of level that is shown -/
structure LogRule where
  speaker : Option Text
  rank : Nat
  deriving DecidableEq, Repr

/-- a way to read an expression: which texts match it, or why it cannot be used -/
abbrev Matcher := Text → Except Text (Text → Bool)

/-- what is shown of notes -/
structure LogFilter where
  rules : List LogRule
  /-- what the wording of a note must match -/
  wanted : Option (Text → Bool)
  /-- what was left out in reading the filter, in words -/
  complaints : List Text

namespace LogRule

/-- the rank of a level by its name, in any case; nothing is shown when it is off -/
def rank? (name : Text) : Option Nat :=
  let names : List Text := ["off", "error", "warn", "info", "debug", "trace"]
  names.findIdx? fun level => level = Text.toLowerAscii name

def complaint (t : Text) : Text := "invalid logging spec '" ++ t ++ "'"

/-- a rule from its text: a level, the beginning of a speaker's name, or both with an equals sign between -/
def read (t : Text) : Except Text LogRule :=
  match Text.splitOn '=' t with
  | [only] =>
    match rank? only with
    | some rank => .ok ⟨none, rank⟩
    | none => .ok ⟨some only, Level.trace.rank⟩
  | [speaker, level] =>
    let level := Text.trim level
    if level.isEmpty then .ok ⟨some speaker, Level.trace.rank⟩
    else
      match rank? level with
      | some rank => .ok ⟨some speaker, rank⟩
      | none => .error (complaint level)
  | _ => .error (complaint t)

/-- put a rule in the place of one about the same speakers, or after all others -/
def insert (rules : List LogRule) (rule : LogRule) : List LogRule :=
  if rules.any fun other => other.speaker = rule.speaker then
    rules.map fun other => if other.speaker = rule.speaker then rule else other
  else rules ++ [rule]

def appliesTo (rule : LogRule) (speaker : Text) : Bool :=
  rule.speaker.all fun beginning => Text.startsWith beginning speaker

def closeness (rule : LogRule) : Nat := (rule.speaker.getD []).length

end LogRule

namespace LogFilter

/-- the rule when none is given: errors are shown -/
def errorsOnly : LogRule := ⟨none, Level.error.rank⟩

def addRule (filter : LogFilter) (t : Text) : LogFilter :=
  if t.isEmpty then filter
  else
    match LogRule.read t with
    | .ok rule => { filter with rules := LogRule.insert filter.rules rule }
    | .error complaint => { filter with complaints := filter.complaints ++ [complaint] }

/-- read what the wording of notes must match into a filter -/
def addWanted (matcher : Matcher) (filter : LogFilter) (expression : Text) : LogFilter :=
  match matcher expression with
  | .ok wanted => { filter with wanted := some wanted }
  | .error reason => { filter with complaints := filter.complaints ++ ["invalid regex filter - " ++ reason] }

def ofRules (t : Text) : LogFilter :=
  ((Text.splitOn ',' t).map Text.trim).foldl addRule ⟨[], none, []⟩

def parse (matcher : Matcher) (t : Text) : LogFilter :=
  match Text.splitOn '/' t with
  | [rules] => ofRules rules
  | [rules, wanted] => (ofRules rules).addWanted matcher wanted
  | _ => ⟨[], none, [LogRule.complaint t ++ " (too many '/'s)"]⟩

/-- the rule that decides about a speaker: the closest one, the last of equally close ones; errors are shown if there
is no rule at all -/
def deciding (filter : LogFilter) (speaker : Text) : Option LogRule :=
  (if filter.rules.isEmpty then [errorsOnly] else filter.rules).foldl
    (fun best rule =>
      if rule.appliesTo speaker && best.all fun other => other.closeness ≤ rule.closeness then some rule else best)
    none

def shows (filter : LogFilter) (note : Note) : Bool :=
  (filter.deciding note.speaker.name).any (fun rule => note.level.rank ≤ rule.rank) &&
    filter.wanted.all fun wanted => wanted note.message

/-- the complaints as lines of the error stream -/
def warnings (filter : LogFilter) : Text :=
  filter.complaints.flatMap fun complaint => "warning: " ++ complaint ++ ", ignoring it\n"

end LogFilter

end GlslInspect.CommandLine
