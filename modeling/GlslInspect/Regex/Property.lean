/-
Sets of characters by the names of properties.

Names are compared loosely: capital and small letters are the same, blanks, hyphens and underscores do not count, and
neither does `is` in front. A name alone is a property with yes or no, else a general category, else a script. With a
value, the name is one of the properties that have values.
-/
import GlslInspect.Regex.Term
import GlslInspect.Regex.Unicode.Age
import GlslInspect.Regex.Unicode.Division
import GlslInspect.Regex.Unicode.Property
import GlslInspect.Regex.Unicode.Script

namespace GlslInspect.Regex

/-- a name without what does not count in it; the name of one property begins with `is` itself -/
def looseName (name : Text) : Text :=
  let small (t : Text) : Text :=
    Text.toLowerAscii (t.filter fun c => decide (c.toNat < 128) && c != ' ' && c != '_' && c != '-')
  if Text.toLowerAscii (name.take 2) = "is" then
    if small (name.drop 2) = "c" then "isc" else small (name.drop 2)
  else small name

def named? (names : List (List Text)) (name : Text) : Option Text :=
  (names.find? fun entry => entry.any fun other => looseName other = name).bind List.head?

def categoryNames : String :=
  "C=Other Cc=Control=cntrl Cf=Format Cn=Unassigned Co=Private_Use Cs=Surrogate L=Letter LC=Cased_Letter
    Ll=Lowercase_Letter Lm=Modifier_Letter Lo=Other_Letter Lt=Titlecase_Letter Lu=Uppercase_Letter
    M=Mark=Combining_Mark Mc=Spacing_Mark Me=Enclosing_Mark Mn=Nonspacing_Mark N=Number Nd=Decimal_Number=digit
    Nl=Letter_Number No=Other_Number P=Punctuation=punct Pc=Connector_Punctuation Pd=Dash_Punctuation
    Pe=Close_Punctuation Pf=Final_Punctuation Pi=Initial_Punctuation Po=Other_Punctuation Ps=Open_Punctuation
    S=Symbol Sc=Currency_Symbol Sk=Modifier_Symbol Sm=Math_Symbol So=Other_Symbol Z=Separator Zl=Line_Separator
    Zp=Paragraph_Separator Zs=Space_Separator"

/-- the general category with a name, by its letters -/
def category? (name : Text) : Option Text :=
  named? ((Text.words categoryNames.toList).map (Text.splitOn '=')) name

/-- the code points of a general category or of a group of them; no text has a surrogate -/
def categoryCodes? (category : Text) : Option CodeSet :=
  if category = "Cs" then none
  else if category = "LC" then some (Category.codes ["Lu", "Ll", "Lt"])
  else
    match category with
    | [letter] => some (Category.group letter)
    | _ => some (Category.codes [category])

/-- the code points of a general category by its name, or of one of three sets that count as such; `none` inside says
that the name is known and the set is not -/
def categoryNamed? (name : Text) : Option (Option CodeSet) :=
  if name = "any" then some (some .all)
  else if name = "assigned" then some (some (Category.codes ["Cn", "Cs"]).except)
  else if name = "ascii" then some (some (.range 0 127))
  else (category? name).map categoryCodes?

/-- the scripts whose names are known and whose sets are not -/
def unusedScripts : List (List Text) := [["Zzzz", "Unknown"], ["Hrkt", "Katakana_Or_Hiragana"]]

/-- the code points of a script by its name, its own ones or those that are used in it -/
def scriptNamed? (codes : Text → CodeSet) (name : Text) : Option (Option CodeSet) :=
  match named? Script.names name with
  | some script => some (some (codes script))
  | none => (named? unusedScripts name).map fun _ => none

/-- the code points with a yes-or-no property -/
def ruleNamed? (name : Text) : Option CodeSet :=
  (PropertyRule.named.find? fun entry => (Text.words entry.1.toList).contains name).map fun entry =>
    entry.2.codes

/-- the names of the properties that have values or say nothing about single characters -/
def valuedNames : String :=
  "age bc bidiclass bmg bidimirroringglyph bpb bidipairedbracket bpt bidipairedbrackettype blk
    block ccc canonicalcombiningclass ce compositionexclusion compex fullcompositionexclusion cf casefolding
    cjkaccountingnumeric kaccountingnumeric cjkcompatibilityvariant kcompatibilityvariant cjkiicore kiicore
    cjkirggsource kirggsource cjkirghsource kirghsource cjkirgjsource kirgjsource cjkirgkpsource kirgkpsource
    cjkirgksource kirgksource cjkirgmsource kirgmsource cjkirgssource kirgssource cjkirgtsource kirgtsource
    cjkirguksource kirguksource cjkirgusource kirgusource cjkirgvsource kirgvsource cjkothernumeric kothernumeric
    cjkprimarynumeric kprimarynumeric cjkrsunicode krsunicode unicoderadicalstroke urs cwkcf
    changeswhennfkccasefolded dm decompositionmapping dt decompositiontype ea eastasianwidth eqideo
    equivalentunifiedideograph expandsonnfc xonfc expandsonnfd xonfd expandsonnfkc xonfkc expandsonnfkd xonfkd
    fcnfkc fcnfkcclosure gc generalcategory gcb graphemeclusterbreak hst hangulsyllabletype incb
    indicconjunctbreak inpc indicpositionalcategory insc indicsyllabiccategory isc isocomment jg joininggroup jsn
    jamoshortname jt joiningtype lb linebreak lc lowercasemapping na name na1 unicode1name namealias nfcqc
    nfcquickcheck nfdqc nfdquickcheck nfkccf nfkccasefold nfkcqc nfkcquickcheck nfkcscf nfkcsimplecasefold nfkdqc
    nfkdquickcheck nt numerictype nv numericvalue sb sentencebreak sc script scf simplecasefolding sfc scx
    scriptextensions slc simplelowercasemapping stc simpletitlecasemapping suc simpleuppercasemapping tc
    titlecasemapping uc uppercasemapping vo verticalorientation wb wordbreak"

def isPropertyName (name : Text) : Bool :=
  (Text.words valuedNames.toList).contains name ||
    PropertyRule.named.any fun entry => (Text.words entry.1.toList).contains name

def version? (name : Text) : Option Text :=
  Age.versions.find? fun version => version = name || 'v' :: version.filter (· ≠ '.') = name

def valueNamed? (property value : Text) : Option CodeSet :=
  if property = "gc" ∨ property = "generalcategory" then (categoryNamed? value).join
  else if property = "sc" ∨ property = "script" then (scriptNamed? Script.codes value).join
  else if property = "scx" ∨ property = "scriptextensions" then (scriptNamed? Script.usedIn value).join
  else if property = "age" then (version? value).map Age.codes
  else if property = "gcb" ∨ property = "graphemeclusterbreak" then
    (named? (Division.names Division.graphemeNames) value).map Division.graphemeCodes
  else if property = "wb" ∨ property = "wordbreak" then
    (named? (Division.names Division.wordNames) value).map Division.wordCodes
  else if property = "sb" ∨ property = "sentencebreak" then
    (named? (Division.names Division.sentenceNames) value).map Division.sentenceCodes
  else none

/-- the names of two general categories and of a group of them that are also names of properties -/
def categoriesFirst : List Text := ["cf", "sc", "lc"]

def plainCodes (name : Text) : Except FaultKind CodeSet :=
  let found : Option (Option CodeSet) :=
    if isPropertyName name ∧ ¬ categoriesFirst.contains name then (ruleNamed? name).map some
    else (categoryNamed? name).or (scriptNamed? Script.codes name)
  match found with
  | some (some codes) => .ok codes
  | some none => .error .propertyValueUnknown
  | none => .error .propertyUnknown

def PropertyName.codes : PropertyName → Except FaultKind CodeSet
  | .plain name => plainCodes (looseName name)
  | .valued name value _ =>
    if isPropertyName (looseName name) then
      match valueNamed? (looseName name) (looseName value) with
      | some codes => .ok codes
      | none => .error .propertyValueUnknown
    else .error .propertyUnknown

end GlslInspect.Regex
