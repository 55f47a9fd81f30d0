/-
Parameters of a uniform block, and what their names suggest.

The target domain and the update frequency of a parameter are guessed from its name, in lower case. The words looked
for are ASCII, and no other character has a lower case in which one of them could arise, so lowering the ASCII letters
is enough.
-/
import GlslInspect.Text.Basic

namespace GlslInspect

inductive GlslType where
  | float
  | vec2
  | vec3
  | vec4
  | mat4
  deriving DecidableEq, Repr

def GlslType.keyword : GlslType → Text
  | .float => "float"
  | .vec2 => "vec2"
  | .vec3 => "vec3"
  | .vec4 => "vec4"
  | .mat4 => "mat4"

/-- where a parameter should live after the blocks are regrouped -/
inductive Domain where
  | camera
  | frame
  | effectRuntime
  | debugReserved
  | effectConfig
  deriving DecidableEq, Repr

/-- how often a parameter changes -/
inductive Frequency where
  | perFrame
  | perFrameMaybe
  | never
  | onChange
  deriving DecidableEq, Repr

/-- whether one of some words occurs in a name -/
def mentionsAny (words : List Text) (name : Text) : Bool := words.any fun word => Text.occursIn word name

def instanceWords : List Text := ["centerx", "centery", "centerz", "radius"]

namespace Domain

def cameraWords : List Text :=
  ["camerax", "cameray", "cameraz", "forwardx", "forwardy", "forwardz", "upx", "upy", "upz", "fov",
    "aspectratio", "nearplane", "farplane", "viewproj", "invviewproj"]

/-- the domain that a name suggests -/
def guess (name : Text) : Domain :=
  let name := Text.toLowerAscii name
  if mentionsAny cameraWords name then .camera
  else if name = "time" then .frame
  else if mentionsAny instanceWords name then .effectRuntime
  else if mentionsAny ["debug", "reserved"] name then .debugReserved
  else if mentionsAny ["flying"] name then .camera
  else .effectConfig

/-- how a domain is shown -/
def label : Domain → Text
  | .camera => "**Camera**"
  | .frame => "**Frame**"
  | .effectRuntime => "EffectRuntime?"
  | .debugReserved => "Debug/Reserved"
  | .effectConfig => "EffectConfig"

end Domain

namespace Frequency

def viewWords : List Text := ["camera", "forward", "up", "viewproj", "invviewproj"]

/-- the frequency that a name suggests -/
def guess (name : Text) : Frequency :=
  let name := Text.toLowerAscii name
  if name = "time" || mentionsAny viewWords name then .perFrame
  else if mentionsAny instanceWords name then .perFrameMaybe
  else if mentionsAny ["reserved"] name then .never
  else .onChange

/-- how a frequency is shown -/
def label : Frequency → Text
  | .perFrame => "per-frame"
  | .perFrameMaybe => "per-frame?"
  | .never => "never"
  | .onChange => "on-change"

end Frequency

/-- one member of a classified block -/
structure Parameter where
  /-- the slot of four components it starts at, as the comments say -/
  slot : Nat
  name : Text
  type : GlslType
  /-- the label of the section it stands in -/
  sectionLabel : Text
  /-- the comment after its declaration -/
  comment : Text
  deriving DecidableEq, Repr

namespace Parameter

def domain (p : Parameter) : Domain := Domain.guess p.name

/-- the update frequency that the name suggests -/
def frequency (p : Parameter) : Frequency := Frequency.guess p.name

end Parameter

end GlslInspect
