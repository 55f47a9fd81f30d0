/-
Uniforms declared in a shader text.

Declarations are recognised where they begin a line; nothing is known of scopes, comments or preprocessor branches. A
standalone declaration is `uniform type name;`, a block is `uniform name { ... };`, either with a layout qualifier in
front. Of a block's members, the last two words in front of each semicolon are the type and the name.

`Uniform.declared` lists all standalone uniforms first, then the members of the blocks, block by block.
-/
import GlslInspect.Uniform.Form

namespace GlslInspect

open Pattern

structure Uniform where
  /-- the name of its type -/
  type : Text
  name : Text
  /-- the uniform block it is a member of -/
  block : Option Text
  deriving DecidableEq, Repr

namespace Uniform

def isMember (u : Uniform) : Bool := u.block.isSome

/-- the rest after the keyword that begins a declaration -/
def keyword? (t : Text) : Option Text := do
  let t ← Text.after? "uniform" t
  blanks1? t

/-- a standalone declaration: its type and name, and the rest -/
def standalone? (t : Text) : Option ((Text × Text) × Text) := do
  let t ← keyword? t
  let (type, t) ← word? t
  let t ← blanks1? t
  let (name, t) ← word? t
  let t ← Text.after? ";" (blanks t)
  some ((type, name), t)

/-- the beginning of a block: its name, and the rest after the opening brace -/
def blockHead? (t : Text) : Option (Text × Text) := do
  let t ← keyword? t
  let (name, t) ← word? t
  let t ← Text.after? "\x7b" (blanks t)
  some (name, t)

/-- the end of a block: its body, and the rest after the closing brace and the semicolon -/
def blockTail? (inside : Text) : Option (Text × Text) := do
  let (body, t) ← upTo? '\x7d' inside
  let t ← Text.after? ";" t
  some (body, t)

/-- a block: its name and body, and the rest -/
def block? (t : Text) : Option ((Text × Text) × Text) := do
  let (name, inside) ← blockHead? t
  let (body, t) ← blockTail? inside
  some ((name, body), t)

/-- whether a closing brace closes a block, given what follows it -/
def closesBlock (t : Text) : Bool := Text.startsWith ";" t

/-- read a block, given whether the next closing brace is known to close none; and whether that is known then -/
def attemptBlock (known : Bool) (t : Text) : Option ((Text × Text) × Text) × Bool :=
  match blockHead? t with
  | none => (none, known)
  | some (name, inside) =>
    if known then (none, known)
    else
      match blockTail? inside with
      | none => (none, decide (inside.head? ≠ some '\x7d'))
      | some (body, t) => (some ((name, body), t), false)

theorem length_of_keyword? {t rest : Text} (h : keyword? t = some rest) : rest.length < t.length := by
  simp only [keyword?, Option.bind_eq_bind, Option.bind_eq_some_iff] at h
  obtain ⟨t1, h1, h2⟩ := h
  exact Nat.lt_of_lt_of_le (length_of_blanks1? h2) (length_of_after? h1)

theorem length_of_standalone? {t rest : Text} {a : Text × Text} (h : standalone? t = some (a, rest)) :
    rest.length < t.length := by
  simp only [standalone?, Option.bind_eq_bind, Option.bind_eq_some_iff] at h
  obtain ⟨t1, h1, ⟨_, t2⟩, h2, t3, h3, ⟨_, t4⟩, h4, t5, h5, h6⟩ := h
  cases h6
  have := length_of_keyword? h1
  have := length_of_run1? h2
  have := length_of_blanks1? h3
  have := length_of_run1? h4
  have := length_blanks t4
  have := length_of_after? h5
  dsimp only at *
  omega

theorem length_of_blockHead? {t inside name : Text} (h : blockHead? t = some (name, inside)) :
    inside.length < t.length := by
  simp only [blockHead?, Option.bind_eq_bind, Option.bind_eq_some_iff] at h
  obtain ⟨t1, h1, ⟨_, t2⟩, h2, t3, h3, h4⟩ := h
  cases h4
  have := length_of_keyword? h1
  have := length_of_run1? h2
  have := length_blanks t2
  have := length_of_after? h3
  dsimp only at *
  omega

theorem length_of_block? {t rest : Text} {a : Text × Text} (h : block? t = some (a, rest)) :
    rest.length < t.length := by
  simp only [block?, blockTail?, Option.bind_eq_bind, Option.bind_eq_some_iff] at h
  obtain ⟨⟨_, t1⟩, h1, ⟨_, t2⟩, ⟨⟨_, t3⟩, h2, t4, h3, h4⟩, h5⟩ := h
  cases h4
  cases h5
  have := length_of_blockHead? h1
  have := length_of_upTo? h2
  have := length_of_after? h3
  dsimp only at *
  omega

theorem reaches_blockHead? {t inside name : Text} (h : blockHead? t = some (name, inside)) : Reaches t inside := by
  simp only [blockHead?, keyword?, Option.bind_eq_bind, Option.bind_eq_some_iff] at h
  obtain ⟨t1, ⟨t2, h2, h1⟩, ⟨_, t3⟩, h3, t4, h4, h5⟩ := h
  cases h5
  exact .trans (reaches_after? (by decide) (by decide) h2) <| .trans (reaches_blanks1? h1) <|
    .trans (reaches_run1? (by decide) (by decide) h3) <| .trans (reaches_blanks t3) <|
    reaches_after? (by decide) (by decide) h4

/-- a block whose body is not empty ends where the next closing brace closes it -/
theorem barren_iff_blockTail? {inside : Text} (hs : inside.head? ≠ some '\x7d') :
    Barren closesBlock inside ↔ blockTail? inside = none := by
  simp only [Barren, blockTail?, Option.bind_eq_bind]
  cases hu : upTo? '\x7d' inside with
  | none => simp [past?_eq_none_of_upTo? hu hs]
  | some p => cases ha : Text.after? [';'] p.2 <;> simp [past?_eq_of_upTo? hu, closesBlock, Text.startsWith, ha]

theorem blockTail?_eq_none_of_barren {inside : Text} (h : Barren closesBlock inside) : blockTail? inside = none := by
  by_cases hs : inside.head? = some '\x7d'
  · simp [blockTail?, upTo?, hs]
  · exact (barren_iff_blockTail? hs).1 h

theorem block?_of_attemptBlock {known : Bool} {t : Text} {r : (Text × Text) × Text}
    (h : (attemptBlock known t).1 = some r) : block? t = some r := by
  unfold attemptBlock at h
  split at h
  · cases h
  · rename_i name inside hh
    split at h
    · cases h
    · split at h
      · cases h
      · rename_i body rest hb
        simpa [block?, hh, hb] using h

theorem attemptBlock_fst {known : Bool} {t : Text} (h : known = true → Barren closesBlock t) :
    (attemptBlock known t).1 = block? t := by
  unfold attemptBlock block?
  split
  · rename_i hh
    simp [hh]
  · rename_i name inside hh
    simp only [hh, Option.bind_eq_bind, Option.bind_some]
    split
    · rename_i hk
      obtain ⟨pre, rfl, -, hb⟩ := reaches_blockHead? hh
      simp [blockTail?_eq_none_of_barren ((Form.barren_append hb).1 (h hk))]
    · split <;> simp [*]

theorem attemptBlock_snd {known : Bool} {t : Text} (h : known = true → Barren closesBlock t)
    (hk : (attemptBlock known t).2 = true) : Barren closesBlock t := by
  unfold attemptBlock at hk
  split at hk
  · exact h hk
  · rename_i name inside hh
    split at hk
    · exact h hk
    · split at hk
      · rename_i hn
        obtain ⟨pre, rfl, -, hb⟩ := reaches_blockHead? hh
        exact (Form.barren_append hb).2 ((barren_iff_blockTail? (of_decide_eq_true hk)).2 hn)
      · cases hk

def standaloneForm : Form (Text × Text) where
  read? := standalone?
  shrinks := length_of_standalone?
  closes _ := false
  attempt _ t := (standalone? t, true)
  attempt_reads h := h
  attempt_fst _ := rfl
  attempt_snd _ _ := by simp [Barren]

def blockForm : Form (Text × Text) where
  read? := block?
  shrinks := length_of_block?
  closes := closesBlock
  attempt := attemptBlock
  attempt_reads := block?_of_attemptBlock
  attempt_fst := attemptBlock_fst
  attempt_snd := attemptBlock_snd

def lastTwo? {α : Type} : List α → Option (α × α)
  | [] => none
  | [_] => none
  | [a, b] => some (a, b)
  | _ :: b :: c :: rest => lastTwo? (b :: c :: rest)

/-- the type and name of a member, from the text in front of its semicolon; comments declare nothing -/
def member? (fragment : Text) : Option (Text × Text) :=
  let fragment := Text.trim fragment
  if Text.startsWith "//" fragment then none else lastTwo? (Text.words fragment)

/-- the members of a block's body -/
def members (body : Text) : List (Text × Text) := (Text.splitOn ';' body).filterMap member?

def standalone (t : Text) : List Uniform :=
  (standaloneForm.search t).map fun (type, name) => ⟨type, name, none⟩

/-- the members of the uniform blocks of a text, block by block -/
def blockMembers (t : Text) : List Uniform :=
  (blockForm.search t).flatMap fun (block, body) =>
    (members body).map fun (type, name) => ⟨type, name, some block⟩

def declared (t : Text) : List Uniform := standalone t ++ blockMembers t

end Uniform

end GlslInspect
