/-
A library of named texts held in memory.

A path stands for itself or for what the aliases say, unless it is refused. The context of a file is the chain of
paths that led to it.
-/
import GlslInspect.Include.Library

namespace GlslInspect

/-- named texts, other names for them, and paths that do not resolve -/
structure Catalog where
  files : List (Text × Text)
  aliases : List (Text × Text)
  refusals : List (Text × Text)
  deriving DecidableEq, Repr

namespace Catalog

def resolve (catalog : Catalog) (context path : Text) : Except Text (Resolved Text) :=
  match catalog.refusals.lookup path with
  | some reason => .error reason
  | none =>
    .ok ⟨(catalog.aliases.lookup path).getD path, path, if context.isEmpty then path else context ++ ">" ++ path⟩

def read (catalog : Catalog) (identity : Text) : Except Text Text :=
  match catalog.files.lookup identity with
  | some text => .ok text
  | none => .error ("no such file: " ++ identity)

/-- whether there is a text under an identity -/
def has (catalog : Catalog) (identity : Text) : Bool := (catalog.files.lookup identity).isSome

/-- store a text under an identity, in the place of what was there -/
def put (catalog : Catalog) (identity text : Text) : Catalog :=
  { catalog with files := (identity, text) :: catalog.files.filter fun file => file.1 ≠ identity }

/-- remove what is under an identity -/
def erase (catalog : Catalog) (identity : Text) : Catalog :=
  { catalog with files := catalog.files.filter fun file => file.1 ≠ identity }

theorem mem_of_read {catalog : Catalog} {identity text : Text} (h : catalog.read identity = .ok text) :
    identity ∈ catalog.files.map Prod.fst := by
  unfold read at h
  split at h
  · rename_i found hfound
    obtain ⟨before, after, same, _⟩ := List.lookup_eq_some_iff.1 hfound
    simp [same]
  · cases h

def library (catalog : Catalog) : Library Text where
  resolve := catalog.resolve
  read := catalog.read
  most := catalog.files.length
  bounded := by
    intro files distinct readable
    have listed : files ⊆ catalog.files.map Prod.fst := by
      intro identity h
      cases hread : catalog.read identity with
      | ok text => exact mem_of_read hread
      | error reason =>
        have found := readable identity h
        rw [hread] at found
        cases found
    simpa using distinct.length_le_of_subset listed

end Catalog

end GlslInspect
