/-
The library of a file tree.

An include path is taken relative to the directory of the including file, and the outcome relative to the working
directory (`resolvePath`). The identity of a file is the normal form of that path, found by the spelling alone, so a
detour through a directory that does not exist changes nothing. The context of a file is the directory part of the
path that led to it. Paths are bytes to the system; an identity is what is shown of them.

In a file tree names are texts, so nothing is lost when a path is shown. A file is read by its identity, as a path like
any other. Links let many paths lead to one file, but only so many are short enough to be followed at all.
-/
import GlslInspect.FileTree
import GlslInspect.Include.Library
import GlslInspect.Text.Ordinal

namespace GlslInspect

/-- the meaning of an include path in a context, given what is shown of paths and the working directory, which is asked
for only if it is needed -/
def resolvePath {α ε : Type} [DecidableEq α] [PathUnit α] (shown : List α → Text) (here : Except ε (List α))
    (context path : List α) : Except ε (Resolved Text (List α)) := do
  let joined := Path.join context path
  let absolute ← if Path.isAbsolute joined then .ok joined else (Path.join · joined) <$> here
  .ok ⟨shown (Path.normalize absolute), shown joined, Path.directory joined⟩

def resolveBytes {ε : Type} (here : Except ε (List UInt8)) (context : List UInt8) (path : Text) :
    Except ε (Resolved Text (List UInt8)) :=
  resolvePath Utf8.decodeLossy here context (Utf8.encode path)

namespace FileTree

/-- the text of a file, by its identity -/
def readInclude (tree : FileTree) (identity : Text) : Except Text Text :=
  match tree.read [] identity with
  | .ok t => .ok t
  | .error error => .error error.message

theorem byteLength_of_readInclude {tree : FileTree} {identity : Text}
    (h : (tree.readInclude identity).isOk = true) : Text.byteLength identity ≤ pathLimit := by
  refine Decidable.byContradiction fun long => ?_
  have refused : ∀ t, tree.read [] identity ≠ .ok t := by
    intro t hread
    simp only [read, locate?, checkPath, if_pos (Nat.lt_of_not_le long), bind, Except.bind] at hread
    split at hread
    · cases hread
    · rename_i hplace
      split at hplace
      · cases hplace
      · rename_i hchecked
        split at hchecked
        · cases hchecked
        · split at hchecked <;> cases hchecked
  unfold readInclude at h
  split at h
  · rename_i t hread
    exact refused t hread
  · cases h

/-- a file tree, seen from a working directory, as a library -/
def library (tree : FileTree) (cwd : Location) : Library Text where
  resolve := resolvePath id (.ok cwd.text)
  read := tree.readInclude
  most := Nat.pow Text.base pathLimit
  bounded := fun distinct readable =>
    Text.length_le_of_byteLength distinct fun identity h => byteLength_of_readInclude (readable identity h)

end FileTree

end GlslInspect
