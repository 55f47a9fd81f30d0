/-
Scratch files: written for a while, and removed when they are let go.

`Scratch.create` writes one and `Scratch.release` removes it; a file that is gone already is no trouble, anything else
that stands in the way is noted. Only a file that was written in full is removed again: what a write that breaks off
leaves is left there. A `Desk` holds several scratch files at once, each under a key, while files and directories come
and go around them, on a device that need not always do alike.
-/
import GlslInspect.FileTree
import GlslInspect.Log

namespace GlslInspect

namespace Scratch

def create (tree : FileTree) (device : Device) (cwd : Location) (path contents : Text) :
    FileTree × Except Failure Unit :=
  match tree.write device cwd path contents with
  | (tree, .ok ()) => (tree, .ok ())
  | (tree, .error error) => (tree, .error (.scratchFile path error))

/-- remove a scratch file -/
def release (tree : FileTree) (device : Device) (cwd : Location) (path : Text) : FileTree × List Note :=
  match tree.remove device cwd path with
  | .ok tree => (tree, [])
  | .error .notFound => (tree, [])
  | .error error => (tree, [.notRemoved path error.message])

end Scratch

/-- scratch files held under keys, and the tree they are in -/
structure Desk where
  tree : FileTree
  cwd : Location
  held : List (Text × Text)
  deriving DecidableEq, Repr

namespace Desk

/-- what can be done at a desk -/
inductive Step where
  /-- write a scratch file and hold it under a key, letting go of what was held there -/
  | create (path contents key : Text)
  /-- let go of what is held under a key -/
  | drop (key : Text)
  /-- remove a file -/
  | unlink (path : Text)
  /-- make a directory -/
  | makeDirectory (path : Text)
  /-- read a file -/
  | read (path : Text)
  deriving DecidableEq, Repr

/-- what comes of a step -/
inductive Answer where
  | created (path : Text)
  | failed (failure : Failure)
  | dropped (held : Bool)
  | changed (done : Bool)
  | read (contents : Option Text)
  deriving DecidableEq, Repr

def letGo (device : Device) (desk : Desk) (key : Text) : Desk × List Note :=
  match desk.held.lookup key with
  | none => (desk, [])
  | some path =>
    let released := Scratch.release desk.tree device desk.cwd path
    ({ desk with tree := released.1, held := desk.held.filter fun guard => guard.1 ≠ key }, released.2)

/-- put an operation's new tree in place, if it worked -/
def change (desk : Desk) : Except FileError FileTree → Desk × Answer × List Note
  | .ok tree => ({ desk with tree := tree }, .changed true, [])
  | .error _ => (desk, .changed false, [])

def step (device : Device) (desk : Desk) : Step → Desk × Answer × List Note
  | .create path contents key =>
    match Scratch.create desk.tree device desk.cwd path contents with
    | (tree, .error failure) => ({ desk with tree := tree }, .failed failure, [])
    | (tree, .ok ()) =>
      let (desk, notes) := letGo device { desk with tree := tree } key
      ({ desk with held := (key, path) :: desk.held }, .created path, notes)
  | .drop key =>
    let (next, notes) := desk.letGo device key
    (next, .dropped (desk.held.lookup key).isSome, notes)
  | .unlink path => desk.change (desk.tree.remove device desk.cwd path)
  | .makeDirectory path => desk.change (desk.tree.makeDirectory desk.cwd path)
  | .read path => (desk, .read (desk.tree.read desk.cwd path).toOption, [])

end Desk

end GlslInspect
