/-
A tree of directories, files and links, and what the operating system does with paths in it.

The tree is a list of places with what stands at each; the root is always a directory. `node?` is its view. Paths are
followed through the tree name by name: each name must exist and everything but the last must be a directory, also in
front of a double dot; a name that is too long is refused by the directory it is looked up in. Where a link is met, its
target is followed from the directory that holds it, and then what is left of the path; at most `linkLimit` links are
followed for one path. Reading and writing follow a link at the end of a path too, so writing through a link that leads
nowhere makes the file that it names; removing and making directories do not, so removing takes away the link.

Writing opens a file, which makes it or empties it, and then writes its bytes. The device under the tree may refuse to
open it, may break off after some bytes, and may refuse to remove what stands at a place (`Device`). A file that could
not be opened is as it was; one whose writing breaks off holds what was written of it.

What is taken for granted about the machine:
- names and the targets of links are Unicode;
- nothing else changes the tree while the program runs;
- directories can be searched, listed and made, files can be read, and nothing but directories, files and links is met;
- the working directory stays where it is, under its name;
- a program that is written to is a program no more;
- what a device refuses to remove is there, so the reason is not that it was not found.
-/
import GlslInspect.Failure
import GlslInspect.Path
import GlslInspect.Text.Utf8

namespace GlslInspect

/-- what a file holds: a text, or bytes that are no text -/
inductive Contents where
  | text (t : Text)
  | bytes (b : List UInt8)
  deriving DecidableEq, Repr

namespace Contents

def ofBytes (b : List UInt8) : Contents :=
  match Utf8.decode? b with
  | some t => .text t
  | none => .bytes b

/-- the contents as a text, with the replacement character for what is none -/
def lossyText : Contents → Text
  | .text t => t
  | .bytes b => Utf8.decodeLossy b

end Contents

/-- what can stand at a place -/
inductive Node where
  | directory
  | file (contents : Contents)
  /-- a file that can be run -/
  | program
  /-- another name for what a path leads to from the directory around it -/
  | link (target : Text)
  deriving DecidableEq, Repr

/-- whether a file stands there, one that can be run included -/
def Node.isFile : Node → Bool
  | .file _ => true
  | .program => true
  | _ => false

/-- places and what stands there; the root need not be listed -/
structure FileTree where
  entries : List (Location × Node)
  deriving DecidableEq, Repr

/-- how the device under a tree takes what is asked of it -/
structure Device where
  /-- why a file cannot be opened for writing -/
  refusesWriting : Location → Option FileError
  /-- after how many bytes the writing of a text breaks off, and why -/
  breaksOff : Location → Text → Option (Nat × FileError)
  /-- why what stands at a place cannot be removed -/
  refusesRemoval : Location → Option FileError
  /-- what is refused to be removed is there -/
  refused_found : ∀ place, refusesRemoval place ≠ some .notFound

def Device.sound : Device := ⟨fun _ => none, fun _ _ => none, fun _ => none, nofun⟩

/-- what a file holds after a text was written to it, and why not all of it was written -/
def Device.written (device : Device) (place : Location) (t : Text) : Contents × Except FileError Unit :=
  match device.breaksOff place t with
  | some (count, error) =>
    if count < Text.byteLength t then (.ofBytes ((Utf8.encode t).take count), .error error) else (.text t, .ok ())
  | none => (.text t, .ok ())

/-- taking out what is listed under a key changes nothing under another -/
theorem lookup_filter_ne {α β : Type} [DecidableEq α] [BEq α] [LawfulBEq α] {entries : List (α × β)} {key other : α}
    (h : other ≠ key) : (entries.filter fun entry => entry.1 ≠ key).lookup other = entries.lookup other := by
  induction entries with
  | nil => rfl
  | cons entry entries ih =>
    by_cases he : entry.1 = key
    · have hb : (other == entry.1) = false := by simpa [he] using h
      rw [List.filter_cons_of_neg (by simp [he]), ih, List.lookup_cons, hb]
    · rw [List.filter_cons_of_pos (by simp [he]), List.lookup_cons, List.lookup_cons, ih]

namespace FileTree

/-- the tree with nothing but the root -/
def empty : FileTree := ⟨[]⟩

def node? (tree : FileTree) (place : Location) : Option Node :=
  if place = [] then some .directory else tree.entries.lookup place

/-- put something at a place, instead of what is there -/
def put (tree : FileTree) (place : Location) (node : Node) : FileTree :=
  ⟨(tree.entries.filter fun entry => entry.1 ≠ place) ++ [(place, node)]⟩

def erase (tree : FileTree) (place : Location) : FileTree :=
  ⟨tree.entries.filter fun entry => entry.1 ≠ place⟩

/-! ## Following paths -/

def nameLimit : Nat := 255

def pathLimit : Nat := 4095

def linkLimit : Nat := 40

/-- go on from a place by one segment of a path, to a link perhaps -/
def step? (tree : FileTree) (place : Location) (segment : Text) : Except FileError Location :=
  match tree.node? place with
  | none => .error .notFound
  | some .directory =>
    if segment = "." then .ok place
    else if segment = ".." then .ok place.dropLast
    else if nameLimit < Text.byteLength segment then .error .nameTooLong
    else if (tree.node? (place ++ [segment])).isSome then .ok (place ++ [segment])
    else .error .notFound
  | some _ => .error .notADirectory

def linkAt? (tree : FileTree) (place : Location) : Option Text :=
  match tree.node? place with
  | some (.link target) => some target
  | _ => none

/-- where segments lead up to the first link on their way -/
inductive Leg where
  | arrived (place : Location)
  /-- at a link, with the segments behind it -/
  | stopped (link : Location) (target : Text) (rest : List Text)
  deriving DecidableEq, Repr

/-- follow segments from a place up to the first link -/
def leg? (tree : FileTree) (place : Location) : List Text → Except FileError Leg
  | [] => .ok (.arrived place)
  | segment :: rest =>
    match tree.step? place segment with
    | .error error => .error error
    | .ok next =>
      match tree.linkAt? next with
      | some target => .ok (.stopped next target rest)
      | none => tree.leg? next rest

def followed (path : Text) : List Text := (Path.segments path).filter fun segment => segment ≠ []

def endsInSlash (path : Text) : Bool := path.getLast? = some '/'

/-- the segments of a path to a place; behind a final slash there must be a directory -/
def way (path : Text) : List Text := followed path ++ if endsInSlash path then [['.']] else []

def origin (cwd : Location) (path : Text) : Location := if Path.isAbsolute path then [] else cwd

/-- what no path may be: one with a NUL character, the empty one, or one with too many bytes -/
def checkPath (path : Text) : Except FileError Unit :=
  if path.contains '\x00' then .error .nulInPath
  else if path.isEmpty then .error .notFound
  else if pathLimit < Text.byteLength path then .error .nameTooLong
  else .ok ()

/-- where a path has led, and how many links may still be followed for it -/
structure Stand where
  place : Location
  links : Nat
  deriving DecidableEq, Repr

/-- follow segments from a place, and so many links at most -/
def follow? (tree : FileTree) (place : Location) (segments : List Text) (links : Nat) : Except FileError Stand :=
  match tree.leg? place segments, links with
  | .error error, _ => .error error
  | .ok (.arrived place), links => .ok ⟨place, links⟩
  | .ok (.stopped _ _ _), 0 => .error .tooManyLinks
  | .ok (.stopped link target rest), links + 1 => do
    checkPath target
    tree.follow? (origin link.dropLast target) (way target ++ rest) links

def locate? (tree : FileTree) (cwd : Location) (path : Text) : Except FileError Location := do
  checkPath path
  let stand ← tree.follow? (origin cwd path) (way path) linkLimit
  .ok stand.place

def pathExists (tree : FileTree) (cwd : Location) (path : Text) : Bool :=
  match tree.locate? cwd path with
  | .ok _ => true
  | .error _ => false

def isFile (tree : FileTree) (cwd : Location) (path : Text) : Bool :=
  match tree.locate? cwd path with
  | .ok place => (tree.node? place).any Node.isFile
  | .error _ => false

def textAt (tree : FileTree) (place : Location) : Except FileError Text :=
  match tree.node? place with
  | none => .error .notFound
  | some .directory => .error .isADirectory
  | some (.file (.text t)) => .ok t
  | some (.file (.bytes _)) => .error .notText
  | some .program => .error .notText
  | some (.link _) => .error .tooManyLinks

def read (tree : FileTree) (cwd : Location) (path : Text) : Except FileError Text := do
  tree.textAt (← tree.locate? cwd path)

/-! ## The ends of paths -/

/-- the last segment of a path, seen from the directory it is looked up in -/
structure Destination where
  directory : Location
  name : Text
  /-- whether a slash follows the name -/
  slash : Bool
  deriving DecidableEq, Repr

namespace Destination

/-- whether the last segment is a name, not a dot or a double dot -/
def isNamed (destination : Destination) : Bool := destination.name ≠ "." && destination.name ≠ ".."

def place (destination : Destination) : Location := destination.directory ++ [destination.name]

end Destination

/-- the directory that a path's last segment is looked up in, and that segment; the root stands for a dot in itself.
With it, how many links may still be followed -/
def destination? (tree : FileTree) (cwd : Location) (path : Text) (links : Nat) :
    Except FileError (Destination × Nat) := do
  checkPath path
  let segments := followed path
  let stand ← tree.follow? (origin cwd path) segments.dropLast links
  match tree.node? stand.place with
  | none => .error .notFound
  | some .directory => .ok (⟨stand.place, segments.getLast?.getD ".", endsInSlash path⟩, stand.links)
  | some _ => .error .notADirectory

/-- what stands where a path ends; the directory refuses a name that is too long -/
def occupant? (tree : FileTree) (destination : Destination) : Except FileError (Option Node) :=
  if nameLimit < Text.byteLength destination.name then .error .nameTooLong
  else .ok (tree.node? destination.place)

theorem links_le_of_follow? {tree : FileTree} {place : Location} {segments : List Text} {links : Nat} {stand : Stand}
    (h : tree.follow? place segments links = .ok stand) : stand.links ≤ links := by
  induction links generalizing place segments with
  | zero =>
    unfold follow? at h
    split at h
    · cases h
    · cases h
      exact Nat.le_refl _
    · cases h
    · contradiction
  | succ links ih =>
    unfold follow? at h
    split at h
    · cases h
    · cases h
      exact Nat.le_refl _
    · cases h
    · rename_i hlinks
      cases hlinks
      simp only [bind, Except.bind] at h
      split at h
      · cases h
      · exact Nat.le_succ_of_le (ih h)

theorem links_le_of_destination? {tree : FileTree} {cwd : Location} {path : Text} {links left : Nat}
    {destination : Destination} (h : tree.destination? cwd path links = .ok (destination, left)) : left ≤ links := by
  simp only [destination?, bind, Except.bind] at h
  split at h
  · cases h
  · split at h
    · cases h
    · rename_i hfollow
      split at h
      · cases h
      · cases h
        exact links_le_of_follow? hfollow
      · cases h

/-- the place of the file that a path names for writing: where it ends once links at its end are followed -/
def target? (tree : FileTree) (cwd : Location) (path : Text) (links : Nat) : Except FileError Location :=
  match _ended : tree.destination? cwd path links with
  | .error error => .error error
  | .ok (destination, left) =>
    if !destination.isNamed || destination.slash then .error .isADirectory
    else
      match tree.occupant? destination, left with
      | .error error, _ => .error error
      | .ok (some (.link _)), 0 => .error .tooManyLinks
      | .ok (some (.link target)), left + 1 => tree.target? destination.directory target left
      | .ok _, _ => .ok destination.place
termination_by links
decreasing_by exact links_le_of_destination? _ended

/-! ## Changing files -/

/-- open the file that a path names for writing; no directory can be written -/
def openFile? (tree : FileTree) (device : Device) (cwd : Location) (path : Text) : Except FileError Location := do
  let place ← tree.target? cwd path linkLimit
  match tree.node? place with
  | some .directory => .error .isADirectory
  | _ =>
    match device.refusesWriting place with
    | some error => .error error
    | none => .ok place

/-- write a text to a path: a new file, or the new contents of one; and why not all of it was written -/
def write (tree : FileTree) (device : Device) (cwd : Location) (path t : Text) : FileTree × Except FileError Unit :=
  match tree.openFile? device cwd path with
  | .error error => (tree, .error error)
  | .ok place =>
    let written := device.written place t
    (tree.put place (.file written.1), written.2)

/-- remove the file or the link at the end of a path; no directory can be removed -/
def remove (tree : FileTree) (device : Device) (cwd : Location) (path : Text) : Except FileError FileTree := do
  let (destination, _) ← tree.destination? cwd path linkLimit
  if !destination.isNamed then .error .isADirectory
  else
    match ← tree.occupant? destination with
    | none => .error .notFound
    | some node =>
      if destination.slash then .error (if node = .directory then .isADirectory else .notADirectory)
      else
        match device.refusesRemoval destination.place with
        | some error => .error error
        | none => if node = .directory then .error .isADirectory else .ok (tree.erase destination.place)

def makeDirectory (tree : FileTree) (cwd : Location) (path : Text) : Except FileError FileTree := do
  let (destination, _) ← tree.destination? cwd path linkLimit
  let occupant ← tree.occupant? destination
  if !destination.isNamed || occupant.isSome then .error (.other "File exists (os error 17)")
  else .ok (tree.put destination.place .directory)

/-! ## Setting up and listing -/

/-- go on by one segment, making a directory of the place where nothing is -/
def plantStep : FileTree × Location → Text → FileTree × Location
  | (tree, place), segment =>
    let next := Path.step place segment
    (if (tree.node? next).isSome then tree else tree.put next .directory, next)

/-- make directories of all places along some segments, and where they lead; also a name in front of a double dot
becomes one -/
def plantAlong (tree : FileTree) (place : Location) (segments : List Text) : FileTree × Location :=
  segments.foldl plantStep (tree, place)

/-- make directories of all places along a path, where nothing is -/
def plantDirectories (tree : FileTree) (cwd : Location) (path : Text) : FileTree :=
  (tree.plantAlong (origin cwd path) (followed path)).1

/-- put something at the end of a path, with directories along it -/
def plant (tree : FileTree) (cwd : Location) (path : Text) (node : Node) : FileTree :=
  let (tree, directory) := tree.plantAlong (origin cwd path) (followed path).dropLast
  tree.put (Path.step directory ((followed path).getLast?.getD ".")) node

/-- the names in a directory, with what stands there -/
def children (tree : FileTree) (directory : Location) : List (Text × Node) :=
  tree.entries.filterMap fun (place, node) =>
    match place.getLast? with
    | some name => if place.dropLast = directory then some (name, node) else none
    | none => none

def list (tree : FileTree) (cwd : Location) (path : Text) : Except FileError (List (Text × Node)) := do
  let place ← tree.locate? cwd path
  match tree.node? place with
  | some .directory => .ok (tree.children place)
  | _ => .error .notADirectory

def relative? (directory place : Location) : Option Text :=
  if directory.isPrefixOf place then some (Text.join "/" (place.drop directory.length)) else none

/-- the files below a directory, programs apart: their paths relative to it and what they hold, sorted by path -/
def filesBelow (tree : FileTree) (directory : Location) : List (Text × Contents) :=
  let files : List (Text × Contents) := tree.entries.filterMap fun (place, node) =>
    match node with
    | .file contents => (relative? directory place).map fun path => (path, contents)
    | _ => none
  files.mergeSort fun a b => Text.le a.1 b.1

/-- the files below a directory that are new in a tree or hold something else than before -/
def written (before after : FileTree) (directory : Location) : List (Text × Contents) :=
  (after.filesBelow directory).filter fun file => (before.filesBelow directory).lookup file.1 ≠ some file.2

def gone (before after : FileTree) (directory : Location) : List Text :=
  ((before.filesBelow directory).map Prod.fst).filter fun path =>
    ((after.filesBelow directory).lookup path).isNone

theorem lookup_filter_self {entries : List (Location × Node)} {place : Location} :
    (entries.filter fun entry => entry.1 ≠ place).lookup place = none := by
  induction entries with
  | nil => rfl
  | cons entry entries ih =>
    by_cases he : entry.1 = place
    · rw [List.filter_cons_of_neg (by simp [he]), ih]
    · have hb : (place == entry.1) = false := by simpa using Ne.symm he
      rw [List.filter_cons_of_pos (by simp [he]), List.lookup_cons, hb]
      exact ih

theorem node?_put_self {tree : FileTree} {place : Location} {node : Node} (h : place ≠ []) :
    (tree.put place node).node? place = some node := by
  simp only [node?, put, h, if_false, List.lookup_append, lookup_filter_self, Option.none_or]
  simp

/-- putting something at a place changes no other -/
theorem node?_put_of_ne {tree : FileTree} {place other : Location} {node : Node} (h : other ≠ place) :
    (tree.put place node).node? other = tree.node? other := by
  by_cases hr : other = []
  · simp [node?, hr]
  · have hb : (other == place) = false := by simpa using h
    simp only [node?, put, hr, if_false, List.lookup_append, lookup_filter_ne h, List.lookup_cons, hb,
      List.lookup_nil, Option.or_none]

/-- nothing stands at a place that was cleared -/
theorem node?_erase_self {tree : FileTree} {place : Location} (h : place ≠ []) :
    (tree.erase place).node? place = none := by
  simp only [node?, erase, h, if_false, lookup_filter_self]

/-- clearing a place changes no other -/
theorem node?_erase_of_ne {tree : FileTree} {place other : Location} (h : other ≠ place) :
    (tree.erase place).node? other = tree.node? other := by
  by_cases hr : other = []
  · simp [node?, hr]
  · simp only [node?, erase, hr, if_false, lookup_filter_ne h]

end FileTree

end GlslInspect
