/-
# Files on the host

The files around the working directory of a run.  A place is a list of names from the innermost
outwards; the working directory is the empty list and always there, and so are the directories
above it and the root.

There are directories and regular files, and no links, devices or failing disks, and nothing but the
run changes them.  A directory or a file may be CLOSED to the user of the run: the one can then be
neither entered nor read, the other not read.  Whoever may enter a directory may also make things in
it.

* `FileTree.resolve` follows a path: double dots go up from where the names before them led;
* `FileTree.makeDirectories` makes a directory and those above it, and is content with a
  directory that is there already.
-/
import DeviceSampling.Fault
import DeviceSampling.Host.Path

namespace DeviceSampling

/-! ## 1. Trees -/

/-- A place: names from the innermost outwards, double dots for what is above. -/
abbrev Place : Type := List String

/-- What is at a place. -/
inductive Node where
  | directory
  /-- A directory that may be neither entered nor read. -/
  | closedDirectory
  | file (content : List UInt8)
  /-- A file that may not be read. -/
  | closedFile
  deriving DecidableEq, Repr

/-- The places that hold something. -/
structure FileTree where
  nodes : List (Place × Node) := []
  deriving DecidableEq, Repr

/-- Where a path leads. -/
inductive Resolution where
  | directory (place : Place)
  | closedDirectory (place : Place)
  | file (place : Place) (content : List UInt8)
  | closedFile (place : Place)
  /-- Nothing is there, in a directory that exists. -/
  | vacant (place : Place)
  /-- A directory on the way does not exist. -/
  | missing
  /-- A file is on the way. -/
  | throughFile
  /-- A directory on the way is closed. -/
  | throughClosed
  /-- A name, or the whole path, is longer than names and paths may be. -/
  | tooLong
  /-- A NUL is in the path: there is no such path, however long it is. -/
  | noPath
  deriving DecidableEq, Repr

namespace FileTree

/-- The place above a place. -/
def above : Place → Place
  | [] => [".."]
  | ".." :: rest => ".." :: ".." :: rest
  | ["/"] => ["/"]
  | _ :: rest => rest

/-- Whether a place is above the working directory or the root, where a directory always is. -/
def isOuter (place : Place) : Bool := place.all (· = "..") || place = ["/"]

/-- What is at a place. -/
def node? (t : FileTree) (place : Place) : Option Node :=
  if isOuter place then some .directory else t.nodes.lookup place

/-- The most bytes of a name. -/
def nameLimit : Nat := 255

/-- The most bytes of a path. -/
def pathLimit : Nat := 4095

/-- Follows names from a directory. -/
def follow (t : FileTree) (place : Place) : List String → Resolution
  | [] => .directory place
  | name :: rest =>
    if name = ".." then t.follow (above place) rest
    else if nameLimit < name.utf8ByteSize then .tooLong
    else match t.node? (name :: place) with
      | some .directory => t.follow (name :: place) rest
      | some .closedDirectory =>
        if rest.isEmpty then .closedDirectory (name :: place) else .throughClosed
      | some (.file content) => if rest.isEmpty then .file (name :: place) content else .throughFile
      | some .closedFile => if rest.isEmpty then .closedFile (name :: place) else .throughFile
      | none => if rest.isEmpty then .vacant (name :: place) else .missing

/-- The place where a path starts. -/
def startOf (p : HostPath) : Place := if p.root = "" then [] else ["/"]

/-- Follows a path. -/
def resolve (t : FileTree) (p : HostPath) : Resolution :=
  if p.text.toList.contains '\x00' then .noPath
  else if pathLimit < p.text.utf8ByteSize then .tooLong
  else t.follow (startOf p) p.names

/-- The message about a path that is too long. -/
def tooLongMessage (p : HostPath) : String :=
  "[Errno 36] File name too long: " ++ Text.quote p.text

/-- The message about a path to which the user has no permission. -/
def deniedMessage (p : HostPath) : String := "[Errno 13] Permission denied: " ++ Text.quote p.text

/-! ## 2. Changes -/

/-- The tree with something at a place. -/
def put (t : FileTree) (place : Place) (node : Node) : FileTree :=
  ⟨(place, node) :: t.nodes.filter (·.1 ≠ place)⟩

/-- Makes one directory, in a directory that exists. -/
def makeDirectory (t : FileTree) (p : HostPath) : Except Fault FileTree :=
  match t.resolve p with
  | .directory _ | .closedDirectory _ => .ok t
  | .vacant place => .ok (t.put place .directory)
  | .file .. | .closedFile _ => .error (.fileExists p.text)
  | .throughFile => .error (.notADirectory p.text)
  | .throughClosed => .error (.os (deniedMessage p))
  | .tooLong => .error (.os (tooLongMessage p))
  | .missing => .error (.os ("[Errno 2] No such file or directory: " ++ Text.quote p.text))
  | .noPath => .error (.badValue "embedded null byte")

/-- Makes a directory and those above it; the names are given from the last to the first. -/
def makeUpTo (t : FileTree) (root : String) : List String → Except Fault FileTree
  | [] => t.makeDirectory ⟨root, []⟩
  | name :: outer =>
    let path : HostPath := ⟨root, (name :: outer).reverse⟩
    match t.resolve path with
    | .missing =>
      match t.makeUpTo root outer with
      | .ok t' => t'.makeDirectory path
      | .error fault => .error fault
    | _ => t.makeDirectory path

/-- Makes a directory and those above it. -/
def makeDirectories (t : FileTree) (p : HostPath) : Except Fault FileTree :=
  t.makeUpTo p.root p.names.reverse

/-- Puts something in the place of a file, making the directories above it. -/
def store (t : FileTree) (p : HostPath) (node : Node) : Except Fault FileTree := do
  let t' ← t.makeDirectories p.parent
  match t'.resolve p with
  | .vacant place | .file place _ => return t'.put place node
  | _ => throw (.fileExists p.text)

/-- Writes a file, making the directories above it. -/
def write (t : FileTree) (p : HostPath) (content : List UInt8) : Except Fault FileTree :=
  t.store p (.file content)

/-- The paths of all directories below the working directory, in increasing order. -/
def directories (t : FileTree) : List String :=
  let places := t.nodes.filterMap fun (place, node) =>
    if node ∈ [.directory, .closedDirectory] ∧ ".." ∉ place ∧ "/" ∉ place then
      some ("/".intercalate place.reverse)
    else none
  places.mergeSort fun a b => decide (a ≤ b)

end FileTree
end DeviceSampling
