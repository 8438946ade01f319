/-
# Paths on the host

A path is a root, if it is absolute, and names.  Empty names and single dots are dropped when a
path is read; double dots are names like others, because where they lead depends on the files.

* `HostPath.ofText` reads a path, `HostPath.text` writes it: `./d//c` is `d/c`, nothing is `.`;
* `HostPath.parent` and `HostPath.suffix` take it apart.
-/
namespace DeviceSampling

/-- A path. -/
structure HostPath where
  /-- Nothing, one slash, or two where exactly two lead the path. -/
  root : String := ""
  names : List String := []
  deriving DecidableEq, Repr

namespace HostPath

/-- The pieces of a text between slashes. -/
def pieces : List Char → List (List Char)
  | [] => [[]]
  | c :: rest =>
    if c = '/' then [] :: pieces rest
    else match pieces rest with
      | [] => [[c]]
      | p :: ps => (c :: p) :: ps

/-- The root that leads a text. -/
def rootOf (cs : List Char) : String :=
  match (cs.takeWhile (· = '/')).length with
  | 0 => ""
  | 2 => "//"
  | _ => "/"

/-- Reads a path. -/
def ofText (text : String) : HostPath :=
  { root := rootOf text.toList
    names := ((pieces text.toList).map String.ofList).filter fun n => n ≠ "" ∧ n ≠ "." }

/-- Writes a path. -/
def text (p : HostPath) : String :=
  if p.root = "" ∧ p.names = [] then "." else p.root ++ "/".intercalate p.names

/-- The path without its last name. -/
def parent (p : HostPath) : HostPath := { p with names := p.names.dropLast }

/-- The last name, or nothing. -/
def name (p : HostPath) : String := p.names.getLast?.getD ""

/-- The ending of the last name from its last dot on, unless that dot is at either end. -/
def suffix (p : HostPath) : String :=
  let cs := p.name.toList
  let ending := cs.reverse.takeWhile (· ≠ '.')
  let before := (cs.reverse.dropWhile (· ≠ '.')).drop 1
  if ending.isEmpty || before.isEmpty then "" else String.ofList ('.' :: ending.reverse)

end HostPath
end DeviceSampling
