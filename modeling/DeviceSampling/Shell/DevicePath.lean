/-
# Paths on the device

A path on the device is a text cut by slashes.  What follows the last slash is the name; what
comes before it, without slashes at the end, is the directory.

* `baseName` and `directory` take a path apart.
-/
namespace DeviceSampling.Shell

/-- What follows the last slash. -/
def baseNameChars (cs : List Char) : List Char :=
  (cs.reverse.takeWhile (· ≠ '/')).reverse

/-- What comes up to the last slash; slashes at its end are dropped unless there is nothing else
in it. -/
def directoryChars (cs : List Char) : List Char :=
  let head := cs.reverse.dropWhile (· ≠ '/')
  if head.all (· = '/') then head.reverse else (head.dropWhile (· = '/')).reverse

/-- The name at the end of a path. -/
def baseName (path : String) : String := String.ofList (baseNameChars path.toList)

/-- The directory of a path. -/
def directory (path : String) : String := String.ofList (directoryChars path.toList)

end DeviceSampling.Shell
