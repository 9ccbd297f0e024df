/-!
# Paths

A path leads to a file through folders, parted by slashes.
-/

namespace JsonMarkup.Cli.Path

/-- What stands between the slashes of a path. -/
def parts (path : String) : List String := (path.toList.splitOn '/').map String.ofList

/-- The parts by which paths are told apart: empty parts and dots count only in front, where they
stand for the root and for the current folder. -/
def components (path : String) : List String :=
  match parts path with
  | [] => []
  | first :: rest => first :: rest.filter fun p => p != "" && p != "."

def isStandardInput (path : String) : Bool := components path = ["-"]

/-- What comes after the last dot of a name. A dot in front of a name does not count. -/
def extension? (name : List Char) : Option (List Char) :=
  let after := (name.reverse.takeWhile (· ≠ '.')).reverse
  if after.length + 1 < name.length then some after else none

/-- The name of the file ends in `.json`, in either case. -/
def isJson (path : String) : Bool :=
  ((components path).getLast?.bind fun name => extension? name.toList).any fun e =>
    e.map Char.toLower = "json".toList

end JsonMarkup.Cli.Path
