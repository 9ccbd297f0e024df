import JsonMarkup.Cli.Run

/-!
# Folders in memory

A folder that is held in memory, in which commands can run. It has the files that were put into it
and just the folders that these need.
-/

namespace JsonMarkup.Cli

/-- The folders on the way to a file, and its name. -/
abbrev Location := List String

/-- A folder. -/
structure Folder where
  files : List (Location × String) := []

namespace Folder

/-- The folder of files that are given by their paths. -/
def ofList (files : List (String × String)) : Folder :=
  ⟨files.map fun (path, text) => (Path.components path, text)⟩

/-- There is a folder at a location. -/
def hasFolder (f : Folder) (l : Location) : Bool :=
  l.isEmpty || f.files.any fun (file, _) => l.isPrefixOf file && l.length < file.length

/-- Follow a path from a location; its folders have to be there. -/
def follow (f : Folder) (here : Location) : List String → Option Location
  | [] => some here
  | p :: rest =>
    if !f.hasFolder here then none
    else if p = "" ∨ p = "." then f.follow here rest
    else if p = ".." then if here.isEmpty then none else f.follow here.dropLast rest
    else f.follow (here ++ [p]) rest

/-- The location that a path leads to. A path from the root leads nowhere. -/
def locate (f : Folder) (path : String) : Option Location :=
  if path.toList.head? = some '/' then none else f.follow [] (Path.parts path)

/-- The text of the file at a path. -/
def read (f : Folder) (path : String) : Option String := do f.files.lookup (← f.locate path)

/-- Make a text the contents of the file at a path, unless there is a folder or no way to it. -/
def write (f : Folder) (path text : String) : Option Folder := do
  let l ← f.locate path
  if f.hasFolder l then none
  else some ⟨(l, text) :: f.files.filter (·.1 ≠ l)⟩

/-- The folder as the world of a command, with a text on standard input. -/
def host (input : String) : Host (StateM Folder) where
  readFile path := return (← get).read path
  readInput := return some input
  writeFile path text := do
    match (← get).write path text with
    | some f => set f; return true
    | none => return false

/-- The files that are not in an earlier folder, or not with the same text. -/
def changesFrom (f before : Folder) : List (String × String) :=
  (f.files.filter fun file => !before.files.contains file).map fun (l, text) =>
    ("/".intercalate l, text)

end Folder

end JsonMarkup.Cli
