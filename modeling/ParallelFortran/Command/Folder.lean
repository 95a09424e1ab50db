import ParallelFortran.Log

/-! The files that a command can see, by their paths. -/

namespace ParallelFortran.Command

abbrev Folder := List (String × String)

def plainPath (path : String) : String :=
  if Text.startsWith path "/" then path
  else Text.join "/" ((Text.split "/" path).filter fun part => part != "" && part != ".")

namespace Folder

def read? (folder : Folder) (path : String) : Option String :=
  (folder.lookup (plainPath path)).map Text.unifyLineEnds

def read (folder : Folder) (path : String) : LogM String :=
  match folder.read? path with
  | some text => pure text
  | none => throw (.defect .missingFile)

def missing (path : String) : LogEntry :=
  ⟨.critical, [.text (s!"Unable to open the file {path}. Ending program. Error: "),
    .fault (.defect .missingFile)]⟩

def demand (folder : Folder) (path : String) : LogM String :=
  match folder.read? path with
  | some text => pure text
  | none => do
    LogM.add (missing path)
    throw (.exit 1)

def partsOrder : List String → List String → Bool
  | [], _ => true
  | _ :: _, [] => false
  | left :: lefts, right :: rights =>
    if left == right then partsOrder lefts rights else decide (left < right)

def pathOrder (left right : String × String) : Bool :=
  partsOrder (Text.split "/" left.1) (Text.split "/" right.1)

/-- Whether a file name ends in an extension. A leading dot does not begin one. -/
def hasExtension (extension path : String) : Bool :=
  let name := (Text.fileName path).toList.dropWhile (· == '.')
  Text.endsWith (String.ofList name) ("." ++ extension) &&
    name.length > extension.length + 1

def pathBelow? (directory path : String) : Option String :=
  let plain := plainPath directory
  let start := if plain.isEmpty then "" else plain ++ "/"
  if Text.startsWith path start then some (Text.drop start.length path) else none

def hasDirectory (folder : Folder) (directory : String) : Bool :=
  (plainPath directory).isEmpty || folder.any fun file => (pathBelow? directory file.1).isSome

def sources (folder : Folder) (directory extension : String) : Folder :=
  let start := if Text.endsWith directory "/" then directory else directory ++ "/"
  let found := folder.filterMap fun (path, text) =>
    (pathBelow? directory path).map fun rest => (start ++ rest, Text.unifyLineEnds text)
  (found.filter fun file => hasExtension extension file.1).mergeSort pathOrder

end Folder

end ParallelFortran.Command
