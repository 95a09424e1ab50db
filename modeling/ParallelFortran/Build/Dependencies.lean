import ParallelFortran.Command.Folder
import ParallelFortran.Pattern.Reader
import ParallelFortran.Table

/-! An order of files in which every file stands behind those that it depends on. Files are visited
in depth; the ones that were named last come first. -/

namespace ParallelFortran

abbrev Dependencies := Table String (List String)

namespace Dependencies

variable (dependencies : Dependencies)

def needs (file : String) : List String :=
  (OrderedSet.ofList ((dependencies.get? file).getD []).reverse).members

def depth : Nat :=
  dependencies.size + dependencies.values.flatten.length + 1

/-- Appends a file to those that were `visited`, behind all that it depends on. The files of `path`
wait for it, so it must not be one of them. -/
def visit (dependencies : Dependencies) : Nat → List String → List String → String → Outcome (List String)
  | 0, _, _, _ => .error (.defect .tooDeep)
  | fuel + 1, path, visited, file =>
    if visited.contains file then .ok visited
    else if path.contains file then .error (.defect .circularDependency)
    else do
      let visited ← (dependencies.needs file).foldlM (visit dependencies fuel (file :: path)) visited
      return visited ++ [file]

def order : Outcome (List String) :=
  dependencies.keys.reverse.foldlM (dependencies.visit dependencies.depth []) []

end Dependencies

end ParallelFortran

/-! Source files, the modules that they use and hold, and the order in which they have to be
compiled. -/

namespace ParallelFortran.Build

open Pattern

def useLine : Pattern :=
  sequence [start, blanks, literal "use", blanks, group 1 word]

def moduleLine : Pattern :=
  sequence [start, blanks, literal "module", blanks, group 1 word]

structure SourceFile where
  name : String
  uses : List String
  modules : List String

def namesIn (pattern : Pattern) (text : String) : List String :=
  (OrderedSet.ofList ((Text.linesKeepingEnds text).filterMap fun line =>
    (pattern.match? line).map fun found => found.group 1)).members

def expanded (macros : Table String String) (name : String) : Outcome String :=
  macros.entries.foldlM (fun current (key, value) =>
    match Pattern.read? false key with
    | none => .error (.defect .malformedPattern)
    | some pattern => .ok (if pattern.accepts name then Text.replace key value name else current)) name

def SourceFile.ofText (macros : Table String String) (name text : String) : Outcome SourceFile := do
  let uses ← (namesIn useLine text).mapM (expanded macros)
  return ⟨name, uses, namesIn moduleLine text⟩

def extensions : List String := [".f90", ".F90", ".h90", ".H90", ".P90"]

def sourceNames (names : List String) : List String :=
  let sorted := names.mergeSort fun left right => decide (left ≤ right)
  extensions.flatMap fun extension => sorted.filter fun name => Text.endsWith name extension

def sourceFiles (folder : Command.Folder) (only : Option (List String))
    (macros : Table String String) : Outcome (List SourceFile) :=
  (only.getD (sourceNames (Table.ofList folder).keys)).mapM fun name =>
    match Command.Folder.read? folder name with
    | none => .error (.defect .missingFile)
    | some text => SourceFile.ofText macros name text

def moduleFiles (files : List SourceFile) : Table String String :=
  Table.ofList (files.flatMap fun file => file.modules.map fun name => (Text.lower name, file.name))

def dependencies (files : List SourceFile) : Dependencies :=
  let owners := moduleFiles files
  Table.ofList (files.map fun file =>
    (file.name, file.uses.filterMap fun name => owners.get? (Text.lower name)))

def pathIn (directory path : String) : String :=
  if Text.startsWith path "/" then path
  else if directory.isEmpty || Text.endsWith directory "/" then directory ++ path
  else directory ++ "/" ++ path

def objectFile (directory file : String) : String :=
  pathIn directory ((Text.split "." file).headD "") ++ ".o"

def objectFiles (folder : Command.Folder) (directory : String) : Outcome (List String) := do
  let files ← sourceFiles folder none ∅
  let order ← (dependencies files).order
  return (OrderedSet.ofList (order.map (objectFile directory))).members

end ParallelFortran.Build
