import ParallelFortran.Build.Dependencies
import ParallelFortran.Command.Conversion
import ParallelFortran.Command.Records

/-! All commands by their names, with what they read and write. -/

namespace ParallelFortran.Command

def decodedText (bytes : Bytes) : Outcome String :=
  match String.fromUTF8? ⟨bytes.toArray⟩ with
  | some text => .ok text
  | none => .error (.defect .malformedText)

def Disk.sources (disk : Disk) : Outcome Folder :=
  (Build.sourceNames disk.keys).mapM fun name => do
    return (name, ← decodedText ((disk.get? name).getD []))

def objectFilesCommand (words : List String) (disk : Disk) : PrintM Unit := do
  match readOptions? [⟨some 'b', "build", true⟩, ⟨some 'v', "verbose", false⟩] words {} with
  | none => throw (.exit 2)
  | some options =>
    let folder ← (disk.sources : Outcome _)
    let files ← (Build.objectFiles folder ((options.given? "build").getD "") : Outcome _)
    printLine (Text.join " " files)

structure Inputs where
  disk : Disk := ∅
  standardInput : String := ""

structure Result where
  status : Nat := 0
  output : Output := {}
  files : Disk := ∅

def Inputs.folder (inputs : Inputs) : Folder :=
  inputs.disk.entries.filterMap fun (name, bytes) =>
    (String.fromUTF8? ⟨bytes.toArray⟩).map fun text => (name, text)

def LogPart.text : LogPart → String
  | .text content => content
  | .fault cause => cause.message

def logLine (entry : LogEntry) : String :=
  entry.level.name ++ ": " ++ Text.join "" (entry.parts.map LogPart.text) ++ "\n"

def faultStatus : Fault → Nat × String
  | .exit status => (status, "")
  | fault => (1, fault.message ++ "\n")

def Result.ofLog (work : LogM (String × Disk)) : Result :=
  let (outcome, log) := ExceptT.run work []
  let notes := Text.join "" (log.map logLine)
  match outcome with
  | .ok (printed, files) => { output := { printed, notes }, files }
  | .error fault =>
    let (status, note) := faultStatus fault
    { status, output := { notes := notes ++ note } }

def Result.ofPrint (work : PrintM Disk) : Result :=
  let (outcome, output) := ExceptT.run work {}
  match outcome with
  | .ok files => { output, files }
  | .error fault =>
    let (status, note) := faultStatus fault
    { status, output := { output with notes := output.notes ++ note } }

def Result.ofText (work : LogM String) : Result :=
  .ofLog (work.map fun printed => (printed, ∅))

def outputDirectory (words : List String) : String :=
  ((readOptions? [⟨some 'i', "sourceDir", true⟩, ⟨some 'o', "outputDir", true⟩,
    ⟨some 'c', "callgraph", true⟩, debugForm, ⟨some 'm', "implementation", true⟩,
    ⟨none, "optionFlags", true⟩] words {}).bind fun options => options.given? "outputDir").getD ""

def convertedFiles (words : List String) (files : Table String String) : Disk :=
  Table.ofList (files.entries.map fun (name, text) =>
    (Build.pathIn (outputDirectory words) name, text.toUTF8.toList))

def catalog : List (String × (List String → Inputs → Result)) :=
  [("outline", fun words inputs => .ofText (outlineCommand words inputs.folder)),
    ("regions", fun words inputs => .ofText (regionsCommand words inputs.folder)),
    ("convert", fun words inputs => .ofLog do
      return ("", convertedFiles words (← conversionCommand words inputs.folder))),
    ("outdated", fun words inputs => .ofText (outdatedCommand words inputs.folder)),
    ("compare", fun words inputs => .ofText (compareCommand words inputs.folder)),
    ("filter", fun words _ => .ofText (filterCommand words)),
    ("schemes", fun words inputs => .ofText (schemesCommand words inputs.folder)),
    ("indent", fun words inputs => .ofText (indentCommand words inputs.folder)),
    ("join", fun words inputs => .ofText (joinCommand words inputs.folder inputs.standardInput)),
    ("statistics", fun words _ => .ofText (statisticsCommand words)),
    ("objects", fun words inputs => .ofPrint do
      objectFilesCommand words inputs.disk
      return ∅),
    ("accuracy", fun words inputs => .ofPrint do
      accuracyCommand words inputs.disk
      return ∅),
    ("reorder", fun words inputs => .ofPrint do
      let disk ← reorderCommand words inputs.disk
      return Table.ofList (disk.entries.filter fun file => inputs.disk.get? file.1 != some file.2))]

def run (words : List String) (inputs : Inputs) : Result :=
  match words with
  | [] => { status := 2, output := { notes := Text.join " " (catalog.map Prod.fst) ++ "\n" } }
  | name :: words =>
    match catalog.lookup name with
    | some command => command words inputs
    | none => { status := 2, output := { notes := Text.join " " (catalog.map Prod.fst) ++ "\n" } }

end ParallelFortran.Command
