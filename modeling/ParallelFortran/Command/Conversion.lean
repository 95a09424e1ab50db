import ParallelFortran.Command.CallGraph
import ParallelFortran.Conversion
import ParallelFortran.Json.Reader

/-! The command that converts a program. -/

namespace ParallelFortran.Command

open Xml

structure ConversionRequest where
  sources : Folder
  callGraph : String
  choice : String × Option String
  flags : List String := []
  isMarked : Bool := false

def backendChoice (path : String) (text : Option String) : Work (List (String × String)) := do
  match text.map Json.read? with
  | none => Work.stop (Folder.missing path)
  | some none =>
    Work.stop ⟨.critical, [.text (s!"Error decoding implementation json ({path}): "),
      .fault (.defect .malformedJson)]⟩
  | some (some (.object fields)) =>
    (Table.ofList fields).entries.mapM fun (scheme, name) =>
      match name with
      | .string name => pure (scheme, name)
      | _ => throw (.defect .wrongKind)
  | some (some _) => throw (.defect .missingPart)

variable (request : ConversionRequest)

def ConversionRequest.allFlags : List String :=
  if request.isMarked && !request.flags.contains "DEBUG_PRINT" then
    request.flags ++ ["DEBUG_PRINT"]
  else request.flags

def ConversionRequest.begin : Work (Document × Table String BackendId) := do
  let document ← (parseDocument request.callGraph : StoreM _)
  modify fun session => { session with document, marksRegions := request.isMarked }
  let names ← backendChoice request.choice.1 request.choice.2
  return (document, ← Work.addBackends names request.allFlags)

def ConversionRequest.run : Outcome (Table String BackendId) × Conversion :=
  let work : ConversionM (Table String BackendId) := do
    let (document, backends) ← Conversion.onSession request.begin
    Conversion.convert document backends request.sources
    return backends
  ExceptT.run work {}

def flagsIn (text : Option String) : List String :=
  ((text.map (Text.split ",")).getD []).filter (! ·.isEmpty)

def hasParent (folder : Folder) (directory : String) : Bool :=
  folder.hasDirectory (Text.join "/" (Text.split "/" (plainPath directory)).dropLast)

def conversionCommand (words : List String) (folder : Folder) : LogM (Table String String) := do
  let options ← optionsOf [⟨some 'i', "sourceDir", true⟩, ⟨some 'o', "outputDir", true⟩,
    ⟨some 'c', "callgraph", true⟩, debugForm, ⟨some 'm', "implementation", true⟩,
    ⟨none, "optionFlags", true⟩] words
  let directory ← mandatory options "sourceDir" "sourceDir"
  let output ← mandatory options "outputDir" "outputDir"
  let callGraph ← mandatory options "callgraph" "callgraph"
  let choice ← mandatory options "implementation" "implementation"
  if !folder.hasDirectory directory then throw (.defect .missingFile)
  if !hasParent folder output then throw (.defect .missingFile)
  let text ← folder.demand callGraph
  let request : ConversionRequest :=
    { sources := folder.sources directory "h90", callGraph := text
      choice := (choice, folder.read? choice)
      flags := flagsIn (options.value? "optionFlags"), isMarked := options.has "debug" }
  let (result, conversion) := request.run
  conversion.session.log.forM LogM.add
  let _ ← (result : Outcome _)
  return conversion.files

end ParallelFortran.Command
