import ParallelFortran.CallGraph.Outdated
import ParallelFortran.CallGraph.Regions
import ParallelFortran.Command.Folder
import ParallelFortran.Command.Options
import ParallelFortran.Source.Outline
import ParallelFortran.Text.Continuation

/-! Commands that make, change or compare call graph documents, and the small commands around them.
Each gives the text that it prints. -/

namespace ParallelFortran.Command

open Xml CallGraph

def onStore {α : Type} (action : StoreM α) (store : Store) : LogM (α × Store) :=
  match ExceptT.run action store with
  | (.ok value, store) => pure (value, store)
  | (.error fault, _) => throw fault

def written (pretty : Bool) (store : Store) (document : Document) : String :=
  if pretty then store.toIndented document.root else store.toText document.root

def emptyCallGraph : StoreM Document := addDocument [.element "callGraph" [] []]

def outline (sources : Folder) : LogM (Document × Store) := do
  let (document, store) ← onStore emptyCallGraph {}
  let store ← sources.foldlM (fun store (path, text) =>
    match Source.Outline.readFile document path text store with
    | (store, .ok _) => pure store
    | (_, .error (entry, fault)) => do
      entry.forM LogM.add
      throw fault) store
  return (document, store)

def architectureOf (name : Option String) : String :=
  match name with
  | none => ""
  | some name => if Text.upper name == "CPU" then "" else name

def analysisRefused (path : String) (fault : Fault) : LogEntry :=
  match fault with
  | .callGraph (.detachedRegions _ _) =>
    .plain .critical (s!"Error when analysing callgraph file file {path}: " ++ fault.message)
  | _ =>
    if fault.refusal? == some .usage then .plain .error ("Error: " ++ fault.message)
    else ⟨.critical, [.text (s!"Error when analysing callgraph file {path}: "), .fault fault]⟩

def analyseRegions (path text : String) (architecture : Option String) : LogM (Document × Store) := do
  let (document, store) ← onStore (parseDocument text) {}
  let work := RegionAnalysis.analyse (architectureOf architecture)
  match ExceptT.run work { store, document } with
  | (.ok _, analysis) => do
    analysis.log.forM LogM.add
    return (document, analysis.store)
  | (.error fault, analysis) => do
    analysis.log.forM LogM.add
    LogM.add (analysisRefused path fault)
    throw (.exit 1)

def mandatory (options : Options) (name shown : String) : LogM String :=
  match options.value? name with
  | some value => pure value
  | none =>
    LogM.stop .error (shown ++
      " option is mandatory. Use '--help' for informations on how to use this module") 1

def optionsOf (forms : List OptionForm) (words : List String) : LogM Options :=
  match readOptions? forms words {} with
  | some options => pure options
  | none => throw (.exit 2)

def debugForm : OptionForm := ⟨some 'd', "debug", false⟩
def prettyForm : OptionForm := ⟨some 'p', "pretty", false⟩

variable (words : List String) (folder : Folder)

def outlineCommand : LogM String := do
  let options ← optionsOf [⟨some 'i', "sourceDirectory", true⟩, debugForm, prettyForm] words
  let directory ← mandatory options "sourceDirectory" "sourceDirectory"
  if !folder.hasDirectory directory then throw (.defect .missingFile)
  let (document, store) ← outline (folder.sources directory "h90")
  return written (options.has "pretty") store document

def regionsCommand : LogM String := do
  let options ← optionsOf [⟨some 'i', "sourceXML", true⟩, ⟨some 'a', "appliesTo", true⟩, debugForm,
    prettyForm] words
  let path ← mandatory options "sourceXML" "sourceXML"
  let text ← folder.demand path
  let (document, store) ← analyseRegions path text (options.value? "appliesTo")
  return written (options.has "pretty") store document

def compareCommand : LogM String := do
  let options ← optionsOf [⟨some 'i', "inputXML", true⟩, ⟨some 'r', "referenceXML", true⟩,
    ⟨none, "ignoreAttributes", true⟩, debugForm] words
  let input ← mandatory options "inputXML" "inputXML"
  let reference ← mandatory options "referenceXML" "referenceXML"
  let ignored := ((options.value? "ignoreAttributes").map (Text.split ",")).getD []
  let tree? := fun path =>
    match (folder.read? path).map readDocument with
    | some (.ok trees) => trees.find? Tree.isElement
    | _ => none
  match tree? input, tree? reference with
  | some left, some right => throw (.exit (if equalTrees ignored left right then 1 else 2))
  | _, _ => throw (.exit 2)

def isException (exceptions : List String) (path : String) : Bool :=
  let exactly := fun (text : String) =>
    Pattern.sequence (text.toList.map fun letter => .one (· == letter))
  let pattern := Pattern.sequence [.little, .either .start .nonWord,
    .run (fun letter => !Text.isWord letter) 0 true, .choice (exceptions.map exactly),
    .either .finish .nonWord]
  pattern.accepts path

def blankSeparated (text : String) : List String :=
  (Text.split " " (Text.strip text)).map Text.strip |>.filter fun part => !part.isEmpty

def filterCommand : LogM String := do
  let options ← optionsOf [⟨some 'e', "exceptions", true⟩, ⟨some 'p', "paths", true⟩, debugForm] words
  let exceptions := ((options.value? "exceptions").map blankSeparated).getD []
  let paths := ((options.value? "paths").map blankSeparated).getD []
  let kept := if exceptions.isEmpty then paths
    else paths.filter fun path => !isException exceptions path
  return Text.join " " kept ++ "\n"

def schemesCommand : LogM String := do
  let options ← optionsOf [⟨some 'c', "callgraph", true⟩, debugForm] words
  let text ← folder.demand (← mandatory options "callgraph" "callgraph")
  let (document, store) ← onStore (parseDocument text) {}
  let names := (store.descendants document.root "implementationTemplate").map fun node =>
    store.value node "name"
  return Text.join " " (OrderedSet.ofList names).members ++ "\n"

def indentCommand : LogM String := do
  let options ← optionsOf [⟨some 'i', "sourceXML", true⟩] words
  let text ← folder.demand (← mandatory options "sourceXML" "sourceXML")
  let (document, store) ← onStore (parseDocument text) {}
  return written true store document

def outdated (current : String) (last : Option String) : LogM String := do
  let (document, store) ← onStore (parseDocument current) {}
  let work : StoreM (List String) := do
    match last with
    | none => return (← (Outdated.routinesBySource (← get) document : Outcome _)).keys
    | some last => Outdated.sources document (← parseDocument last)
  match (ExceptT.run work store).1 with
  | .ok names => return Text.join " " names ++ "\n"
  | .error fault => do
    LogM.add ⟨.critical, [.text
      "Error when generating analysing, which sources are to be reprocessed: ", .fault fault]⟩
    throw (.exit 1)

def outdatedCommand : LogM String := do
  let options ← optionsOf [⟨some 'r', "reference", true⟩, ⟨some 'i', "input", true⟩, debugForm] words
  match options.value? "reference", options.value? "input" with
  | some reference, some input => do
    outdated (← folder.read input) (folder.read? reference)
  | _, _ => throw (.callGraph .missingOptions)

def joinCommand (input : String) : LogM String := do
  let text ← match words with
    | [] => pure input
    | path :: _ => if path == "-" then pure input else folder.read path
  return (← Text.joinContinuations text) ++ "\n"

/-- Statistics are not combined here; only the options are checked. -/
def statisticsCommand : LogM String := do
  let options ← optionsOf [⟨some 'i', "inputDirectory", true⟩, ⟨some 'o', "output", true⟩] words
  match options.value? "inputDirectory", options.value? "output" with
  | some _, some _ => return ""
  | _, _ => LogM.stop .error "please see --help on how to use this program" 1

end ParallelFortran.Command
