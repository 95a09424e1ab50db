import ParallelFortran.CallGraph.Template
import ParallelFortran.Source.Context

/-! The first pass over the sources: modules, routines, calls and directives are written into the
call graph document. -/

namespace ParallelFortran.Source

open Xml CallGraph

structure Outline where
  store : Store
  document : Document
  routines : NodeId
  calls : NodeId
  modules : NodeId
  schemes : NodeId
  sourceName : String
  lineNumber : Nat := 1
  context : Context := {}
  call : Option NodeId := none
  routine : Option NodeId := none
  moduleNode : Option NodeId := none
  dependantRelation : Option NodeId := none
  regionRelation : Option NodeId := none

abbrev OutlineM := ExceptT Fault (StateM Outline)

namespace Outline

def onStore {α : Type} (action : StoreM α) : OutlineM α := do
  let outline ← get
  let (result, store) := ExceptT.run action outline.store
  set { outline with store }
  match result with
  | .ok value => return value
  | .error fault => throw fault

instance : MonadLiftT StoreM OutlineM := ⟨onStore⟩

def changeContext (change : Context → Context) : OutlineM Unit :=
  modify fun outline => { outline with context := change outline.context }

def moveTo (place : Place) : OutlineM Unit :=
  changeContext (Context.moveTo place)

def known (node : Option NodeId) : OutlineM NodeId :=
  match node with
  | some node => pure node
  | none => throw (.defect .missingPart)

def create (tag : String) : OutlineM NodeId := do
  createIn (← get).document tag

def addArguments (node : NodeId) : OutlineM Unit := do
  match (← get).context.arguments with
  | none => throw (.defect .wrongKind)
  | some names => do
    let arguments ← create "arguments"
    for name in names do
      let argument ← create "argument"
      setAttribute argument "symbolName" name
      appendChild arguments argument
    appendChild node arguments

def beginCall (line : CallLine) : OutlineM Unit := do
  let call ← create "call"
  let outline ← get
  setAttributeValue call "caller" outline.context.routineName
  setAttribute call "callee" line.callee
  if outline.context.effective == .parallelRegion then
    setAttribute call "parallelRegionPosition" "surround"
  let store := (← get).store
  match ← firstDuplicate? true ((store.children outline.calls).map store.tree) (store.tree call) with
  | some _ => pure ()
  | none => appendChild outline.calls call
  modify fun outline => { outline with call := some call }
  if line.callee.isEmpty then throw (.source .callWithoutName)
  let arguments ← Text.argumentsOf? line.text
  changeContext (Context.enterCall line.callee (arguments.getD []))

def endCall : OutlineM Unit := do
  addArguments (← known (← get).call)
  modify fun outline => { outline with call := none }
  changeContext Context.leaveCall

def addScheme (settings : String) : OutlineM Unit := do
  let name ← schemeName settings
  changeContext fun context => { context with schemeName := name }
  let scheme ← create "implementationTemplate"
  setAttributeValue scheme "name" name
  appendChild (← get).schemes scheme

def beginModule (name : String) : OutlineM Unit := do
  changeContext fun context => { context with moduleName := some name }
  moveTo .module
  let node ← create "module"
  setAttribute node "name" name
  appendChild (← get).modules node
  modify fun outline => { outline with moduleNode := some node }

def endModule : OutlineM Unit := do
  modify fun outline => { outline with moduleNode := none }
  changeContext fun context => { context with moduleName := none }
  moveTo .outside

def beginRoutine (text name : String) : OutlineM Unit := do
  changeContext fun context => { context with routineName := some name }
  let arguments ← Text.argumentsOf? text
  changeContext (Context.enterRoutine (arguments.getD []))
  let node ← create "routine"
  let outline ← get
  setAttribute node "name" name
  setAttribute node "source" outline.sourceName
  setAttributeValue node "module" outline.context.moduleName
  setAttributeValue node "implementationTemplate" outline.context.schemeName
  appendChild outline.routines node
  modify fun outline => { outline with routine := some node }
  moveTo .declarations
  addArguments node

def endRoutine : OutlineM Unit := do
  changeContext Context.leaveRoutine
  modify fun outline => { outline with routine := none }
  moveTo .moduleBody

def beginRegion (settings : String) : OutlineM Unit := do
  let outline ← get
  let (relation, _) ← recordRegion outline.document outline.routine settings outline.lineNumber
  modify fun outline => { outline with regionRelation := some relation }
  moveTo .parallelRegion

def endRegion : OutlineM Unit := do
  let outline ← get
  setAttribute (← known outline.regionRelation) "endLine" (toString outline.lineNumber)
  modify fun outline => { outline with regionRelation := none }
  moveTo .routineBody

def beginDependants (place : Place) (settings : String) : OutlineM Unit := do
  moveTo place
  let outline ← get
  let scope := if place == .moduleDependants then outline.moduleNode else outline.routine
  let (relation, _) ← recordTemplate outline.document .domainDependant scope settings
  modify fun outline => { outline with dependantRelation := some relation }

def endDependants (place : Place) : OutlineM Unit := do
  modify fun outline => { outline with dependantRelation := none }
  moveTo place

def addDependants (line : String) : OutlineM Unit := do
  let outline ← get
  match outline.dependantRelation with
  | some relation => let _ ← addEntries outline.document relation (some line)
  | none =>
    if Text.isBlankText line then throw (.callGraph .emptyEntry)
    if !(Text.split "," line).all Text.isBlankText then throw (.defect .missingPart)

def perform (place : Place) (line : String) : Event → OutlineM Unit
  | .scheme settings => addScheme settings
  | .schemeEnd => changeContext fun context => { context with schemeName := none }
  | .moduleBegin _ name => beginModule name
  | .moduleEnd _ => endModule
  | .routineBegin text name => beginRoutine text name
  | .routineEnd _ => endRoutine
  | .call call => do
    beginCall call
    endCall
  | .region settings => beginRegion settings
  | .regionEnd => endRegion
  | .dependants settings => beginDependants (place.after (.dependants settings)) settings
  | .dependantsEnd => endDependants (place.after .dependantsEnd)
  | .branch _ | .other =>
    if place == .moduleDependants || place == .dependants then addDependants line else pure ()
  | event => moveTo (place.after event)

def readLine (line : String) : OutlineM Unit := do
  let outline ← get
  let (counted, branches) := countConditionals line outline.context.branches
  changeContext fun context => { context with branches }
  counted
  let place := outline.context.effective
  perform place line (← place.read line)
  if place == .declarations then changeContext Context.leaveDeclarations

def begin (document : Document) (path : String) : StoreM Outline := do
  let routines ← firstNode document "routines"
  let calls ← firstNode document "calls"
  let modules ← firstNode document "modules"
  let schemes ← firstNode document "implementationTemplates"
  let sourceName := ((Text.split "." (Text.fileName path)).head?).getD ""
  return { store := ← get, document, routines, calls, modules, schemes, sourceName }

def nextLine (outline : Outline) : Outline :=
  { outline with lineNumber := outline.lineNumber + 1 }

def pass : Pass Fault Outline := ⟨readLine, id, nextLine, lineNumber, context⟩

def readFile (document : Document) (path text : String) (store : Store) :
    Store × Except (Option LogEntry × Fault) Unit :=
  match ExceptT.run (begin document path) store with
  | (.error fault, store) => (store, .error (none, fault))
  | (.ok outline, store) =>
    match pass.readFile path text { outline with store } with
    | (outline, none) => (outline.store, .ok ())
    | (outline, some entry) => (outline.store, .error (some entry, .exit 1))

end Outline

end ParallelFortran.Source
