import ParallelFortran.Backend.Frame
import ParallelFortran.Source.Scope

/-! The third pass over the sources: modules, routines and their regions with the lines of which they
consist. -/

namespace ParallelFortran.Source

open Xml CallGraph

structure Model where
  scope : Scope
  module : Option ModuleId := none
  routine : Option RoutineId := none
  region : Option RegionKind := none
  isInParallel : Bool := false
  regionRelation : Option NodeId := none
  regionTemplate : Option NodeId := none
  iterators : List String := []
  callee : Option RoutineId := none
  isPrepared : Bool := false
  preparedBy : String := ""
  modules : List ModuleId := []
  lead : String := ""
  appendices : Table String String := .empty
  lastModule : Option String := none
  deriving Inhabited

/-- Why a line is refused: for a fault of what it says, or because it did not lead to code exactly
once. -/
inductive LineFault where
  | fault (cause : Fault)
  | preparation (cause : PreparationFault)

def LineFault.toFault : LineFault → Fault
  | fault cause => cause
  | preparation cause => .source (.preparation cause)

abbrev ModelM := ExceptT LineFault (StateM Model)

inductive Preparation where
  | moduleBegin
  | regionEnd
  | other
  deriving DecidableEq, Repr

def Preparation.name : Preparation → String
  | moduleBegin => "processModuleBeginMatch"
  | regionEnd => "processParallelRegionEndMatch"
  | other => ""

namespace Model

open Scope (noteImport LineKind)

def onScope {α : Type} (action : ScopeM α) : ModelM α := fun model =>
  let scope := model.scope
  let model := { model with scope := default }
  let (result, scope) := ExceptT.run action scope
  (result.mapError .fault, { model with scope })

instance : MonadLiftT ScopeM ModelM := ⟨onScope⟩

instance : MonadLiftT Outcome ModelM :=
  ⟨fun outcome model => (outcome.mapError .fault, model)⟩

instance : MonadLiftT Work ModelM := ⟨fun work => onScope (Scope.onSession work)⟩

def session (model : Model) : Session := model.scope.session

def here : ModelM Context := do return (← get).scope.context

def store : ModelM Store := do return (← get).session.store

def currentRoutine : ModelM RoutineId := do
  match (← get).routine with
  | some id => return id
  | none => throw (.fault (.defect .missingPart))

def currentModule : ModelM ModuleId := do
  match (← get).module with
  | some id => return id
  | none => throw (.fault (.defect .missingPart))

def loadLine (line : String) : ModelM Unit := do
  if line.isEmpty then return
  let model ← get
  match model.routine, model.module with
  | some routine, _ =>
    Work.changeBody routine
      (RoutineBody.loadLine line (model.scope.lineSymbols ++ model.scope.lineImports))
  | none, some module => Work.changeModule module fun module => module.loadLine line
  | none, none =>
    match model.lastModule with
    | none => modify fun model => { model with lead := model.lead ++ line }
    | some name =>
      let text := (model.appendices.get? name).getD ""
      modify fun model =>
        { model with appendices := model.appendices.set name (text ++ line) }

def prepareAs (step : Preparation) (line : String) : ModelM Unit := do
  let model ← get
  if model.isPrepared then
    let context := model.scope.context
    throw (.preparation (.preparedTwice model.preparedBy context.place.name
      (context.around.map Place.name)))
  let preparedBy := if model.session.marksRegions then step.name else ""
  modify fun model => { model with isPrepared := true, preparedBy }
  loadLine line

def prepare (line : String) : ModelM Unit := prepareAs .other line

def readImport (item : Scope.ImportItem) : ScopeM (Option SymbolId) := do
  noteImport item
  return none

def analyseLine (kind : LineKind) (line : String) : ModelM Unit :=
  onScope (Scope.analyseLine readImport kind line)

/-! Regions -/

def beginRegion (region : Region) (isBehindParallel : Bool) : ModelM Unit := do
  let routine ← currentRoutine
  Work.changeBody routine (RoutineBody.addRegion region isBehindParallel)
  modify fun model => { model with region := some region.kind }

def switchTo (kind : RegionKind) : ModelM Unit := beginRegion (.new kind) false

def relationAt? (store : Store) (number : Nat) : List NodeId → Except NodeId (Option NodeId)
  | [] => .ok none
  | relation :: relations =>
    let text := store.value relation "startLine"
    if text.isEmpty then relationAt? store number relations
    else
      match Text.integer? text with
      | none => .error relation
      | some start =>
        if start == (number : Int) then .ok (some relation)
        else relationAt? store number relations

def findRelation (node : NodeId) (relations : List NodeId) : ModelM Unit := do
  let store ← store
  match relationAt? store (← get).scope.lineNumber relations with
  | .ok none => pure ()
  | .ok (some relation) => modify fun model => { model with regionRelation := some relation }
  | .error relation =>
    throw (.fault (.during (.source (.invalidStartLine (store.toText relation)
      (relations.map store.toText) (store.toText node))) (.defect .badValue)))

def findTemplate (templates : List NodeId) : ModelM Unit := do
  match (← get).regionRelation with
  | none => pure ()
  | some relation => do
    if templates.isEmpty then return
    let store ← store
    let id := store.value relation "id"
    match templates.find? fun template => store.value template "id" == id with
    | some template => modify fun model => { model with regionTemplate := some template }
    | none => throw (.fault (.source .noActiveTemplate))

def findIterators : ModelM Unit := do
  let model ← get
  if model.regionRelation.isSome then
    let backend ← (Scope.backend : ScopeM _)
    match model.regionTemplate with
    | none => throw (.fault (.defect .missingPart))
    | some template => do
      let backend := model.session.backend backend
      let iterators ← (backend.iteratorsOf compact model.session.store template : Outcome _)
      modify fun model => { model with iterators }

def beginParallel : ModelM Unit := do
  let routine ← currentRoutine
  let name := ((← get).session.routine routine).name
  let body ← (Work.body routine : Work _)
  let data := (← get).scope.regions
  findRelation body.node ((data.relations.get? name).getD [])
  findTemplate ((data.templates.get? name).getD [])
  findIterators
  beginRegion (.parallel (← get).regionTemplate [.plain []]) false
  modify fun model => { model with isInParallel := true }
  prepare ""

def endParallel : ModelM Unit := do
  prepareAs .regionEnd ""
  beginRegion (.plain []) (← get).isInParallel
  modify fun model =>
    { model with
      isInParallel := false, iterators := [], regionTemplate := none, regionRelation := none }

/-! Calls -/

def sourceModule? (callee : String) : ModelM (Option String) := do
  let scope := (← get).scope
  match scope.moduleImports, scope.routineImports with
  | some ofModule, some ofRoutine =>
    let found := (ofModule.keys ++ ofRoutine.keys).filter fun key => key.2 == some callee
    return found.getLast?.map Prod.fst
  | _, _ => throw (.fault (.defect .missingPart))

def calleeModule (imported : Option String) : ModelM String := do
  match imported with
  | some name => return name
  | none => return ((← get).session.module (← currentModule)).name

def addCallee (callee : String) : ModelM RoutineId := do
  let imported ← sourceModule? callee
  match (← get).scope.regions.routines.get? callee with
  | none => do
    let moduleName ← calleeModule imported
    Work.addRoutine { name := callee, moduleName := some moduleName }
  | some node => do
    let schemeOf (node : NodeId) : ModelM (Option String) := do
      return some ((← store).value node "implementationTemplate")
    let caller ← (Scope.routineNode (← here).routineName : ScopeM _)
    let _ ← (Scope.backendFor (← schemeOf caller) : ScopeM _)
    let backend ← (Scope.backendFor (← schemeOf node) : ScopeM _)
    let moduleName ← calleeModule imported
    let regionTemplates ← (Scope.templatesOf (some callee) : ScopeM _)
    Work.addRoutine
      { name := callee, moduleName := some moduleName
        body := some { backend, node, regionTemplates } }

variable (call : CallLine) (callee : RoutineId)

def noteCall : ModelM Unit := do
  let caller ← currentRoutine
  match (← (Work.body caller : Work _)).loadCall? callee with
  | some body => Work.changeBody caller fun _ => body
  | none =>
    let name := ((← get).session.routine caller).name
    throw (.fault (.routine (.callOutsideRegion call.callee name)))

def analyseCall : ModelM Unit := do
  if ((← get).session.routine callee).body.isSome then analyseLine .statement call.text

def readCall : ModelM Unit := do
  onScope (Scope.enterCall call)
  let callee ← addCallee call.callee
  modify fun model => { model with callee := some callee }
  noteCall call callee
  analyseCall call callee
  let arguments := (← here).arguments
  Work.changeRoutine callee fun routine => { routine with arguments }
  prepare ""
  modify fun model => { model with callee := none }
  Scope.changeContext Context.leaveCall

def warnUnknownCall (place : Place) (call : CallLine) : ModelM Unit := do
  if place == .parallelRegion && !(← get).scope.regions.routines.contains call.callee then
    let backend ← (Scope.backend : ScopeM _)
    let session := (← get).session
    let caller := (session.routine (← currentRoutine)).name
    let warning := (session.backend backend).unknownCallWarning caller call.callee
    if !warning.isEmpty then Work.report .warning warning

def callRegion (place : Place) (call : CallLine) : ModelM Unit := do
  warnUnknownCall place call
  switchTo .call
  readCall call
  switchTo .plain

def beginModule (text name : String) : ModelM Unit := do
  onScope (Scope.enterModule name)
  let backend ← (Scope.backend : ScopeM _)
  Work.noteModule backend (some name)
  let node ← (Scope.moduleNode (some name) : ScopeM _)
  let module ← Work.addModule { name, node := some node }
  modify fun model => { model with module := some module, modules := model.modules ++ [module] }
  prepareAs .moduleBegin text

def endModule (text : String) : ModelM Unit := do
  prepare text
  let module ← currentModule
  modify fun model =>
    { model with lastModule := some (model.session.module module).name, module := none }
  let backend ← (Scope.backend : ScopeM _)
  Work.noteModule backend none
  onScope Scope.leaveModule
  Scope.changeContext fun context => { context with moduleName := none }

def createRoutine (module : ModuleId) (name : String) : ModelM RoutineId := do
  let model ← get
  let backend ← (Scope.backend : ScopeM _)
  if Text.isBlankText name then throw (.fault (.routine .noName))
  match model.scope.regions.routines.get? name with
  | none => throw (.fault (.routine (.noDefinition name)))
  | some node => do
    let owner := model.session.module module
    let lastName := (owner.lastRoutine.map fun id => (model.session.routine id).name).getD ""
    let isFirst := ((owner.versions.get? name).getD .empty).isEmpty
    let id ← Work.addRoutine
      { name, moduleName := some owner.name, arguments := model.scope.context.arguments
        body := some
          { backend, node, regionTemplates := model.scope.regions.templates.get? name
            symbols := some model.scope.symbols, knowsProgram := true
            sister := if isFirst then none else owner.firstByName.get? name } }
    Work.changeModule module
      (Module.addRoutine name id (model.session.backend backend).kind lastName)
    return id

def beginRoutine (text name : String) : ModelM Unit := do
  onScope (Scope.enterRoutine text name)
  let routine ← createRoutine (← currentModule) name
  modify fun model => { model with routine := some routine, region := some .specification }
  prepare ""

def userNames (session : Session) (symbols : Table String SymbolId) : List String :=
  (symbols.values.map session.symbol).filterMap fun symbol =>
    if symbol.isUserSpecified then some symbol.name else none

def endRoutine : ModelM Unit := do
  let routine ← currentRoutine
  let imports := (← get).scope.routineImports
  Work.changeBody routine fun body => { body with imports }
  modify fun model => { model with region := none }
  prepare ""
  let session := (← get).session
  Work.changeBody routine fun body =>
    { body with
      userNames := some (userNames session (body.symbols.getD .empty)).eraseDups }
  modify fun model => { model with routine := none }
  onScope Scope.leaveRoutine

def addData (text : String) : ModelM Unit := do
  if (← get).region != some .specification then throw (.fault (.source .dataStatementPlace))
  Work.changeBody (← currentRoutine) (RoutineBody.changeLast fun region =>
    match region with
    | .specification lines dataLines context typeParameters =>
      .specification lines (dataLines ++ [text]) context typeParameters
    | region => region)
  prepare ""

/-! What a line means -/

def adjustModuleImport (line : String) : ModelM String := do
  let imports := (← get).scope.lineImports
  if imports.isEmpty then return line
  let backend ← (Scope.backend : ScopeM _)
  let backend := (← get).session.backend backend
  (Work.onRegistry (backend.importSymbols ⟨none, .moduleScope, "", false⟩ imports) : Work _)

def routinePosition : ModelM String := do
  let model ← get
  match model.routine with
  | some routine => do
    let body ← (Work.body routine : Work _)
    return model.session.position body
  | none => return "inside"

variable (line : String)

def adjustModuleLine : ModelM String := do
  let line ← adjustModuleImport line
  let model ← get
  if model.scope.lineSymbols.isEmpty then return line
  let backend ← (Scope.backend : ScopeM _)
  let backend := model.session.backend backend
  let position ← routinePosition
  (Work.onRegistry (backend.adjustDeclaration ⟨none, none, .moduleScope, position⟩ line
    model.scope.lineSymbols) : Work _)

def adjustModuleStatement : ModelM String := do
  match Pattern.Fortran.specificationStatement.match? line with
  | none => return line
  | some found => do
    let backend ← (Scope.backend : ScopeM _)
    return ((← get).session.backend backend).adjustSpecification line (found.group 1)

def finishModuleLine : ModelM Unit := do
  analyseLine .moduleSpecification line
  let adjusted ← adjustModuleStatement line
  if !(← get).isPrepared then prepare (← adjustModuleLine adjusted)

def loopLine : ModelM String := do
  if Pattern.Fortran.whileLoop.accepts line || !Pattern.Fortran.loop.accepts line then return line
  let backend ← (Scope.backend : ScopeM _)
  let directive := ((← get).session.backend backend).loopPreparation
  return Text.strip directive ++ "\n" ++ line

variable (place : Place)

def plainLine (line : String) : ModelM Unit := do
  match place with
  | .declarations => do
    analyseLine .declaration line
    prepare line
  | .routineBody => do
    analyseLine .statement line
    prepare line
  | .parallelRegion => do
    let adjusted ← loopLine line
    analyseLine .statement line
    prepare adjusted
  | .module | .moduleDependants | .dependants => pure ()
  | _ => prepare line

def perform (line : String) : Event → ModelM Unit
  | .branch settings => do
    onScope (Scope.enterBranch settings)
    prepare ""
  | .branchEnd => prepare ""
  | .scheme settings => do
    onScope (Scope.enterScheme settings)
    prepare ""
  | .schemeEnd => do
    Scope.changeContext fun context => { context with schemeName := none }
    prepare ""
  | .moduleBegin text name => beginModule text name
  | .moduleEnd text => do
    endModule text
    Scope.moveTo (place.after (.moduleEnd text))
  | .routineBegin text name => do
    beginRoutine text name
    Scope.moveTo (place.after (.routineBegin text name))
  | .routineEnd text => do
    endRoutine
    Scope.moveTo (place.after (.routineEnd text))
  | .call call => callRegion place call
  | .earlyReturn => do
    switchTo .earlyExit
    prepare line
    switchTo .plain
  | .region settings => do
    beginParallel
    if !(← get).iterators.isEmpty then Scope.moveTo (place.after (.region settings))
  | .regionEnd => do
    endParallel
    if place == .parallelRegion then
      Scope.changeContext fun context => { context with place := .routineBody }
  | .dependants settings => do
    Scope.moveTo (place.after (.dependants settings))
    if place == .declarations then switchTo .plain
    prepare ""
  | .dependantsEnd => do
    prepare ""
    Scope.moveTo (place.after .dependantsEnd)
  | .dataStatement text => addData text
  | .interfaceBegin text => prepareAndMove text (.interfaceBegin text)
  | .interfaceEnd text => prepareAndMove text (.interfaceEnd text)
  | .typeBegin text => prepareAndMove text (.typeBegin text)
  | .typeEnd text => prepareAndMove text (.typeEnd text)
  | .containsLine text => prepareAndMove text (.containsLine text)
  | .firstStatement => pure ()
  | .other => plainLine place line
where
  prepareAndMove (text : String) (event : Event) : ModelM Unit := do
    prepare text
    Scope.moveTo (place.after event)

def remainsAt : ModelM Bool := do
  let context ← here
  return context.place != .ignored && context.effective == place

def performAt (line : String) : ModelM Unit := do
  match ← (place.readCode line : Outcome _) with
  | .firstStatement => do
    Scope.moveTo .routineBody
    switchTo .plain
    perform .routineBody line (← (Place.readCode .routineBody line : Outcome _))
  | event => perform place line event

def matchListed : ModelM Unit := do
  if ← remainsAt .dependants then onScope (Scope.matchListed line)

def prepareListed : ModelM Unit := do
  if (← here).place == place then prepare ""

def finishAt (place : Place) (line : String) : ModelM Unit := do
  match place with
  | .module => if ← remainsAt .module then finishModuleLine line
  | .dependants => do
    matchListed line
    prepareListed .dependants
  | .moduleDependants => prepareListed .moduleDependants
  | _ => pure ()

def readAt (place : Place) (line : String) : ModelM Unit := do
  performAt place line
  finishAt place line

def readInBranch (context : Context) (line : String) : ModelM Unit := do
  if Pattern.Fortran.branchEnd.accepts line then Scope.leaveBranch
  else
    match context.around with
    | some place => readAt place line
    | none => throw (.fault (.source (.undefinedPlace context.place.name)))
  if (← here).place != .branch then prepare ""

def readHere : ModelM Unit := do
  let context ← here
  match context.place with
  | .ignored => do
    if Pattern.Fortran.branchEnd.accepts line then Scope.leaveBranch
    prepare ""
  | .branch => readInBranch context line
  | place => readAt place line

def checkPrepared : ModelM Unit := do
  if !(← get).isPrepared then
    let context ← here
    throw (.preparation (.neverPrepared context.place.name (context.around.map Place.name)))

def prepareLine : ModelM Unit := do
  modify fun model => { model with isPrepared := false }
  let (counted, branches) := countConditionals line (← here).branches
  Scope.changeContext fun context => { context with branches }
  (counted : Outcome _)
  readHere line
  onScope Scope.forgetLine
  checkPrepared

def nextLine (model : Model) : Model := { model with scope := model.scope.nextLine }

def readLine : ExceptT Fault (StateM Model) Unit :=
  ExceptT.adapt LineFault.toFault (prepareLine line)

def pass : Pass LineFault Model :=
  ⟨prepareLine, LineFault.toFault, nextLine, fun model => model.scope.lineNumber, fun model => model.scope.context⟩

end Model

end ParallelFortran.Source
