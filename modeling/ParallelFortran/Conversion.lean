import ParallelFortran.Module.Code
import ParallelFortran.Source.Declarations
import ParallelFortran.Source.Model
import ParallelFortran.Text.Layout

/-! Conversion of a program: its sources are read twice for their declarations and a third time for
their code, and the code of its modules is generated from all that is known then. -/

namespace ParallelFortran

open Xml CallGraph

structure SourceModel where
  path : String
  lead : String
  modules : List ModuleId
  appendices : Table String String
  deriving Inhabited

structure ProgramData where
  document : Document
  backends : Table String BackendId
  moduleNodes : Table String NodeId
  regions : RegionData
  domains : List String := []

namespace Work

def orStop {α : Type} (onUsage : String) (onOther : String) (work : Work α) : Work α := do
  try work
  catch fault =>
    match fault with
    | .exit status => throw (.exit status)
    | fault =>
      if fault.refusal? == some .usage then stop ⟨.error, [.text onUsage, .fault fault]⟩
      else stop ⟨.critical, [.text onOther, .fault fault]⟩

def orStopUsage {α : Type} (work : Work α) : Work α := do
  try work
  catch fault =>
    if fault.refusal? == some .usage then stop ⟨.error, [.text "Error: ", .fault fault]⟩
    else throw fault

def analyseSymbols (document : Document) : Work AnalysisTable := do
  let index ← (CallIndex.ofDocument document : StoreM _)
  let (result, store, log) := AnalysisTable.ofIndex index (← store)
  modify fun session =>
    { session with
      registry := { session.registry with store, log := session.registry.log ++ log.toArray } }
  (result : Outcome _)

def loadSymbols (data : ProgramData) (analysis : AnalysisTable) : Work Unit := do
  let moduleSymbols ← (Registry.loadModules (← (freeze data.document : StoreM _)) data.moduleNodes
    analysis : RegistryM _)
  modify fun session =>
    { session with analysis, moduleSymbols, moduleNodes := data.moduleNodes
                   document := data.document }
  let _ ← (Registry.loadRoutines (← (freeze data.document : StoreM _)) data.regions.routines
    data.regions.templates analysis : RegistryM _)

variable (document : Document) (backends : Table String BackendId)

def loadProgram : Work ProgramData := do
  let moduleNodes ← (modulesByName (← store) document.root : Outcome _)
  let regions ← (regionData document : StoreM _)
  let analysis ← analyseSymbols document
  let data := { document, backends, moduleNodes, regions }
  loadSymbols data analysis
  return { data with domains := ← (parallelDomainNames document : StoreM _) }

def readDeclarations (sources : List (String × String)) : Work Unit := do
  sources.forM fun (path, text) => Source.Declarations.readFile none document backends path text
  let moduleNodes ← (modulesByName (← store) document.root : Outcome _)
  let analysis ← analyseSymbols document
  let foreign ← (Registry.loadModules (← (freeze document : StoreM _)) moduleNodes analysis :
    RegistryM _)
  sources.forM fun (path, text) =>
    Source.Declarations.readFile (some foreign) document backends path text

def beginModel (data : ProgramData) : Work Source.Model := do
  let document ← (freeze data.document : StoreM _)
  let session ← get
  session.moduleSymbols.values.forM fun symbols =>
    symbols.values.forM fun id =>
      Registry.change id fun symbol => { symbol with globalDomains := data.domains }
  return {
    scope :=
      { session := ← get, document, backends := data.backends, moduleNodes := data.moduleNodes
        regions := data.regions, analysis := session.analysis, globalDomains := data.domains } }

def openModel : Work Source.Model := do
  let document ← (freeze document : StoreM _)
  let moduleNodes ← (modulesByName (← store) document.root : Outcome _)
  let regions ← (regionData document : StoreM _)
  let data : ProgramData := { document, backends, moduleNodes, regions }
  orStop "" "Error when initializing h90 conversion: " do
    loadSymbols data (← analyseSymbols document)
  beginModel data

def readModel (data : ProgramData) (path text : String) : Work SourceModel := do
  let model ← beginModel data
  let (model, refused) := Source.Model.pass.readFile path text model
  set model.session
  match refused with
  | some entry => stop entry
  | none => do
    let backend ← ((ExceptT.run Source.Scope.backend model.scope).1 : Outcome _)
    let lead := (← Work.backend backend).filePreparation path ++ model.lead
    return { path, lead, modules := model.modules, appendices := model.appendices }

/-! Routines that run on the host -/

def indexRoutine (id : RoutineId) : Work Unit := do
  let name := (← routine id).name
  if (← get).routinesByName.contains name then
    stop (.plain .error (s!"Error: Multiple routines with name {name} found"))
  modify fun session => { session with routinesByName := session.routinesByName.set name id }

def indexRoutines (models : List SourceModel) : Work Unit := do
  let ids := models.flatMap SourceModel.modules
  let _ ← ids.foldlM (fun names id => do
    let module ← module id
    if names.contains module.name then
      stop (.plain .error (s!"Error: Multiple modules with name {module.name} found"))
    module.routines.forM indexRoutine
    return module.name :: names) ([] : List String)

variable (session : Session)

def calleesOf (id : RoutineId) : List RoutineId :=
  ((session.routine id).body.map RoutineBody.callees).getD []

def runsOnHost (id : RoutineId) : Bool :=
  (session.routine id).body.any fun body =>
    !((session.backend body.backend).kind.handlesDeviceData &&
      ["within", "inside", "outside"].contains (session.position body))

def calledFrom (name : String) : List RoutineId :=
  ((session.routinesByName.get? name).map (calleesOf session)).getD []

def callsOf (name : String) : List RoutineId :=
  (session.routinesByName.values.flatMap (calleesOf session)).filter fun callee =>
    (session.routine callee).name == name

def visit (following : RoutineId → List RoutineId) :
    List RoutineId → List RoutineId → List RoutineId
  | _, [] => []
  | unseen, id :: pending =>
    if id ∈ unseen then
      id :: visit following (unseen.removeAll [id]) (following id ++ pending)
    else visit following unseen pending
termination_by unseen pending => (unseen.length, pending.length)
decreasing_by
  · exact .left _ _ (List.length_filter_lt_length_iff_exists.mpr
      ⟨id, by assumption, by simp⟩)
  · exact .right _ (Nat.lt_succ_self _)

def following (id : RoutineId) : List RoutineId :=
  (calledFrom session (session.routine id).name).flatMap fun callee =>
    callee :: callsOf session (session.routine callee).name

def markedWith (id : RoutineId) : List RoutineId :=
  let name := (session.routine id).name
  id :: callsOf session name ++ (calledFrom session name).filterMap fun callee =>
    session.routinesByName.get? (session.routine callee).name

def markHostRoutines : Work Unit := do
  let session ← get
  let routines := session.routinesByName.values
  let hosts := routines.filter (runsOnHost session)
  let visited := visit (following session) (routines ++ routines.flatMap (calleesOf session)) hosts
  (visited.flatMap (markedWith session)).forM fun id =>
    changeRoutine id fun routine => { routine with isUsedOnHostOnly := true }

end Work

/-! The files that conversion writes -/

structure Conversion where
  session : Session := {}
  layout : Layout := {}
  files : Table String String := .empty
  deriving Inhabited

abbrev ConversionM := ExceptT Fault (StateM Conversion)

namespace Conversion

def onSession {α : Type} (work : Work α) : ConversionM α := fun conversion =>
  let session := conversion.session
  let conversion := { conversion with session := {} }
  let (result, session) := ExceptT.run work session
  (result, { conversion with session })

instance : MonadLiftT Work ConversionM := ⟨onSession⟩

def append (name text : String) : ConversionM Unit := do
  let conversion ← get
  let (result, layout) := ExceptT.run (Layout.write ⟨132, "!"⟩ false text) conversion.layout
  set { conversion with layout }
  let text ← (result : Outcome _)
  modify fun conversion =>
    { conversion with
      files := conversion.files.set name ((conversion.files.get? name).getD "" ++ text) }

def stem (path : String) : String :=
  let name := Text.fileName path
  let (dots, rest) := name.toList.span (· == '.')
  match Text.findLast? "." (String.ofList rest) with
  | some index => String.ofList (dots ++ rest.take index)
  | none => name

/-- Writes the code of a source. What was written before a fault stays. -/
def writeSource (model : SourceModel) : ConversionM Unit := do
  let name := stem model.path ++ ".P90.temp"
  modify fun conversion => { conversion with files := conversion.files.set name "" }
  let writing : ConversionM Unit := do
    append name (model.lead ++ "\n")
    model.modules.forM fun id => do
      let code ← onSession (Work.moduleCode id)
      append name (code ++ "\n\n")
      let moduleName := (← (Work.module id : Work _)).name
      append name ((model.appendices.get? moduleName).getD "" ++ "\n")
  try writing
  catch fault =>
    if fault.refusal? == some .usage then
      onSession (Work.stop ⟨.error, [.text "Error: ", .fault fault]⟩)
    else throw fault

def convert (document : Document) (backends : Table String BackendId)
    (sources : List (String × String)) : ConversionM Unit := do
  onSession (Work.readDeclarations document backends sources)
  let data ← onSession (Work.orStop "Error: "
    "Error when processing meta information about the codebase: "
    (Work.loadProgram document backends))
  let models ← sources.mapM fun (path, text) =>
    onSession (Work.orStopUsage (Work.readModel data path text))
  onSession (Work.indexRoutines models)
  onSession Work.markHostRoutines
  models.forM fun model =>
    onSession (Work.orStopUsage (model.modules.forM Work.prepareModule))
  models.forM writeSource

end Conversion

end ParallelFortran
