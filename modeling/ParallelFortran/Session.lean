import ParallelFortran.Routine.Basic
import ParallelFortran.Symbol.Rendering

/-! Modules: routines with the text before, between and behind them. -/

namespace ParallelFortran

open Xml

structure ModuleId where
  index : Nat
  deriving DecidableEq, Repr, Inhabited

structure Module where
  name : String
  node : Option NodeId
  lastRoutine : Option RoutineId := none
  versions : Table String (Table BackendKind RoutineId) := .empty
  firstByName : Table String RoutineId := .empty
  textBehind : Table String String := .empty
  header : String := ""
  footer : String := ""
  undecided : String := ""
  generated : List RoutineId := []
  deriving Inhabited

namespace Module

def routines (module : Module) : List RoutineId :=
  if module.generated.isEmpty then module.versions.values.flatMap Table.values
  else module.generated

def loadLine (module : Module) (line : String) : Module :=
  let stripped := Text.strip line
  if stripped.isEmpty then module
  else if module.lastRoutine.isNone then { module with header := module.header ++ stripped ++ "\n" }
  else { module with undecided := module.undecided ++ stripped ++ "\n" }

def addRoutine (name : String) (id : RoutineId) (backend : BackendKind) (lastName : String)
    (module : Module) : Module :=
  let versions := (module.versions.get? name).getD .empty
  let textBehind :=
    if module.undecided.isEmpty then module.textBehind
    else module.textBehind.set lastName module.undecided
  { module with
    lastRoutine := some id
    versions := module.versions.set name (versions.set backend id)
    firstByName := if versions.isEmpty then module.firstByName.set name id else module.firstByName
    textBehind := textBehind.set name ""
    undecided := "" }

end Module

end ParallelFortran

/-! Everything that is known while sources are converted. Routines, modules, backends and symbols are
named by their places, so that a change is seen wherever they are known. -/

namespace ParallelFortran

open Xml

structure Session where
  registry : Registry := {}
  routines : Array Routine := #[]
  modules : Array Module := #[]
  backends : Array Backend := #[]
  document : Document := default
  routinesByName : Table String RoutineId := .empty
  analysis : CallGraph.AnalysisTable := .empty
  moduleNodes : Table String NodeId := .empty
  moduleSymbols : Table String (Table String SymbolId) := .empty
  marksRegions : Bool := false
  deriving Inhabited

abbrev Work := ExceptT Fault (StateM Session)

namespace Session

variable (session : Session)

def store : Store := session.registry.store

def log : List LogEntry := session.registry.log.toList

def clearLog : Session :=
  { session with registry := { session.registry with log := #[] } }

def symbol (id : SymbolId) : Symbol := session.registry.symbol id

def routine (id : RoutineId) : Routine :=
  session.routines[id.index]?.getD default

def backend (id : BackendId) : Backend :=
  session.backends[id.index]?.getD default

def module (id : ModuleId) : Module :=
  session.modules[id.index]?.getD default

end Session

namespace Work

open Session

def onRegistry {α : Type} (action : RegistryM α) : Work α := fun session =>
  let registry := session.registry
  let session := { session with registry := {} }
  let (result, registry) := ExceptT.run action registry
  (result, { session with registry })

instance : MonadLiftT RegistryM Work := ⟨onRegistry⟩

def onStore {α : Type} (action : StoreM α) : Work α :=
  onRegistry (Registry.onStore action)

instance : MonadLiftT StoreM Work := ⟨onStore⟩

def store : Work Store := do return (← get).registry.store

def symbol (id : SymbolId) : Work Symbol := do return (← get).symbol id

def routine (id : RoutineId) : Work Routine := do return (← get).routine id

def backend (id : BackendId) : Work Backend := do return (← get).backend id

def module (id : ModuleId) : Work Module := do return (← get).module id

def report (level : LogLevel) (content : String) : Work Unit :=
  onRegistry (Registry.report level content)

def stop {α : Type} (entry : LogEntry) : Work α := do
  modify fun session =>
    { session with registry := { session.registry with log := session.registry.log.push entry } }
  throw (.exit 1)

def setBackend (id : BackendId) (backend : Backend) : Work Unit :=
  modify fun session =>
    { session with backends := session.backends.modify id.index fun _ => backend }

def changeRoutine (id : RoutineId) (update : Routine → Routine) : Work Unit :=
  modify fun session => { session with routines := session.routines.modify id.index update }

def changeBody (id : RoutineId) (update : RoutineBody → RoutineBody) : Work Unit :=
  changeRoutine id fun routine => { routine with body := routine.body.map update }

def changeModule (id : ModuleId) (update : Module → Module) : Work Unit :=
  modify fun session => { session with modules := session.modules.modify id.index update }

def addRoutine (routine : Routine) : Work RoutineId := do
  let id := ⟨(← get).routines.size⟩
  modify fun session => { session with routines := session.routines.push routine }
  return id

def addModule (module : Module) : Work ModuleId := do
  let id := ⟨(← get).modules.size⟩
  modify fun session => { session with modules := session.modules.push module }
  return id

def addBackend (backend : Backend) : Work BackendId := do
  let id := ⟨(← get).backends.size⟩
  modify fun session => { session with backends := session.backends.push backend }
  return id

def addBackends (names : List (String × String)) (flags : List String) :
    Work (Table String BackendId) :=
  names.foldlM (fun backends (scheme, name) => do
    match BackendKind.ofName? name with
    | some kind => return backends.set scheme (← addBackend (Backend.new kind flags))
    | none => throw (.defect .missingPart)) .empty

def body (id : RoutineId) : Work RoutineBody := do
  match (← routine id).body with
  | some body => return body
  | none => throw (.defect .missingPart)

def symbolsOf (id : RoutineId) : Work (Table String SymbolId) := do
  match (← body id).symbols with
  | some symbols => return symbols
  | none => throw (.defect .missingPart)

def scopedName (id : SymbolId) : Work String :=
  onRegistry (Registry.scopedName id)

def position (node : NodeId) : Work String := do
  return (← store).value node "parallelRegionPosition"

end Work

end ParallelFortran
