import ParallelFortran.Backend.Declarations
import ParallelFortran.Routine.Usage
import ParallelFortran.Symbol.Merge

/-! The symbols of a routine when its code is generated. -/

namespace ParallelFortran

open Xml

namespace Work

def symbolsByScope (ids : List SymbolId) : Work (Table String (Table String SymbolId)) :=
  ids.foldlM (fun table id => do
    let symbol ← symbol id
    let scope ← (symbol.scopeName (← store) : Outcome _)
    let byScope := (table.get? symbol.name).getD .empty
    return table.set symbol.name (byScope.set scope id)) .empty

/-- Of symbols with one name that of the routine, then that of its module; any other one is taken
into the scope of the routine. -/
def symbolInScope (routine : Routine) (byScope : Table String SymbolId) : Work (Option SymbolId) := do
  let own := (byScope.get? routine.name).or (byScope.get? (Naming.plainRoutine routine.name))
  match own.or (routine.moduleName.bind byScope.get?) with
  | some id => return some id
  | none =>
    match byScope.values.head? with
    | none => return none
    | some id => do
      Registry.change id fun symbol =>
        { symbol with scopeNameOverride := some routine.name }
      return some id

def isFramework (symbol : Symbol) : Bool :=
  match symbol.form with
  | .plain => false
  | .framework _ _ => true

def renameIn (routine : Routine) (id : SymbolId) : Work Unit := do
  if !isFramework (← symbol id) then Registry.updateNameInScope id false routine.moduleName

def isUserSize (userNames : List String) (symbols : Table String SymbolId) (name : String) :
    Work Bool := do
  match symbols.get? name with
  | none => return false
  | some id => do
    let symbol ← symbol id
    if !userNames.contains name || !symbol.domains.value.isEmpty then return false
    match symbol.declaration with
    | some declaration => return Text.contains declaration "integer"
    | none => throw (.defect .wrongKind)

def adoptTypeParameters (routine : Routine) (userNames : List String)
    (symbols : Table String SymbolId) (id : SymbolId) : Work Unit := do
  (← symbol id).typeParameters.value.forM fun (_, parameter) => do
    if userNames.isEmpty then throw (.routine (.noUserNames routine.name))
    if ← isUserSize userNames symbols (← symbol parameter).name then
      Registry.change parameter fun symbol => { symbol with isUserSpecified := true }
    Registry.change parameter fun symbol =>
      { symbol with scopeNameOverride := some routine.name }
    Registry.updateNameInScope parameter false routine.moduleName
  Registry.refileTypeParameters id

def deduplicateSymbols (id : RoutineId) : Work Unit := do
  let routine ← routine id
  let byScope ← symbolsByScope (← symbolsOf id).values
  let symbols ← byScope.values.foldlM (fun symbols versions => do
    match ← symbolInScope routine versions with
    | none => return symbols
    | some id => do
      renameIn routine id
      let copy ← (Registry.clone id : RegistryM _)
      return symbols.set (← scopedName id) copy) .empty
  let userNames := ((← body id).userNames).getD []
  symbols.values.forM (adoptTypeParameters routine userNames symbols)
  changeBody id fun body => { body with symbols := some symbols }

def markPresent (bodies : List RoutineBody) (id : SymbolId) : Work Unit := do
  let symbol ← symbol id
  if symbol.isMarkedHost && !symbol.domains.value.isEmpty &&
      bodies.any fun body => body.usesInKernels symbol then
    Registry.change id fun symbol => { symbol with isMarkedPresent := true }

def updateSymbol (routine : Routine) (body : RoutineBody) (view : RoutineView)
    (callees : List RoutineBody) (id : SymbolId) : Work Unit := do
  Registry.change id fun symbol =>
    { symbol with isMarkedHost := false, isMarkedPresent := false, isTransferred := false }
  let attributes := ((← symbol id).attributes).getD []
  if !attributes.isEmpty then Registry.setOptions id attributes
  markPresent (body :: callees) id
  let position ← position body.node
  Registry.change id fun symbol =>
    { symbol with position := some position, isCompacted := false }
  if !isFramework (← symbol id) then
    Registry.loadRoutine id body.node (body.regionTemplates.getD []) (some view)
  let place := (← get).declarationPlace body
  Registry.updateDeviceState (← backend body.backend).kind
    ⟨some body.kernelUses.keys, place, position, false⟩ id
  renameIn routine id

def markCompacted (id : SymbolId) : Work Unit := do
  match ← ((← get).compacted? id : Outcome _) with
  | none => pure ()
  | some ids =>
    ids.forM fun id => Registry.change id fun symbol => { symbol with isCompacted := true }

def updateSymbols (id : RoutineId) : Work Unit := do
  let routine ← routine id
  let body ← body id
  let view ← viewOf id
  let session ← get
  let callees := body.callees.filterMap fun callee => (session.routine callee).body
  let ids := (← symbolsOf id).values
  let symbols ← ids.foldlM (fun symbols id => do
    updateSymbol routine body view callees id
    return symbols.set (← scopedName id) id) .empty
  ids.forM markCompacted
  changeBody id fun body => { body with symbols := some symbols }

end Work

end ParallelFortran
