import ParallelFortran.Routine.Usage
import ParallelFortran.Symbol.Merge

/-! How a scalar is accessed first in a routine. -/

namespace ParallelFortran

inductive FirstAccess where
  | read
  | write
  deriving DecidableEq, Repr

namespace Work

def isAmong (id : SymbolId) : List SymbolId → Work Bool
  | [] => return false
  | other :: others => do
    if other == id then return true
    let name ← onRegistry (Registry.nameInScope other)
    if name == (← onRegistry (Registry.nameInScope id)) then return true
    isAmong id others

def firstAccessInLines (id : SymbolId) : List RegionLine → Work (Option FirstAccess)
  | [] => return none
  | line :: lines => do
    if ← isAmong id line.symbols then
      return some (if (← symbol id).scalarWrite.accepts line.text then .write else .read)
    firstAccessInLines id lines

mutual

def firstAccessIn (id : SymbolId) : Region → Work (Option FirstAccess)
  | .specification _ _ _ _ => return none
  | .plain lines | .earlyExit lines | .call lines _ _ => firstAccessInLines id lines
  | .parallel _ regions => firstAccessInAll id regions

def firstAccessInAll (id : SymbolId) : List Region → Work (Option FirstAccess)
  | [] => return none
  | region :: regions => do
    match ← firstAccessIn id region with
    | some access => return some access
    | none => firstAccessInAll id regions

end

end Work

/-! Symbols that a kernel needs in addition to its arguments: a device routine does not see the
module around it. -/

open Xml
open CallGraph (AnalysisTable)

structure KernelParameters where
  imports : List SymbolId := []
  declarations : List SymbolId := []
  dummies : List SymbolId := []
  deriving Inhabited

namespace KernelParameters

def all (parameters : KernelParameters) : List SymbolId :=
  parameters.imports ++ parameters.declarations ++ parameters.dummies

end KernelParameters

inductive ParameterKind where
  | imported
  | declared
  | dummy
  deriving DecidableEq, Repr

structure KernelCall where
  caller : Routine
  callerBody : RoutineBody
  callee : Routine
  calleeBody : RoutineBody

namespace Work

def kernelCall (caller callee : RoutineId) : Work KernelCall := do
  return ⟨← routine caller, ← body caller, ← routine callee, ← body callee⟩

def knownInCaller? (call : KernelCall) (name : String) : Option SymbolId := do
  let symbols ← call.callerBody.symbols
  let ofModule := call.caller.moduleName.bind fun module => symbols.get? (Naming.unique name module)
  ((symbols.get? (Naming.unique name call.caller.name)).or ofModule).or (symbols.get? name)

def loadParameter (call : KernelCall) (scope template entry : NodeId) (name : String) :
    Work SymbolId := do
  let regions := call.calleeBody.regionTemplates.getD []
  let scopeName := (← store).value scope "name"
  let id ← (Registry.newSymbol name (some template) (some ⟨entry, some scope⟩)
    ((← get).analysis.first? scopeName name) regions [] : RegistryM _)
  Registry.loadRoutine id scope regions none
  match call.callerBody.symbols with
  | some symbols => Registry.updateTypeParameter id symbols.values
  | none => throw (.defect .missingPart)
  return id

def isOfModule (kind : DeclarationKind) : Bool :=
  kind == .localModuleScalar || kind == .foreignModuleScalar || kind == .moduleArray ||
    kind == .passedModuleArray

def isDispensable (call : KernelCall) (scopeName : String) (id : SymbolId) : Work Bool := do
  let symbol ← symbol id
  if symbol.isTypeParameter && !symbol.isDimensionParameter then return true
  if symbol.isDummyOf scopeName then return true
  if !call.calleeBody.uses symbol then return true
  if symbol.isMarkedHost && !call.callerBody.usesInKernels symbol &&
      !call.calleeBody.usesInKernels symbol then return true
  if !symbol.domains.value.isEmpty || symbol.isDimensionParameter then return false
  return (← firstAccessInAll id call.calleeBody.regions) == some .write

def isOwnConstant (symbol : Symbol) (kind : DeclarationKind) : Outcome Bool :=
  if !symbol.domains.value.isEmpty || isOfModule kind then .ok false
  else
    match symbol.declaration with
    | some declaration => .ok (Text.contains declaration "parameter")
    | none => .error (.defect .wrongKind)

def loadForeign (call : KernelCall) (id : SymbolId) : Work Unit := do
  let source := (← symbol id).sourceModule (← store)
  if source != call.callee.moduleName then
    match source.bind (← get).moduleNodes.get? with
    | none => throw (.defect .missingKey)
    | some node => Registry.loadImport id (← get).document node none

def parameterKind? (call : KernelCall) (scopeName : String) (id : SymbolId) :
    Work (Option ParameterKind) := do
  if ← isDispensable call scopeName id then return none
  let symbol ← symbol id
  let store ← store
  let kind ← (symbol.declarationKind store : Outcome _)
  if ← (isOwnConstant symbol kind : Outcome _) then return none
  let isLocal := some (store.value call.callerBody.node "module") == symbol.sourceModule store
  if isOfModule kind && isLocal then return some .declared
  let isModuleData := symbol.analysis.any fun analysis => analysis.kind.isModuleSymbol
  if isModuleData || isOfModule kind || kind == .foreignModuleScalar then
    loadForeign call id
    return some .imported
  if kind == .localArray || kind == .localScalar || kind == .otherScalar then return some .dummy
  return none

def addParameter (parameters : KernelParameters) (id : SymbolId) :
    Option ParameterKind → KernelParameters
  | none => parameters
  | some .imported => { parameters with imports := parameters.imports ++ [id] }
  | some .declared => { parameters with declarations := parameters.declarations ++ [id] }
  | some .dummy => { parameters with dummies := parameters.dummies ++ [id] }

def parametersFrom (call : KernelCall) (scope : NodeId) (arguments : List String) :
    Work KernelParameters := do
  let entries ← (CallGraph.dependants (← get).document scope : StoreM _)
  let scopeName := (← store).value scope "name"
  entries.foldlM (fun parameters (template, entry) => do
    let name ← (CallGraph.entryText (← store) entry : Outcome _)
    if arguments.contains name then return parameters
    let id ← match knownInCaller? call name with
      | some id => pure id
      | none => loadParameter call scope template entry name
    return addParameter parameters id (← parameterKind? call scopeName id)) {}

def indexByName (ids : List SymbolId) : Work (Table String SymbolId) := do
  let named ← ids.mapM fun id => do return (← scopedName id, id)
  return Table.ofList named

def mergeNamed (ids : List SymbolId) (ofModule : Table String SymbolId) :
    Work (Table String SymbolId) :=
  ids.foldlM (fun ofModule id => do
    let name ← scopedName id
    match ofModule.get? name with
    | none => return ofModule
    | some other => do
      Registry.merge id other
      return ofModule.erase name) ofModule

def argumentNames (arguments : List String) : Outcome (List String) :=
  arguments.mapM fun argument =>
    match Pattern.Fortran.callArgument.match? argument with
    | some found => .ok (found.group 1)
    | none => .error (.backend (.illegalArgument argument))

def kernelParameters (backend : Backend) (caller callee : RoutineId) : Work KernelParameters := do
  if !backend.kind.isCuda then return {}
  let call ← kernelCall caller callee
  if (← position call.calleeBody.node) != "within" ||
      (call.calleeBody.regionTemplates.getD []).isEmpty then return {}
  match call.callee.moduleName.bind (← get).moduleNodes.get? with
  | none => throw (.backend (.foreignKernel call.callee.name))
  | some moduleNode => do
    let arguments ← (Session.sourceArguments call.callee : Outcome _)
    let names ← (argumentNames arguments : Outcome _)
    let ofModule ← parametersFrom call moduleNode names
    match ofModule.dummies with
    | [] => pure ()
    | first :: _ => do
      let kind ← ((← symbol first).declarationKind (← store) : Outcome _)
      let session ← get
      throw (.backend (.moduleDummies
        (ofModule.dummies.map fun id => (session.symbol id).name) kind.number))
    let imports ← indexByName ofModule.imports
    let declarations ← indexByName ofModule.declarations
    let own ← parametersFrom call call.calleeBody.node names
    let imports ← mergeNamed own.imports imports
    let declarations ← mergeNamed own.declarations declarations
    let imports ← mergeNamed own.dummies imports
    let declarations ← mergeNamed own.dummies declarations
    return {
      imports := ← onRegistry (Registry.sorted (own.imports ++ imports.values))
      declarations := ← onRegistry (Registry.sorted (own.declarations ++ declarations.values))
      dummies := ← onRegistry (Registry.sorted own.dummies) }

end Work

end ParallelFortran
