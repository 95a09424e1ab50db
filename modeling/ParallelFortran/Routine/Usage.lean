import ParallelFortran.Session
import ParallelFortran.Symbol.Loading

/-! Which symbols the regions of a routine use, and which routines call kernels. -/

namespace ParallelFortran

open Xml

namespace Session

def position (session : Session) (body : RoutineBody) : String :=
  session.store.value body.node "parallelRegionPosition"

mutual

def callsKernel (session : Session) : Region → Bool
  | .call _ callee _ =>
    callee.any fun id => (session.routine id).body.any fun body => session.position body == "within"
  | .parallel _ regions => anyCallsKernel session regions
  | _ => false

def anyCallsKernel (session : Session) : List Region → Bool
  | [] => false
  | region :: regions => callsKernel session region || anyCallsKernel session regions

end

variable (session : Session) (body : RoutineBody)

def isCallingKernel : Bool :=
  session.store.value body.node "isKernelCaller" == "yes" || session.anyCallsKernel body.regions

def declarationPlace : DeclarationPlace :=
  if session.isCallingKernel body then .kernelCaller else .other

def sourceArguments (routine : Routine) : Outcome (List String) :=
  match routine.arguments with
  | some arguments => .ok arguments
  | none => .error (.routine (.argumentsNotLoaded routine.name))

def compacted? (id : SymbolId) : Outcome (Option (List SymbolId)) :=
  match (session.symbol id).form with
  | .plain => .ok none
  | .framework _ (some ids) => .ok (some ids)
  | .framework _ none => .error (.defect .wrongKind)

def additionalNames (routine : Routine) : Outcome (List String) := do
  let ids := (routine.body.bind RoutineBody.additionalArguments).getD []
  let names ← ids.mapM fun id => do
    return ((← session.compacted? id).getD [id]).map fun id => (session.symbol id).name
  return names.flatten

def lineNames (lines : List RegionLine) : List String :=
  (lines.flatMap RegionLine.symbols).map fun id => (session.symbol id).name

def dimensionParameters (symbol : Symbol) : List String :=
  (symbol.typeParameters.value.map fun parameter => session.symbol parameter.2).filterMap
    fun parameter => if parameter.isDimensionParameter then some parameter.name else none

mutual

def regionNames (session : Session) : Region → Outcome (List String)
  | .plain lines => .ok (session.lineNames lines)
  | .earlyExit lines => .ok (session.lineNames lines)
  | .specification lines _ _ _ =>
    .ok ((lines.flatMap RegionLine.symbols).flatMap fun id =>
      session.dimensionParameters (session.symbol id))
  | .call _ none _ => .error (.defect .missingPart)
  | .call lines (some callee) _ => do
    let routine := session.routine callee
    let additional ← session.additionalNames routine
    let arguments ← sourceArguments routine
    let passed := arguments.map fun argument =>
      Text.strip (((Text.split "(" argument).head?).getD "")
    return session.lineNames lines ++ passed ++ additional
  | .parallel _ regions => namesOfAll session regions

def namesOfAll (session : Session) : List Region → Outcome (List String)
  | [] => .ok []
  | region :: regions => do
    let names ← regionNames session region
    return names ++ (← namesOfAll session regions)

end

def occurrences (lists : List (List String)) : Table String Nat :=
  lists.foldl (fun table names =>
    names.eraseDups.foldl (fun table name =>
      table.set name ((table.get? name).getD 0 + 1)) table) .empty

def isSize (session : Session) (symbol : Symbol) : Outcome Bool := do
  if !symbol.domains.value.isEmpty then return false
  if (← symbol.declarationKind session.store) == .localModuleScalar && !symbol.isDimensionParameter
  then return false
  match symbol.declaration with
  | some declaration => return Text.contains declaration "integer"
  | none => throw (.defect .wrongKind)

def usedNames (session : Session) (body : RoutineBody) (symbols : Table String SymbolId)
    (direct : List String) : Outcome (List String) := do
  let arrays ← (body.additionalArguments.getD []).filterM fun id => do
    let compacted := (← session.compacted? id).getD []
    return compacted.any fun id => direct.contains (session.symbol id).name
  let used := direct ++ arrays.map fun id => (session.symbol id).name
  let parameters := used.flatMap fun name =>
    ((symbols.get? name).map fun id => session.dimensionParameters (session.symbol id)).getD []
  let byUserName := Table.ofList (symbols.values.map fun id =>
    ((session.symbol id).name, session.symbol id))
  match body.userNames with
  | none => throw (.defect .wrongKind)
  | some userNames => do
    let sizes ← userNames.filterM fun name =>
      match byUserName.get? name with
      | none => pure false
      | some symbol => session.isSize symbol
    return (used ++ parameters ++ sizes).eraseDups

end Session

namespace Work

def analyseUsage (id : RoutineId) : Work Unit := do
  let session ← get
  let body ← body id
  let names ← (body.regions.mapM session.regionNames : Outcome _)
  let inKernels := (body.regions.zip names).filterMap fun (region, names) =>
    if region.isParallel then some names else none
  match body.symbols with
  | none => throw (.defect .missingPart)
  | some symbols => do
    let usedNames ← (session.usedNames body symbols names.flatten.eraseDups : Outcome _)
    changeBody id fun body =>
      { body with usedNames, kernelUses := Session.occurrences inKernels }

def viewOf (id : RoutineId) : Work RoutineView := do
  let body ← body id
  let backend ← backend body.backend
  return ⟨backend.kind.isOnDevice, !(body.regionTemplates.getD []).isEmpty, body.kernelUses⟩

def parentOf (id : RoutineId) : Work ParentView := do
  let session ← get
  let body ← body id
  return ⟨session.isCallingKernel body, session.position body⟩

end Work

end ParallelFortran
