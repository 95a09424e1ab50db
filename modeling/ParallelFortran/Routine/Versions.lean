import ParallelFortran.Routine.Context

/-! Versions of a routine for a device: a copy that runs on the host, kernels for the parallel
regions, and what remains of the routine, which calls them. -/

namespace ParallelFortran

open Xml

namespace Work

def copyRoutine (id : RoutineId) (name : String) (regions : List Region) : Work RoutineId := do
  let routine ← routine id
  let body ← body id
  if Text.isBlankText name then throw (.routine .noName)
  let node ← (cloneNode body.node : StoreM _)
  addRoutine
    { routine with
      name
      body := some
        { body with
          node, regions
          sister := none
          synthesized := none
          packed := .empty
          calleeNames := none
          usedNames := []
          kernelUses := .empty } }

def needsDevice (session : Session) : Region → Bool
  | .call _ (some callee) _ =>
    (session.routine callee).body.any fun body =>
      let kind := (session.backend body.backend).kind
      kind.isOnDevice && !kind.hasHostCopies
  | _ => false

def kernelTemplates (regions : List Region) : List NodeId :=
  regions.filterMap fun region =>
    match region with
    | .parallel template _ => template
    | _ => none

def clearPosition (session : Session) (body : RoutineBody) (copy : RoutineId) :
    List NodeId → Work Unit
  | [] => pure ()
  | template :: _ => do
    if session.position body == "within" then
      if !(← (CallGraph.appliesTo session.store ["G", "P", "U"] template : Outcome _)) then
        setAttribute (← Work.body copy).node "parallelRegionPosition" ""

def hostCopy (id : RoutineId) (kernels : List NodeId) : Work RoutineId := do
  let session ← get
  let body ← body id
  let copy ← copyRoutine id (Naming.hostRoutine (session.routine id).name) body.regions
  let backend ← addBackend (session.backend body.backend).forHost
  changeBody copy fun body => { body with backend }
  if body.regions.any (needsDevice session) then throw (.defect .wrongKind)
  clearPosition session body copy kernels
  return copy

def isKernelImport (session : Session) (body : RoutineBody) (whole : List String)
    (typeParameters : Option (Table String SymbolId)) (module : String) (name source : Option String) :
    Bool :=
  match name.filter (! ·.isEmpty) with
  | none => true
  | some name =>
    let isKind := ((typeParameters.getD .empty).get? name).any fun id =>
      !(session.symbol id).isDimensionParameter
    let isSymbol := (source.bind ((body.symbols.getD .empty).get? ·)).isSome
    let calleeNames := body.calleeNames.getD .empty
    let isCalled (name : String) : Bool := (calleeNames.get? name).any (! ·.isEmpty)
    whole.contains module || isKind || isSymbol || source.any isCalled || isCalled name

def isImportLine (line : RegionLine) : Bool :=
  line.symbols.isEmpty &&
    (Pattern.Fortran.importAll.accepts line.text || Pattern.Fortran.importNames.accepts line.text)

def withoutImportLines : Region → Region
  | .specification lines dataLines context typeParameters =>
    .specification (lines.filter (! isImportLine ·)) dataLines context typeParameters
  | region => region

def reduceImports (id : RoutineId) : Work Unit := do
  changeBody id fun body => { body with regions := body.regions.map withoutImportLines }
  match (← body id).imports with
  | none => pure ()
  | some imports => do
    if imports.isEmpty then return
    let whole := imports.keys.filterMap fun key => if key.2.isNone then some key.1 else none
    prepareCalls id
    let session ← get
    let body ← body id
    let typeParameters := match body.regions with
      | .specification _ _ _ typeParameters :: _ => typeParameters
      | _ => none
    let kept := imports.entries.filter fun ((module, name), source) =>
      isKernelImport session body whole typeParameters module name source
    changeBody id fun body => { body with imports := some (Table.ofList kept) }

def kernelOf (id : RoutineId) (number : Nat) (region : Region) (template : NodeId) :
    Work RoutineId := do
  let body ← body id
  let name := Naming.kernel (← routine id).name number
  let specification := body.regions.head?.toList
  let kernel ← copyRoutine id name (specification ++ [region])
  let node := (← Work.body kernel).node
  setAttribute node "parallelRegionPosition" "within"
  setAttribute node "name" name
  changeBody kernel fun body => { body with regionTemplates := some [template] }
  reduceImports kernel
  return kernel

def callingRegions : List RoutineId → List Region → List Region
  | _, [] => []
  | kernels, .parallel none parts :: regions => parts ++ callingRegions kernels regions
  | kernel :: kernels, .parallel (some _) _ :: regions =>
    .call [] (some kernel) none :: callingRegions kernels regions
  | [], .parallel (some template) parts :: regions =>
    .parallel (some template) parts :: callingRegions [] regions
  | kernels, region :: regions => region :: callingRegions kernels regions

def kernelRegions (regions : List Region) : List (Region × NodeId) :=
  regions.filterMap fun region =>
    match region with
    | .parallel (some template) _ => some (region, template)
    | _ => none

def kernelCaller (kernels : List RoutineId) (body : RoutineBody) : RoutineBody :=
  { body with
    regionTemplates := some []
    regions := callingRegions kernels body.regions
    callees := body.callees ++ kernels }

def splitKernels (id : RoutineId) : Work (List RoutineId) := do
  let body ← body id
  let kernels ← (kernelRegions body.regions).zipIdx.mapM fun ((region, template), number) =>
    kernelOf id number region template
  setAttribute body.node "parallelRegionPosition" "inside"
  setAttribute body.node "isKernelCaller" "yes"
  changeBody id (kernelCaller kernels)
  return kernels

def splitHost (id : RoutineId) (kernels : List NodeId) : Work (List RoutineId) := do
  if !(← routine id).isUsedOnHostOnly then return []
  let copy ← hostCopy id kernels
  changeRoutine id fun routine => { routine with name := Naming.deviceRoutine routine.name }
  return [copy]

def generateRoutines (id : RoutineId) : Work (List RoutineId) := do
  let body ← body id
  if !(← backend body.backend).kind.isCuda then return [id]
  let isWithin := (← position body.node) == "within"
  let hosts ← splitHost id (if isWithin then kernelTemplates body.regions else [])
  let kernels ← if isWithin then splitKernels id else pure []
  return id :: (hosts ++ kernels)

end Work

end ParallelFortran
