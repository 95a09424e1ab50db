import ParallelFortran.CallGraph.Query
import ParallelFortran.Log
import ParallelFortran.Xml.Duplicate

/-! Positions of routines relative to parallel regions. A routine that keeps a region for the chosen
architecture is a kernel (`within`); its callers, direct or indirect, are `inside`, and what it calls
from a region is `outside`. The regions that concern a routine are referred to from it. -/

namespace ParallelFortran.CallGraph

open Xml

structure RegionAnalysis where
  store : Store
  document : Document
  log : List LogEntry := []

abbrev RegionM := ExceptT Fault (StateM RegionAnalysis)

namespace RegionAnalysis

def onStore {α : Type} (action : StoreM α) : RegionM α := do
  let analysis ← get
  let (result, store) := ExceptT.run action analysis.store
  set { analysis with store }
  match result with
  | .ok value => return value
  | .error fault => throw fault

instance : MonadLiftT StoreM RegionM := ⟨onStore⟩

def warn (message : String) : RegionM Unit :=
  modify fun analysis => { analysis with log := analysis.log ++ [.plain .warning message] }

def positionOf (store : Store) (routine : NodeId) : String :=
  store.value routine "parallelRegionPosition"

def isProcessor (name : String) : Bool := name == "CPU" || name == ""

def matchesArchitecture (architecture entry : String) : Bool :=
  let wanted := Text.upper architecture
  let given := Text.strip (Text.upper entry)
  (isProcessor given && isProcessor wanted) || given == wanted

/-- Whether a template is for the architecture; one that names none is for all. -/
def keepsTemplate (store : Store) (architecture : String) (template : NodeId) : Outcome Bool :=
  match store.descendants template "appliesTo" with
  | [] => .ok true
  | setting :: _ =>
    (store.descendants setting "entry").anyM fun entry =>
      match simpleValue? (store.tree entry) with
      | none => .error (.defect .missingPart)
      | some text => .ok (matchesArchitecture architecture text)

def purgeRelation (routine regions relation : NodeId) : RegionM Unit := do
  removeChild regions relation
  let store := (← get).store
  if (store.descendants regions "templateRelation").isEmpty then
    if (store.children routine).contains regions then removeChild routine regions
    else throw (.callGraph (.detachedRegions (store.toIndented regions) (store.toIndented routine)))

def filterRelation (store : Store) (architecture : String) (templates : List NodeId)
    (routine regions relation : NodeId) : RegionM Unit := do
  let id := store.value relation "id"
  match templates.find? fun template => store.value template "id" == id with
  | none => throw (.callGraph (.unknownRegionTemplate id))
  | some template =>
    if !(← keepsTemplate store architecture template) then purgeRelation routine regions relation

def filterRoutine (architecture : String) (templates : List NodeId) (routine : NodeId) :
    RegionM Unit := do
  let store := (← get).store
  match store.descendants routine "parallelRegions" with
  | [] => pure ()
  | regions :: _ =>
    (store.descendants regions "templateRelation").forM
      (filterRelation store architecture templates routine regions)

/-! Spreading of positions along calls -/

def relationsOf (store : Store) (routine : NodeId) : List NodeId :=
  let parents := store.descendants routine "parallelRegions"
  let parents := if parents.isEmpty then store.descendants routine "activeParallelRegions" else parents
  match parents with
  | [] => []
  | parent :: _ => store.descendants parent "templateRelation"

def activeElement (routine : NodeId) : RegionM NodeId := do
  match (← get).store.descendants routine "activeParallelRegions" with
  | active :: _ => return active
  | [] => do
    let active ← createElement (← get).document.root "activeParallelRegions"
    appendChild routine active
    return active

def addRelation (routine relation : NodeId) : RegionM Unit := do
  let active ← activeElement routine
  let new ← createElement (← get).document.root "templateRelation"
  setAttributeValue new "id" ((← get).store.value? relation "id")
  let store := (← get).store
  match ← firstDuplicate? false ((store.children active).map store.tree) (store.tree new) with
  | some _ => pure ()
  | none => appendChild active new

def receiver? (store : Store) (routines : List NodeId) (name : String) : Option NodeId :=
  routines.find? fun routine =>
    store.value routine "name" == name && positionOf store routine != "within"

def mark (position : String) (relations : List NodeId) (routine : NodeId) : RegionM Unit := do
  setAttribute routine "parallelRegionPosition" position
  relations.forM (addRelation routine)

/-- Gives a position to the routines that `next` names for a routine, and goes on from each of them.
The fuel exceeds the length of every call path without repetition. -/
def spread (position : String) (next : Store → NodeId → List String) (routines : List NodeId) :
    Nat → NodeId → RegionM Unit
  | 0, _ => throw (.defect .tooDeep)
  | fuel + 1, routine => do
    let store := (← get).store
    let relations := relationsOf store routine
    for name in next store routine do
      match receiver? (← get).store routines name with
      | none => pure ()
      | some other => do
        mark position relations other
        spread position next routines fuel other

def callerNames (callsByCallee : Table String (List NodeId)) (store : Store) (routine : NodeId) :
    List String :=
  ((callsByCallee.get? (store.value routine "name")).getD []).map (store.value · "caller")

/-- The names of the routines that a routine calls. Of a kernel only the calls from a region count. -/
def calleeNames (callsByCaller : Table String (List NodeId)) (store : Store) (routine : NodeId) :
    List String :=
  let calls := (callsByCaller.get? (store.value routine "name")).getD []
  let counted :=
    if positionOf store routine == "within" then
      calls.filter fun call => store.value call "parallelRegionPosition" == "surround"
    else calls
  counted.map (store.value · "callee")

def markCallers (callsByCallee : Table String (List NodeId)) (routines : List NodeId) (fuel : Nat)
    (routine : NodeId) : RegionM Unit :=
  spread "inside" (callerNames callsByCallee) routines fuel routine

def markCallees (callsByCaller : Table String (List NodeId)) (routines : List NodeId) (fuel : Nat)
    (routine : NodeId) : RegionM Unit :=
  spread "outside" (calleeNames callsByCaller) routines fuel routine

def copyInto (element : NodeId) (nodes : List NodeId) : RegionM Unit :=
  nodes.forM fun node => do appendChild element (← cloneNode node)

def activate (routine regions : NodeId) : RegionM Unit := do
  let store := (← get).store
  let (active, isNew) ← match store.descendants routine "activeParallelRegions" with
    | active :: _ => pure (active, false)
    | [] => do
      let active ← createElement (← get).document.root "activeParallelRegions"
      pure (active, true)
  copyInto active (store.children regions)
  removeChild routine regions
  if isNew then appendChild routine active

def announce (callsByCaller callsByCallee : Table String (List NodeId)) (routines : List NodeId)
    (fuel : Nat) (kernel regions : NodeId) : RegionM Unit := do
  setAttribute kernel "parallelRegionPosition" "within"
  markCallers callsByCallee routines fuel kernel
  markCallees callsByCaller routines fuel kernel
  activate kernel regions

def firstWrapper? (store : Store) (callsByCaller : Table String (List NodeId))
    (kernels : List String) (caller : String) : Option String :=
  ((callsByCaller.get? caller).getD []).findSome? fun call =>
    let callee := store.value call "callee"
    if ((callsByCaller.get? callee).getD []).any fun inner =>
        kernels.contains (store.value inner "callee") then some callee
    else none

def warnMixedCaller (callsByCaller : Table String (List NodeId)) (kernels : List String)
    (kernel : String) (warned : List String) (call : NodeId) : RegionM (List String) := do
  let store := (← get).store
  let caller := store.value call "caller"
  match firstWrapper? store callsByCaller kernels caller with
  | none => return warned
  | some wrapper =>
    if warned.isEmpty then
      warn (s!"Subroutine {caller} calls at least one kernel (" ++ kernel ++
        ") and at least one kernel wrapper (" ++ wrapper ++
        "). This may cause device attribute mismatch compiler errors. In this case please wrap" ++
        " all kernels called by " ++ caller ++
        ", such that it does not call a mix of kernel wrappers and kernels.\n")
      return [caller]
    else if warned.contains caller then return warned
    else
      warn (s!"...same for {caller}: calls kernel {kernel}, kernel wrapper " ++ wrapper)
      return warned ++ [caller]

def warnMixedCallers (callsByCaller callsByCallee : Table String (List NodeId))
    (kernels : List String) (kernel : String) (warned : List String) : RegionM (List String) :=
  ((callsByCallee.get? kernel).getD []).foldlM (warnMixedCaller callsByCaller kernels kernel) warned

variable (store : Store) (architecture : String)

/-- Adds the routine that holds regions. On an accelerator a routine holds them in one place. -/
def addKernelName (names : List String) (regions : NodeId) : Outcome (List String) :=
  match (store.parent? regions).filter fun parent => (store.tag? parent).isSome with
  | none => .error (.defect .missingPart)
  | some routine =>
    let name := store.value routine "name"
    if architecture == "GPU" && names.contains name then
      .error (.callGraph (.multipleRegionElements name))
    else .ok (names ++ [name])

def kernelNames (regions : List NodeId) : Outcome (List String) :=
  regions.foldlM (addKernelName store architecture) []

def analyse : RegionM Unit := do
  let start ← get
  let root := start.document.root
  let calls := start.store.descendants root "call"
  let routines := start.store.descendants root "routine"
  let templates := start.store.descendants root "parallelRegionTemplate"
  routines.forM (filterRoutine architecture templates)
  let store := (← get).store
  let callsByCaller := groupByAttribute store "caller" calls
  let callsByCallee := groupByAttribute store "callee" calls
  let regions := store.descendants root "parallelRegions"
  let kernels ← kernelNames store architecture regions
  let fuel := calls.length + 2
  let mut warned : List String := []
  for node in regions do
    match store.parent? node with
    | none => throw (.defect .missingPart)
    | some routine => do
      if store.tag? routine != some "routine" then throw (.callGraph .regionOutsideRoutine)
      announce callsByCaller callsByCallee routines fuel routine node
      if architecture == "GPU" then
        warned ← warnMixedCallers callsByCaller callsByCallee kernels
          (store.value routine "name") warned

end RegionAnalysis

end ParallelFortran.CallGraph
