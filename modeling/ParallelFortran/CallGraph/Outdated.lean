import ParallelFortran.CallGraph.Query

/-! Which sources have to be processed again, from the call graphs of this and of the last run: those
with a routine whose position among parallel regions has changed, and those that use a module of
which a symbol has changed. -/

namespace ParallelFortran.CallGraph

open Xml

namespace Outdated

def routinesBySource (store : Store) (document : Document) : Outcome (Table String (List NodeId)) :=
  (store.descendants document.root "routine").foldlM (fun sources routine =>
    let source := store.value routine "source"
    if source.isEmpty then .error (.callGraph (.routineWithoutSource (store.toText routine)))
    else .ok (sources.set source ((sources.get? source).getD [] ++ [routine]))) .empty

abbrev RoutineIndex := Table (String × String) NodeId

variable (store : Store)

def routineIndex (document : Document) : Outcome RoutineIndex :=
  (store.descendants document.root "routine").foldlM (fun index routine =>
    let source := store.value routine "source"
    let name := store.value routine "name"
    if source.isEmpty || name.isEmpty then
      .error (.callGraph (.invalidRoutine (store.toText routine)))
    else if index.contains (source, name) then
      .error (.callGraph (.routineTwice name source))
    else .ok (index.set (source, name) routine)) .empty

def keepsPosition (source : String) (index : RoutineIndex) (routine : NodeId) : Outcome Bool :=
  let name := store.value routine "name"
  if name.isEmpty then .error (.callGraph (.routineWithoutName (store.toText routine)))
  else
    match index.get? (source, name) with
    | none => .ok false
    | some current =>
      .ok (store.value current "parallelRegionPosition" ==
        store.value routine "parallelRegionPosition")

def movedSources (current last : Document) : Outcome (List String) := do
  let sources ← routinesBySource store last
  let index ← routineIndex store current
  sources.keys.filterM fun source => do
    return !(← ((sources.get? source).getD []).allM (keepsPosition store source index))

def listedName (entry : NodeId) : Outcome (Option String) :=
  match store.firstChild? entry with
  | none => .error (.defect .missingPart)
  | some child => .ok (store.data? child)

abbrev SymbolIndex := Table (String × Option String) (NodeId × NodeId)

def symbolIndex (document : Document) : StoreM SymbolIndex := do
  let store ← get
  (store.descendants document.root "module").foldlM (fun index moduleNode => do
    let listed ← dependants document moduleNode
    listed.foldlM (fun index (template, entry) => do
      let name ← listedName store entry
      return index.set (store.value moduleNode "name", name) (template, entry)) index) .empty

def sameSpecification (left right : NodeId × NodeId) : Bool :=
  equalTrees ["id"] (store.tree left.2) (store.tree right.2) &&
    equalTrees ["id"] (store.tree left.1) (store.tree right.1)

def keepsSymbol (moduleName : String) (index : SymbolIndex) (listed : NodeId × NodeId) :
    Outcome Bool := do
  let name ← listedName store listed.2
  if name.all String.isEmpty then throw (.callGraph (.invalidEntry (store.toText listed.2)))
  return ((index.get? (moduleName, name)).map (sameSpecification store listed)).getD false

def keepsSymbols (last : Document) (moduleNames : List String) (index : SymbolIndex)
    (moduleNode : NodeId) : StoreM Bool := do
  let store ← get
  let name := store.value moduleNode "name"
  if name.isEmpty then throw (.callGraph (.invalidModule (store.toText moduleNode)))
  if !moduleNames.contains name then return true
  let listed ← dependants last moduleNode
  (listed.allM (keepsSymbol store name index) : Outcome Bool)

def changedModules (current last : Document) : StoreM (List String) := do
  let index ← symbolIndex current
  let store ← get
  let moduleNames := (store.descendants current.root "module").map fun node => store.value node "name"
  let changed ← (store.descendants last.root "module").filterM fun moduleNode => do
    return !(← keepsSymbols last moduleNames index moduleNode)
  return changed.map fun moduleNode => store.value moduleNode "name"

def sourceOfEntry (entry : NodeId) : Outcome String :=
  let scope := do
    let above ← store.parent? entry
    let around ← store.parent? above
    store.parent? around
  match scope with
  | some scope =>
    if (store.tag? scope).isSome then .ok (store.value scope "source")
    else .error (.defect .missingPart)
  | none => .error (.defect .missingPart)

def usersOfModules (document : Document) : Outcome (Table String (List String)) :=
  (store.descendants document.root "entry").foldlM (fun users entry => do
    let source ← sourceOfEntry store entry
    if source.isEmpty then return users
    let used := store.value entry "sourceModule"
    return users.set used ((users.get? used).getD [] ++ [source])) .empty

def sources (current last : Document) : StoreM (List String) := do
  let store ← get
  let moved ← movedSources store current last
  let changed ← changedModules current last
  let users ← usersOfModules store last
  let using' := changed.flatMap fun moduleName => (users.get? moduleName).getD []
  return (OrderedSet.ofList (moved ++ using')).members

end Outdated

end ParallelFortran.CallGraph
