import ParallelFortran.Routine.Context

/-! Joining of the symbols of the source with those that were added to a routine. -/

namespace ParallelFortran

open Xml

namespace Work

variable (symbols : Table String SymbolId)

def current (id : SymbolId) : Work SymbolId := do
  let name ← scopedName id
  let symbol ← symbol id
  let direct := (symbols.get? name).or (symbols.get? symbol.name)
  match direct with
  | some found => return found
  | none => do
    let store ← store
    let residing ← (symbol.residingModule store : Outcome _)
    match symbols.get? (Naming.unique symbol.name residing) with
    | some found => return found
    | none =>
      match symbol.sourceModule store with
      | none => throw (.defect .wrongKind)
      | some source =>
        match symbols.get? (Naming.unique symbol.name source) with
        | some found => return found
        | none => throw (.routine (.notInContext name symbols.keys))

def currentAll (ids : List SymbolId) : Work (List SymbolId) :=
  ids.mapM (current symbols)

def currentLines (lines : List RegionLine) : Work (List RegionLine) :=
  lines.mapM fun line => do return ⟨line.text, ← currentAll symbols line.symbols⟩

def currentPart : Region → Work Region
  | .plain lines => do return .plain (← currentLines symbols lines)
  | .earlyExit lines => do return .earlyExit (← currentLines symbols lines)
  | .call lines callee passed => do return .call (← currentLines symbols lines) callee passed
  | .specification lines dataLines context typeParameters => do
    return .specification (← currentLines symbols lines) dataLines context typeParameters
  | .parallel template parts => return .parallel template parts

def currentRegion : Region → Work Region
  | .parallel template parts => do return .parallel template (← parts.mapM (currentPart symbols))
  | region => currentPart symbols region

def currentPassed : Region → Work Region
  | .call lines callee passed => do
    match passed with
    | none => throw (.defect .wrongKind)
    | some passed => do
      let entries ← passed.values.mapM fun id => do
        let found ← current symbols id
        return (← scopedName found, found)
      return .call lines callee (some (Table.ofList entries))
  | region => return region

def loaded (ids : Option (List SymbolId)) : Work (List SymbolId) :=
  match ids with
  | some ids => return ids
  | none => throw (.defect .wrongKind)

def addedBy (regions : List Region) : Work (List SymbolId) :=
  match regions with
  | .specification _ _ (some context) _ :: _ => return context.added
  | .specification _ _ none _ :: _ => throw (.defect .wrongKind)
  | _ => throw (.defect .missingPart)

def specificationSymbols (regions : List Region) : List SymbolId :=
  ((regions.head?.map Region.lines).getD []).flatMap RegionLine.symbols

def enterAdded (id : RoutineId) : Work Unit := do
  let routine ← routine id
  let body ← body id
  let added := (← loaded body.additionalArguments) ++ (← loaded body.synthesized) ++
    (← loaded body.symbolsToUpdate) ++ (← addedBy body.regions)
  let symbols ← added.foldlM (fun symbols id => do
    let name ← scopedName id
    if (← symbol id).scope.isNone then return symbols.set name id
    Registry.updateNameInScope id false routine.moduleName
    return symbols.set (← scopedName id) id) (← symbolsOf id)
  let symbols ← (specificationSymbols body.regions).foldlM (fun symbols id => do
    return symbols.set (← scopedName id) id) symbols
  changeBody id fun body => { body with symbols := some symbols }

def changeAdded (change : List SymbolId → Work (List SymbolId)) :
    List Region → Work (List Region)
  | .specification lines dataLines (some context) typeParameters :: regions => do
    let added ← change context.added
    return .specification lines dataLines (some { context with added }) typeParameters :: regions
  | regions => return regions

def updateReferences (id : RoutineId) : Work Unit := do
  let symbols ← symbolsOf id
  let body ← body id
  let regions ← body.regions.mapM (currentRegion symbols)
  let additionalArguments ← currentAll symbols (← loaded body.additionalArguments)
  let synthesized ← currentAll symbols (← loaded body.synthesized)
  let symbolsToUpdate ← currentAll symbols (← loaded body.symbolsToUpdate)
  let regions ← changeAdded (fun ids => do
    let found ← currentAll symbols ids
    let session ← get
    return found.filter fun id => isGiven (session.symbol id).declaration) regions
  let regions ← regions.mapM (currentPassed symbols)
  changeBody id fun body =>
    { body with
      regions
      additionalArguments := some additionalArguments
      synthesized := some synthesized
      symbolsToUpdate := some symbolsToUpdate }

def foreignTypeParameters (id : RoutineId) : Work (Table String SymbolId) := do
  let session ← get
  let moduleName := (session.routine id).moduleName
  let ids := (← symbolsOf id).values
  let parameters := ids.flatMap fun id => (session.symbol id).typeParameters.value.map Prod.snd
  let foreign := parameters.filter fun id =>
    (session.symbol id).sourceModule session.store != moduleName
  return Table.ofList (foreign.map fun id => ((session.symbol id).name, id))

def setTypeParameters (parameters : Table String SymbolId) : List Region → Outcome (List Region)
  | .specification lines dataLines context _ :: regions =>
    .ok (.specification lines dataLines context (some parameters) :: regions)
  | _ => .error (.defect .missingPart)

variable (id : RoutineId)

def mergeSymbols : Work Unit := do
  enterAdded id
  deduplicateSymbols id
  updateReferences id
  let ids := (← symbolsOf id).values
  ids.forM fun symbol => Registry.updateTypeParameter symbol ids
  let parameters ← foreignTypeParameters id
  let regions ← (setTypeParameters parameters (← body id).regions : Outcome _)
  changeBody id fun body => { body with regions }

def checkReferences (ids : List SymbolId) : Work Unit := do
  let symbols ← symbolsOf id
  ids.forM fun symbol => do
    match symbols.get? (← scopedName symbol) with
    | none => throw (.defect .missingKey)
    | some known => do
      if known != symbol then
        throw (.routine (.inconsistentSymbol (← Work.symbol symbol).name (← routine id).name))

def checkSymbols : Work Unit := do
  let body ← body id
  checkReferences id (← loaded body.additionalArguments)
  checkReferences id (← loaded body.synthesized)
  checkReferences id (← loaded body.symbolsToUpdate)
  let added ← addedBy body.regions
  checkReferences id added
  let session ← get
  match added.find? fun id => !isGiven (session.symbol id).declaration with
  | some symbol =>
    throw (.routine (.invalidSymbol (session.symbol symbol).name (session.routine id).name))
  | none => pure ()
  body.regions.forM fun region =>
    checkReferences id (region.lines.flatMap RegionLine.symbols)

def checkRegions : Work Unit := do
  let session ← get
  let routine := session.routine id
  let body ← body id
  if session.position body == "within" then
    let backend := session.backend body.backend
    match body.regionTemplates.getD [] with
    | [] => throw (.routine (.noTemplates routine.name))
    | _ :: rest =>
      if !rest.isEmpty && !backend.kind.allowsSeveralRegions then
        throw (.routine (.severalTemplates routine.name backend.kind.name))

end Work

end ParallelFortran
