import ParallelFortran.Backend.Call
import ParallelFortran.Routine.Parameters
import ParallelFortran.Routine.Symbols

/-! Passing of real scalars in one array. Argument lists of kernels are limited in size, so scalars of
one real type are packed before a call and unpacked in the kernel. -/

namespace ParallelFortran

structure Compaction where
  packed : List SymbolId := []
  declaration : Option String := none
  others : List SymbolId := []
  deriving Inhabited

namespace Compaction

def isPackable (kind : DeclarationKind) (declaration : String) : Bool :=
  (kind == .foreignModuleScalar || kind == .localModuleScalar || kind == .otherScalar ||
    kind == .localScalar) &&
    !Text.contains declaration "parameter" &&
    (Text.contains declaration "real" || Text.contains declaration "double")

def add (compaction : Compaction) (id : SymbolId) (kind : DeclarationKind)
    (declaration : Option String) : Compaction :=
  match declaration.filter (! ·.isEmpty) with
  | none => { compaction with others := compaction.others ++ [id] }
  | some declaration =>
    if isPackable kind declaration &&
        compaction.declaration.all fun first => first == declaration then
      { compaction with
        packed := compaction.packed ++ [id], declaration := some declaration }
    else { compaction with others := compaction.others ++ [id] }

/-- Decides which symbols are passed in one array. Symbols that are passed have no initial value of
their own any more. -/
def ofSymbols (ids : List SymbolId) : RegistryM Compaction :=
  ids.foldlM (fun compaction id => do
    let kind ← Registry.ask id Symbol.declarationKind
    Registry.change id fun symbol => { symbol with declarationSuffix := none }
    let registry ← get
    let declaration ← ((registry.symbol id).sanitizedDeclaration? registry
      (some ["intent", "public", "save", "allocatable"]) : Outcome _)
    return compaction.add id kind declaration) {}

def array? (compaction : Compaction) (callee scope : String) : RegistryM (Option SymbolId) := do
  if compaction.packed.isEmpty then return none
  let domains ← Registry.fresh [(⟨"hfauto", toString compaction.packed.length⟩ : Domain)]
  let id ← Registry.frameworkArray callee (compaction.declaration.getD "") domains true
  Registry.change id fun symbol =>
    { symbol with
      scopeNameOverride := some scope
      form := .framework callee (some compaction.packed) }
  return some id

end Compaction

open Xml

def Fault.inRoutine (refusal : Refusal) (routine : String) (fault : Fault) : Fault :=
  let outer := Fault.routine (.inRoutine refusal routine fault.message)
  match fault.defect? with
  | some _ => .during outer fault
  | none => outer

namespace Work

def prepareCall? (caller : RoutineBody) : Region → Work (Region × Option (String × String))
  | .call _ none _ => throw (.defect .missingPart)
  | .call lines (some callee) _ => do
    let session ← get
    let routine := session.routine callee
    return (.call lines (some callee) caller.symbols,
      some (routine.name, session.calleeName caller routine))
  | region => return (region, none)

def prepareRegion (caller : RoutineBody) : Region → Work (Region × List (String × String))
  | .parallel template parts => do
    let parts ← parts.mapM (prepareCall? caller)
    return (.parallel template (parts.map Prod.fst), parts.filterMap Prod.snd)
  | region => do
    let (region, name) ← prepareCall? caller region
    return (region, name.toList)

def prepareCalls (id : RoutineId) : Work Unit := do
  let body ← body id
  let prepared ← body.regions.mapM (prepareRegion body)
  changeBody id fun body =>
    { body with
      regions := prepared.map Prod.fst
      calleeNames := some (Table.ofList (prepared.flatMap Prod.snd)) }

def analysedCallees (body : RoutineBody) : Work (List RoutineId) := do
  let session ← get
  return body.callees.filter fun callee => (session.routine callee).body.isSome

def notAlive (id : RoutineId) (ids : List SymbolId) : Work (List SymbolId) := do
  let symbols ← symbolsOf id
  let name := (← routine id).name
  ids.filterM fun id => do
    match (← symbol id).analysis with
    | none => return true
    | some analysis => do
      let key ← onRegistry (Registry.ask id Symbol.uniqueName)
      return !symbols.contains key && (analysis.positions.get? name).isNone

def moduleArraysFor (callee : String) : Work (List SymbolId) := do
  let session ← get
  let analyses := ((session.analysis.get? callee).getD .empty).values.flatten.filter fun analysis =>
    analysis.kind.isModuleSymbol
  let found := analyses.filterMap fun analysis => do
    let source ← analysis.sourceModule
    let symbols ← session.moduleSymbols.get? source
    return (analysis, ← symbols.get? analysis.name)
  found.forM fun (analysis, id) =>
    Registry.change id fun symbol => { symbol with analysis := some analysis }
  return found.map Prod.snd

structure CalleeParameters where
  byKernel : Table String (List SymbolId × List SymbolId) := .empty
  printed : Table String (List SymbolId) := .empty
  added : List SymbolId := []

def calledRoutine (body : RoutineBody) (callee : RoutineId) : Work RoutineId := do
  let session ← get
  let name := (session.routine callee).name
  let adjusted := ((body.calleeNames.getD .empty).get? name).getD name
  return (session.routinesByName.get? adjusted).getD callee

def addCalleeParameters (id : RoutineId) (body : RoutineBody) (parameters : CalleeParameters)
    (callee : RoutineId) : Work CalleeParameters := do
  let calleeBody ← Work.body callee
  let name := (← routine callee).name
  if (← routine id).moduleName != (← routine callee).moduleName then return parameters
  let backend ← backend calleeBody.backend
  let found ← kernelParameters backend id (← calledRoutine body callee)
  let printed ←
    if ← (backend.printsDebug : Outcome _) then do
      let alive ← notAlive id (← moduleArraysFor name)
      let session ← get
      let named := alive.map fun id => ((session.symbol id).name, id)
      pure (parameters.printed.set name (Table.ofList named).values)
    else pure parameters.printed
  return {
    byKernel := parameters.byKernel.set name (found.imports, found.declarations ++ found.dummies)
    printed
    added := parameters.added ++ found.all }

def shareWithCallee (id : RoutineId) (parameters : CalleeParameters)
    (declarations : Table String (Option String)) (callee : RoutineId) :
    Work (Table String (Option String)) := do
  let name := (← routine callee).name
  let scope := (← routine id).name
  let (imports, added) := (parameters.byKernel.get? name).getD ([], [])
  let compaction ← onRegistry (Compaction.ofSymbols (imports ++ added))
  let packed ← onRegistry (Registry.sorted compaction.packed)
  let array ← onRegistry (Compaction.array? { compaction with packed } name scope)
  let additional ← onRegistry (Registry.sorted (compaction.others ++ array.toList))
  changeBody callee fun body => { body with additionalArguments := some additional }
  if packed.isEmpty then return declarations
  changeBody id fun body =>
    { body with
      packed := body.packed.set name packed
      synthesized := body.synthesized.map (· ++ array.toList) }
  return declarations.set name compaction.declaration

def positionSymbols (id : RoutineId) : Work Unit := do
  let body ← body id
  let position ← position body.node
  (← symbolsOf id).values.forM fun symbol => do
    Registry.change symbol fun symbol => { symbol with position := some position }
    Registry.loadRoutine symbol body.node (body.regionTemplates.getD []) none

def uniqueKeys (ids : List SymbolId) : Work (List (String × SymbolId)) :=
  ids.mapM fun id => do return (← onRegistry (Registry.ask id Symbol.uniqueName), id)

def setContext (context : SpecificationContext) : List Region → Outcome (List Region)
  | .specification lines dataLines _ typeParameters :: regions =>
    .ok (.specification lines dataLines (some context) typeParameters :: regions)
  | _ => .error (.defect .missingPart)

structure OwnParameters where
  all : List SymbolId
  arguments : List SymbolId
  compacted : List SymbolId

variable (id : RoutineId)

def ownParameters : Work OwnParameters := do
  let name := (← routine id).name
  let own ← kernelParameters (← backend (← body id).backend) id id
  changeBody id fun body => { body with synthesized := some own.all }
  let _ ← uniqueKeys own.all
  let compaction ← onRegistry (Compaction.ofSymbols own.all)
  let compacted ← onRegistry (Registry.sorted compaction.packed)
  let array ← onRegistry (Compaction.array? { compaction with packed := compacted } name name)
  let sorted ← onRegistry (Registry.sorted (compaction.others ++ array.toList))
  let session ← get
  let arguments := sorted.filter fun id => isGiven (session.symbol id).declaration
  changeBody id fun body => { body with additionalArguments := some arguments }
  return ⟨own.all, arguments, compacted⟩

def importsFor (parameters : CalleeParameters) : Work (List SymbolId) := do
  let ids := parameters.byKernel.values.flatMap Prod.fst ++ parameters.printed.values.flatten
  let alive ← notAlive id ids
  let named ← alive.mapM fun id => do return (← onRegistry (Registry.nameInScope id), id)
  return (Table.ofList named).values

def loadContext : Work Unit := do
  positionSymbols id
  let own ← ownParameters id
  let start ← body id
  let callees ← analysedCallees start
  let isInside := (← position start.node) == "inside"
  let parameters ←
    if isInside then callees.foldlM (addCalleeParameters id start) {} else pure {}
  changeBody id fun body =>
    { body with synthesized := body.synthesized.map (· ++ parameters.added) }
  let known ← uniqueKeys (own.all ++ parameters.added)
  let updated := (← uniqueKeys (← symbolsOf id).values).foldl (fun table (key, symbol) =>
    (table.setDefault key symbol).2) (Table.ofList known)
  let imports ← importsFor id parameters
  changeBody id fun body =>
    { body with
      symbolsToUpdate := some updated.values
      additionalImports := some imports }
  let declarations ← callees.foldlM (shareWithCallee id parameters) .empty
  let body ← body id
  let regions ← (setContext
    { kernelParameters := parameters.byKernel
      added := own.arguments ++ own.compacted
      compactionDeclarations := declarations
      compacted := own.compacted
      imports := body.imports } body.regions : Outcome _)
  changeBody id fun body => { body with regions }

def prepareContext : Work Unit := do
  let session ← get
  let name := (session.routine id).name
  if !(← body id).knowsProgram || session.moduleNodes.isEmpty || session.analysis.isEmpty ||
      session.moduleSymbols.isEmpty then
    throw (.routine (.programNotLoaded name))
  try loadContext id
  catch fault => throw (fault.inRoutine .general name)

end Work

end ParallelFortran
