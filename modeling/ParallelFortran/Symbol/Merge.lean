import ParallelFortran.Symbol.Loading

/-! Merging of what two symbols know, and copies of symbols. -/

namespace ParallelFortran

open Xml

namespace Symbol

def mergeDomain? (mine other : Domain) : Option Domain :=
  if mine.size == ":" then some other
  else if mine.size != other.size then none
  else if mine.name == other.name then some mine
  else if mine.name == "HF_GENERIC_DIM" then some other
  else if other.name == "HF_GENERIC_DIM" then some mine
  else none

def mergeEach? : List Domain → List Domain → Option (List Domain)
  | mine :: rest, other :: others => do
    let merged ← mergeDomain? mine other
    return merged :: (← mergeEach? rest others)
  | _, _ => some []

def mergedDomains? (mine other : List Domain) : Option (List Domain) :=
  if mine.isEmpty || other.isEmpty || mine.length != other.length then none
  else if mine.head? == other.head? then none
  else mergeEach? mine other

def transferAttribute (mine other : List String) : List String :=
  match ["transferHere", "present", "host"].find? fun name =>
    mine.contains name || other.contains name with
  | some name => [name]
  | none => []

def mergeAttributes (mine other : List String) : List String :=
  let others := (mine ++ other).filter fun name => ["present", "host", "transferHere"].all (· != name)
  (OrderedSet.ofList (transferAttribute mine other ++ others)).members

def orOther {α : Type} (mine other : List α) : List α :=
  if mine.isEmpty then other else mine

/-- Everything that is merged without a look at the document. What this symbol knows goes before what
the other one knows. -/
def mergeFields (mine other : Symbol) : Symbol :=
  { mine with
    isDeclaredExplicitly := mine.isDeclaredExplicitly || other.isDeclaredExplicitly
    hasUndecidedSizes := mine.hasUndecidedSizes || other.hasUndecidedSizes
    isMatched := mine.isMatched || other.isMatched
    isTypeParameter := mine.isTypeParameter || other.isTypeParameter
    isDimensionParameter := mine.isDimensionParameter || other.isDimensionParameter
    declaration := preferGiven mine.declaration other.declaration
    sourceModuleName := preferGiven mine.sourceModuleName other.sourceModuleName
    sourceName := preferGiven mine.sourceName other.sourceName
    regionTemplates := mine.regionTemplates.or other.regionTemplates
    declaredSizes := mine.declaredSizes.or other.declaredSizes
    isAutoDom := mine.isAutoDom || other.isAutoDom
    isCompacted := mine.isCompacted || other.isCompacted
    domainMacro := preferGiven mine.domainMacro other.domainMacro
    accessMacro := preferGiven mine.accessMacro other.accessMacro
    analysis := mine.analysis.or other.analysis
    kindOverride := mine.kindOverride.or other.kindOverride
    templateDomains := mine.templateDomains.or other.templateDomains
    domains := if mine.domains.value.isEmpty && !other.domains.value.isEmpty then other.domains
      else mine.domains
    kernelDomains := orOther mine.kernelDomains other.kernelDomains
    inactiveSizes :=
      if mine.inactiveSizes.value.isEmpty && !other.inactiveSizes.value.isEmpty then
        other.inactiveSizes
      else mine.inactiveSizes
    kernelSizes := if mine.kernelSizes.isEmpty then other.kernelSizes else mine.kernelSizes
    globalDomains := orOther mine.globalDomains other.globalDomains }

def isMergeable (mine other : Symbol) : Bool :=
  mine.name == other.name || mine.sourceSymbol == some other.name ||
    some mine.name == other.sourceSymbol

end Symbol

namespace Registry

def merge (id otherId : SymbolId) : RegistryM Unit := do
  let mine ← find id
  let other ← find otherId
  if !mine.isMergeable other then throw (.symbol (.notTheSame mine.name other.name))
  change id fun symbol => symbol.mergeFields other
  match Symbol.mergedDomains? mine.domains.value other.domains.value with
  | some domains => setDomains id domains
  | none => pure ()
  let merged ← find id
  let regions := merged.regionTemplates.getD []
  if merged.isAutoDom && !(← find otherId).isAutoDom && !regions.isEmpty then
    match other.template with
    | none => throw (.defect .missingPart)
    | some template => do
      let domains ← (CallGraph.dependantDomains (← get).store template : Outcome _)
      loadDomains id (some domains) regions
  let attributes := Symbol.mergeAttributes (mine.attributes.getD []) (other.attributes.getD [])
  change id fun symbol => { symbol with attributes := some attributes }
  setOptions id attributes
  raiseStage id (← find otherId).stage
  checkDomains id

def clonePlain (id : SymbolId) : RegistryM SymbolId := do
  let symbol ← find id
  let copy ← newSymbol symbol.name symbol.template
    (symbol.entry.map fun entry => ⟨entry, symbol.scope⟩) symbol.analysis
    (symbol.regionTemplates.getD []) symbol.globalDomains
  merge copy id
  let symbol ← find id
  change copy fun copy =>
    { copy with
      intent := symbol.intent
      isConstant := symbol.isConstant
      scope := symbol.scope
      attributes := symbol.attributes
      position := symbol.position
      usesDeviceName := symbol.usesDeviceName
      isOnDevice := symbol.isOnDevice
      isModuleSymbol := symbol.isModuleSymbol
      isForcedArgument := symbol.isForcedArgument
      scopeNameOverride := symbol.scopeNameOverride
      scopedName := symbol.scopedName
      isUserSpecified := symbol.isUserSpecified
      isMarkedPresent := symbol.isPresent
      isMarkedHost := symbol.isHost
      isTransferred := symbol.isTransferred
      residingModuleOverride := symbol.residingModuleOverride
      typeParameters := symbol.typeParameters }
  return copy

def cloneFramework (id : SymbolId) (callee : String) (compacted : Option (List SymbolId)) :
    RegistryM SymbolId := do
  let symbol ← find id
  let copy ← frameworkArray callee (symbol.declaration.getD "") symbol.domains symbol.isOnDevice
  change copy fun copy =>
    { copy with
      form := .framework callee compacted
      isMatched := symbol.isMatched
      isConstant := symbol.isConstant
      kindOverride := symbol.kindOverride
      attributes := symbol.attributes }
  return copy

def clone (id : SymbolId) : RegistryM SymbolId := do
  match (← find id).form with
  | .plain => clonePlain id
  | .framework callee compacted => cloneFramework id callee compacted

end Registry

end ParallelFortran

namespace ParallelFortran

open Xml
open CallGraph (AnalysisTable)

structure Surroundings where
  document : Document
  regions : List NodeId := []
  moduleName : Option String := none
  symbols : Table String SymbolId := .empty
  analysis : AnalysisTable := .empty
  globalDomains : List String := []

namespace Registry

variable (around : Surroundings)

def specifiedBefore? (loaded : Table String SymbolId) (store : Store) (name : String)
    (entry : NodeId) : Option SymbolId :=
  let key := Naming.unique name (store.value entry "nameOfScope")
  let inModule := do
    let moduleName ← around.moduleName
    if store.value entry "isDeclaredExplicitely" == "yes" || moduleName.isEmpty then none
    around.symbols.get? (Naming.unique name moduleName)
  (loaded.get? key).or ((around.symbols.get? key).or inModule)

def loadSpecified (parent : NodeId) (loaded : Table String SymbolId) (template entry : NodeId) :
    RegistryM (Table String SymbolId) := do
  let name ← (CallGraph.entryText (← get).store entry : Outcome _)
  let parentName := (← get).store.value parent "name"
  let id ← newSymbol name (some template) (some ⟨entry, some parent⟩)
    (around.analysis.first? parentName name) around.regions around.globalDomains
  match specifiedBefore? around loaded (← get).store name entry with
  | some known => do
    merge id known
    let isModuleSymbol := (← find known).isModuleSymbol
    change id fun symbol => { symbol with isModuleSymbol }
  | none => pure ()
  change id fun symbol => { symbol with isUserSpecified := false }
  let key ← ask id Symbol.uniqueName
  (← find id).typeParameters.value.forM fun parameter =>
    change parameter.2 fun symbol => { symbol with isUserSpecified := false }
  return loaded.set key id

def loadScope (parent : NodeId) : RegistryM (Table String SymbolId) := do
  let entries ← onStore (CallGraph.dependants around.document parent)
  if ((← get).store.value parent "name").isEmpty then throw (.scope .parentWithoutName)
  entries.foldlM (fun loaded (template, entry) =>
    loadSpecified around parent loaded template entry) .empty

def loadModules (document : Document) (modules : Table String NodeId) (analysis : AnalysisTable) :
    RegistryM (Table String (Table String SymbolId)) :=
  modules.entries.foldlM (fun loaded (name, node) => do
    let symbols ← loadScope { document, analysis } node
    symbols.values.forM fun id =>
      change id fun symbol => { symbol with sourceModuleName := some name }
    return loaded.set name symbols) .empty

def loadRoutines (document : Document) (routines : Table String NodeId)
    (regions : Table String (List NodeId)) (analysis : AnalysisTable) :
    RegistryM (Table String (Table String SymbolId)) :=
  routines.values.foldlM (fun loaded node => do
    let name := (← get).store.value node "name"
    let symbols ← loadScope
      { document, analysis, regions := (regions.get? name).getD [] } node
    return loaded.set name symbols) .empty

end Registry

end ParallelFortran
