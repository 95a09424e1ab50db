import ParallelFortran.Symbol.Registry

/-! Loading of symbols from templates, from entries of the document, from the scope they stand in,
from declarations and from imports. -/

namespace ParallelFortran

open Xml

structure RoutineView where
  isOnDevice : Bool
  hasRegions : Bool
  kernelUses : Table String Nat

namespace Symbol

def hasDuplicateDomains : List Domain → Bool
  | [] => false
  | domain :: domains =>
    (!Text.startsWith domain.name "HF_" && domains.any fun other => other.name == domain.name) ||
      hasDuplicateDomains domains

def expectedCounts (symbol : Symbol) : List Nat :=
  let inactive := symbol.inactiveSizes.value.length
  let kernel := symbol.kernelDomains.length
  [inactive, (symbol.templateDomains.getD []).length, (symbol.declaredSizes.getD []).length,
    if inactive == 0 || kernel == 0 then 0 else inactive + kernel]

def checkDomains (symbol : Symbol) : Outcome Unit := do
  match (symbol.declaredSizes.getD []).find? String.isEmpty with
  | some size => throw (.symbol (.invalidSize symbol.name size))
  | none => pure ()
  let domains := symbol.domains.value
  if hasDuplicateDomains domains then throw (.symbol (.duplicateDomains symbol.name domains))
  if symbol.stage.number ≥ LoadStage.scope.number then
    if !symbol.isAutoDom && (symbol.position == some "within" || symbol.position == some "inside") then
      match symbol.templateDomains with
      | none => throw (.defect .wrongKind)
      | some template =>
        if domains.length != template.length then
          throw (.symbol (.manualDomains symbol.name template domains))
    if symbol.isAutoDom && (!symbol.isPositioned || symbol.position == some "outside") &&
        !symbol.expectedCounts.contains domains.length then
      throw (.symbol (.autoDomains symbol.name symbol.templateDomains symbol.declaredSizes domains
        symbol.activeKernelDomains symbol.inactiveSizes.value))
  if symbol.stage == .declaration && symbol.declaredSizes.isNone then
    throw (.symbol (.noDimensions symbol.name))

/-! Domains of parallel regions -/

abbrev NamesBySize := Table String (List String)

def addName (names : NamesBySize) (domain : Domain) : NamesBySize :=
  let known := (names.get? domain.size).getD []
  names.set domain.size (if known.contains domain.name then known else known ++ [domain.name])

def addSize (sizes : Table String (List String)) (name size : String) : Table String (List String) :=
  let known := (sizes.get? name).getD []
  sizes.set name (if known.contains size then known else known ++ [size])

def tentativeDomains? (symbol : Symbol) (template : Option (List Domain)) : Option (List Domain) :=
  let declared := symbol.declaredSizes.getD []
  let specified := template.getD []
  if symbol.isAutoDom && specified.isEmpty && symbol.domains.value.isEmpty && !declared.isEmpty then
    some (declared.map fun size => ⟨"HF_IMPORTED_UNKNOWN_DIM", size⟩)
  else if symbol.isAutoDom then some symbol.domains.value
  else template

def takeName (names : NamesBySize) (size : String) : Option String × NamesBySize :=
  match (names.get? size).getD [] with
  | [] => (none, names)
  | name :: rest => (some name, names.set size rest)

/-- The parallel domains among those of a symbol. A domain without a name of its own takes the next
name that a region has for its size. -/
def kernelDomainsOf (regionSizes : Table String (List String)) : NamesBySize → List Domain → List String
  | _, [] => []
  | names, domain :: domains =>
    if regionSizes.contains domain.name then
      domain.name :: kernelDomainsOf regionSizes names domains
    else if Text.contains domain.name "HF_" && names.contains domain.size then
      match takeName names domain.size with
      | (some name, names) => name :: kernelDomainsOf regionSizes names domains
      | (none, names) => kernelDomainsOf regionSizes names domains
    else kernelDomainsOf regionSizes names domains

def nameDomains : NamesBySize → List Domain → List Domain
  | _, [] => []
  | names, domain :: domains =>
    if domain.size == ":" && domain.name != "HF_IMPORTED_UNKNOWN_DIM" then nameDomains names domains
    else
      match names.get? domain.size with
      | none => domain :: nameDomains names domains
      | some _ =>
        match takeName names domain.size with
        | (some name, names) => ⟨name, domain.size⟩ :: nameDomains names domains
        | (none, names) => domain :: nameDomains names domains

structure MatchedDomains where
  domains : List Domain
  kernelDomains : List String
  inactiveSizes : List String
  kernelSizes : Table String (List String)

def matchDomains (tentative template : List Domain) (regionSizes : Table String (List String))
    (regionNames : NamesBySize) : MatchedDomains :=
  let ordered := if template.isEmpty then tentative else template
  let allNames := ordered.foldl addName regionNames
  let kernelDomains := kernelDomainsOf regionSizes regionNames ordered
  let missing := ordered.filter fun domain =>
    !tentative.any fun other => other.size == domain.size
  let domains := missing ++ nameDomains allNames tentative
  let inactive := domains.filter fun domain =>
    !kernelDomains.contains domain.name && !regionNames.contains domain.size
  let kernelSizes := domains.foldl (fun sizes domain =>
    ((allNames.get? domain.size).getD []).foldl (fun sizes name =>
      if sizes.contains name then addSize sizes name domain.size else sizes) sizes) regionSizes
  ⟨domains, kernelDomains, inactive.map Domain.size, kernelSizes⟩

variable (symbol : Symbol)

def allowsDroppingDomains (routine : RoutineView) : Bool :=
  !routine.isOnDevice && !Text.contains symbol.name "%" && symbol.position != some "inside" &&
    (symbol.position != some "within" ||
      ((!routine.hasRegions || (routine.kernelUses.get? symbol.name).getD 0 ≤ 1) &&
        ["in", "out", "inout"].all fun intent => symbol.intent != some intent)) &&
    (symbol.declaredSizes.getD []).all fun size =>
      symbol.domains.value.any fun domain => domain.size == size

def unpositionedDomains : List Domain :=
  match symbol.isPositioned, symbol.declaredSizes with
  | false, some sizes => sizes.map fun size => ⟨"HF_GENERIC_PARALLEL_INACTIVE_DIM", size⟩
  | _, _ =>
    symbol.domains.value.filter fun domain =>
      !symbol.kernelDomains.contains domain.name ||
        (symbol.declaredSizes.getD []).contains domain.size

def consistentDomains : List Domain :=
  symbol.domains.value.filter fun domain =>
    symbol.activeKernelDomains.contains domain.name ||
      symbol.inactiveSizes.value.contains domain.size || domain.size == ":"

end Symbol

/-! Loading -/

namespace Registry

variable (id : SymbolId)

def checkDomains : RegistryM Unit :=
  ask id fun _ symbol => symbol.checkDomains

def raiseStage (stage : LoadStage) : RegistryM Unit :=
  change id fun symbol => { symbol with stage := symbol.stage.max stage }

def setOptions (attributes : List String) : RegistryM Unit :=
  let lowered := attributes.map Text.lower
  change id fun symbol =>
    { symbol with
      isMarkedPresent := symbol.isMarkedPresent || lowered.contains "present"
      isAutoDom := symbol.isAutoDom || lowered.contains "autodom"
      isMarkedHost := symbol.isMarkedHost || lowered.contains "host"
      isTransferred := symbol.isTransferred || lowered.contains "transferhere" }

def loadTemplate (template : NodeId) : RegistryM Unit := do
  let symbol ← find id
  if symbol.stage.number > LoadStage.entry.number then
    throw (.symbol (.lateTemplate symbol.name symbol.stage.number))
  change id fun symbol => { symbol with template := some template }
  let attributes ← (CallGraph.attributesOf (← get).store template : Outcome _)
  change id fun symbol => { symbol with attributes := some attributes }
  setOptions id attributes
  raiseStage id .template

def storeEntry (other : Option NodeId) : RegistryM NodeId := do
  let symbol ← find id
  match other.or symbol.entry with
  | none => throw (.symbol (.noEntry symbol.name))
  | some entry => do
    let setGiven (name : String) (value : Option String) : RegistryM Unit :=
      match value.filter (! ·.isEmpty) with
      | some value => onStore (setAttribute entry name value)
      | none => pure ()
    let setTruth (name : String) (value : Bool) : RegistryM Unit :=
      onStore (setAttribute entry name (if value then "yes" else "no"))
    setGiven "intent" symbol.intent
    setGiven "declarationPrefix" symbol.declaration
    setGiven "_sourceModuleIdentifier" symbol.sourceModuleName
    setGiven "sourceSymbol" symbol.sourceSymbol
    setTruth "isDeclaredExplicitely" symbol.isDeclaredExplicitly
    setTruth "isUsingDevicePostfix" symbol.usesDeviceName
    setTruth "hasUndecidedDomainSizes" symbol.hasUndecidedSizes
    let sizes := symbol.domains.value.map Domain.size
    if !sizes.isEmpty then
      onStore (setAttribute entry "declaredDimensionSizes" (Text.join "," sizes))
    return entry

def loadEntry (entry : NodeId) : RegistryM Unit := do
  let store := (← get).store
  let orEntry (known : Option String) (name : String) : Option String :=
    if isGiven known then known else some (store.value entry name)
  let isYes (name : String) : Bool := store.value entry name == "yes"
  change id fun symbol =>
    let sourceModuleName := orEntry symbol.sourceModuleName "_sourceModuleIdentifier"
    let sizes := store.value entry "declaredDimensionSizes"
    { symbol with
      scopedName := some symbol.name
      intent := orEntry symbol.intent "intent"
      declaration := orEntry symbol.declaration "declarationPrefix"
      sourceModuleName :=
        if symbol.isModuleSymbol && !isGiven sourceModuleName then some localModule
        else sourceModuleName
      sourceName := orEntry symbol.sourceSymbol "sourceSymbol"
      hasUndecidedSizes := isYes "hasUndecidedDomainSizes"
      usesDeviceName := isYes "isUsingDevicePostfix"
      isDeclaredExplicitly := isYes "isDeclaredExplicitely"
      declaredSizes :=
        if !sizes.isEmpty && symbol.declaredSizes.isNone then some (Text.split "," sizes)
        else symbol.declaredSizes }
  let symbol ← find id
  let declared := symbol.declaredSizes.getD []
  if !declared.isEmpty && symbol.stage.number < LoadStage.scope.number then
    let sizes := declared.filter (! Text.isBlankText ·)
    setDomains id (sizes.map fun size => ⟨"HF_GENERIC_DIM", size⟩)
    sizes.forM (addInactiveSize id)
  raiseStage id .entry
  checkDomains id

def loadDeclarationText (text : Option String) : RegistryM Unit :=
  match text.filter (! Text.isBlankText ·) with
  | some text => change id fun symbol => { symbol with declaration := some text }
  | none => pure ()

def loadRegionDomains (regions : List NodeId) : RegistryM Symbol.NamesBySize :=
  regions.foldlM (fun names region => do
    let domains ← (CallGraph.dependantDomains (← get).store region : Outcome _)
    change id fun symbol =>
      { symbol with
        kernelSizes := domains.foldl (fun sizes domain =>
          Symbol.addSize sizes domain.name domain.size) symbol.kernelSizes }
    return domains.foldl Symbol.addName names) .empty

def loadDomains (template : Option (List Domain)) (regions : List NodeId) : RegistryM Unit := do
  let symbol ← find id
  change id fun symbol =>
    { symbol with kernelDomains := [], kernelSizes := .empty, templateDomains := template }
  setInactiveSizes id []
  let tentative ← match symbol.tentativeDomains? template with
    | some tentative => pure tentative
    | none => throw (.symbol (.noTentativeDomains symbol.name))
  let regionNames ← loadRegionDomains id regions
  let result :=
    Symbol.matchDomains tentative (template.getD []) (← find id).kernelSizes regionNames
  change id fun symbol =>
    { symbol with kernelDomains := result.kernelDomains, kernelSizes := result.kernelSizes }
  setDomains id result.domains
  setInactiveSizes id result.inactiveSizes

def dropUndeclaredDomains : RegistryM Unit := do
  let symbol ← find id
  let isDeclared (size : String) : Outcome Bool :=
    match symbol.declaredSizes with
    | some sizes => .ok (sizes.contains size)
    | none => .error (.defect .wrongKind)
  let kernelDomains ← symbol.kernelDomains.filterM fun name =>
    (((symbol.kernelSizes.get? name).getD []).anyM isDeclared : Outcome _)
  change id fun symbol => { symbol with kernelDomains }
  setDomains id (← symbol.domains.value.filterM fun domain => (isDeclared domain.size : Outcome _))
  match symbol.templateDomains with
  | none => throw (.defect .wrongKind)
  | some domains => do
    let domains ← domains.filterM fun domain => (isDeclared domain.size : Outcome _)
    change id fun symbol => { symbol with templateDomains := some domains }

def adjustDomains (routine : Option RoutineView) : RegistryM Unit := do
  let symbol ← find id
  if !symbol.isPositioned || symbol.position == some "outside" then
    let domains := symbol.unpositionedDomains
    setDomains id domains
    setInactiveSizes id (domains.map Domain.size)
  let symbol ← find id
  if routine.any symbol.allowsDroppingDomains then dropUndeclaredDomains id
  else setDomains id symbol.consistentDomains

def loadTemplateAttributes (regions : List NodeId) (routine : Option RoutineView) :
    RegistryM Unit := do
  let symbol ← find id
  if symbol.stage == .nothing then
    throw (.symbol (.earlyTemplate symbol.name symbol.stage.number))
  match symbol.template with
  | none => throw (.defect .missingPart)
  | some template => do
    let store := (← get).store
    let domains ← (CallGraph.dependantDomains store template : Outcome _)
    loadDeclarationText id
      (← (CallGraph.property? store template "declarationPrefix" : Outcome _))
    loadDomains id (some domains) regions
    adjustDomains id routine

def updateNameInScope (force : Bool) (residingModule : Option String) : RegistryM Unit := do
  change id fun symbol =>
    { symbol with
      scopedName := none
      residingModuleOverride :=
        (residingModule.filter (! ·.isEmpty)).or symbol.residingModuleOverride }
  let symbol ← find id
  let name ←
    if !force && symbol.isUserSpecified then pure symbol.name
    else ask id fun store symbol => symbol.automaticName store force
  change id fun symbol => { symbol with scopedName := some name }

def requireEntry : RegistryM Unit := do
  let symbol ← find id
  if symbol.stage.number < LoadStage.entry.number then
    throw (.symbol (.scopeBeforeEntry symbol.name))

def loadModule (moduleNode : NodeId) : RegistryM Unit := do
  requireEntry id
  change id fun symbol => { symbol with scope := some moduleNode }
  loadTemplateAttributes id [] none
  updateNameInScope id false none
  raiseStage id .scope
  checkDomains id

def loadRoutine (routineNode : NodeId) (regions : List NodeId) (routine : Option RoutineView) :
    RegistryM Unit := do
  requireEntry id
  change id fun symbol => { symbol with scope := some routineNode }
  if (← ask id fun store symbol => symbol.scopeName store).isEmpty then
    throw (.symbol (.scopeWithoutName ((← get).store.toText routineNode)))
  change id fun symbol => { symbol with regionTemplates := some regions }
  loadTemplateAttributes id regions routine
  updateNameInScope id false none
  raiseStage id .scope
  checkDomains id

structure Origin where
  entry : NodeId
  scope : Option NodeId

def loadOrigin (origin : Origin) (regions : List NodeId) : RegistryM Unit := do
  match origin.scope with
  | none => throw (.defect .missingPart)
  | some scope => do
    let isModuleSymbol := (← get).store.tag? scope == some "module"
    change id fun symbol => { symbol with isModuleSymbol }
    loadEntry id origin.entry
    if isModuleSymbol then loadModule id scope else loadRoutine id scope regions none

def blank (name : String) : RegistryM SymbolId := do
  if name.isEmpty then throw (.symbol .noName)
  let typeParameters ← fresh []
  let registry ← get
  add { name, typeParameters, domains := ⟨0, registry.initialDomains⟩
        inactiveSizes := ⟨0, registry.initialSizes⟩ }

def newSymbol (name : String) (template : Option NodeId) (origin : Option Origin)
    (analysis : Option CallGraph.SymbolAnalysis) (regions : List NodeId)
    (globalDomains : List String) : RegistryM SymbolId := do
  let id ← blank name
  change id fun symbol =>
    { symbol with analysis, globalDomains, entry := origin.map Origin.entry }
  match template with
  | some template => loadTemplate id template
  | none => pure ()
  match origin with
  | some origin => loadOrigin id origin regions
  | none => pure ()
  return id

def foreignSymbol (sourceModule name source : String) (template : Option NodeId) :
    RegistryM SymbolId := do
  let id ← newSymbol name template none none [] []
  change id fun symbol =>
    { symbol with
      scopedName := some name
      sourceModuleName := some sourceModule
      sourceName := some source }
  return id

def frameworkArray (callee declaration : String) (domains : Shared (List Domain))
    (isOnDevice : Bool) : RegistryM SymbolId := do
  if callee.isEmpty then throw (.symbol .noFrameworkName)
  if declaration.isEmpty then throw (.symbol .noFrameworkDeclaration)
  if domains.value.length != 1 then throw (.symbol .frameworkShape)
  let name := Naming.frameworkArray callee
  let id ← blank name
  change id fun symbol =>
    { symbol with
      form := .framework callee none
      domains
      isMatched := true
      isOnDevice
      isConstant := true
      declaration := some declaration
      kindOverride := some .frameworkArray
      scopedName := some name
      attributes := some [] }
  return id

/-! Declarations -/

def declaredIntent (specification : Specification) (name : String) (arguments : List String) :
    Option String :=
  match (Pattern.Fortran.intent.match? specification.declaration).map fun found => found.group 1 with
  | some intent =>
    if !Text.isBlankText intent then some intent
    else if arguments.contains name then none
    else some "local"
  | none => if arguments.contains name then none else some "local"

def addDeclaredDomains (name : String) (known sizes : List String) : RegistryM Unit :=
  (sizes.filter fun size => !known.contains size).forM fun size => do
    addDomain id ⟨name, size⟩
    addInactiveSize id size

def loadDeclaredSizes (sizes : List String) : RegistryM Unit := do
  let symbol ← find id
  let known := symbol.domains.value.map Domain.size
  if symbol.isAutoDom && symbol.hasUndecidedSizes then
    if known.isEmpty then addDeclaredDomains id "HF_GENERIC_UNKNOWN_DIM" known sizes
    else if sizes.length != known.length then
      throw (.symbol (.pointerShape symbol.name symbol.domains.value sizes
        symbol.activeKernelDomains symbol.inactiveSizes.value))
  else if symbol.isAutoDom then
    addDeclaredDomains id "HF_GENERIC_PARALLEL_INACTIVE_DIM" known sizes

def checkDeclaredSizes (sizes : List String) : RegistryM Unit := do
  let symbol ← find id
  if symbol.domains.value.length < sizes.length then
    match symbol.template with
    | none => throw (.defect .missingPart)
    | some template =>
      throw (.symbol (.unmatchedSizes symbol.name sizes symbol.domains.value
        symbol.activeKernelDomains symbol.inactiveSizes.value symbol.position
        ((← get).store.toText template)))

def sizesOf (dimension : Option String) : List String :=
  match dimension with
  | none => []
  | some dimension => ((Text.split "," dimension).map Text.strip).filter (! ·.isEmpty)

def loadDeclaration (specification : Option Specification) (arguments : List String)
    (scopeName : String) : RegistryM Unit := do
  let symbol ← find id
  if symbol.stage == .nothing then
    throw (.symbol (.earlyDeclaration symbol.name symbol.stage.number))
  change id fun symbol =>
    { symbol with
      scopedName := some symbol.name
      scopeNameOverride := some scopeName
      isDeclaredExplicitly := true }
  match specification with
  | none => throw (.defect .wrongKind)
  | some specification => do
    let line := specification.declaration ++ " :: " ++
      Text.join ", " (specification.objects.map Specification.objectText) ++ " " ++
      specification.remainder
    let declaration ← (Specification.purge ["dimension"]
      (Text.stripRight specification.declaration ++ " ::") : Outcome _)
    change id fun symbol =>
      { symbol with
        declaration := some declaration
        intent := (declaredIntent specification symbol.name arguments).or symbol.intent }
    let dimension ← (specification.dimension symbol.name : Outcome _)
    let hasUndecidedSizes ←
      if symbol.pointerOrAllocatable.accepts line then
        match dimension with
        | none => throw (.defect .wrongKind)
        | some dimension => pure (Text.contains dimension ":")
      else pure false
    let sizes := sizesOf dimension
    change id fun symbol =>
      { symbol with
        hasUndecidedSizes
        declarationSuffix := some (Text.strip specification.remainder)
        declaredSizes := some sizes }
    loadDeclaredSizes id sizes
    if !hasUndecidedSizes then adjustDomains id none
    checkDeclaredSizes id sizes
    if !hasUndecidedSizes then
      setDomains id (Domain.reorder (← find id).domains.value sizes)
    raiseStage id .declaration
    checkDomains id

def entryFor? (store : Store) (name : Option String) :
    List (NodeId × NodeId) → Outcome (Option (NodeId × NodeId))
  | [] => .ok none
  | (template, entry) :: rest => do
    if some (← CallGraph.entryText store entry) == name then return some (template, entry)
    else entryFor? store name rest

def loadImport (document : Document) (moduleNode : NodeId) (source : Option String) :
    RegistryM Unit := do
  let symbol ← find id
  if symbol.stage == .nothing then
    throw (.symbol (.earlyImport symbol.name symbol.stage.number))
  let moduleName := (← get).store.value moduleNode "name"
  change id fun symbol =>
    { symbol with
      sourceModuleName := some moduleName
      scopedName := some symbol.name
      sourceName := source.or symbol.sourceName }
  let symbol ← find id
  if !isGiven symbol.sourceSymbol then throw (.symbol (.noSource symbol.name))
  let entries ← onStore (CallGraph.dependants document moduleNode)
  match ← (entryFor? (← get).store symbol.sourceSymbol entries : Outcome _) with
  | none => pure ()
  | some (moduleTemplate, entry) => do
    loadEntry id entry
    match symbol.template with
    | none => throw (.defect .missingPart)
    | some template => do
      let combined ← (CallGraph.combine (← get).store moduleTemplate template : Outcome _)
      setOptions id combined.attributes
      loadDeclarationText id combined.declaration
      loadDomains id (some combined.domains) (symbol.regionTemplates.getD [])
      let domains := (← find id).domains.value
      setDomains id (Domain.reorder domains (domains.map Domain.size))
      change id fun symbol =>
        { symbol with
          declaredSizes := some (domains.map Domain.size)
          accessMacro := combined.accessMacro
          domainMacro := combined.domainMacro }
      raiseStage id .declaration
      checkDomains id

end Registry

end ParallelFortran
