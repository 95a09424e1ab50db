import ParallelFortran.Symbol.Basic
import ParallelFortran.Text.Specification

/-! What follows from the state of a symbol: its scope, its names and the kind of its declaration. -/

namespace ParallelFortran.Symbol

open Xml

variable (store : Store) (symbol : Symbol)

def scopeValue (attributeName : String) : String :=
  (symbol.scope.map fun node => store.value node attributeName).getD ""

def scopeName : Outcome String :=
  match symbol.scopeNameOverride, symbol.scope with
  | some name, scope =>
    if !name.isEmpty then .ok name
    else
      match scope with
      | some node => .ok (store.value node "name")
      | none => .error (.symbol (.noScopeName symbol.name))
  | none, some node => .ok (store.value node "name")
  | none, none => .error (.symbol (.noScopeName symbol.name))

def sourceModule : Option String :=
  if isGiven symbol.sourceModuleName && symbol.sourceModuleName != some localModule then
    symbol.sourceModuleName
  else
    symbol.scope.map fun node =>
      let name := store.value node "module"
      if name.isEmpty then store.value node "name" else name

def residingModule : Outcome String :=
  match symbol.residingModuleOverride.filter (! ·.isEmpty) with
  | some name => .ok name
  | none =>
    let names := [symbol.scopeValue store "module", symbol.scopeValue store "name"]
    match names.find? (! ·.isEmpty) with
    | some name => .ok name
    | none => .error (.symbol (.noResidingModule symbol.name))

def isArgument : Outcome Bool :=
  if symbol.isForcedArgument then .ok true
  else
    match symbol.analysis with
    | none => .ok false
    | some analysis =>
      if analysis.kind == .dependantArgument || analysis.kind == .argument then .ok true
      else do
        let name ← symbol.scopeName store
        return analysis.positions.contains name ||
          analysis.positions.contains (Naming.plainRoutine name)

def sourceSymbol : Option String :=
  (symbol.sourceName.filter (! ·.isEmpty)).map fun name =>
    if symbol.usesDeviceName then Naming.device name else name

def isPresent : Bool :=
  symbol.isMarkedPresent && !symbol.isTransferred

def isHost : Bool :=
  symbol.isMarkedHost && !symbol.isPresent && !symbol.isTransferred

def isPositioned : Bool :=
  isGiven symbol.position

def activeKernelDomains : List String :=
  if symbol.isPositioned && symbol.position != some "outside" then symbol.kernelDomains else []

def parallelDomainCount : Nat :=
  symbol.activeKernelDomains.length

def matchesSpecification : Bool :=
  let count := symbol.domains.value.length
  let specified := ((symbol.templateDomains).getD []).length
  let inactive := symbol.inactiveSizes.value.length
  if count == 0 then false
  else if symbol.isAutoDom then
    [specified, specified + inactive, symbol.parallelDomainCount + inactive].contains count
  else count == specified

def hasSourceModule : Bool :=
  isGiven symbol.sourceModuleName

def hasLocalSource : Bool :=
  match symbol.sourceModuleName with
  | none => false
  | some name =>
    name == localModule ||
      (!name.isEmpty &&
        (name == symbol.scopeValue store "module" || name == symbol.scopeValue store "name"))

def arrayKind : Outcome DeclarationKind := do
  let isArgument ← symbol.isArgument store
  if symbol.hasSourceModule then
    return if isArgument then .passedModuleArray else .moduleArray
  if isArgument then return .otherArgument
  if symbol.stage.number < LoadStage.scope.number then return .undefined
  return if symbol.intent == some "local" then .localArray else .otherArray

def scalarKind : Outcome DeclarationKind := do
  if ← symbol.isArgument store then return .otherArgument
  if symbol.hasLocalSource store then return .localModuleScalar
  if symbol.hasSourceModule then return .foreignModuleScalar
  if symbol.intent == some "local" then return .localScalar
  if symbol.stage.number < LoadStage.scope.number then return .undefined
  return .otherScalar

def declarationKind : Outcome DeclarationKind :=
  match symbol.kindOverride with
  | some kind => .ok kind
  | none =>
    if symbol.scope.isNone then .error (.symbol (.noScopeForKind symbol.name))
    else if symbol.domains.value.isEmpty then symbol.scalarKind store
    else symbol.arrayKind store

def isArray : Outcome Bool := do
  if !symbol.domains.value.isEmpty then return true
  return (← symbol.declarationKind store).isArray

def uniqueName : Outcome String := do
  if symbol.scope.isNone then throw (.symbol (.noScopeForUniqueName symbol.name))
  return Naming.unique symbol.name (← symbol.scopeName store)

def nameIsUnique : Outcome Bool := do
  if ← symbol.isArgument store then return true
  if symbol.isUserSpecified then return true
  return some (← symbol.residingModule store) == symbol.sourceModule store

def aliasInScope? : Outcome (Option String) := do
  match symbol.analysis, symbol.scope with
  | some analysis, some _ => return analysis.aliases.get? (← symbol.scopeName store)
  | _, _ => return none

def automaticName (force : Bool) : Outcome String := do
  let known ← if force then pure none else symbol.aliasInScope? store
  match known.filter (! ·.isEmpty) with
  | some known => return known
  | none => do
    let isUnique ← symbol.nameIsUnique store
    if isUnique && !force then return symbol.name
    let kind ← symbol.declarationKind store
    let isOfModule := kind == .localModuleScalar || kind == .moduleArray ||
      kind == .foreignModuleScalar || kind == .passedModuleArray
    if isOfModule && symbol.hasSourceModule then
      match symbol.sourceModule store with
      | some name => return Naming.unique symbol.name name
      | none => throw (.defect .wrongKind)
    else symbol.uniqueName store

def nameInScopeFor (preferDevice : Bool) : Outcome String := do
  match symbol.scopedName with
  | none => throw (.symbol (.noNameInScope symbol.name (← symbol.scopeName store)))
  | some name =>
    return Naming.limited
      (if preferDevice && symbol.usesDeviceName then Naming.device name else name)

def nameInScope : Outcome String :=
  symbol.nameInScopeFor store true

def isDummyOf (routine : String) : Bool :=
  symbol.analysis.any fun analysis => analysis.positions.contains routine

def specification? (line : String) : Outcome (Option Specification) := do
  return (← Specification.read? line).filter fun specification =>
    specification.objects.any fun object => object.name == symbol.name

end ParallelFortran.Symbol

namespace ParallelFortran.Symbol

open Pattern

variable (symbol : Symbol)

def importLine : Pattern :=
  Fortran.atStart [blanks, literal "use", blanks, group 1 word, blanks, literal ",", blanks,
    literal "only", blanks, little, nonWord, blanks, literal symbol.name, either nonWord finish,
    anything]

def mappedImportLine : Pattern :=
  sequence [little, nonWord, literal symbol.name, blanks, literal "=>", blanks, group 1 word,
    anything]

def pointerOrAllocatable : Pattern :=
  sequence [blanks,
    choice [sequence [literal "double", someBlanks, literal "precision"], literal "real",
      literal "integer", literal "character", literal "logical", literal "complex"],
    little, choice [literal "pointer", literal "allocatable"], little,
    run (fun letter => Text.isBlank letter || letter == ',' || letter == ':') 1 true,
    literal symbol.name]

def occurrence : Pattern :=
  sequence [little, either nonWord start, literal symbol.name, either nonWord finish, anything]

def scalarWrite : Pattern :=
  sequence [run (fun letter => letter != '(') 0 false,
    either (one fun letter => !Text.isWord letter && letter != '(') start, literal symbol.name,
    blanks, literal "=", one (fun letter => letter != '='), anything]

def importedFrom? (line : String) : Outcome (Option (String × String)) :=
  match symbol.importLine.match? line with
  | none => .ok none
  | some found =>
    if (found.group 1).isEmpty then .error (.defect .unknownName)
    else
      match symbol.mappedImportLine.matchLetters? found.whole with
      | none => .ok (some (found.group 1, symbol.name))
      | some mapped =>
        if (mapped.group 1).isEmpty then .error (.defect .unknownName)
        else .ok (some (found.group 1, mapped.group 1))

end ParallelFortran.Symbol
