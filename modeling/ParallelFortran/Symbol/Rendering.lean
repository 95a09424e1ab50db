import ParallelFortran.Symbol.Access

/-! How symbols are declared, allocated and selected as a whole. -/

namespace ParallelFortran

open Xml

structure ParentView where
  isCallingKernel : Bool
  position : String

namespace Symbol

def purgedDeclaration (symbol : Symbol) (declaration : String) (keywords : List String) :
    Outcome String := do
  let declaration :=
    if Text.contains declaration "::" then declaration else Text.stripRight declaration ++ " ::"
  if keywords.isEmpty then return Text.strip declaration
  let (purged, _, _) ← Specification.splitAndPurge keywords (declaration ++ " " ++ symbol.name)
  return Text.strip purged

def defaultPurge : List String := ["intent", "public", "parameter", "save"]

def sanitizedDeclaration? (registry : Registry) (symbol : Symbol) (keywords : Option (List String)) :
    Outcome (Option String) := do
  match symbol.declaration.filter (! ·.isEmpty) with
  | none => return none
  | some declaration => do
    let purged ← symbol.purgedDeclaration declaration (keywords.getD defaultPurge)
    let purged := match Pattern.Fortran.declarationKind.match? purged with
      | some found => found.group 1 ++ found.group 2 ++ found.group 3
      | none => purged
    let parameters := symbol.typeParameters.value.map fun parameter => registry.symbol parameter.2
    let used := parameters.filter fun parameter => Text.contains purged parameter.name
    return some (← substitute purged (used.map (nameReplacement registry.store)))

def defersShape (symbol : Symbol) : Outcome Bool := do
  if symbol.domains.value.isEmpty then return false
  match symbol.declaration with
  | none => throw (.defect .wrongKind)
  | some declaration => do
    match ← Specification.read? (declaration ++ symbol.name) with
    | none => return false
    | some specification => return specification.components.contains "pointer"

def domainText (store : Store) (symbol : Symbol) (parent : Option ParentView) (reorders : Bool) :
    Outcome String := do
  let domains := symbol.domains.value
  let name ← symbol.nameInScopeFor store (!domains.isEmpty)
  if domains.isEmpty then return name
  let orderingMacro ← symbol.domainMacroOf store
  let isDeferred ← symbol.defersShape
  let isOpen := isDeferred || (symbol.hasUndecidedSizes &&
    parent.all fun parent =>
      !symbol.isTransferred && !parent.isCallingKernel &&
        parent.position != "within" && parent.position != "outside")
  let sizes := Text.join "," (domains.map fun domain =>
    if isOpen then ":" else Text.strip domain.size)
  if symbol.usesMacro reorders orderingMacro domains.length then
    return name ++ "(" ++ orderingMacro.name ++ "(" ++ sizes ++ "))"
  return name ++ "(" ++ sizes ++ ")"

structure DeclarationStyle where
  purged : Option (List String) := none
  lead : String := ""
  reorders : Bool := true
  skipsMissing : Bool := false

def declarationLine (registry : Registry) (symbol : Symbol) (parent : Option ParentView)
    (style : DeclarationStyle) : Outcome String := do
  if style.skipsMissing && !isGiven symbol.declaration then return ""
  match (← symbol.sanitizedDeclaration? registry style.purged).filter (! ·.isEmpty) with
  | none => throw (.symbol (.cannotDeclare symbol.name))
  | some declaration => do
    let domains ← symbol.domainText registry.store parent style.reorders
    return Text.strip declaration ++ " " ++ style.lead ++ " " ++ domains ++ " " ++
      symbol.declarationSuffix.getD ""

def selectionText (store : Store) (symbol : Symbol) : Outcome String := do
  if symbol.stage.number < LoadStage.scope.number then throw (.symbol (.earlySelection symbol.name))
  let name ← symbol.nameInScope store
  let domains := symbol.domains.value
  if domains.isEmpty then return name
  return name ++ "(" ++ Text.join "," (domains.map fun _ => ":") ++ ")"

def allocationText (store : Store) (symbol : Symbol) : Outcome String := do
  if symbol.stage.number < LoadStage.scope.number then
    throw (.symbol (.earlyAllocation symbol.name))
  let name ← symbol.nameInScope store
  let domains := symbol.domains.value
  if domains.isEmpty then return name
  let orderingMacro ← symbol.domainMacroOf store
  if domains.any fun domain => domain.size == ":" then
    throw (.symbol (.unknownAllocationSize symbol.name domains))
  let sizes := Text.join "," (domains.map Domain.size)
  if symbol.usesMacro true orderingMacro domains.length then
    return name ++ "(" ++ orderingMacro.name ++ "(" ++ sizes ++ "))"
  return name ++ "(" ++ sizes ++ ")"

def dimensionLength (symbol : Symbol) (domain : Domain) : Outcome String :=
  match Text.split ":" domain.size with
  | [size] => .ok size
  | [lower, upper] => .ok ("(" ++ upper ++ " - " ++ lower ++ " + 1)")
  | _ => .error (.symbol (.invalidDomainSize symbol.name domain.size))

def totalLength (symbol : Symbol) : Outcome String := do
  return Text.join " * " (← symbol.domains.value.mapM symbol.dimensionLength)

end Symbol

namespace Registry

inductive TypeDependency where
  | byKind
  | byDimension
  deriving DecidableEq

def dependency? (parameter symbol : Symbol) (declaration : String) : Option TypeDependency :=
  if parameter.occurrence.accepts declaration then some .byKind
  else if symbol.domains.value.any fun domain => parameter.occurrence.accepts domain.size then
    some .byDimension
  else none

def dependents (registry : Registry) (parameter : Symbol) :
    List SymbolId → Outcome (List SymbolId × Option TypeDependency)
  | [] => .ok ([], none)
  | id :: ids => do
    let symbol := registry.symbol id
    match symbol.declaration with
    | none => throw (.symbol .dependencyWithoutDeclaration)
    | some declaration => do
      let (others, last) ← dependents registry parameter ids
      match dependency? parameter symbol declaration with
      | some dependency => return (id :: others, last.or (some dependency))
      | none => return (others, last)

def updateTypeParameter (parameter : SymbolId) (ids : List SymbolId) : RegistryM Unit := do
  let symbol ← find parameter
  match symbol.declaration with
  | none => throw (.symbol (.noDeclarationForDependency symbol.name))
  | some declaration => do
    if !symbol.domains.value.isEmpty || !Text.contains declaration "integer" then return
    let (found, last) ← (dependents (← get) symbol ids : Outcome _)
    if !found.isEmpty then
      change parameter fun symbol =>
        { symbol with
          isTypeParameter := true
          isDimensionParameter := symbol.isDimensionParameter || last == some .byDimension }
    found.forM fun id => addTypeParameter id parameter

end Registry

end ParallelFortran
