import ParallelFortran.Backend.Basic
import ParallelFortran.Region.Basic
import ParallelFortran.Symbol.Loading
import ParallelFortran.Symbol.Rendering

/-! Where the data of a symbol is: on the host, on the device, or in a copy on each of them. -/

namespace ParallelFortran

open Xml

structure DeviceContext where
  kernelNames : Option (List String)
  place : DeclarationPlace
  position : String
  isAfterTransfer : Bool := false

namespace DeviceContext

def isInKernel (context : DeviceContext) : Bool :=
  context.position == "within" || context.position == "outside"

end DeviceContext

namespace Symbol

variable (symbol : Symbol)

def hasIntent (intents : List String) : Bool :=
  intents.any fun intent => symbol.intent == some intent

def isLocal : Bool :=
  !isGiven symbol.intent || symbol.intent == some "local"

def keepsDeviceState (backend : BackendKind) : Bool :=
  symbol.isCompacted || (backend.allowsMixedCode && symbol.isHost)

def enterKernel (context : DeviceContext) (symbol : Symbol) : Symbol :=
  if !context.isInKernel then symbol
  else
    { symbol with
      isTransferred := false
      isMarkedPresent := symbol.isMarkedPresent || !symbol.domains.value.isEmpty }

def onDevice (usesDeviceName isOnDevice : Bool) : Symbol :=
  { symbol with usesDeviceName, isOnDevice }

variable (store : Store) (context : DeviceContext) (symbol : Symbol)

def placeArray : Outcome Symbol := do
  if symbol.isHost then
    match context.place with
    | .moduleScope => return symbol.onDevice true false
    | .kernelCaller =>
      let isUsed := context.kernelNames.all fun names => names.contains symbol.name
      return symbol.onDevice isUsed isUsed
    | .other => return symbol.onDevice false false
  if (← symbol.declarationKind store) == .moduleArray then return symbol.onDevice true true
  if symbol.isPresent || (symbol.isLocal && context.place == .kernelCaller) then
    return symbol.onDevice false true
  if symbol.isTransferred || context.place == .kernelCaller then
    return symbol.onDevice context.isAfterTransfer context.isAfterTransfer
  return symbol

def placeData : Outcome Symbol :=
  if !symbol.domains.value.isEmpty then symbol.placeArray store context
  else if context.isInKernel && !symbol.hasIntent ["out", "inout", "local"] then
    .ok { symbol with isOnDevice := true }
  else .ok symbol

end Symbol

namespace Registry

def updateDeviceState (backend : BackendKind) (context : DeviceContext) (id : SymbolId) :
    RegistryM Unit := do
  if !backend.handlesDeviceData then change id fun symbol => symbol.onDevice false false
  else if !(← find id).keepsDeviceState backend then
    change id (Symbol.enterKernel context)
    let placed ← ask id fun store symbol => symbol.placeData store context
    change id fun _ => placed

end Registry

/-- What the symbols have in common that have been looked at. -/
inductive Verdict where
  | undefined
  | yes
  | no
  deriving DecidableEq, Repr

def Verdict.of (holds : Bool) : Verdict := if holds then yes else no

structure Conformity where
  present : Verdict
  transferred : Verdict
  host : Verdict
  deriving DecidableEq, Repr

namespace Symbol

section

variable (property : Symbol → Bool)

def settle (mixed : Fault) : Verdict → List Symbol → Outcome Verdict
  | verdict, [] => .ok verdict
  | .undefined, symbol :: rest => settle mixed (.of (property symbol)) rest
  | verdict, symbol :: rest =>
    if verdict == .of (property symbol) then settle mixed verdict rest else .error mixed

/-- Later symbols are compared with themselves and not with the verdict, so that none is refused. -/
def settleHost : Verdict → List Symbol → Verdict
  | .undefined, symbol :: rest => settleHost (.of symbol.isHost) rest
  | verdict, _ :: rest => settleHost verdict rest
  | verdict, [] => verdict

/-- For each symbol the name of the last one, if that is an array with the property. -/
def listedLast (symbols : List Symbol) : List String :=
  match symbols.getLast? with
  | some last =>
    if !last.domains.value.isEmpty && property last then symbols.map fun _ => last.name else []
  | none => []

end

variable (symbols : List Symbol)

def mixedPresence : Fault :=
  .backend (.presentMix (symbols.map fun symbol => (symbol.name, symbol.isPresent)))

def mixedTypes : Fault :=
  .backend (.typeParameterMix (symbols.map name) (symbols.map isTypeParameter))

def conformity : Outcome Conformity := do
  let present ← settle isPresent (mixedPresence symbols) .undefined symbols
  let transferred ← settle isTransferred (.defect .missingPart) .undefined symbols
  let host := settleHost .undefined symbols
  let presents := ("Present", listedLast isPresent symbols)
  let transfers := ("Transfer", listedLast isTransferred symbols)
  let hosts := ("Host", listedLast isHost symbols)
  if transferred == .yes && present == .yes then
    throw (.backend (.exclusive "present" "transferHere" [presents, transfers]))
  if transferred == .yes && host == .yes then
    throw (.backend (.exclusive "transferHere" "host" [hosts, transfers]))
  if present == .yes && host == .yes then
    throw (.backend (.exclusive "present" "host" [hosts, presents]))
  let _ ← settle isTypeParameter (mixedTypes symbols) .undefined symbols
  return ⟨present, transferred, host⟩

end Symbol

end ParallelFortran

namespace ParallelFortran

open Xml

namespace Backend

def importModule (name : String) : String :=
  if Text.isBlankText name then "" else "use " ++ Text.strip name ++ "\n"

def importStatement (store : Store) (onHost : Bool) (symbol : Symbol) : Outcome String := do
  let name ← if onHost then pure symbol.name else symbol.nameInScope store
  let source := if onHost then symbol.name else symbol.sourceSymbol.getD symbol.name
  return "use " ++ Text.orAbsent (symbol.sourceModule store) ++ ", only : " ++ name ++ " => " ++
    source ++ "\n"

def importStatements (store : Store) (onHost : Bool) (symbols : List Symbol) : Outcome String := do
  return Text.join "" (← symbols.mapM (importStatement store onHost))

def deviceImports (store : Store) (context : DeviceContext) (symbols : List Symbol) :
    Outcome String := do
  match symbols with
  | [] => return ""
  | first :: _ => do
    if first.isTypeParameter && !first.isDimensionParameter then
      return ← importStatements store false symbols
    if context.position == "within" then return ""
    if context.position == "outside" then
      throw (.backend (.deviceImport (symbols.map Symbol.name) (← first.scopeName store)))
    if first.isHost then return ← importStatements store true symbols
    let copies ← importStatements store false symbols
    if first.isPresent || first.isTransferred || context.place != .other then
      return copies ++ (← importStatements store true symbols)
    return copies

def importSymbols (backend : Backend) (context : DeviceContext) (ids : List SymbolId) :
    RegistryM String := do
  if backend.kind.isCuda then
    ids.forM fun id => do
      if (← Registry.find id).isTransferred || context.place != .other then
        Registry.updateDeviceState backend.kind
          ⟨none, .other, context.position, true⟩ id
  let registry ← get
  let symbols := ids.map registry.symbol
  if backend.kind.isCuda then deviceImports registry.store context symbols
  else importStatements registry.store false symbols

end Backend

end ParallelFortran

/-! Declarations of data that is, or that has a copy, on the device. -/

namespace ParallelFortran

open Xml

structure DeclarationContext where
  parent : Option ParentView
  kernelNames : Option (List String)
  place : DeclarationPlace
  position : String

namespace Backend

def purgedAttributes (isArray inRoutine : Bool) : List String :=
  ["intent", "dimension", "save", "optional"] ++ (if isArray then ["parameter"] else []) ++
    (if inRoutine then ["public", "private"] else [])

structure SplitDeclaration where
  purged : String
  full : String
  objects : String

def deviceTypeOf (purged : String) : String × Bool :=
  match Pattern.Fortran.typeUsage.match? purged with
  | some found =>
    (found.group 1 ++ "type(" ++ found.group 2 ++ "_hfdev)" ++ found.group 3, true)
  | none => (purged, false)

def scalarDeclaration (backend : Backend) (symbol : Symbol) (isPresent : Bool)
    (line : SplitDeclaration) : String :=
  let (adjusted, _) := deviceTypeOf line.purged
  let isOnDevice := isPresent && !symbol.isLocal
  if Text.contains line.full "parameter" then line.full ++ " :: " ++ line.objects
  else if (!symbol.hasIntent ["out", "inout"] || !backend.kind.allowsScalarAssignment) &&
      !Text.contains adjusted "character" then
    adjusted ++ (if isOnDevice then ", device" else ", value") ++ " :: " ++ line.objects
  else
    adjusted ++ ", " ++ (if isOnDevice then "device, " else "") ++ "intent(" ++
      Text.orAbsent symbol.intent ++ ") :: " ++ line.objects

def arrayDeclarations (store : Store) (context : DeclarationContext) (symbols : List Symbol)
    (declaration attributeName : String) : Outcome String := do
  let lines ← symbols.mapM fun symbol => do
    return declaration ++ ", " ++ attributeName ++ " :: " ++
      (← symbol.domainText store context.parent true)
  return Text.join "\n" lines

def adjustedLine (store : Store) (backend : Backend) (context : DeclarationContext) (line : String)
    (first : Symbol) (symbols : List Symbol) (conformity : Conformity) (split : SplitDeclaration) :
    Outcome String := do
  let (adjusted, isDerived) := deviceTypeOf split.purged
  let isArray := !first.domains.value.isEmpty
  if !isArray then
    if context.position == "within" || conformity.present == .yes then
      return scalarDeclaration backend first (conformity.present == .yes) split ++ "\n"
    return Text.stripRight line ++ "\n"
  if conformity.present == .yes || (first.isLocal && context.place == .kernelCaller) then
    let declaration :=
      if context.position == "within" || context.position == "outside" then adjusted else split.full
    return (← arrayDeclarations store context symbols declaration "device") ++ "\n"
  if conformity.transferred == .yes || context.place != .other then
    let copies ← arrayDeclarations store context symbols adjusted
      (if isDerived then "managed" else "device")
    return Text.stripRight line ++ "\n" ++ copies ++ "\n"
  return Text.stripRight line ++ "\n"

def conformityOf (line : String) (symbols : List Symbol) : Outcome Conformity :=
  match Symbol.conformity symbols with
  | .ok conformity => .ok conformity
  | .error (.backend cause) =>
    .error (.backend (.nonconforming (Text.strip line) cause.message (symbols.map Symbol.name)))
  | .error fault => .error fault

variable (backend : Backend) (context : DeclarationContext) (line : String) (ids : List SymbolId)

def adjustForDevice : RegistryM String := do
  if ids.isEmpty then throw (.backend .noSymbolsToAdjust)
  ids.forM fun id => do
    if context.place != .other || (← Registry.find id).isTransferred then
      Registry.updateDeviceState backend.kind
        ⟨context.kernelNames, context.place, context.position, true⟩ id
  let registry ← get
  let symbols := ids.map registry.symbol
  let conformity ← conformityOf line symbols
  match symbols with
  | [] => throw (.backend .noSymbolsToAdjust)
  | first :: _ => do
    let keywords := purgedAttributes (!first.domains.value.isEmpty) context.parent.isSome
    let (purged, full, objects) ← (Specification.splitAndPurge keywords line : Outcome _)
    let _ ← (first.declarationKind registry.store : Outcome _)
    if first.isCompacted then return purged ++ " :: " ++ objects ++ "\n"
    adjustedLine registry.store backend context line first symbols conformity
      ⟨purged, full, objects⟩

def adjustDeclaration : RegistryM String :=
  if backend.kind.handlesDeviceData then adjustForDevice backend context line ids
  else pure line

end Backend

end ParallelFortran
