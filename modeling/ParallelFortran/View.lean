import ParallelFortran.Json.Basic
import ParallelFortran.Symbol.Registry

/-! Values in JSON form, for tools that look into a run. Tuples and tables are arrays, and what is
missing is null. -/

namespace ParallelFortran

class ToJson (α : Type) where
  toJson : α → Json

export ToJson (toJson)

variable {α β : Type} [ToJson α] [ToJson β]

instance : ToJson Json := ⟨id⟩

instance : ToJson Bool := ⟨.bool⟩

instance : ToJson Nat := ⟨fun value => .integer value⟩

instance : ToJson Int := ⟨.integer⟩

instance : ToJson String := ⟨.string⟩

instance : ToJson (Option α) := ⟨fun value => (value.map toJson).getD .null⟩

instance : ToJson (List α) := ⟨fun items => .array (items.map toJson)⟩

instance : ToJson (α × β) := ⟨fun pair => .array [toJson pair.1, toJson pair.2]⟩

instance : ToJson (Table String α) := ⟨fun table => toJson table.entries⟩

instance : ToJson Domain := ⟨fun domain => toJson (domain.name, domain.size)⟩

instance : CoeOut α Json := ⟨toJson⟩

def Symbol.flags (symbol : Symbol) : List (String × Json) :=
  [("isAutoDom", symbol.isAutoDom), ("isPresent", symbol.isPresent), ("isHostSymbol", symbol.isHost),
    ("isToBeTransfered", symbol.isTransferred), ("isOnDevice", symbol.isOnDevice),
    ("isUsingDevicePostfix", symbol.usesDeviceName),
    ("hasUndecidedDomainSizes", symbol.hasUndecidedSizes),
    ("isDeclaredExplicitely", symbol.isDeclaredExplicitly),
    ("isTypeParameter", symbol.isTypeParameter),
    ("isDimensionParameter", symbol.isDimensionParameter),
    ("isModuleSymbol", symbol.isModuleSymbol), ("isUserSpecified", symbol.isUserSpecified)]

/-- What a symbol holds and computes; `encode` writes a computed value or the refusal. -/
def Symbol.view (registry : Registry) (encode : Outcome Json → Json) (symbol : Symbol) : Json :=
  let store := registry.store
  .object (symbol.flags.append
    [("initLevel", symbol.stage.number), ("domains", symbol.domains.value),
    ("kernelDomainNames", symbol.activeKernelDomains),
    ("kernelInactiveDomainSizes", symbol.inactiveSizes.value),
    ("knownKernelDomainSizesByName", symbol.kernelSizes),
    ("templateDomains", symbol.templateDomains), ("declaredDimensionSizes", symbol.declaredSizes),
    ("intent", symbol.intent), ("declarationPrefix", symbol.declaration),
    ("declarationSuffix", symbol.declarationSuffix),
    ("nameInScope", encode ((symbol.nameInScope store).map toJson)),
    ("sourceModuleIdentifier", symbol.sourceModuleName), ("sourceSymbol", symbol.sourceName),
    ("attributes", symbol.attributes), ("domPPName", symbol.domainMacro),
    ("accPPName", symbol.accessMacro),
    ("typeParameters", symbol.typeParameters.value.map fun entry => (registry.symbol entry.2).name),
    ("declarationType", encode ((symbol.declarationKind store).map fun kind => kind.number)),
    ("isArray", encode ((symbol.isArray store).map toJson)),
    ("isArgument", encode ((symbol.isArgument store).map toJson)),
    ("sourceModule", symbol.sourceModule store)])

/-- The change that a request makes to a field. Names that no symbol knows change nothing; those with an
underscore stand for a value behind a computed one. -/
def Symbol.withField (name : String) (value : Json) (symbol : Symbol) : Symbol :=
  let text := value.string?
  let texts := match value with
    | .array items => some (items.map Json.asText)
    | _ => none
  let isTrue := match value with
    | .bool value => value
    | _ => false
  match name with
  | "hasUndecidedDomainSizes" => { symbol with hasUndecidedSizes := isTrue }
  | "isArgument" | "_isArgumentOverride" => { symbol with isForcedArgument := isTrue }
  | "isAutoDom" => { symbol with isAutoDom := isTrue }
  | "isCompacted" => { symbol with isCompacted := isTrue }
  | "isConstant" => { symbol with isConstant := isTrue }
  | "isDeclaredExplicitely" => { symbol with isDeclaredExplicitly := isTrue }
  | "isDimensionParameter" => { symbol with isDimensionParameter := isTrue }
  | "isHostSymbol" | "_isHostSymbol" => { symbol with isMarkedHost := isTrue }
  | "isMatched" => { symbol with isMatched := isTrue }
  | "isModuleSymbol" => { symbol with isModuleSymbol := isTrue }
  | "isOnDevice" => { symbol with isOnDevice := isTrue }
  | "isPresent" | "_isPresent" => { symbol with isMarkedPresent := isTrue }
  | "isToBeTransfered" | "_isToBeTransfered" => { symbol with isTransferred := isTrue }
  | "isTypeParameter" | "_isTypeParameter" => { symbol with isTypeParameter := isTrue }
  | "isUserSpecified" => { symbol with isUserSpecified := isTrue }
  | "isUsingDevicePostfix" | "_isUsingDevicePostfix" => { symbol with usesDeviceName := isTrue }
  | "accPPName" => { symbol with accessMacro := text }
  | "declarationPrefix" | "_declarationPrefix" => { symbol with declaration := text }
  | "declarationSuffix" => { symbol with declarationSuffix := text }
  | "domPPName" => { symbol with domainMacro := text }
  | "intent" => { symbol with intent := text }
  | "_nameInScope" => { symbol with scopedName := text }
  | "nameOfScope" | "_nameOfScopeOverride" => { symbol with scopeNameOverride := text }
  | "parallelRegionPosition" => { symbol with position := text }
  | "residingModule" | "_residingModule" => { symbol with residingModuleOverride := text }
  | "sourceModule" | "_sourceModuleIdentifier" => { symbol with sourceModuleName := text }
  | "sourceSymbol" | "_sourceSymbol" => { symbol with sourceName := text }
  | "attributes" => { symbol with attributes := texts }
  | "declaredDimensionSizes" => { symbol with declaredSizes := texts }
  | "_kernelDomainNames" => { symbol with kernelDomains := texts.getD [] }
  | "analysis" => { symbol with analysis := none }
  | "parallelRegionTemplates" => { symbol with regionTemplates := none }
  | "routineNode" => { symbol with scope := none }
  | "template" => { symbol with template := none }
  | "_entryNode" => { symbol with entry := none }
  | "_templateDomains" => { symbol with templateDomains := none }
  | _ => symbol

end ParallelFortran
