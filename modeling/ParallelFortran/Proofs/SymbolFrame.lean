import ParallelFortran.Proofs.Arena
import ParallelFortran.Proofs.Queries

/-! What stays the same of the symbols while code is generated: symbols are added, loaded anew, placed
on the device and renamed in their scopes, but none loses its name, or its part in types. -/

namespace ParallelFortran

open Xml

structure Symbol.Identity where
  name : String
  isTypeParameter : Bool
  isDimensionParameter : Bool

def Symbol.identity (symbol : Symbol) : Symbol.Identity :=
  ⟨symbol.name, symbol.isTypeParameter, symbol.isDimensionParameter⟩

namespace Registry

structure Steady (before after : Registry) : Prop where
  size : before.symbols.size ≤ after.symbols.size
  identity : ∀ id : SymbolId, id.index < before.symbols.size →
    (after.symbol id).identity = (before.symbol id).identity

structure Firm (before after : Registry) : Prop extends Steady before after where
  store : after.store = before.store

theorem Firm.of_symbols {before after : Registry} (same : after.symbols = before.symbols)
    (store : after.store = before.store) : Firm before after := by
  refine ⟨⟨Nat.le_of_eq (congrArg Array.size same.symm), fun id _ => ?_⟩, store⟩
  rw [symbol, symbol, same]

instance : IsPreorder Registry Steady where
  refl _ := ⟨Nat.le_refl _, fun _ _ => rfl⟩
  trans _ _ _ first second :=
    ⟨Nat.le_trans first.size second.size, fun id known =>
      (second.identity id (Nat.lt_of_lt_of_le known first.size)).trans (first.identity id known)⟩

instance : IsPreorder Registry Firm where
  refl _ := .of_symbols rfl rfl
  trans _ _ _ first second :=
    ⟨trans_of Steady first.toSteady second.toSteady, second.store.trans first.store⟩

variable (registry : Registry)

theorem firm_map {update : Symbol → Symbol}
    (same : ∀ symbol, (update symbol).identity = symbol.identity) {after : Registry}
    (symbols : after.symbols = registry.symbols.map update) (store : after.store = registry.store) :
    Firm registry after := by
  refine ⟨⟨by simp [symbols], fun id known => ?_⟩, store⟩
  simp [symbol, symbols, known, same]

theorem firm_modify (id : SymbolId) {update : Symbol → Symbol}
    (same : (update (registry.symbol id)).identity = (registry.symbol id).identity) :
    Firm registry { registry with symbols := registry.symbols.modify id.index update } := by
  refine ⟨⟨by simp, fun other known => ?_⟩, rfl⟩
  rw [symbol, Arena.getD_modify]
  split
  · next changed =>
    obtain rfl : id = other := congrArg SymbolId.mk changed.1
    exact same
  · rfl

theorem change_framed {id : SymbolId} {update : Symbol → Symbol}
    (same : ∀ symbol, (update symbol).identity = symbol.identity) :
    Advances Firm (change id update) :=
  .modified fun registry => firm_modify registry id (same _)

theorem modify_firm {update : Registry → Registry}
    (same : ∀ registry, (update registry).symbols = registry.symbols)
    (store : ∀ registry, (update registry).store = registry.store) :
    Advances Firm (modify update : RegistryM PUnit) :=
  .modified fun registry => .of_symbols (same registry) (store registry)

instance report_firm (level : LogLevel) (content : String) :
    Advances Firm (report level content) :=
  modify_firm (fun _ => rfl) fun _ => rfl

instance {α : Type} (value : α) : Advances Firm (fresh value) :=
  .bind (modify_firm (fun _ => rfl) fun _ => rfl) fun _ => .bind .current fun _ => .pure _

instance (given : Symbol) : Advances Firm (add given) := by
  refine .bind .current fun _ => .bind (.modified fun registry => ?_) fun _ => .pure _
  refine ⟨⟨by simp, fun id known => ?_⟩, rfl⟩
  simp [symbol, Array.getElem?_push_lt known, known]

variable (id : SymbolId)

instance (domains : List Domain) : Advances Firm (setDomains id domains) := .composed

instance (sizes : List String) : Advances Firm (setInactiveSizes id sizes) := .composed

instance (domain : Domain) : Advances Firm (addDomain id domain) := by
  refine .bind (find_advances id) fun known => .modified fun registry => ?_
  refine firm_map registry (fun symbol => ?_) rfl rfl
  split <;> rfl

instance (size : String) : Advances Firm (addInactiveSize id size) := by
  refine .bind (find_advances id) fun known => .modified fun registry => ?_
  refine firm_map registry (fun symbol => ?_) rfl rfl
  split <;> rfl

instance (stage : LoadStage) : Advances Firm (raiseStage id stage) := by
  unfold raiseStage
  exact .composed

instance (attributes : List String) : Advances Firm (setOptions id attributes) := by
  unfold setOptions
  exact .composed

instance (routine : Option RoutineView) : Advances Firm (adjustDomains id routine) := .composed

instance (force : Bool) (residingModule : Option String) :
    Advances Firm (updateNameInScope id force residingModule) := .composed

instance (node : NodeId) (regions : List NodeId) (routine : Option RoutineView) :
    Advances Firm (loadRoutine id node regions routine) := by
  unfold loadRoutine loadTemplateAttributes loadDeclarationText loadDomains loadRegionDomains requireEntry
  exact .composed

instance (callee declaration : String) (domains : Shared (List Domain))
    (isOnDevice : Bool) : Advances Firm (frameworkArray callee declaration domains isOnDevice) := by
  unfold frameworkArray blank
  exact .composed

instance (specification : Option Specification) (arguments : List String)
    (scopeName : String) : Advances Firm (loadDeclaration id specification arguments scopeName) := by
  unfold loadDeclaration loadDeclaredSizes addDeclaredDomains checkDeclaredSizes
  exact .composed

variable {store : Store} {context : DeviceContext} {symbol placed : Symbol}

theorem placeArray_identity
    (result : symbol.placeArray store context = .ok placed) :
    placed.identity = symbol.identity := by
  unfold Symbol.placeArray at result
  split at result
  · split at result <;> cases result <;> rfl
  · obtain ⟨kind, _, result⟩ := parts_of_bind_eq_ok result
    split at result
    · cases result
      rfl
    · split at result
      · cases result
        rfl
      · split at result <;> cases result <;> rfl

theorem placeData_identity
    (result : symbol.placeData store context = .ok placed) :
    placed.identity = symbol.identity := by
  unfold Symbol.placeData at result
  split at result
  · exact placeArray_identity result
  · split at result <;> cases result <;> rfl

theorem replace_firm {id : SymbolId} {query : Store → Symbol → Outcome Symbol}
    (same : ∀ store symbol placed, query store symbol = .ok placed →
      placed.identity = symbol.identity) :
    Advances Firm (do
      let placed ← ask id query
      change id fun _ => placed) := by
  refine ⟨fun registry => ?_⟩
  rw [run_bind, run_ask]
  cases result : query registry.store (registry.symbol id) with
  | error fault => exact refl_of Firm registry
  | ok placed => exact firm_modify registry id (same _ _ placed result)

instance updateDeviceState_firm (backend : BackendKind) (context : DeviceContext) (id : SymbolId) :
    Advances Firm (updateDeviceState backend context id) := by
  unfold updateDeviceState
  split
  · exact change_framed fun _ => rfl
  · refine .bind (find_advances id) fun symbol => ?_
    split
    · refine .bind (change_framed fun symbol => ?_) fun _ => replace_firm fun _ _ _ => ?_
      · unfold Symbol.enterKernel
        split <;> rfl
      · exact placeData_identity
    · exact .pure _

end Registry

namespace Backend

open Registry

instance (backend : BackendKind) (context : DeviceContext)
    (isPlaced : Symbol → Bool) (ids : List SymbolId) :
    Advances Firm (ids.forM fun id => do
      if isPlaced (← find id) then updateDeviceState backend context id) := by
  refine .each fun id => .bind (find_advances id) fun symbol => ?_
  split
  · exact updateDeviceState_firm backend context id
  · exact .pure _

variable (backend : Backend)

instance (context : DeclarationContext) (line : String)
    (ids : List SymbolId) : Advances Firm (backend.adjustDeclaration context line ids) := by
  unfold adjustDeclaration adjustForDevice
  exact .composed

instance (context : DeviceContext) (ids : List SymbolId) :
    Advances Firm (backend.importSymbols context ids) := by
  unfold importSymbols
  exact .composed

variable (isCallingKernel : Bool) (routine : String) (id : SymbolId)

instance : Advances Firm (bothSelections id) := .composed

variable (ids : List SymbolId)

instance : Advances Firm (transferIn isCallingKernel routine ids) := .composed

instance : Advances Firm (transferOut isCallingKernel ids) := .composed

end Backend

end ParallelFortran
