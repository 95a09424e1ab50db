import ParallelFortran.Proofs.Action
import ParallelFortran.Source.Scope

/-! What is done with the symbols of a line does not look at the place of the line and leaves the place
alone: it comes to the same whether the line stands in a branch or not. -/

namespace ParallelFortran.Source.Scope

open Xml

variable {read : ImportItem → ScopeM (Option SymbolId)} {α β : Type}

def placed (place : Place) (around : Option Place) (scope : Scope) : Scope :=
  { scope with context := { scope.context with place, around } }

/-- The action does the same at every place, and does not move the line. -/
class Blind (action : ScopeM α) : Prop where
  alike : ∀ place around scope, action.run (scope.placed place around) =
    ((action.run scope).1, (action.run scope).2.placed place around)

namespace Blind

variable {members : List α} {action : ScopeM α}

instance pure (value : α) : Blind (Pure.pure value) :=
  ⟨fun _ _ _ => rfl⟩

variable (fault : Fault)

instance throw : Blind (MonadExcept.throw fault : ScopeM α) :=
  ⟨fun _ _ _ => rfl⟩

instance refused (next : α → ScopeM β) : Blind (MonadExcept.throw fault >>= next) :=
  ⟨fun _ _ _ => rfl⟩

instance outcome (result : Outcome α) : Blind (liftM result) :=
  ⟨fun _ _ _ => rfl⟩

instance registry (action : RegistryM α) : Blind (onSession (Work.onRegistry action)) :=
  ⟨fun _ _ _ => rfl⟩

instance lifted (action : RegistryM α) : Blind (liftM action) :=
  registry action

instance stored (action : StoreM α) : Blind (liftM action) :=
  ⟨fun _ _ _ => rfl⟩

theorem modified {change : Scope → Scope} (same : ∀ place around scope,
      change (scope.placed place around) = (change scope).placed place around) : Blind (modify change) :=
  ⟨fun place around scope => congrArg (Prod.mk (Except.ok ())) (same place around scope)⟩

theorem bind {next : α → ScopeM β} (first : Blind action) (second : ∀ value, Blind (next value)) :
    Blind (action >>= next) := by
  refine ⟨fun place around scope => ?_⟩
  rw [run_bind, run_bind, first.alike place around scope]
  generalize action.run scope = result
  obtain ⟨fault | value, between⟩ := result
  · rfl
  · exact (second value).alike place around between

theorem reading {next : Scope → ScopeM β}
    (same : ∀ place around scope, next (scope.placed place around) = next scope)
    (each : ∀ scope, Blind (next scope)) : Blind (get >>= next) := by
  refine ⟨fun place around scope => ?_⟩
  have begins : (get >>= next).run (scope.placed place around) =
      (next (scope.placed place around)).run (scope.placed place around) := rfl
  rw [begins, same]
  exact (each scope).alike place around scope

theorem standing {next : Context → ScopeM β} (same : ∀ place around context,
      next { context with place, around } = next context)
    (each : ∀ context, Blind (next context)) : Blind (here >>= next) :=
  reading (fun place around scope => same place around scope.context) fun scope =>
    each scope.context

theorem each {body : α → ScopeM Unit} (step : ∀ member, Blind (body member)) :
    Blind (members.forM body) := by
  induction members with
  | nil => exact pure _
  | cons member rest ih =>
    exact bind (step member) fun _ => ih

theorem map {body : α → ScopeM β} (step : ∀ member, Blind (body member)) :
    Blind (members.mapM body) := by
  induction members with
  | nil => exact pure _
  | cons member rest ih =>
    rw [List.mapM_cons]
    exact bind (step member) fun _ => bind ih fun _ => pure _

theorem filter {body : α → ScopeM Bool} (step : ∀ member, Blind (body member)) :
    Blind (members.filterM body) := by
  have loop : ∀ members found, Blind (List.filterAuxM body members found) := by
    intro members
    induction members with
    | nil => exact fun found => pure found
    | cons member rest ih => exact fun found => bind (step member) fun kept => ih _
  exact bind (loop members []) fun _ => pure _

theorem placed_eq (blind : Blind action) (scope : Scope) :
    (action.run scope).2.placed scope.context.place scope.context.around =
      (action.run scope).2 :=
  (congrArg Prod.snd (blind.alike scope.context.place scope.context.around scope)).symm

theorem place_eq (blind : Blind action) (scope : Scope) :
    (action.run scope).2.context.place = scope.context.place := by
  rw [← blind.placed_eq scope]
  rfl

end Blind

theorem changeContext_blind {change : Context → Context}
    (same : ∀ place around context, change { context with place, around } =
      { change context with place, around }) : Blind (changeContext change) := by
  refine .modified fun place around scope => ?_
  exact congrArg (fun context => { scope with context }) (same place around scope.context)

theorem Blind.composed {action : ScopeM α} (parts : Blind action := by repeat' first
      | infer_instance
      | (with_reducible refine Blind.reading ?_ fun _ => ?_); exact fun _ _ _ => rfl
      | (with_reducible refine Blind.standing ?_ fun _ => ?_); exact fun _ _ _ => rfl
      | with_reducible refine Blind.bind ?_ fun _ => ?_
      | split
      | with_reducible refine Blind.each fun _ => ?_
      | with_reducible refine Blind.map fun _ => ?_
      | with_reducible refine Blind.filter fun _ => ?_
      | dsimp only
      | (with_reducible refine changeContext_blind ?_); exact fun _ _ _ => rfl
      | (with_reducible refine Blind.modified ?_); exact fun _ _ _ => rfl
      | (refine Blind.reading ?_ fun _ => ?_); exact fun _ _ _ => rfl
      | refine Blind.bind ?_ fun _ => ?_) : Blind action :=
  parts

instance store_blind : Blind store := .composed

variable (id : SymbolId)

instance : Blind (symbol id) := .composed

variable (name : String)

instance (id : SymbolId) : Blind (setSymbol name id) := by
  unfold setSymbol
  exact .composed

instance (name : Option String) : Blind (routineNode name) := .composed

instance (name : Option String) : Blind (moduleNode name) := .composed

instance (routine : Option String) : Blind (templatesOf routine) := .composed

instance (scheme : Option String) : Blind (backendFor scheme) := .composed

instance backend_blind : Blind backend := .composed

instance noteImport_blind (item : ImportItem) : Blind (noteImport item) := .composed

instance analyseLine_blind [∀ item, Blind (read item)] (kind : LineKind) (line : String) :
    Blind (analyseLine read kind line) := by
  unfold analyseLine candidates readImport importParent declaredSymbols createSymbols scopeNode
    takeRole loadDeclared loadImported
  exact .composed

instance matchListed_blind (line : String) : Blind (matchListed line) := .composed

instance forgetLine_blind : Blind forgetLine := by
  unfold forgetLine
  exact .composed

variable (settings : String)

instance enterScheme_blind : Blind (enterScheme settings) := by
  unfold enterScheme
  exact .composed

instance loadModule_blind : Blind (loadModule name) := .composed

instance : Blind leaveModule := .composed

instance enterRoutine_blind (text name : String) : Blind (enterRoutine text name) := .composed

instance : Blind leaveRoutine := by
  unfold leaveRoutine forgetSymbol dropSymbol belongsToModule
  exact .composed

instance enterCall_blind (call : CallLine) : Blind (enterCall call) := by
  unfold enterCall
  exact .composed

end ParallelFortran.Source.Scope
