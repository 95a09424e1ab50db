import Mathlib.Order.Defs.Unbundled
import ParallelFortran.Proofs.Action
import ParallelFortran.Routine.Code

/-! Actions that only look at a program: whatever relation holds from each state to itself, they
follow it. -/

namespace ParallelFortran

open Xml

namespace Registry

variable {relation : Registry → Registry → Prop} [IsPreorder Registry relation]

variable (id : SymbolId)

instance find_advances : Advances relation (find id) := .composed

variable {α : Type} (query : Store → Symbol → Outcome α)

theorem run_ask (registry : Registry) : (ask id query).run registry =
      (query registry.store (registry.symbol id), registry) := by
  cases result : query registry.store (registry.symbol id) <;>
    simp only [ask, run_bind, run_get, result] <;> rfl

instance ask_advances : Advances relation (ask id query) :=
  .bind .current fun _ => .outcome _

instance : Advances relation (nameInScope id) := ask_advances id _

instance scopedName_advances : Advances relation (scopedName id) :=
  ask_advances id _

instance (ids : List SymbolId) : Advances relation (sorted ids) := by
  unfold sorted
  exact .composed

instance : Advances relation (checkDomains id) := ask_advances id _

end Registry

namespace Work

variable {relation : Session → Session → Prop} [IsPreorder Session relation]

variable {α : Type}

instance query_advances {action : RegistryM α} [reads : Advances Eq action] :
    Advances relation (onRegistry action) := by
  refine ⟨fun session => ?_⟩
  have unchanged : ((onRegistry action).run session).2 = session := by
    change { session with registry := (action.run session.registry).2 } = session
    rw [← reads.follows session.registry]
  rw [unchanged]
  exact refl_of relation session

theorem query_ensures {action : RegistryM α} {session : Session} {fact : α → Prop}
    (reads : Ensures action session.registry fun value after =>
      after = session.registry ∧ fact value) :
    Ensures (onRegistry action) session fun value after => after = session ∧ fact value := by
  intro value after run
  change ((action.run session.registry).1,
    { session with registry := (action.run session.registry).2 }) = _ at run
  rcases inner : action.run session.registry with ⟨result, registry⟩
  rw [inner] at run
  cases run
  obtain ⟨rfl, holds⟩ := reads value registry inner
  exact ⟨rfl, holds⟩

theorem run_ask (id : SymbolId) (query : Store → Symbol → Outcome α) (session : Session) :
    (onRegistry (Registry.ask id query)).run session =
      (query session.store (session.symbol id), session) := by
  rfl

instance store_advances : Advances relation store := .composed

instance symbol_advances (id : SymbolId) : Advances relation (symbol id) := .composed

variable (id : RoutineId) (ids : List SymbolId) (callee : RoutineId) (template : Option NodeId)

instance routine_advances : Advances relation (routine id) := .composed

instance backend_advances (id : BackendId) : Advances relation (backend id) := .composed

instance module_advances (id : ModuleId) : Advances relation (module id) := .composed

instance position_advances (node : NodeId) : Advances relation (position node) := .composed

instance body_advances : Advances relation (body id) := .composed

instance symbolsOf_advances : Advances relation (symbolsOf id) := .composed

instance scopedName_advances (id : SymbolId) : Advances relation (scopedName id) :=
  query_advances

instance viewOf_advances : Advances relation (viewOf id) := .composed

instance loaded_advances (ids : Option (List SymbolId)) : Advances relation (loaded ids) := by
  unfold loaded
  exact .composed

instance (regions : List Region) : Advances relation (addedBy regions) := by
  unfold addedBy
  exact .composed

instance checkSymbols_advances : Advances relation (checkSymbols id) := .composed

instance kindNumber_advances (id : SymbolId) : Advances relation (kindNumber id) := .composed

instance parameterList_advances : Advances relation (parameterList id) := .composed

instance accessIn_advances (body : RoutineBody) (template : Option NodeId) :
    Advances relation (accessIn body template) := .composed

instance (lines : List RegionLine) : Advances relation (linesCode id template lines) := by
  refine .bind (body_advances id) fun body => .bind (accessIn_advances body template) fun context => ?_
  refine .bind (.map fun line => ?_) fun _ => .pure _
  exact .bind .current fun _ => .bind (.outcome _) fun _ => .outcome _

instance plainCode_advances (isMarked : Bool) (kind : RegionKind) (lines : List RegionLine) :
    Advances relation (plainCode id template isMarked kind lines) := .composed

instance packing_advances (calleeName : String) : Advances relation (packing id callee calleeName) :=
  .composed

instance additionalArgumentList_advances : Advances relation (additionalArgumentList id callee) :=
  .composed

instance argumentCode_advances : Advances relation (argumentCode id callee template) := .composed

instance isForeign_advances : Advances relation (isForeign id callee) := .composed

instance regionPrints_advances (backend : Backend) (template : NodeId) :
    Advances relation (regionPrints id backend template) := .composed

instance surround_advances (region : Region) (template : Option NodeId) :
    Advances relation (surround id region template) := .composed

end Work

end ParallelFortran
