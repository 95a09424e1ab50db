import ParallelFortran.Proofs.Place
import ParallelFortran.Proofs.Queries
import ParallelFortran.Source.Model

/-! What an action does to a line is told by the place of the line and by whether it has been prepared:
quiet actions leave both alone. -/

namespace ParallelFortran.Source

def LineFault.IsOrdinary (fault : LineFault) : Prop :=
  ∃ cause, fault = .fault cause

def Place.isPlain : Place → Bool
  | branch | ignored => false
  | _ => true

theorem Place.isPlain_iff {place : Place} :
    place.isPlain = true ↔ place ≠ .branch ∧ place ≠ .ignored := by
  cases place <;> decide

namespace Model

open Scope (Blind)

variable {α β : Type}

def status (model : Model) : Place × Bool :=
  (model.scope.context.place, model.isPrepared)

/-- The action neither moves nor prepares the line. -/
class Quiet (action : ModelM α) : Prop where
  preserves : Preserves status LineFault.IsOrdinary action

theorem onScope_run (action : ScopeM α) (model : Model) : (onScope action).run model =
      ((action.run model.scope).1.mapError .fault,
        { model with scope := (action.run model.scope).2 }) :=
  rfl

theorem run_onScope {action : ScopeM α} {value : α} {scope : Scope} (model : Model)
    (run : action.run model.scope = (.ok value, scope)) :
    (onScope action).run model = (.ok value, { model with scope }) := by
  rw [onScope_run, run]
  rfl

theorem ensures_scope {action : ScopeM α} {before : Model} {condition : α → Model → Prop}
    (holds : Ensures action before.scope fun value scope => condition value { before with scope }) :
    Ensures (onScope action) before condition := by
  intro value after run
  rw [onScope_run] at run
  rcases inner : action.run before.scope with ⟨fault | result, scope⟩
  · rw [inner] at run
    cases run
  · rw [inner] at run
    cases run
    exact holds value scope inner

theorem ordinary_of_mapError {result : Outcome α} {fault : LineFault}
    (failed : result.mapError LineFault.fault = .error fault) : fault.IsOrdinary := by
  cases result with
  | ok value => cases failed
  | error cause => exact ⟨cause, (Except.error.inj failed).symm⟩

namespace Quiet

instance pure (value : α) : Quiet (Pure.pure value) :=
  ⟨.pure value⟩

instance current : Quiet MonadState.get :=
  ⟨.current⟩

variable (cause : Fault)

instance throw : Quiet (MonadExcept.throw (.fault cause) : ModelM α) :=
  ⟨.throw ⟨cause, rfl⟩⟩

instance refused (next : α → ModelM β) : Quiet (MonadExcept.throw (.fault cause) >>= next) := by
  refine ⟨fun before => ⟨rfl, ?_⟩⟩
  intro fault failed
  exact ⟨cause, (Except.error.inj failed).symm⟩

instance outcome (result : Outcome α) : Quiet (liftM result) :=
  ⟨fun _ => ⟨rfl, fun _ failed => ordinary_of_mapError failed⟩⟩

instance scope {action : ScopeM α} [blind : Blind action] : Quiet (onScope action) := by
  refine ⟨fun before => ⟨?_, fun _ failed => ordinary_of_mapError failed⟩⟩
  exact congrArg (fun place => (place, before.isPrepared)) (blind.place_eq before.scope)

instance lifted {action : ScopeM α} [Blind action] : Quiet (liftM action) :=
  scope

instance session (work : Work α) : Quiet (onScope (Scope.onSession work)) :=
  ⟨fun _ => ⟨rfl, fun _ failed => ordinary_of_mapError failed⟩⟩

instance (work : Work α) : Quiet (liftM work) := session work

theorem modified {change : Model → Model} (same : ∀ model, (change model).status = model.status) :
    Quiet (modify change) :=
  ⟨.modified same⟩

theorem bind {action : ModelM α} {next : α → ModelM β} (first : Quiet action)
    (second : ∀ value, Quiet (next value)) : Quiet (action >>= next) :=
  ⟨.bind first.preserves fun value => (second value).preserves⟩

theorem context {change : Context → Context}
    (same : ∀ place around context, change { context with place, around } =
      { change context with place, around }) : Quiet (onScope (Scope.changeContext change)) :=
  have := Scope.changeContext_blind same
  scope

theorem composed {action : ModelM α} (parts : Quiet action := by repeat' first
    | infer_instance
    | exact Quiet.context fun _ _ _ => rfl
    | with_reducible refine Quiet.bind ?_ fun _ => ?_
    | split
    | dsimp only
    | (with_reducible refine Quiet.modified ?_); exact fun _ => rfl
    | refine Quiet.bind ?_ fun _ => ?_) : Quiet action :=
  parts

end Quiet

instance : Quiet here := .composed

instance : Quiet store := .composed

instance : Quiet currentRoutine := .composed

instance : Quiet currentModule := .composed

instance (item : Scope.ImportItem) : Scope.Blind (readImport item) := .composed

instance (kind : Scope.LineKind) (line : String) : Quiet (analyseLine kind line) := by
  unfold analyseLine
  exact .composed

instance (node : Xml.NodeId) (relations : List Xml.NodeId) :
    Quiet (findRelation node relations) := .composed

instance (templates : List Xml.NodeId) : Quiet (findTemplate templates) := .composed

instance : Quiet findIterators := .composed

instance (callee : String) : Quiet (sourceModule? callee) := .composed

instance (imported : Option String) : Quiet (calleeModule imported) := by
  unfold calleeModule
  exact .composed

instance (call : CallLine) (callee : RoutineId) : Quiet (analyseCall call callee) := .composed

instance (place : Place) (call : CallLine) : Quiet (warnUnknownCall place call) := by
  unfold warnUnknownCall Work.report
  exact .composed

variable (line : String)

instance : Quiet (adjustModuleLine line) := .composed

instance : Quiet (adjustModuleStatement line) := by
  unfold adjustModuleStatement
  exact .composed

instance : Quiet (loopLine line) := by
  unfold loopLine
  exact .composed

instance : Quiet (matchListed line) := .composed

instance loadLine_quiet : Quiet (loadLine line) := by
  unfold loadLine
  exact .composed

instance beginRegion_quiet (region : Region) (isBehindParallel : Bool) :
    Quiet (beginRegion region isBehindParallel) := .composed

instance (kind : RegionKind) : Quiet (switchTo kind) := beginRegion_quiet _ _

instance (callee : String) : Quiet (addCallee callee) := by
  unfold addCallee
  exact .composed

instance (call : CallLine) (callee : RoutineId) : Quiet (noteCall call callee) := .composed

/-- From a status an action comes to a status that meets the goal, unless a fault of what the line
says stops it, and then outside of branches. -/
def Reads (action : ModelM α) (origin : Place × Bool) (goal : α → Place × Bool → Prop) : Prop :=
  ∀ before, before.status = origin →
    match action.run before with
    | (.ok value, after) => goal value after.status
    | (.error fault, after) => fault.IsOrdinary ∧ after.status.1.isPlain = true

namespace Reads

variable {origin : Place × Bool}

variable {action : ModelM α}

theorem weaken {goal weaker : α → Place × Bool → Prop} (reads : Reads action origin goal)
    (implied : ∀ value status, goal value status → weaker value status) :
    Reads action origin weaker := by
  intro before atOrigin
  have reached := reads before atOrigin
  generalize action.run before = result at reached
  obtain ⟨fault | value, after⟩ := result
  · exact reached
  · exact implied value _ reached

variable {target : Place × Bool}

theorem moved (plain : target.1.isPlain = true)
    (moves : ∀ before, before.status = origin → (action.run before).2.status = target)
    (ordinary : ∀ before fault, (action.run before).1 = .error fault → fault.IsOrdinary) :
    Reads action origin fun _ status => status = target := by
  intro before atOrigin
  have reached := moves before atOrigin
  have allowed := ordinary before
  generalize action.run before = result at reached allowed
  obtain ⟨fault | value, after⟩ := result
  · refine ⟨allowed fault rfl, ?_⟩
    rw [reached]
    exact plain
  · exact reached

theorem quiet (quiet : Quiet action) (plain : origin.1.isPlain = true) :
    Reads action origin fun _ status => status = origin :=
  moved plain (fun before atOrigin => (quiet.preserves before).1.trans atOrigin) fun before =>
    (quiet.preserves before).2

variable {next : α → ModelM β} {goal : β → Place × Bool → Prop}

theorem bind {middle : α → Place × Bool → Prop} (first : Reads action origin middle)
    (second : ∀ value status, middle value status → Reads (next value) status goal) :
    Reads (action >>= next) origin goal := by
  intro before atOrigin
  have reached := first before atOrigin
  rw [run_bind]
  generalize action.run before = result at reached
  obtain ⟨fault | value, between⟩ := result
  · exact reached
  · exact second value between.status reached between rfl

theorem step (plain : origin.1.isPlain = true) (first : Quiet action)
    (second : ∀ value, Reads (next value) origin goal) : Reads (action >>= next) origin goal := by
  refine bind (quiet first plain) ?_
  rintro value status rfl
  exact second value

theorem done {value : α} {goal : α → Place × Bool → Prop} (holds : goal value origin) :
    Reads (Pure.pure value) origin goal := by
  intro before atOrigin
  change goal value before.status
  rw [atOrigin]
  exact holds

theorem current : Reads MonadState.get origin fun model status =>
    model.status = origin ∧ status = origin :=
  fun _ atOrigin => ⟨atOrigin, atOrigin⟩

theorem modified {change : Model → Model}
    (moved : ∀ model, model.status = origin → (change model).status = target) :
    Reads (modify change) origin fun _ status => status = target :=
  moved

theorem outcome {result : Outcome α} (plain : origin.1.isPlain = true) :
    Reads (liftM result) origin fun value status => result = .ok value ∧ status = origin := by
  intro before atOrigin
  cases result with
  | ok value => exact ⟨rfl, atOrigin⟩
  | error cause =>
    refine ⟨⟨cause, rfl⟩, ?_⟩
    rw [atOrigin]
    exact plain

theorem refused {cause : Fault} (plain : origin.1.isPlain = true) :
    Reads (MonadExcept.throw (.fault cause) >>= next) origin goal := by
  intro before atOrigin
  refine ⟨⟨cause, rfl⟩, ?_⟩
  rw [atOrigin]
  exact plain

theorem followed (plain : target.1.isPlain = true)
    (first : Reads action origin fun _ status => status = target)
    (second : ∀ value, Quiet (next value)) :
    Reads (action >>= next) origin fun _ status => status = target := by
  refine bind first ?_
  rintro value status rfl
  exact quiet (second value) plain

end Reads

def Prepares (action : ModelM α) (origin target : Place) : Prop :=
  Reads action (origin, false) fun _ status => status = (target, true)

variable {place : Place}

theorem prepareAs_prepares (plain : place.isPlain = true) (step : Preparation)
    (line : String) : Prepares (prepareAs step line) place place := by
  refine .bind .current ?_
  rintro model status ⟨atOrigin, rfl⟩
  have unprepared : model.isPrepared = false := congrArg Prod.snd atOrigin
  simp only [unprepared]
  refine .followed plain (.modified ?_) fun _ => loadLine_quiet line
  intro model atOrigin
  exact congrArg (fun status => (status.1, true)) atOrigin

theorem prepare_prepares (plain : place.isPlain = true) (line : String) :
    Prepares (prepare line) place place :=
  prepareAs_prepares plain .other line

/-! Actions that prepare the line where it stands -/

class Readies (action : ModelM α) : Prop where
  prepares : ∀ {place : Place}, place.isPlain = true → Prepares action place place

namespace Readies

variable {action : ModelM α} {next : α → ModelM β}

instance prepareAs (step : Preparation) (line : String) : Readies (prepareAs step line) :=
  ⟨fun plain => prepareAs_prepares plain step line⟩

instance prepare (line : String) : Readies (prepare line) :=
  prepareAs .other line

theorem behind (first : Quiet action) (second : ∀ value, Readies (next value)) :
    Readies (action >>= next) :=
  ⟨fun plain => .step plain first fun value => (second value).prepares plain⟩

theorem before (first : Readies action) (second : ∀ value, Quiet (next value)) :
    Readies (action >>= next) :=
  ⟨fun plain => .followed plain (first.prepares plain) second⟩

/-- One part of the action prepares the line, and all others are quiet. -/
theorem composed (parts : Readies action := by
    repeat' first
      | infer_instance
      | (with_reducible refine Readies.before inferInstance fun _ => ?_); exact Quiet.composed
      | (refine Readies.behind ?_ fun _ => ?_); exact Quiet.composed) :
    Readies action :=
  parts

end Readies

instance analysed_readies (kind : Scope.LineKind) (line text : String) :
    Readies (do analyseLine kind line; prepare text) := .composed

instance beginParallel_readies : Readies beginParallel := .composed

instance endParallel_readies : Readies endParallel := by
  unfold endParallel
  exact .composed

instance earlyReturn_readies (line : String) :
    Readies (do switchTo .earlyExit; prepare line; switchTo .plain) := .composed

instance addData_readies (text : String) : Readies (addData text) := by
  refine .behind inferInstance fun model => ?_
  split
  · exact ⟨fun plain => .refused plain⟩
  · exact .composed

instance (call : CallLine) : Readies (readCall call) := .composed

instance callRegion_readies (place : Place) (call : CallLine) : Readies (callRegion place call) :=
  .composed

instance endModule_readies (text : String) : Readies (endModule text) := by
  unfold endModule
  exact .composed

end Model

end ParallelFortran.Source
