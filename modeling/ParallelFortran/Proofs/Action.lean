import Mathlib.Data.List.Forall2
import ParallelFortran.Fault

/-! Conditions on actions that can fail and that change a state. -/

namespace ParallelFortran

open List

variable {ε σ α β : Type}

variable (action : ExceptT ε (StateM σ) α)

/-- The action succeeds from the state, with a value and a next state that meet the condition. -/
def Yields (before : σ) (condition : α → σ → Prop) : Prop :=
  ∃ value after, action.run before = (.ok value, after) ∧ condition value after

theorem run_bind (next : α → ExceptT ε (StateM σ) β) (before : σ) :
    (action >>= next).run before = match action.run before with
      | (.ok value, between) => (next value).run between
      | (.error fault, between) => (.error fault, between) := by
  rw [ExceptT.run_bind]
  change StateT.bind (action.run) _ before = _
  unfold StateT.bind
  rcases action.run before with ⟨fault | value, between⟩ <;> rfl

theorem run_tryCatch (handler : ε → ExceptT ε (StateM σ) α) (before : σ) :
    (tryCatch action handler).run before = match action.run before with
      | (.ok value, between) => (.ok value, between)
      | (.error fault, between) => (handler fault).run between := by
  rw [ExceptT.run_tryCatch]
  change StateT.bind (action.run) _ before = _
  unfold StateT.bind
  rcases action.run before with ⟨fault | value, between⟩ <;> rfl

theorem run_pure (value : α) (before : σ) :
    (pure value : ExceptT ε (StateM σ) α).run before = (.ok value, before) :=
  rfl

theorem run_get (before : σ) :
    (get : ExceptT ε (StateM σ) σ).run before = (.ok before, before) :=
  rfl

theorem run_modify (change : σ → σ) (before : σ) :
    (modify change : ExceptT ε (StateM σ) Unit).run before = (.ok (), change before) :=
  rfl

theorem run_outcome {outcome : Except ε α} {value : α} (given : outcome = .ok value) (before : σ) :
    (liftM outcome : ExceptT ε (StateM σ) α).run before = (.ok value, before) := by
  subst given
  rfl

theorem ok_bind (value : α) (next : α → ExceptT ε (StateM σ) β) :
    (liftM (Except.ok value : Except ε α) >>= next) = next value :=
  rfl

variable {action : ExceptT ε (StateM σ) α} {next : α → ExceptT ε (StateM σ) β}
  {condition middle weaker : α → σ → Prop} {wanted : β → σ → Prop} {result : Except ε α}
  {before between : σ} {change : σ → σ} {value : α} {fault : ε}

variable {members : List α} {body : α → ExceptT ε (StateM σ) β} {task : α → ExceptT ε (StateM σ) PUnit}
  {turn : α → β → ExceptT ε (StateM σ) (ForInStep β)} {update : β → α → ExceptT ε (StateM σ) β}

theorem run_of_toOption (returned : (action.run before).1.toOption = some value) :
    action.run before = (.ok value, (action.run before).2) := by
  rcases run : action.run before with ⟨fault | result, after⟩
  · rw [run] at returned
    cases returned
  · rw [run] at returned
    rw [Option.some.inj returned]

theorem parts_of_bind_eq_ok {first : Except ε α} {next : α → Except ε β} {result : β}
    (succeeded : first >>= next = .ok result) :
    ∃ value, first = .ok value ∧ next value = .ok result := by
  cases first with
  | error fault => cases succeeded
  | ok value => exact ⟨value, rfl, succeeded⟩

theorem mapM_eq_ok_iff {body : α → Except ε β} {values : List β} : members.mapM body = .ok values ↔
      Forall₂ (fun member value => body member = .ok value) members values := by
  induction members generalizing values with
  | nil =>
    rw [forall₂_nil_left_iff]
    exact ⟨fun all => (Except.ok.inj all).symm, fun none => none ▸ rfl⟩
  | cons member rest ih =>
    rw [mapM_cons]
    constructor
    · intro all
      obtain ⟨value, first, all⟩ := parts_of_bind_eq_ok all
      obtain ⟨others, behind, all⟩ := parts_of_bind_eq_ok all
      cases all
      exact .cons first (ih.mp behind)
    · rintro (_ | ⟨first, behind⟩)
      rw [first, ih.mpr behind]
      rfl

namespace Yields

theorem weaken (holds : Yields action before condition)
    (implied : ∀ value after, condition value after → weaker value after) :
    Yields action before weaker := by
  obtain ⟨value, after, run, holds⟩ := holds
  exact ⟨value, after, run, implied value after holds⟩

theorem pure (holds : condition value before) :
    Yields (Pure.pure value : ExceptT ε (StateM σ) α) before condition :=
  ⟨value, before, rfl, holds⟩

theorem bind (first : Yields action before middle)
    (second : ∀ value between, middle value between → Yields (next value) between wanted) :
    Yields (action >>= next) before wanted := by
  obtain ⟨value, between, firstRun, reached⟩ := first
  obtain ⟨result, after, secondRun, holds⟩ := second value between reached
  refine ⟨result, after, ?_, holds⟩
  rw [run_bind, firstRun]
  exact secondRun

theorem step (run : action.run before = (.ok value, between))
    (rest : Yields (next value) between wanted) : Yields (action >>= next) before wanted := by
  obtain ⟨result, after, restRun, holds⟩ := rest
  refine ⟨result, after, ?_, holds⟩
  rw [run_bind, run]
  exact restRun

theorem modified {condition : Unit → σ → Prop} (holds : condition () (change before)) :
    Yields (modify change : ExceptT ε (StateM σ) Unit) before condition :=
  ⟨(), change before, rfl, holds⟩

theorem lifted {action : StateM σ α} (holds : condition (action.run before).1 (action.run before).2) :
    Yields (liftM action : ExceptT ε (StateM σ) α) before condition :=
  ⟨(action.run before).1, (action.run before).2, rfl, holds⟩

theorem run_eq {action : ExceptT ε (StateM σ) Unit} {after : σ}
    (holds : Yields action before fun _ reached => reached = after) :
    action.run before = (.ok (), after) := by
  obtain ⟨_, _, run, rfl⟩ := holds
  exact run

section

variable (invariant : List α → σ → Prop)

include invariant

theorem loop
    (step : ∀ done member rest value state, members = done ++ member :: rest → invariant done state →
      Yields (turn member value) state fun next after =>
        ∃ result, next = .yield result ∧ invariant (done ++ [member]) after) (value : β)
    (start : invariant [] before) :
    Yields (forIn members value turn) before fun _ after => invariant members after := by
  have pending : ∀ rest done value state, members = done ++ rest → invariant done state →
      Yields (forIn rest value turn) state fun _ after => invariant members after := by
    intro rest
    induction rest with
    | nil =>
      intro done value state whole holds
      rw [whole, append_nil]
      exact pure holds
    | cons member rest ih =>
      intro done value state whole holds
      rw [forIn_cons]
      refine bind (step done member rest value state whole holds) ?_
      rintro next between ⟨result, rfl, kept⟩
      exact ih _ result between (by simp [whole]) kept
  exact pending members [] value before rfl start

theorem each (step : ∀ member rest state, invariant (member :: rest) state →
      Yields (task member) state fun _ after => invariant rest after)
    (holds : invariant members before) :
    Yields (members.forM task) before fun _ after => invariant [] after := by
  induction members generalizing before with
  | nil => exact pure holds
  | cons member rest ih =>
    refine bind (step member rest before holds) ?_
    intro _ between kept
    exact ih kept

theorem along
    (step : ∀ done member rest state, members = done ++ member :: rest → invariant done state →
      Yields (task member) state fun _ after => invariant (done ++ [member]) after)
    (start : invariant [] before) :
    Yields (members.forM task) before fun _ after => invariant members after := by
  refine (each (fun rest state => ∃ done, members = done ++ rest ∧ invariant done state) ?_
    ⟨[], rfl, start⟩).weaken ?_
  · rintro member rest state ⟨done, whole, holds⟩
    exact (step done member rest state whole holds).weaken fun _ _ kept =>
      ⟨done ++ [member], by simp [whole], kept⟩
  · rintro _ after ⟨done, whole, holds⟩
    rw [whole, append_nil]
    exact holds

end

theorem fold (invariant : β → σ → Prop)
    (step : ∀ value member state, invariant value state → Yields (update value member) state invariant)
    {value : β} (holds : invariant value before) :
    Yields (members.foldlM update value) before invariant := by
  induction members generalizing value before with
  | nil => exact pure holds
  | cons member rest ih =>
    exact bind (step value member before holds) fun _ _ kept => ih kept

theorem map (related : α → β → Prop)
    (step : ∀ member ∈ members, ∀ state, Yields (body member) state fun value _ => related member value)
    (before : σ) :
    Yields (members.mapM body) before fun values _ => Forall₂ related members values := by
  induction members generalizing before with
  | nil => exact pure .nil
  | cons member rest ih =>
    rw [mapM_cons]
    refine bind (step member mem_cons_self before) ?_
    intro value between first
    refine bind (ih (fun other inside => step other (mem_cons_of_mem _ inside)) between) ?_
    intro values after others
    exact pure (.cons first others)

theorem returned {after : σ} (holds : Yields action before condition)
    (run : action.run before = (.ok value, after)) : condition value after := by
  obtain ⟨_, _, same, holds⟩ := holds
  rw [run] at same
  cases same
  exact holds

end Yields

/-- Whenever the action succeeds from the state, its value and the next state meet the condition. -/
def Ensures (action : ExceptT ε (StateM σ) α) (before : σ) (condition : α → σ → Prop) : Prop :=
  ∀ value after, action.run before = (.ok value, after) → condition value after

namespace Ensures

theorem related_mem {related : α → β → Prop} {values : List β}
    (all : Forall₂ related members values) {member : α} (inside : member ∈ members) :
    ∃ value ∈ values, related member value := by
  induction all with
  | nil => cases inside
  | cons first _ ih =>
    rcases mem_cons.mp inside with rfl | later
    · exact ⟨_, mem_cons_self, first⟩
    · obtain ⟨value, member, holds⟩ := ih later
      exact ⟨value, mem_cons_of_mem _ member, holds⟩

theorem weaken (holds : Ensures action before condition)
    (implied : ∀ value after, condition value after → weaker value after) :
    Ensures action before weaker :=
  fun value after run => implied value after (holds value after run)

theorem pure (holds : condition value before) :
    Ensures (Pure.pure value : ExceptT ε (StateM σ) α) before condition := by
  intro result after run
  cases run
  exact holds

theorem throw : Ensures (MonadExcept.throw fault : ExceptT ε (StateM σ) α) before condition := by
  intro result after run
  cases run

theorem modified {condition : Unit → σ → Prop} (holds : condition () (change before)) :
    Ensures (modify change : ExceptT ε (StateM σ) Unit) before condition := by
  intro result after run
  cases run
  exact holds

theorem outcome (holds : ∀ value, result = .ok value → condition value before) :
    Ensures (liftM result : ExceptT ε (StateM σ) α) before condition := by
  intro value after run
  cases result with
  | error fault => cases run
  | ok given =>
    cases run
    exact holds value rfl

theorem bind (first : Ensures action before middle)
    (second : ∀ value between, middle value between → Ensures (next value) between wanted) :
    Ensures (action >>= next) before wanted := by
  intro result after run
  rw [run_bind] at run
  rcases firstRun : action.run before with ⟨fault | value, between⟩
  · rw [firstRun] at run
    cases run
  · rw [firstRun] at run
    exact second value between (first value between firstRun) result after run

theorem skip (second : ∀ value between, Ensures (next value) between wanted) :
    Ensures (action >>= next) before wanted :=
  bind (fun _ _ _ => trivial) fun value between _ => second value between

theorem thrown : Ensures (MonadExcept.throw fault >>= next) before wanted := by
  intro result after run
  cases run

theorem rethrown {told : ε → ε} (holds : Ensures action before condition) :
    Ensures (tryCatch action fun fault => MonadExcept.throw (told fault)) before condition := by
  intro value after run
  rw [run_tryCatch] at run
  rcases inner : action.run before with ⟨fault | result, between⟩
  · rw [inner] at run
    cases run
  · rw [inner] at run
    cases run
    exact holds value after inner

theorem step (run : action.run before = (.ok value, between))
    (rest : Ensures (next value) between wanted) : Ensures (action >>= next) before wanted := by
  intro result after whole
  rw [run_bind, run] at whole
  exact rest result after whole

theorem reading {fact : α → Prop}
    (first : Ensures action before fun value after => after = before ∧ fact value)
    (second : ∀ value, fact value → Ensures (next value) before wanted) :
    Ensures (action >>= next) before wanted := by
  refine bind first ?_
  rintro value between ⟨same, holds⟩
  rw [same]
  exact second value holds

theorem known (rest : ∀ value, result = .ok value → Ensures (next value) before wanted) :
    Ensures (liftM result >>= next) before wanted :=
  reading (outcome fun _ given => ⟨rfl, given⟩) rest

theorem each (invariant : List α → σ → Prop)
    (step : ∀ member rest state, invariant (member :: rest) state →
      Ensures (task member) state fun _ after => invariant rest after)
    (holds : invariant members before) :
    Ensures (members.forM task) before fun _ after => invariant [] after := by
  induction members generalizing before with
  | nil => exact pure holds
  | cons member rest ih =>
    exact bind (step member rest before holds) fun _ _ kept => ih kept

theorem fold (invariant : List α → σ → Prop)
    (step : ∀ value member rest state, invariant (member :: rest) state →
      Ensures (update value member) state fun _ after => invariant rest after) {value : β}
    (holds : invariant members before) :
    Ensures (members.foldlM update value) before fun _ after => invariant [] after := by
  induction members generalizing value before with
  | nil => exact pure holds
  | cons member rest ih =>
    exact bind (step value member rest before holds) fun _ _ kept => ih kept

theorem loop (invariant : σ → Prop) (step : ∀ member ∈ members, ∀ value state, invariant state →
      Ensures (turn member value) state fun _ after => invariant after) {value : β}
    (holds : invariant before) :
    Ensures (forIn members value turn) before fun _ after => invariant after := by
  induction members generalizing value before with
  | nil => exact pure holds
  | cons member rest ih =>
    rw [forall_mem_cons] at step
    rw [forIn_cons]
    refine bind (step.1 value before holds) fun result between kept => ?_
    cases result with
    | done value => exact pure kept
    | yield value => exact ih step.2 kept

theorem map (invariant : σ → Prop) (related : α → β → Prop)
    (step : ∀ member ∈ members, ∀ state, invariant state → Ensures (body member) state
      fun value after => invariant after ∧ related member value) (holds : invariant before) :
    Ensures (members.mapM body) before fun values after =>
      invariant after ∧ Forall₂ related members values := by
  induction members generalizing before with
  | nil => exact pure ⟨holds, .nil⟩
  | cons member rest ih =>
    rw [forall_mem_cons] at step
    rw [mapM_cons]
    refine bind (step.1 before holds) fun value between ⟨kept, first⟩ => ?_
    refine bind (ih step.2 kept) fun values after ⟨kept, others⟩ => ?_
    exact pure ⟨kept, .cons first others⟩

theorem gather (related : α → β → Prop)
    (step : ∀ member, Ensures (body member) before fun value after =>
      after = before ∧ related member value) :
    Ensures (members.mapM body) before fun values after =>
      after = before ∧ Forall₂ related members values := by
  refine map (fun state => state = before) related ?_ rfl
  rintro member _ _ rfl
  exact step member

theorem written_of_related {γ : Type} {related : α → γ → Prop} {write : γ → β} {texts : List β}
    (all : Forall₂ (fun member text => ∃ value, related member value ∧
      text = write value) members texts) :
    ∃ values, Forall₂ related members values ∧ texts = values.map write := by
  induction all with
  | nil => exact ⟨[], .nil, rfl⟩
  | cons first _ ih =>
    obtain ⟨value, holds, rfl⟩ := first
    obtain ⟨values, others, rfl⟩ := ih
    exact ⟨value :: values, .cons holds others, rfl⟩

end Ensures

theorem Yields.ensures (holds : Yields action before condition) : Ensures action before condition :=
  fun _ _ run => holds.returned run

/-- A part of the state is the same behind the action, whether it succeeds or not, and the action
fails with allowed faults only. -/
def Preserves {κ : Type} (part : σ → κ) (allowed : ε → Prop) (action : ExceptT ε (StateM σ) α) :
    Prop :=
  ∀ before, part (action.run before).2 = part before ∧
    ∀ fault, (action.run before).1 = .error fault → allowed fault

namespace Preserves

variable {κ : Type} {part : σ → κ} {allowed : ε → Prop}

theorem pure (value : α) : Preserves part allowed (Pure.pure value) :=
  fun _ => ⟨rfl, nofun⟩

theorem throw (may : allowed fault) :
    Preserves part allowed (MonadExcept.throw fault : ExceptT ε (StateM σ) α) := by
  intro before
  refine ⟨rfl, ?_⟩
  intro other failed
  cases failed
  exact may

theorem current : Preserves part allowed MonadState.get :=
  fun _ => ⟨rfl, nofun⟩

theorem modified (same : ∀ state, part (change state) = part state) :
    Preserves part allowed (modify change) :=
  fun before => ⟨same before, nofun⟩

theorem bind (first : Preserves part allowed action)
    (second : ∀ value, Preserves part allowed (next value)) :
    Preserves part allowed (action >>= next) := by
  intro before
  obtain ⟨kept, may⟩ := first before
  rw [run_bind]
  generalize action.run before = result at kept may
  obtain ⟨fault | value, between⟩ := result
  · refine ⟨kept, ?_⟩
    intro other failed
    cases failed
    exact may fault rfl
  · obtain ⟨keptBehind, mayBehind⟩ := second value between
    exact ⟨keptBehind.trans kept, mayBehind⟩

end Preserves

def Same {κ : Type} (part : σ → κ) (before after : σ) : Prop :=
  part after = part before

instance {κ : Type} {part : σ → κ} : IsPreorder σ (Same part) where
  refl _ := rfl
  trans _ _ _ first second := Eq.trans second first

/-- The state behind the action follows the state before it, whether it succeeds or not. -/
class Advances (relation : σ → σ → Prop) (action : ExceptT ε (StateM σ) α) : Prop where
  follows : ∀ before, relation before (action.run before).2

def Follows (relation : σ → σ → Prop) (before : σ) (action : ExceptT ε (StateM σ) α) : Prop :=
  relation before (action.run before).2

namespace Follows

variable {relation : σ → σ → Prop} [IsPreorder σ relation]

theorem knowing {condition : α → Prop} (first : Follows relation before action)
    (returned : Ensures action before fun value _ => condition value)
    (second : ∀ value, condition value → Advances relation (next value)) :
    Follows relation before (action >>= next) := by
  unfold Follows at first ⊢
  unfold Ensures at returned
  rw [run_bind]
  generalize action.run before = result at first returned
  obtain ⟨fault | value, between⟩ := result
  · exact first
  · exact trans_of relation first ((second value (returned value between rfl)).follows between)

theorem bind (first : Follows relation before action)
    (rest : ∀ value, Advances relation (next value)) :
    Follows relation before (action >>= next) :=
  first.knowing (fun _ _ _ => trivial) fun value _ => rest value

theorem optional {condition : Prop} [Decidable condition] {action : ExceptT ε (StateM σ) PUnit}
    {next : PUnit → ExceptT ε (StateM σ) β} (first : Follows relation before action)
    (rest : ∀ value, Advances relation (next value)) :
    Follows relation before (if condition then action >>= next else next ⟨⟩) := by
  split
  · exact bind first rest
  · exact (rest ⟨⟩).follows before

end Follows

namespace Advances

variable {relation : σ → σ → Prop}

theorem ensures (advances : Advances relation action) (before : σ) :
    Ensures action before fun _ after => relation before after := by
  intro value after run
  have follows := advances.follows before
  rwa [run] at follows

theorem reading (reads : Advances Eq action) {fact : α → Prop}
    (returned : Ensures action before fun value _ => fact value) :
    Ensures action before fun value after => after = before ∧ fact value := by
  intro value after run
  have same := reads.follows before
  rw [run] at same
  exact ⟨same.symm, returned value after run⟩

theorem looked (reads : Advances Eq action) (second : ∀ value, Ensures (next value) before wanted) :
    Ensures (action >>= next) before wanted :=
  .reading (reads.reading fun _ _ _ => trivial) fun value _ => second value

theorem modified (follows : ∀ state, relation state (change state)) :
    Advances relation (modify change : ExceptT ε (StateM σ) PUnit) :=
  ⟨follows⟩

theorem rethrown {told : ε → ε} (advances : Advances relation action) :
    Advances relation (tryCatch action fun fault => MonadExcept.throw (told fault)) := by
  refine ⟨fun before => ?_⟩
  have follows := advances.follows before
  rw [run_tryCatch]
  generalize action.run before = result at follows
  obtain ⟨fault | value, between⟩ := result
  · exact follows
  · exact follows

theorem confirmed {fact : α → Prop} (reads : ∀ member, Advances Eq (task member))
    (checked : ∀ member ∈ members, Ensures (task member) before fun _ _ => fact member) :
    Ensures (members.forM task) before fun _ after =>
      after = before ∧ ∀ member ∈ members, fact member := by
  induction members with
  | nil => exact .pure ⟨rfl, forall_mem_nil _⟩
  | cons member rest ih =>
    refine .reading ((reads member).reading (checked member mem_cons_self)) ?_
    intro _ first
    refine (ih fun other inside => checked other (.tail _ inside)).weaken ?_
    exact fun _ _ ⟨same, others⟩ => ⟨same, forall_mem_cons.mpr ⟨first, others⟩⟩

variable [IsPreorder σ relation]

instance pure (value : α) : Advances relation (Pure.pure value : ExceptT ε (StateM σ) α) :=
  ⟨refl_of relation⟩

instance throw (fault : ε) : Advances relation (MonadExcept.throw fault : ExceptT ε (StateM σ) α) :=
  ⟨refl_of relation⟩

theorem refused (fault : ε) (next : α → ExceptT ε (StateM σ) β) :
    Advances relation (MonadExcept.throw fault >>= next) :=
  ⟨refl_of relation⟩

instance current : Advances relation (MonadState.get : ExceptT ε (StateM σ) σ) :=
  ⟨refl_of relation⟩

instance outcome (result : Except ε α) :
    Advances relation (liftM result : ExceptT ε (StateM σ) α) :=
  ⟨refl_of relation⟩

theorem bind (first : Advances relation action) (second : ∀ value, Advances relation (next value)) :
    Advances relation (action >>= next) :=
  ⟨fun before => Follows.bind (first.follows before) second⟩

theorem knowing {condition : α → Prop} (first : Advances relation action)
    (returned : ∀ before, Ensures action before fun value _ => condition value)
    (second : ∀ value, condition value → Advances relation (next value)) :
    Advances relation (action >>= next) :=
  ⟨fun before => Follows.knowing (first.follows before) (returned before) second⟩

theorem telling {fact : α → Prop} (reads : Advances Eq action)
    (returned : Ensures action before fun value after => after = before ∧ fact value)
    (rest : ∀ value, fact value → Follows relation before (next value)) :
    Follows relation before (action >>= next) := by
  have same := reads.follows before
  unfold Ensures at returned
  rw [Follows, run_bind]
  generalize action.run before = result at same returned
  obtain ⟨fault | value, between⟩ := result
  · cases same
    exact refl_of relation _
  · cases same
    exact rest value (returned value _ rfl).2

theorem seeing (reads : Advances Eq action) (rest : ∀ value, Follows relation before (next value)) :
    Follows relation before (action >>= next) :=
  reads.telling (reads.reading fun _ _ _ => trivial) fun value _ => rest value

variable {condition : Prop}

theorem chosen [Decidable condition] {known : α} (first : Advances relation action)
    (rest : ∀ value, Advances relation (next value)) :
    Advances relation (if condition then action >>= next else next known) := by
  split
  · exact bind first rest
  · exact rest known

theorem optional [Decidable condition] {action : ExceptT ε (StateM σ) PUnit}
    {next : PUnit → ExceptT ε (StateM σ) β} (first : Advances relation action)
    (rest : ∀ value, Advances relation (next value)) :
    Advances relation (if condition then action >>= next else next ⟨⟩) :=
  chosen first rest

theorem onward {start : σ} (first : Advances relation action) (follows : relation start before)
    (second : ∀ value between, relation start between → Ensures (next value) between wanted) :
    Ensures (action >>= next) before wanted :=
  .bind (first.ensures before) fun value between later =>
    second value between (trans_of relation follows later)

theorem each (step : ∀ member, Advances relation (task member)) :
    Advances relation (members.forM task) := by
  induction members with
  | nil => exact pure _
  | cons member rest ih =>
    exact bind (step member) fun _ => ih

theorem map (step : ∀ member, Advances relation (body member)) :
    Advances relation (members.mapM body) := by
  induction members with
  | nil => exact pure _
  | cons member rest ih =>
    rw [mapM_cons]
    exact bind (step member) fun _ => bind ih fun _ => pure _

theorem loop (step : ∀ member value, Advances relation (turn member value)) (value : β) :
    Advances relation (forIn members value turn) := by
  induction members generalizing value with
  | nil => exact pure value
  | cons member rest ih =>
    rw [forIn_cons]
    refine bind (step member value) fun next => ?_
    cases next with
    | done result => exact pure result
    | yield result => exact ih result

theorem fold (step : ∀ value member, Advances relation (update value member)) (value : β) :
    Advances relation (members.foldlM update value) := by
  induction members generalizing value with
  | nil => exact pure value
  | cons member rest ih =>
    exact bind (step value member) fun next => ih next

theorem filter {body : α → ExceptT ε (StateM σ) Bool}
    (step : ∀ member, Advances relation (body member)) :
    Advances relation (members.filterM body) := by
  have loop : ∀ members found, Advances relation (filterAuxM body members found) := by
    intro members
    induction members with
    | nil => exact fun found => pure found
    | cons member rest ih => exact fun found => bind (step member) fun kept => ih _
  exact bind (loop members []) fun _ => pure _

omit [IsPreorder σ relation] in
/-- An action advances if the actions it is made of do. Lemmas called `change_framed` or
`changeBody_framed` say it of the changes of single records. -/
theorem composed (parts : Advances relation action := by
    repeat' first
      | infer_instance
      | with_reducible refine Advances.bind ?_ fun _ => ?_
      | (with_reducible refine change_framed ?_); exact fun _ => rfl
      | (with_reducible refine changeBody_framed ?_); exact fun _ => rfl
      | split
      | with_reducible refine Advances.each fun _ => ?_
      | with_reducible refine Advances.map fun _ => ?_
      | with_reducible refine Advances.filter fun _ => ?_
      | with_reducible refine Advances.fold (fun _ _ => ?_) _
      | with_reducible refine Advances.loop (fun _ _ => ?_) _
      | dsimp only
      | exact ⟨fun _ => rfl⟩
      | refine Advances.bind ?_ fun _ => ?_) :
    Advances relation action :=
  parts

end Advances

/-- From the state the action comes to one that meets a condition: with its value if it succeeds, and
another one if it fails. -/
def Leads (action : ExceptT ε (StateM σ) α) (before : σ) (success : α → σ → Prop)
    (failure : σ → Prop) : Prop :=
  Ensures action before success ∧
    ∀ fault after, action.run before = (.error fault, after) → failure after

namespace Leads

variable {success : α → σ → Prop} {failure : σ → Prop}

theorem pure (holds : success value before) :
    Leads (Pure.pure value : ExceptT ε (StateM σ) α) before success failure := by
  refine ⟨.pure holds, ?_⟩
  intro fault after run
  cases run

theorem throw (holds : failure before) :
    Leads (MonadExcept.throw fault : ExceptT ε (StateM σ) α) before success failure := by
  refine ⟨.throw, ?_⟩
  intro other after run
  cases run
  exact holds

theorem weaken {stronger : α → σ → Prop} {strong : σ → Prop}
    (holds : Leads action before stronger strong)
    (implied : ∀ value after, stronger value after → success value after)
    (failed : ∀ after, strong after → failure after) : Leads action before success failure :=
  ⟨holds.1.weaken implied, fun fault after run => failed after (holds.2 fault after run)⟩

variable {condition : β → σ → Prop}

theorem bind (first : Leads action before middle failure)
    (second : ∀ value between, middle value between → Leads (next value) between condition failure)
    : Leads (action >>= next) before condition failure := by
  refine ⟨first.1.bind fun value between reached => (second value between reached).1, ?_⟩
  intro fault after run
  rw [run_bind] at run
  rcases firstRun : action.run before with ⟨other | value, between⟩
  · rw [firstRun] at run
    cases run
    exact first.2 _ _ firstRun
  · rw [firstRun] at run
    exact (second value between (first.1 value between firstRun)).2 fault after run

theorem thrown (holds : failure before) :
    Leads (MonadExcept.throw fault >>= next) before condition failure := by
  refine ⟨.thrown, ?_⟩
  intro other after run
  cases run
  exact holds

theorem step (run : action.run before = (.ok value, between))
    (rest : Leads (next value) between condition failure) :
    Leads (action >>= next) before condition failure := by
  refine ⟨.step run rest.1, ?_⟩
  intro fault after whole
  rw [run_bind, run] at whole
  exact rest.2 fault after whole

theorem known (rest : ∀ value, result = .ok value → Leads (next value) before condition failure)
    (failed : ∀ fault, result = .error fault → failure before) :
    Leads (liftM result >>= next) before condition failure := by
  cases result with
  | error fault => exact thrown (failed fault rfl)
  | ok value => exact step (run_outcome rfl before) (rest value rfl)

theorem reached (holds : Leads action before (fun _ after => failure after) failure) :
    failure (action.run before).2 := by
  rcases run : action.run before with ⟨fault | value, after⟩
  · exact holds.2 fault after run
  · exact holds.1 value after run

end Leads

theorem Yields.leads (holds : Yields action before condition) (failure : σ → Prop) :
    Leads action before condition failure := by
  refine ⟨holds.ensures, ?_⟩
  intro fault after run
  obtain ⟨value, next, known, _⟩ := holds
  rw [known] at run
  cases run

theorem Leads.yields (holds : Leads action before condition fun _ => False) :
    Yields action before condition := by
  rcases run : action.run before with ⟨fault | value, after⟩
  · exact (holds.2 fault after run).elim
  · exact ⟨value, after, run, holds.1 value after run⟩

/-- What the action gives meets the condition, and it gives something where that is possible. -/
abbrev Attains (action : ExceptT ε (StateM σ) α) (before : σ) (possible : Prop)
    (condition : α → σ → Prop) : Prop :=
  Leads action before condition fun _ => ¬ possible

namespace Attains

section

variable {possible : Prop} (holds : Attains action before possible condition)

include holds

theorem only {fewer : Prop} (can : fewer → possible) : Attains action before fewer condition :=
  holds.weaken (fun _ _ => id) fun _ => mt can

theorem yields (can : possible) : Yields action before condition :=
  Leads.yields (holds.weaken (fun _ _ => id) fun _ impossible => impossible can)

end

theorem gather {allowed : α → Prop} (related : α → β → Prop)
    (each : ∀ member, Attains (body member) before (allowed member)
      fun value after => after = before ∧ related member value) :
    Attains (members.mapM body) before (∀ member ∈ members, allowed member)
      fun values after => after = before ∧ Forall₂ related members values := by
  induction members with
  | nil => exact .pure ⟨rfl, .nil⟩
  | cons member rest ih =>
    rw [mapM_cons]
    refine .bind ((each member).only fun all => all member mem_cons_self) ?_
    rintro value _ ⟨rfl, first⟩
    refine .bind (ih.only fun all other inside => all other (.tail _ inside)) ?_
    rintro values _ ⟨rfl, others⟩
    exact .pure ⟨rfl, .cons first others⟩

end Attains

/-- Wherever the first action succeeds, the second one succeeds from all related states with the same
value, and comes to a state that is related in turn. -/
def Tracks (related reached : σ → σ → Prop) (first second : ExceptT ε (StateM σ) α) : Prop :=
  ∀ before other, related before other → ∀ value after,
    first.run before = (.ok value, after) →
      ∃ later, second.run other = (.ok value, later) ∧ reached after later

namespace Tracks

variable {related between reached : σ → σ → Prop}

theorem pure (value : α) :
    Tracks related related (Pure.pure value : ExceptT ε (StateM σ) α) (Pure.pure value) :=
  fun _ other holds => Ensures.pure ⟨other, rfl, holds⟩

variable {second : ExceptT ε (StateM σ) α}

theorem throw : Tracks related reached (MonadExcept.throw fault) second :=
  fun _ _ _ => Ensures.throw

theorem refused {second : ExceptT ε (StateM σ) β} :
    Tracks related reached (MonadExcept.throw fault >>= next) second :=
  fun _ _ _ => Ensures.thrown

theorem modified {change update : σ → σ}
    (kept : ∀ before other, related before other → reached (change before) (update other)) :
    Tracks related reached (modify change : ExceptT ε (StateM σ) Unit) (modify update) :=
  fun before other holds => Ensures.modified ⟨update other, rfl, kept before other holds⟩

theorem bind {first : ExceptT ε (StateM σ) α} {rest : α → ExceptT ε (StateM σ) β}
    (start : Tracks related between first second)
    (goesOn : ∀ value, Tracks between reached (next value) (rest value)) :
    Tracks related reached (first >>= next) (second >>= rest) := by
  intro before other holds
  refine Ensures.bind (start before other holds) ?_
  rintro value middle ⟨along, run, tracked⟩
  rw [run_bind, run]
  exact goesOn value middle along tracked

theorem known {rest : α → ExceptT ε (StateM σ) β}
    (goesOn : ∀ value, result = .ok value → Tracks related reached (next value) (rest value)) :
    Tracks related reached (liftM result >>= next) (liftM result >>= rest) := by
  cases result with
  | error fault =>
    intro before other holds value after run
    cases run
  | ok value => exact goesOn value rfl

theorem weaken {stronger : σ → σ → Prop} {first : ExceptT ε (StateM σ) α}
    (tracks : Tracks related stronger first second)
    (implied : ∀ after later, stronger after later → reached after later) :
    Tracks related reached first second :=
  fun before other holds => Ensures.weaken (tracks before other holds)
    fun _ _ found => found.imp fun later => And.imp_right (implied _ later)

theorem reading {next rest : σ → ExceptT ε (StateM σ) β}
    (goesOn : ∀ state along, related state along →
      Tracks related reached (next state) (rest along)) :
    Tracks related reached (get >>= next) (get >>= rest) :=
  fun before other holds => goesOn before other holds before other holds

theorem loop (step : ∀ member value, Tracks related related (turn member value) (turn member value))
    (value : β) : Tracks related related (forIn members value turn) (forIn members value turn) := by
  induction members generalizing value with
  | nil => exact pure value
  | cons member rest ih =>
    rw [forIn_cons]
    refine bind (step member value) fun next => ?_
    cases next with
    | done result => exact pure result
    | yield result => exact ih result

end Tracks

end ParallelFortran
