import Mathlib.Data.List.Nodup
import ParallelFortran.Proofs.Action
import ParallelFortran.Proofs.Arena
import ParallelFortran.Session

/-! What is known of routines behind each change of a session. -/

namespace ParallelFortran

open Xml List

namespace Session

variable (session : Session) (id : RoutineId)

def knows : Prop :=
  id.index < session.routines.size

instance : Decidable (session.knows id) :=
  inferInstanceAs (Decidable (_ < _))

def changed (update : Routine → Routine) : Session :=
  { session with routines := session.routines.modify id.index update }

@[simp] theorem knows_changed (id other : RoutineId) (update : Routine → Routine) :
    (session.changed id update).knows other ↔ session.knows other := by
  simp [changed, knows]

variable {session : Session} {id : RoutineId}

theorem routine_changed_self (known : session.knows id) (update : Routine → Routine) :
    (session.changed id update).routine id = update (session.routine id) :=
  (Arena.getD_modify _ _ _ update _).trans (if_pos ⟨rfl, known⟩)

theorem routine_changed_of_ne (session : Session) {other : RoutineId} (different : other ≠ id)
    (update : Routine → Routine) :
    (session.changed id update).routine other = session.routine other :=
  (Arena.getD_modify _ _ _ update _).trans
    (if_neg fun both => different (congrArg RoutineId.mk both.1.symm))

theorem routine_changed (known : session.knows id) (other : RoutineId) (update : Routine → Routine) :
    (session.changed id update).routine other =
      if other = id then update (session.routine id) else session.routine other := by
  split
  · next same => rw [same, routine_changed_self known]
  · next different => exact routine_changed_of_ne session different update

theorem changed_changed (session : Session) (id : RoutineId) (first second : Routine → Routine) :
    (session.changed id first).changed id second =
      session.changed id fun routine => second (first routine) := by
  rw [changed, changed, Arena.modify_modify, changed]

theorem changed_congr (session : Session) {first second : Routine → Routine}
    (same : first (session.routine id) = second (session.routine id)) :
    session.changed id first = session.changed id second := by
  rw [changed, changed, Arena.modify_congr same]

theorem changed_same {update : Routine → Routine}
    (same : update (session.routine id) = session.routine id) : session.changed id update = session := by
  rw [changed, Arena.modify_eq_self same]

theorem knows_of_body {body : RoutineBody} (found : (session.routine id).body = some body) :
    session.knows id := by
  by_contra unknown
  have beyond : session.routines[id.index]? = none :=
    Array.getElem?_eq_none (Nat.le_of_not_lt unknown)
  rw [routine, beyond] at found
  cases found

def setBody (session : Session) (id : RoutineId) (body : RoutineBody) : Session :=
  session.changed id fun routine => { routine with body := some body }

theorem setBody_setBody (session : Session) (id : RoutineId) (first second : RoutineBody) :
    (session.setBody id first).setBody id second = session.setBody id second :=
  changed_changed session id _ _

theorem routine_setBody (known : session.knows id) (body : RoutineBody) :
    (session.setBody id body).routine id = { session.routine id with body := some body } :=
  routine_changed_self known _

theorem body_setBody (known : session.knows id) (body : RoutineBody) :
    ((session.setBody id body).routine id).body = some body := by
  rw [routine_setBody known]

section

variable (session : Session)

def grown (registry : Registry) (routines : List Routine) (backends : List Backend) : Session :=
  { session with
    registry
    routines := session.routines ++ routines.toArray
    backends := session.backends ++ backends.toArray }

def nextId (number : Nat) : RoutineId :=
  ⟨session.routines.size + number⟩

def newIds (first count : Nat) : List RoutineId :=
  (range' first count).map session.nextId

theorem newIds_succ (first count : Nat) :
    session.newIds first (count + 1) = session.nextId first :: session.newIds (first + 1) count := by
  rw [newIds, range'_succ, map_cons, newIds]

theorem newIds_grown (registry : Registry) (routines : List Routine) (backends : List Backend)
    (first count : Nat) : (session.grown registry routines backends).newIds first count =
      session.newIds (routines.length + first) count := by
  rw [newIds, newIds, ← map_add_range', map_map]
  apply map_congr_left
  simp [nextId, grown, Nat.add_assoc]

theorem newIds_changed (id : RoutineId) (update : Routine → Routine) (first count : Nat) :
    (session.changed id update).newIds first count = session.newIds first count := by
  simp [newIds, nextId, changed]

theorem newIds_append (first second : Nat) :
    session.newIds 0 first ++ session.newIds first second = session.newIds 0 (first + second) := by
  have joined : range' 0 first ++ range' (0 + first) second =
      range' 0 (first + second) := range'_append_1
  rw [Nat.zero_add] at joined
  rw [newIds, newIds, newIds, ← map_append, joined]

theorem grown_grown (registry later : Registry) (routines more : List Routine)
    (backends others : List Backend) :
    (session.grown registry routines backends).grown later more others =
      session.grown later (routines ++ more) (backends ++ others) := by
  simp [grown]

end

section

variable (known : session.knows id) (registry : Registry) (routines : List Routine)
  (backends : List Backend)
include known

theorem knows_grown : (session.grown registry routines backends).knows id := by
  have bound : id.index < session.routines.size := known
  simp only [knows, grown, Array.size_append]
  omega

theorem routine_grown :
    (session.grown registry routines backends).routine id = session.routine id := by
  have bound : id.index < session.routines.size := known
  simp [routine, grown, Array.getElem?_append, bound]

end

section

variable (session : Session) (registry : Registry)

theorem routine_grown_new (routines : List Routine) (backends : List Backend) (number : Nat) :
    (session.grown registry routines backends).routine (session.nextId number) =
      routines[number]?.getD default := by
  have beyond : ¬ session.routines.size + number < session.routines.size := by omega
  simp [routine, grown, nextId, Array.getElem?_append, beyond]

theorem map_routine_newIds (front rest : List Routine) (backends : List Backend) :
    (session.newIds front.length rest.length).map
      (session.grown registry (front ++ rest) backends).routine = rest := by
  induction rest generalizing front with
  | nil => rfl
  | cons routine rest ih =>
    rw [length_cons, newIds_succ, map_cons, routine_grown_new]
    have first : (front ++ routine :: rest)[front.length]? = some routine := by simp
    have others := ih (front ++ [routine])
    rw [length_append, length_singleton, append_assoc,
      singleton_append] at others
    rw [first, others, Option.getD_some]

end

theorem newIds_nodup (session : Session) (first count : Nat) :
    (session.newIds first count).Nodup := by
  refine Nodup.map ?_ nodup_range'
  intro left right same
  have places := congrArg RoutineId.index same
  simp only [nextId] at places
  omega

theorem not_mem_newIds (known : session.knows id) (first count : Nat) :
    id ∉ session.newIds first count := by
  intro member
  obtain ⟨number, _, rfl⟩ := mem_map.mp member
  simp only [knows, nextId] at known
  omega

theorem backend_grown_new (session : Session) (registry : Registry) (routines : List Routine)
    (backend : Backend) :
    (session.grown registry routines [backend]).backend ⟨session.backends.size⟩ = backend := by
  simp [Session.backend, grown]

theorem grown_changed (known : session.knows id) (update : Routine → Routine) (registry : Registry)
    (routines : List Routine) (backends : List Backend) :
    (session.changed id update).grown registry routines backends =
      (session.grown registry routines backends).changed id update := by
  have bound : id.index < session.routines.size := known
  have same : session.routines.modify id.index update ++ routines.toArray =
      (session.routines ++ routines.toArray).modify id.index update := by
    apply Array.ext_getElem?
    intro index
    simp only [Array.getElem?_append, Array.getElem?_modify, Array.size_modify]
    split
    · rfl
    · next beyond => rw [if_neg (by omega)]
  simp [changed, grown, same]

variable (session : Session) (registry : Registry) (routine : Routine) (backends : List Backend)

theorem changed_new (update : Routine → Routine) :
    (session.grown registry [routine] backends).changed (session.nextId 0) update =
      session.grown registry [update routine] backends := by
  have same : (session.routines ++ #[routine]).modify session.routines.size update =
      session.routines ++ #[update routine] := by
    apply Array.ext_getElem?
    intro index
    simp only [Array.getElem?_append, Array.getElem?_modify]
    by_cases inside : index < session.routines.size
    · simp [inside, Nat.ne_of_gt inside]
    · by_cases last : index = session.routines.size
      · subst last
        simp
      · have beyond : index - session.routines.size ≠ 0 := by omega
        simp [Ne.symm last, beyond]
  simp only [changed, grown, nextId, Nat.add_zero, same]

theorem routine_new :
    (session.grown registry [routine] backends).routine (session.nextId 0) = routine :=
  routine_grown_new session registry [routine] backends 0

theorem setBody_new (body : RoutineBody) :
    (session.grown registry [routine] backends).setBody (session.nextId 0) body =
      session.grown registry [{ routine with body := some body }] backends :=
  changed_new session registry routine backends _

end Session

namespace Work

variable (session : Session) (id : RoutineId)

theorem run_routine : (routine id).run session = (.ok (session.routine id), session) :=
  rfl

theorem run_body_eq : (body id).run session = match (session.routine id).body with
      | some given => (.ok given, session) | none => (.error (.defect .missingPart), session) := by
  rw [body, run_bind, run_routine]
  dsimp only
  cases (session.routine id).body <;> rfl

variable {session : Session} {id : RoutineId} {given : RoutineBody}

theorem run_body (found : (session.routine id).body = some given) :
    (body id).run session = (.ok given, session) := by
  rw [run_body_eq, found]

theorem body_ensures (session : Session) (id : RoutineId) :
    Ensures (body id) session fun given after =>
      after = session ∧ (session.routine id).body = some given := by
  intro value after run
  rw [run_body_eq] at run
  cases found : (session.routine id).body with
  | none =>
    rw [found] at run
    cases run
  | some given =>
    rw [found] at run
    cases run
    exact ⟨rfl, rfl⟩

theorem run_backend (session : Session) (id : BackendId) :
    (backend id).run session = (.ok (session.backend id), session) :=
  rfl

theorem run_position (session : Session) (node : NodeId) : (position node).run session =
      (.ok (session.store.value node "parallelRegionPosition"), session) :=
  rfl

theorem run_changeBody (found : (session.routine id).body = some given)
    (update : RoutineBody → RoutineBody) :
    (changeBody id update).run session = (.ok (), session.setBody id (update given)) := by
  have same : session.changed id (fun routine => { routine with body := routine.body.map update }) =
      session.setBody id (update given) := by
    apply Session.changed_congr
    rw [found, Option.map_some]
  rw [← same]
  rfl

theorem run_addBackend (session : Session) (backend : Backend) :
    (addBackend backend).run session =
      (.ok ⟨session.backends.size⟩, session.grown session.registry [] [backend]) := by
  change (Except.ok _, _) = _
  simp [Session.grown]

variable {α : Type}

theorem stored_yields {action : StoreM α} {condition : α → Store → Prop}
    (holds : Yields action session.store condition) :
    Yields (liftM action : Work α) session fun value after =>
      ∃ registry, condition value registry.store ∧ after = { session with registry } := by
  obtain ⟨value, store, run, holds⟩ := holds
  refine ⟨value, { session with registry := { session.registry with store } }, ?_, _, holds, rfl⟩
  exact congrArg (fun result : Outcome α × Store =>
    (result.1, { session with registry := { session.registry with store := result.2 } })) run

theorem run_changeRoutine (session : Session) (id : RoutineId) (update : Routine → Routine) :
    (changeRoutine id update).run session = (.ok (), session.changed id update) :=
  rfl

theorem stop_ensures (entry : LogEntry) (before : Session) (condition : α → Session → Prop) :
    Ensures (stop entry) before condition := by
  intro value after run
  cases run

end Work

end ParallelFortran
