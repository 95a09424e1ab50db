import Mathlib.Logic.Relation
import ParallelFortran.Conversion
import ParallelFortran.Proofs.Session
import ParallelFortran.Proofs.Table

/-! Routines that are used on the host: those that routines without a place on the device reach. -/

namespace ParallelFortran.Work

open List

variable {id : RoutineId}

section

variable (following : RoutineId → List RoutineId) (unseen pending : List RoutineId)

include following unseen pending

theorem mem_visit_of_pending (waiting : id ∈ pending) (new : id ∈ unseen) :
    id ∈ visit following unseen pending := by
  fun_induction visit following unseen pending with
  | case1 => cases waiting
  | case2 unseen first pending isNew ih =>
    by_cases same : id = first
    · simp [same]
    · have waits : id ∈ pending := (mem_cons.mp waiting).resolve_left same
      have stays : id ∈ unseen.removeAll [first] := by simp [removeAll, new, same]
      exact mem_cons_of_mem _ (ih (mem_append_right _ waits) stays)
  | case3 unseen first pending isSeen ih =>
    have different : id ≠ first := by
      rintro rfl
      exact isSeen new
    exact ih ((mem_cons.mp waiting).resolve_left different) new

section

variable (visited : id ∈ visit following unseen pending)

include visited

theorem following_mem_visit {next : RoutineId}
    (follows : next ∈ following id) (new : next ∈ unseen) :
    next ∈ visit following unseen pending := by
  fun_induction visit following unseen pending with
  | case1 => cases visited
  | case2 unseen first pending isNew ih =>
    by_cases same : next = first
    · simp [same]
    · have stays : next ∈ unseen.removeAll [first] := by simp [removeAll, new, same]
      rcases mem_cons.mp visited with isFirst | later
      · subst isFirst
        exact mem_cons_of_mem _
          (mem_visit_of_pending following _ _ (mem_append_left _ follows) stays)
      · exact mem_cons_of_mem _ (ih later stays)
  | case3 unseen first pending isSeen ih => exact ih visited new

theorem reached_of_mem_visit :
    ∃ start ∈ pending, Relation.ReflTransGen (fun id next => next ∈ following id) start id := by
  fun_induction visit following unseen pending with
  | case1 => cases visited
  | case2 unseen first pending isNew ih =>
    rcases mem_cons.mp visited with isFirst | later
    · exact ⟨first, mem_cons_self, isFirst ▸ .refl⟩
    · obtain ⟨start, waits, path⟩ := ih later
      rcases mem_append.mp waits with follows | waits
      · exact ⟨first, mem_cons_self, path.head follows⟩
      · exact ⟨start, mem_cons_of_mem _ waits, path⟩
  | case3 unseen first pending isSeen ih =>
    obtain ⟨start, waits, path⟩ := ih visited
    exact ⟨start, mem_cons_of_mem _ waits, path⟩

theorem mem_unseen_of_mem_visit : id ∈ unseen := by
  fun_induction visit following unseen pending with
  | case1 => cases visited
  | case2 unseen first pending isNew ih =>
    rcases mem_cons.mp visited with isFirst | later
    · exact isFirst ▸ isNew
    · exact mem_of_mem_filter (ih later)
  | case3 unseen first pending isSeen ih => exact ih visited

end

end

/-! Names and calls -/

variable (session : Session)

def sourceRoutines (models : List SourceModel) : List RoutineId :=
  (models.flatMap SourceModel.modules).flatMap fun id => (session.module id).routines

def CallsByName (sources : List RoutineId) (caller callee : String) : Prop :=
  ∃ id ∈ sources, (session.routine id).name = caller ∧
    ∃ called ∈ calleesOf session id, (session.routine called).name = callee

/-- A routine has no place on the device: its backend does not handle data there, or no parallel
region is around or in it. -/
def LacksDevice (id : RoutineId) : Prop :=
  ∃ body, (session.routine id).body = some body ∧
    ((session.backend body.backend).kind.handlesDeviceData = false ∨
      session.position body ∉ ["within", "inside", "outside"])

theorem runsOnHost_iff (id : RoutineId) :
    runsOnHost session id = true ↔ LacksDevice session id := by
  unfold runsOnHost LacksDevice
  cases (session.routine id).body with
  | none => simp
  | some body =>
    simp [decide_eq_false_iff_not, Option.some.injEq, exists_eq_left']

def Indexed : Prop :=
  ∀ entry ∈ session.routinesByName.entries, entry.1 = (session.routine entry.2).name

section Indexed

variable {session : Session} (indexed : Indexed session)
include indexed

variable (name : String)

theorem routinesByName_get?_iff (id : RoutineId) : session.routinesByName.get? name = some id ↔
      id ∈ session.routinesByName.values ∧ (session.routine id).name = name := by
  rw [Table.get?_eq_some_iff, Table.values, mem_map]
  constructor
  · intro member
    exact ⟨⟨(name, id), member, rfl⟩, (indexed _ member).symm⟩
  · rintro ⟨⟨entry, member, rfl⟩, rfl⟩
    rw [← indexed entry member]
    exact member

variable (callee : RoutineId)

theorem mem_calledFrom_iff : callee ∈ calledFrom session name ↔
      ∃ id ∈ session.routinesByName.values, (session.routine id).name = name ∧
        callee ∈ calleesOf session id := by
  unfold calledFrom
  constructor
  · intro member
    cases found : session.routinesByName.get? name with
    | none => simp [found] at member
    | some id =>
      obtain ⟨inside, named⟩ := (routinesByName_get?_iff indexed name id).mp found
      exact ⟨id, inside, named, by simpa [found] using member⟩
  · rintro ⟨id, inside, named, member⟩
    rw [(routinesByName_get?_iff indexed name id).mpr ⟨inside, named⟩]
    exact member

theorem callsByName_iff (caller callee : String) :
    CallsByName session session.routinesByName.values caller callee ↔
      ∃ called ∈ calledFrom session caller, (session.routine called).name = callee := by
  constructor
  · rintro ⟨id, inside, named, called, member, calledName⟩
    exact ⟨called, (mem_calledFrom_iff indexed _ _).mpr ⟨id, inside, named, member⟩, calledName⟩
  · rintro ⟨called, member, calledName⟩
    obtain ⟨id, inside, named, member⟩ := (mem_calledFrom_iff indexed _ _).mp member
    exact ⟨id, inside, named, called, member, calledName⟩

omit indexed in
theorem mem_callsOf_iff : callee ∈ callsOf session name ↔
      (∃ id ∈ session.routinesByName.values, callee ∈ calleesOf session id) ∧
        (session.routine callee).name = name := by
  simp [callsOf]

variable {id : RoutineId}

theorem callsByName_of_following {next : RoutineId} (follows : next ∈ following session id) :
    CallsByName session session.routinesByName.values (session.routine id).name
      (session.routine next).name := by
  rw [callsByName_iff indexed]
  obtain ⟨callee, called, member⟩ := mem_flatMap.mp follows
  rcases mem_cons.mp member with isCallee | sameName
  · exact ⟨callee, called, by rw [isCallee]⟩
  · exact ⟨callee, called, ((mem_callsOf_iff _ _).mp sameName).2.symm⟩

theorem mem_markedWith_iff (id marked : RoutineId) : marked ∈ markedWith session id ↔
      marked = id ∨ marked ∈ callsOf session (session.routine id).name ∨
      marked ∈ session.routinesByName.values ∧
        CallsByName session session.routinesByName.values (session.routine id).name
          (session.routine marked).name := by
  simp only [markedWith, cons_append, mem_cons, mem_append, mem_filterMap,
    routinesByName_get?_iff indexed, callsByName_iff indexed]
  refine or_congr_right (or_congr_right ⟨?_, ?_⟩)
  · rintro ⟨callee, called, inside, named⟩
    exact ⟨inside, callee, called, named.symm⟩
  · rintro ⟨inside, callee, called, named⟩
    exact ⟨callee, called, inside, named.symm⟩

/-! What the visit marks -/

/-- The routines of sources, and each of their callees as it is called there. -/
def programRoutines (session : Session) (sources : List RoutineId) : List RoutineId :=
  sources ++ sources.flatMap (calleesOf session)

/-- Calls lead to the name from a routine without a place on the device. -/
def ReachedFromHost (session : Session) (sources : List RoutineId) (name : String) : Prop :=
  ∃ host ∈ sources, LacksDevice session host ∧
    Relation.ReflTransGen (CallsByName session sources) (session.routine host).name name

def visitedRoutines (session : Session) : List RoutineId :=
  visit (following session) (programRoutines session session.routinesByName.values)
    (session.routinesByName.values.filter (runsOnHost session))

theorem reachedFromHost_of_visited (visited : id ∈ visitedRoutines session) :
    ReachedFromHost session session.routinesByName.values (session.routine id).name := by
  obtain ⟨host, waiting, path⟩ := reached_of_mem_visit _ _ _ visited
  obtain ⟨inside, onHost⟩ := mem_filter.mp waiting
  refine ⟨host, inside, (runsOnHost_iff session host).mp onHost, ?_⟩
  exact path.lift (fun id => (session.routine id).name) fun _ _ =>
    callsByName_of_following indexed

omit indexed in
theorem visited_of_host {host : RoutineId} (inside : host ∈ session.routinesByName.values)
    (lacks : LacksDevice session host) : host ∈ visitedRoutines session :=
  mem_visit_of_pending _ _ _
    (mem_filter.mpr ⟨inside, (runsOnHost_iff session host).mpr lacks⟩)
    (mem_append_left _ inside)

theorem visited_of_called {callee : RoutineId} (visited : id ∈ visitedRoutines session)
    (called : callee ∈ calledFrom session (session.routine id).name) :
    callee ∈ visitedRoutines session := by
  obtain ⟨caller, inside, _, member⟩ := (mem_calledFrom_iff indexed _ _).mp called
  refine following_mem_visit _ _ _ visited ?_ ?_
  · exact mem_flatMap.mpr ⟨callee, called, mem_cons_self⟩
  · exact mem_append_right _ (mem_flatMap.mpr ⟨caller, inside, member⟩)

theorem exists_visited_of_reached {name : String}
    (reached : ReachedFromHost session session.routinesByName.values name) :
    ∃ id ∈ visitedRoutines session, (session.routine id).name = name := by
  obtain ⟨host, inside, lacks, path⟩ := reached
  induction path with
  | refl => exact ⟨host, visited_of_host inside lacks, rfl⟩
  | tail _ call ih =>
    obtain ⟨id, visited, named⟩ := ih
    obtain ⟨callee, called, calleeName⟩ := (callsByName_iff indexed _ _).mp call
    exact ⟨callee, visited_of_called indexed visited (named ▸ called), calleeName⟩

section

variable (marked : id ∈ (visitedRoutines session).flatMap (markedWith session))

include marked

theorem reachedFromHost_of_marked :
    ReachedFromHost session session.routinesByName.values (session.routine id).name := by
  obtain ⟨visited, isVisited, marks⟩ := mem_flatMap.mp marked
  have reached := reachedFromHost_of_visited indexed isVisited
  rcases (mem_markedWith_iff indexed _ _).mp marks with rfl | call | ⟨_, calls⟩
  · exact reached
  · rw [((mem_callsOf_iff _ _).mp call).2]
    exact reached
  · obtain ⟨host, inside, lacks, path⟩ := reached
    exact ⟨host, inside, lacks, path.tail calls⟩

theorem programRoutines_of_marked : id ∈ programRoutines session session.routinesByName.values := by
  obtain ⟨visited, isVisited, marks⟩ := mem_flatMap.mp marked
  rcases (mem_markedWith_iff indexed _ _).mp marks with rfl | call | ⟨inside, _⟩
  · exact mem_unseen_of_mem_visit _ _ _ isVisited
  · exact mem_append_right _ (mem_flatMap.mpr ((mem_callsOf_iff _ _).mp call).1)
  · exact mem_append_left _ inside

end

theorem marked_of_reachedFromHost (member : id ∈ programRoutines session session.routinesByName.values)
    (reached : ReachedFromHost session session.routinesByName.values (session.routine id).name) :
    id ∈ (visitedRoutines session).flatMap (markedWith session) := by
  rcases mem_append.mp member with inside | called
  · -- A routine of the sources is a host itself or is marked with the last caller of the path.
    obtain ⟨host, hostInside, lacks, path⟩ := reached
    rcases Relation.ReflTransGen.cases_tail path with same | ⟨caller, path, call⟩
    · have isHost : host = id := by
        have hostFound := (routinesByName_get?_iff indexed _ host).mpr ⟨hostInside, same.symm⟩
        have found := (routinesByName_get?_iff indexed _ id).mpr ⟨inside, rfl⟩
        exact Option.some.inj (hostFound.symm.trans found)
      subst isHost
      refine mem_flatMap.mpr ⟨host, visited_of_host hostInside lacks, ?_⟩
      exact (mem_markedWith_iff indexed _ _).mpr (.inl rfl)
    · obtain ⟨visited, isVisited, named⟩ :=
        exists_visited_of_reached indexed ⟨host, hostInside, lacks, path⟩
      refine mem_flatMap.mpr ⟨visited, isVisited, ?_⟩
      exact (mem_markedWith_iff indexed _ _).mpr (.inr (.inr ⟨inside, named ▸ call⟩))
  · -- A call is marked with any visited routine of its name.
    obtain ⟨visited, isVisited, named⟩ := exists_visited_of_reached indexed reached
    refine mem_flatMap.mpr ⟨visited, isVisited, ?_⟩
    refine (mem_markedWith_iff indexed _ _).mpr (.inr (.inl ?_))
    exact (mem_callsOf_iff _ _).mpr ⟨by simpa using called, named.symm⟩

end Indexed

def marked (id : RoutineId) : Session :=
  session.changed id fun routine => { routine with isUsedOnHostOnly := true }

structure Marking (ids pending : List RoutineId) (state : Session) : Prop where
  routines : state = { session with routines := state.routines }
  known : ∀ id, state.knows id ↔ session.knows id
  kept : ∀ id, state.routine id =
    { session.routine id with isUsedOnHostOnly := (state.routine id).isUsedOnHostOnly }
  flags : ∀ id, (state.routine id).isUsedOnHostOnly = true ∨ id ∈ pending ↔
    (session.routine id).isUsedOnHostOnly = true ∨ id ∈ ids

variable {session : Session} {pending : List RoutineId}

theorem Marking.step {state : Session} {ids : List RoutineId}
    (marking : Marking session ids (id :: pending) state) (known : session.knows id) :
    Marking session ids pending (marked state id) := by
  have there : state.knows id := (marking.known id).mpr known
  constructor
  · rw [marked, Session.changed, marking.routines]
  · intro other
    rw [marked, Session.knows_changed, marking.known]
  · intro other
    rw [marked, Session.routine_changed there]
    split
    · next same => rw [same, marking.kept id]
    · exact marking.kept other
  · intro other
    rw [← marking.flags other, marked, Session.routine_changed there]
    by_cases same : other = id
    · simp [same]
    · simp [same]

theorem mark_yields (session : Session) (ids : List RoutineId)
    (known : ∀ id ∈ ids, session.knows id) : Yields (ids.forM fun id =>
        changeRoutine id fun routine => { routine with isUsedOnHostOnly := true }) session
      fun _ after => Marking session ids [] after := by
  have start : Marking session ids ids session :=
    ⟨rfl, fun _ => Iff.rfl, fun _ => rfl, fun _ => Iff.rfl⟩
  refine (Yields.each (fun pending state =>
    (∀ id ∈ pending, session.knows id) ∧ Marking session ids pending state) ?_
    ⟨known, start⟩).weaken fun _ _ reached => reached.2
  rintro id pending state ⟨allKnown, marking⟩
  refine ⟨(), _, run_changeRoutine state id _, ?_, ?_⟩
  · exact fun other member => allKnown other (mem_cons_of_mem _ member)
  · exact marking.step (allKnown id mem_cons_self)

structure Indexing (before : Session) (sources pending : List RoutineId) (session : Session) :
    Prop where
  others : session = { before with routinesByName := session.routinesByName }
  entries : session.routinesByName.entries ++ pending.map (fun id => ((before.routine id).name, id)) =
    sources.map fun id => ((before.routine id).name, id)

variable {before : Session} {sources : List RoutineId}

theorem Indexing.routine (indexing : Indexing before sources pending session) (id : RoutineId) :
    session.routine id = before.routine id := by
  rw [indexing.others]
  rfl

section

variable (indexing : Indexing before sources (id :: pending) session)

include indexing

theorem Indexing.step (isNew : session.routinesByName.contains (before.routine id).name = false) :
    Indexing before sources pending { session with
      routinesByName := session.routinesByName.set (before.routine id).name id } := by
  have unknown : (before.routine id).name ∉ session.routinesByName.keys := by
    simpa [Table.contains] using isNew
  constructor
  · rw [indexing.others]
  · simp [← indexing.entries, Table.set, unknown]

theorem indexRoutine_ensures :
    Ensures (indexRoutine id) session fun _ after => Indexing before sources pending after := by
  refine .step (run_routine session id) (.step (run_get session) ?_)
  rw [indexing.routine id]
  split
  · exact .bind (stop_ensures _ _ fun _ _ => False) fun _ _ impossible => impossible.elim
  · next isNew => exact .modified (indexing.step (by simpa using isNew))

end

theorem indexRoutines_ensures (models : List SourceModel) (fresh : before.routinesByName = .empty) :
    Ensures (indexRoutines models) before fun _ after =>
      Indexing before (sourceRoutines before models) [] after := by
  have start : Indexing before (sourceRoutines before models) (sourceRoutines before models)
      before := ⟨rfl, by rw [fresh]; rfl⟩
  refine .bind (.fold (fun ids => Indexing before (sourceRoutines before models)
    (ids.flatMap fun id => (before.module id).routines)) ?_ start) fun _ _ done => .pure done
  intro names id rest session indexing
  have sameModule : session.module id = before.module id := by
    rw [indexing.others]
    rfl
  refine .step rfl ?_
  rw [sameModule]
  split
  · exact .bind (stop_ensures _ _ fun _ _ => False) fun _ _ impossible => impossible.elim
  · refine .bind (.each (fun pending => Indexing before (sourceRoutines before models)
      (pending ++ rest.flatMap fun id => (before.module id).routines)) ?_ ?_)
      fun _ _ done => .pure done
    · exact fun routine pending state => indexRoutine_ensures
    · rwa [flatMap_cons] at indexing

theorem Indexing.indexed (indexing : Indexing before sources [] session) : Indexed session := by
  intro entry member
  have entries := indexing.entries
  rw [map_nil, append_nil] at entries
  rw [entries] at member
  obtain ⟨id, _, rfl⟩ := mem_map.mp member
  rw [indexing.routine]

theorem Indexing.values (indexing : Indexing before sources [] session) :
    session.routinesByName.values = sources := by
  have entries := indexing.entries
  rw [map_nil, append_nil] at entries
  rw [Table.values, entries, map_map]
  exact map_id _

/-- Exactly the routines and calls of a program whose names are reached are marked. -/
structure HostMarked (before : Session) (sources : List RoutineId) (after : Session) : Prop where
  flags : ∀ id ∈ programRoutines before sources,
    ((after.routine id).isUsedOnHostOnly = true ↔
      ReachedFromHost before sources (before.routine id).name)
  known : ∀ id, after.knows id ↔ before.knows id
  kept : ∀ id, after.routine id =
    { before.routine id with isUsedOnHostOnly := (after.routine id).isUsedOnHostOnly }
  others : after = { before with
    routines := after.routines, routinesByName := after.routinesByName }

section

variable (indexing : Indexing before sources [] session)

include indexing

theorem Indexing.programRoutines :
    programRoutines session sources = Work.programRoutines before sources := by
  have sameCallees : calleesOf session = calleesOf before := by
    funext id
    rw [calleesOf, indexing.routine, calleesOf]
  rw [Work.programRoutines, Work.programRoutines, sameCallees]

theorem Indexing.reachedFromHost_iff (name : String) :
    ReachedFromHost session sources name ↔ ReachedFromHost before sources name := by
  rw [indexing.others]
  rfl

theorem markHostRoutines_yields (known : ∀ id ∈ programRoutines before sources, before.knows id)
    (unmarked : ∀ id ∈ programRoutines before sources, (before.routine id).isUsedOnHostOnly =
      false) : Yields markHostRoutines session fun _ after => HostMarked before sources after := by
  have indexed := indexing.indexed
  have values := indexing.values
  have sameProgram := indexing.programRoutines
  have reachable : ∀ id ∈ (visitedRoutines session).flatMap (markedWith session),
      session.knows id := by
    intro id member
    have inside := programRoutines_of_marked indexed member
    rw [values, sameProgram] at inside
    have there := known id inside
    rw [indexing.others]
    exact there
  refine .step (run_get session) ((mark_yields session _ reachable).weaken ?_)
  intro _ after marking
  constructor
  · intro id member
    have flags := marking.flags id
    simp only [not_mem_nil, or_false, indexing.routine, unmarked id member,
      Bool.false_eq_true, false_or] at flags
    rw [flags, ← indexing.reachedFromHost_iff, ← indexing.routine, ← values]
    constructor
    · exact reachedFromHost_of_marked indexed
    · apply marked_of_reachedFromHost indexed
      rwa [values, sameProgram]
  · intro id
    rw [marking.known, indexing.others]
    rfl
  · intro id
    rw [← indexing.routine]
    exact marking.kept id
  · rw [marking.routines, indexing.others]

end

/-- Marking ends for every program, and marks what is reached from routines on the host. -/
theorem host_routines_marked {before : Session} {models : List SourceModel}
    (fresh : before.routinesByName = .empty)
    (known : ∀ id ∈ programRoutines before (sourceRoutines before models), before.knows id)
    (unmarked : ∀ id ∈ programRoutines before (sourceRoutines before models),
      (before.routine id).isUsedOnHostOnly = false) :
    Ensures (indexRoutines models) before fun _ indexed =>
      Yields markHostRoutines indexed fun _ after =>
        HostMarked before (sourceRoutines before models) after := by
  refine (indexRoutines_ensures models fresh).weaken ?_
  intro _ indexed indexing
  exact markHostRoutines_yields indexing known unmarked

def ringRoutine (name : String) (node backend : Nat) (callees : List Nat) : Routine :=
  { name, moduleName := some "ring"
    body := some { backend := ⟨backend⟩, node := ⟨node⟩, callees := callees.map RoutineId.mk } }

def ringCall (name : String) : Routine :=
  { name, moduleName := none }

def ring : Session where
  registry := { store := { nodes := #[
    ⟨.element "routine" [], ⟨0⟩, none, #[]⟩,
    ⟨.element "routine" [("parallelRegionPosition", "within")], ⟨0⟩, none, #[]⟩] } }
  routines := #[ringRoutine "drive" 0 0 [4], ringRoutine "step" 1 1 [5],
    ringRoutine "relax" 1 1 [6], ringRoutine "scan" 1 1 [7],
    ringCall "step", ringCall "relax", ringCall "step", ringCall "relax"]
  modules := #[{
    name := "ring", node := none
    versions := .ofList [("drive", .ofList [(.openMP, ⟨0⟩)]), ("step", .ofList [(.cuda, ⟨1⟩)]),
      ("relax", .ofList [(.cuda, ⟨2⟩)]), ("scan", .ofList [(.cuda, ⟨3⟩)])] }]
  backends := #[.new .openMP [], .new .cuda []]

def ringModels : List SourceModel := [⟨"ring.h90", "", [⟨0⟩], .empty⟩]

theorem host_routines_marked_ring :
    (ExceptT.run (indexRoutines ringModels) ring).1.toOption = some () ∧
      Ensures (indexRoutines ringModels) ring fun _ indexed =>
        Yields markHostRoutines indexed fun _ after =>
          HostMarked ring (sourceRoutines ring ringModels) after :=
  ⟨by decide +kernel, host_routines_marked rfl (by decide +kernel) (by decide +kernel)⟩

end ParallelFortran.Work
