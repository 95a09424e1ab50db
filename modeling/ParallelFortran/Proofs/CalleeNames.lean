import ParallelFortran.Proofs.GeneratedRoutines
import ParallelFortran.Proofs.HostRoutines

/-! Names under which routines are called: each is the name of a routine that is generated for the
callee, and what runs on the host calls what runs on the host. -/

namespace ParallelFortran.Work

open Naming List

variable {versions : List (List RoutineId)} {sources : List RoutineId} {session after : Session}

theorem calleeName_of_body {caller body : RoutineBody} {callee : Routine}
    (found : callee.body = some body) (sister : body.sister = none)
    (unreserved : Unreserved callee.name) : session.calleeName caller callee = callee.name ∨
      callee.isUsedOnHostOnly = true ∧
        (session.backend caller.backend).kind.handlesDeviceData = true ∧
        (session.backend body.backend).kind.isCuda = true ∧
        session.calleeName caller callee = "hfd_" ++ callee.name := by
  have name : session.routineName callee = callee.name := by
    simp [Session.routineName, found, sister]
  simp only [Session.calleeName, found, name, hostRoutine, deviceRoutine,
    plainRoutine_unreserved unreserved, not_contains_kernel unreserved]
  split
  · exact .inl rfl
  · next copies =>
    split
    · exact .inl rfl
    · split
      · next marked =>
        simp only [Bool.not_false, Bool.and_true, Bool.and_eq_true] at marked
        have isCuda : (session.backend body.backend).kind.isCuda = true := by
          simpa [BackendKind.hasHostCopies] using copies
        exact .inr ⟨marked.1.1, marked.1.2, isCuda, rfl⟩
      · exact .inl rfl

theorem calledName_yields {id callee : RoutineId} {body : RoutineBody}
    (found : (session.routine id).body = some body)
    (knows : ∀ region ∈ body.regions, KnowsCallees region)
    (called : callee ∈ regionCallees (session.routine id)) :
    Yields (do prepareCalls id; calledName id callee) session fun name _ =>
      ∃ other ∈ regionCallees (session.routine id),
        (session.routine other).name = (session.routine callee).name ∧
        name = session.calleeName body (session.routine other) := by
  refine ((prepareCalls_attains found).yields knows).bind ?_
  rintro _ _ ⟨regions, _, rfl⟩
  have known := Session.knows_of_body found
  rw [regionCallees_eq found] at called ⊢
  have sameName : ∀ body, ((session.setBody id body).routine callee).name =
      (session.routine callee).name := by
    intro body
    rw [Session.setBody, Session.routine_changed known]
    split
    · next same => rw [same]
    · rfl
  have present : (session.routine callee).name ∈
      (calledNames session body (body.regions.flatMap Region.callees)).map Prod.fst := by
    rw [calledNames, map_map]
    exact mem_map.mpr ⟨callee, called, rfl⟩
  obtain ⟨name, member, value⟩ := Table.exists_get?_update present .empty
  obtain ⟨other, inside, same⟩ := mem_map.mp member
  refine .step (run_body (Session.body_setBody known _)) (.step (run_routine _ _) ?_)
  rw [sameName]
  have found? : (Table.ofList (calledNames session body (body.regions.flatMap Region.callees))).get?
      (session.routine callee).name = some name := value
  simp only [found?]
  exact .pure ⟨other, inside, congrArg Prod.fst same, (congrArg Prod.snd same).symm⟩

/-! Code bases -/

section

variable (session : Session) (sources : List RoutineId)

/-- A routine as it is called. If it is one of the sources it has the same backend there; if nothing
more is known of it, none of the sources has its name, not even as it is written. -/
def IsCallee (callee : Routine) : Prop :=
  match callee.body with
  | none => ∀ id ∈ sources, (session.routine id).name ∉ [callee.name, limited callee.name]
  | some body => body.sister = none ∧ body.backend.index < session.backends.size ∧
      ∀ id ∈ sources, (session.routine id).name = callee.name →
        ∀ given ∈ (session.routine id).body,
          (session.backend given.backend).kind = (session.backend body.backend).kind

/-- The routines of sources, with all of their calls in the call graph. -/
structure CodeBase : Prop where
  names : ∀ id ∈ programRoutines session sources, Unreserved (session.routine id).name
  bodies : ∀ id ∈ sources, ∃ body ∈ (session.routine id).body, SourceBody session body
  calls : ∀ id ∈ sources, ∀ callee ∈ regionCallees (session.routine id),
    callee ∈ calleesOf session id
  callees : ∀ id ∈ sources, ∀ callee ∈ calleesOf session id,
    callee ∉ sources ∧ IsCallee session sources (session.routine callee)

/-- Marks that include all routines on the host and are passed on to what these call. -/
structure HostClosed : Prop where
  hosts : ∀ id ∈ sources, LacksDevice session id → (session.routine id).isUsedOnHostOnly = true
  calls : ∀ id ∈ sources, (session.routine id).isUsedOnHostOnly = true →
    ∀ callee ∈ calleesOf session id, (session.routine callee).isUsedOnHostOnly = true
  names : ∀ first ∈ programRoutines session sources, ∀ second ∈ programRoutines session sources,
    (session.routine first).name = (session.routine second).name →
    (session.routine first).isUsedOnHostOnly = true → (session.routine second).isUsedOnHostOnly = true

end

section Marked

variable {before marked : Session} {sources : List RoutineId}
  (isMarked : HostMarked before sources marked)
include isMarked

theorem HostMarked.name (id : RoutineId) : (marked.routine id).name = (before.routine id).name := by
  rw [isMarked.kept id]

theorem HostMarked.body (id : RoutineId) : (marked.routine id).body = (before.routine id).body := by
  rw [isMarked.kept id]

theorem HostMarked.backends : marked.backends = before.backends := by
  rw [isMarked.others]

theorem HostMarked.backend (id : BackendId) : marked.backend id = before.backend id := by
  rw [Session.backend, isMarked.backends, Session.backend]

theorem HostMarked.calleesOf (id : RoutineId) : calleesOf marked id = Work.calleesOf before id := by
  rw [Work.calleesOf, isMarked.body, Work.calleesOf]

theorem HostMarked.programRoutines :
    programRoutines marked sources = Work.programRoutines before sources := by
  rw [Work.programRoutines, Work.programRoutines, funext isMarked.calleesOf]

theorem HostMarked.closed : HostClosed marked sources := by
  have inside : ∀ id ∈ sources, id ∈ Work.programRoutines before sources :=
    fun id member => mem_append_left _ member
  constructor
  · intro id member lacks
    rw [isMarked.flags id (inside id member)]
    rw [LacksDevice, isMarked.body, isMarked.others] at lacks
    exact ⟨id, member, lacks, .refl⟩
  · intro id member used callee called
    rw [isMarked.calleesOf] at called
    rw [isMarked.flags id (inside id member)] at used
    rw [isMarked.flags callee (mem_append_right _ (mem_flatMap.mpr ⟨id, member, called⟩))]
    obtain ⟨host, isHost, lacks, path⟩ := used
    exact ⟨host, isHost, lacks, path.tail ⟨id, member, rfl, callee, called, rfl⟩⟩
  · intro first isFirst second isSecond same used
    rw [isMarked.programRoutines] at isFirst isSecond
    rw [isMarked.name, isMarked.name] at same
    rw [isMarked.flags first isFirst] at used
    rw [isMarked.flags second isSecond, ← same]
    exact used

theorem HostMarked.sourceBody {body : RoutineBody} (source : SourceBody before body) :
    SourceBody marked body := by
  refine ⟨source.sister, source.calls, ?_, ?_, source.flat⟩
  · rw [isMarked.backends]
    exact source.backend
  · rw [isMarked.backend]
    exact source.kind

theorem HostMarked.isCallee {callee : RoutineId}
    (isCallee : IsCallee before sources (before.routine callee)) :
    IsCallee marked sources (marked.routine callee) := by
  simp only [IsCallee, isMarked.body, isMarked.name, isMarked.backend, isMarked.backends]
  exact isCallee

theorem HostMarked.codeBase (codeBase : CodeBase before sources) : CodeBase marked sources := by
  constructor
  · intro id member
    rw [isMarked.programRoutines] at member
    rw [isMarked.name]
    exact codeBase.names id member
  · intro id member
    rw [isMarked.body]
    obtain ⟨body, found, source⟩ := codeBase.bodies id member
    exact ⟨body, found, isMarked.sourceBody source⟩
  · intro id member callee called
    rw [regionCallees, isMarked.body] at called
    rw [isMarked.calleesOf]
    exact codeBase.calls id member callee called
  · intro id member callee called
    rw [isMarked.calleesOf] at called
    obtain ⟨apart, isCallee⟩ := codeBase.callees id member callee called
    exact ⟨apart, isMarked.isCallee isCallee⟩

end Marked

/-! Names of generated routines -/

theorem exists_source (generated : Forall₂ (GeneratedFrom session after) sources versions)
    {version : RoutineId} (member : version ∈ versions.flatten) :
    ∃ source ids, (source, ids) ∈ sources.zip versions ∧ version ∈ ids ∧
      GeneratedFrom session after source ids := by
  induction generated with
  | nil => cases member
  | @cons source ids sources versions first _ ih =>
    rw [flatten_cons, mem_append] at member
    rcases member with here | later
    · exact ⟨source, ids, mem_cons_self, here, first⟩
    · obtain ⟨other, others, inside, found⟩ := ih later
      exact ⟨other, others, mem_cons_of_mem _ inside, found⟩

theorem all_names_nodup (unreserved : ∀ id ∈ sources, Unreserved (session.routine id).name)
    (distinct : (sources.map fun id => (session.routine id).name).Nodup)
    (generated : Forall₂ (GeneratedFrom session after) sources versions) :
    (versions.flatten.map fun id => (after.routine id).name).Nodup := by
  induction generated with
  | nil => exact nodup_nil
  | @cons source ids sources versions first others ih =>
    rw [map_cons, nodup_cons] at distinct
    obtain ⟨body, found, isGenerated⟩ := first
    rw [flatten_cons, map_append, nodup_append]
    refine ⟨isGenerated.distinct,
      ih (fun id member => unreserved id (mem_cons_of_mem _ member)) distinct.2, ?_⟩
    intro name here other there same
    obtain ⟨version, inside, rfl⟩ := mem_map.mp here
    obtain ⟨target, member, rfl⟩ := mem_map.mp there
    obtain ⟨otherSource, otherIds, paired, otherInside, _, _, otherGenerated⟩ :=
      exists_source others member
    have sourceMember := (of_mem_zip paired).1
    have sameSource := version_injective (unreserved source mem_cons_self)
      (unreserved otherSource (mem_cons_of_mem _ sourceMember))
      (isGenerated.versions version inside).name
      (same ▸ (otherGenerated.versions target otherInside).name)
    exact distinct.1 (mem_map.mpr ⟨otherSource, sourceMember, sameSource.symm⟩)

section Calls

variable {ids : List RoutineId} {source callee target version : RoutineId} {session after : Session}
    {sources : List RoutineId} {versions : List (List RoutineId)}
    (codeBase : CodeBase session sources) (closed : HostClosed session sources)
    (known : ∀ id ∈ programRoutines session sources, session.knows id)
    (follows : Follows session after sources)
    (generated : Forall₂ (GeneratedFrom session after) sources versions)

section

variable (member : source ∈ sources) (called : callee ∈ calleesOf session source)
include member called

theorem mem_programRoutines : callee ∈ programRoutines session sources :=
  mem_append_right _ (mem_flatMap.mpr ⟨source, member, called⟩)

include codeBase known follows in
theorem routine_of_callee : after.routine callee = session.routine callee :=
  follows.routine callee (known callee (mem_programRoutines member called))
    (codeBase.callees source member callee called).1

end

section

variable (paired : (source, ids) ∈ sources.zip versions)

include paired

include generated in
theorem plain_not_onDevice
    (used : (session.routine source).isUsedOnHostOnly = true) (inside : target ∈ ids)
    (named : (after.routine target).name = (session.routine source).name) :
    ¬ RunsOnDevice after (after.routine target) := by
  obtain ⟨_, _, isGenerated⟩ := forall₂_zip generated paired
  obtain ⟨plain, member, plainName, onHost⟩ := isGenerated.plain
  have same : target = plain :=
    inj_on_of_nodup_map isGenerated.distinct inside member (named.trans plainName.symm)
  rw [same]
  exact onHost used

include closed generated in
theorem used_of_version_onHost
    (inside : version ∈ ids) (onHost : ¬ RunsOnDevice after (after.routine version)) :
    (session.routine source).isUsedOnHostOnly = true := by
  obtain ⟨body, found, isGenerated⟩ := forall₂_zip generated paired
  rcases (isGenerated.versions version inside).onHost onHost with used | without
  · exact used
  · exact closed.hosts source (of_mem_zip paired).1 ⟨body, found, .inl without⟩

end

include codeBase closed known follows generated

theorem callee_generated (body : RoutineBody) (inside : version ∈ versions.flatten)
    (called : callee ∈ regionCallees (after.routine version))
    (paired : (target, ids) ∈ sources.zip versions)
    (same : (session.routine target).name = (after.routine callee).name) :
    ∃ chosen ∈ ids, (after.routine chosen).name = after.calleeName body (after.routine callee) := by
  obtain ⟨source, sourceIds, sourcePaired, member, _, _, sourceGenerated⟩ :=
    exists_source generated inside
  have isSource := (of_mem_zip sourcePaired).1
  have isTarget := (of_mem_zip paired).1
  have targetUnreserved := codeBase.names target (mem_append_left _ isTarget)
  obtain ⟨targetBody, targetFound, isGenerated⟩ := forall₂_zip generated paired
  rcases (sourceGenerated.versions version member).callees callee called with
    ofSource | ⟨_, _, number, isKernel⟩
  · have listed := codeBase.calls source isSource callee ofSource
    have inProgram := mem_programRoutines isSource listed
    have isCallee := (codeBase.callees source isSource callee listed).2
    rw [routine_of_callee codeBase known follows isSource listed] at same ⊢
    unfold IsCallee at isCallee
    cases found : (session.routine callee).body with
    | none =>
      rw [found] at isCallee
      exact absurd (same ▸ mem_cons_self) (isCallee target isTarget)
    | some calleeBody =>
      rw [found] at isCallee
      obtain ⟨sister, inRange, sameKind⟩ := isCallee
      rcases calleeName_of_body found sister (codeBase.names callee inProgram) with
        plain | ⟨used, _, isCuda, device⟩
      · obtain ⟨chosen, chosenInside, named, _⟩ := isGenerated.plain
        exact ⟨chosen, chosenInside, by rw [plain, named, same]⟩
      · have targetUsed := closed.names callee inProgram target
          (mem_append_left _ isTarget) same.symm used
        rw [follows.backend _ inRange, ← sameKind target isTarget same _ targetFound] at isCuda
        obtain ⟨chosen, chosenInside, named⟩ := isGenerated.device targetUsed isCuda
        exact ⟨chosen, chosenInside, by rw [device, named, same]⟩
  · rw [isKernel] at same
    exact absurd same (ne_kernel targetUnreserved (toString number) _)

theorem callee_onHost {body : RoutineBody} (inside : version ∈ versions.flatten)
    (found : (after.routine version).body = some body)
    (onHost : ¬ RunsOnDevice after (after.routine version))
    (called : callee ∈ regionCallees (after.routine version))
    (generatedTarget : target ∈ versions.flatten)
    (named : (after.routine target).name = after.calleeName body (after.routine callee)) :
    ¬ RunsOnDevice after (after.routine target) := by
  obtain ⟨source, sourceIds, sourcePaired, member, _, _, sourceGenerated⟩ :=
    exists_source generated inside
  obtain ⟨other, otherIds, otherPaired, otherMember, _, _, otherGenerated⟩ :=
    exists_source generated generatedTarget
  have isSource := (of_mem_zip sourcePaired).1
  have isOther := mem_append_left (sources.flatMap (calleesOf session))
    (of_mem_zip otherPaired).1
  have version := sourceGenerated.versions version member
  have isVersion := (otherGenerated.versions target otherMember).name
  have noDeviceData : ¬ (after.backend body.backend).kind.handlesDeviceData = true := by
    obtain ⟨given, givenFound, plain⟩ := version.body
    obtain rfl := Option.some.inj (givenFound.symm.trans found)
    exact fun handles => onHost ⟨given, found, plain.device handles⟩
  rcases version.callees callee called with ofSource | ⟨onDevice, _⟩
  · have listed := codeBase.calls source isSource callee ofSource
    have inProgram := mem_programRoutines isSource listed
    have unreserved := codeBase.names callee inProgram
    have isCallee := (codeBase.callees source isSource callee listed).2
    rw [routine_of_callee codeBase known follows isSource listed] at named
    unfold IsCallee at isCallee
    cases calleeFound : (session.routine callee).body with
    | none =>
      rw [calleeFound] at isCallee
      have name : after.calleeName body (session.routine callee) =
          limited (session.routine callee).name := by
        simp [Session.calleeName, Session.routineName, calleeFound]
      rw [named, name] at isVersion
      have same := version_injective (codeBase.names other isOther)
        (unreserved_limited unreserved) isVersion .plain
      exact absurd (same ▸ by simp) (isCallee other (of_mem_zip otherPaired).1)
    | some calleeBody =>
      rw [calleeFound] at isCallee
      rcases calleeName_of_body calleeFound isCallee.1 unreserved with plain | ⟨_, handles, _⟩
      · rw [named, plain] at isVersion
        have same := version_injective (codeBase.names other isOther) unreserved isVersion .plain
        have used := closed.calls source isSource
          (used_of_version_onHost closed generated sourcePaired member onHost) callee listed
        refine plain_not_onDevice generated otherPaired ?_ otherMember ?_
        · exact closed.names callee inProgram other isOther same.symm used
        · rw [named, plain, same]
      · exact absurd handles noDeviceData
  · exact absurd onDevice onHost

end Calls

theorem Indexing.names_nodup {before : Session} (indexing : Indexing before sources [] session) :
    (sources.map fun id => (before.routine id).name).Nodup := by
  have entries := indexing.entries
  rw [map_nil, append_nil] at entries
  have distinct := session.routinesByName.distinct
  rw [entries, map_map] at distinct
  exact distinct

theorem routineName_version
    (generated : Forall₂ (GeneratedFrom session after) sources versions) {version : RoutineId}
    (member : version ∈ versions.flatten) :
    after.routineName (after.routine version) = (after.routine version).name := by
  obtain ⟨_, _, _, inside, _, _, isGenerated⟩ := exists_source generated member
  obtain ⟨body, found, plain⟩ := (isGenerated.versions version inside).body
  simp [Session.routineName, found, plain.sister]

/-- Names of generated routines are distinct. A call of a routine of the sources has the name of a
routine that is generated for it, and no call on the host has the name of one on the device. -/
structure CalleesNamed (before : Session) (sources : List RoutineId)
    (versions : List (List RoutineId)) (after : Session) : Prop where
  all : sources.length = versions.length
  distinct : (versions.flatten.map fun id => after.routineName (after.routine id)).Nodup
  calls : ∀ version ∈ versions.flatten, ∀ callee ∈ regionCallees (after.routine version),
    Yields (do prepareCalls version; calledName version callee) after fun name _ =>
      (∀ source ids, (source, ids) ∈ sources.zip versions →
        (before.routine source).name = (after.routine callee).name →
        ∃ target ∈ ids, after.routineName (after.routine target) = name) ∧
      (¬ RunsOnDevice after (after.routine version) →
        ∀ target ∈ versions.flatten, after.routineName (after.routine target) = name →
          ¬ RunsOnDevice after (after.routine target))

def flowRoutine (name : String) (node backend : Nat) (callees : List Nat)
    (regions : List Region) : Routine :=
  { name, moduleName := some "flow"
    body := some { backend := ⟨backend⟩, node := ⟨node⟩, callees := callees.map RoutineId.mk, regions } }

def flow : Session where
  registry := { store := { nodes := #[
    ⟨.element "routine" [], ⟨0⟩, none, #[]⟩,
    ⟨.element "routine" [("parallelRegionPosition", "within")], ⟨0⟩, none, #[]⟩,
    ⟨.element "routine" [("parallelRegionPosition", "inside")], ⟨0⟩, none, #[]⟩,
    ⟨.element "parallelRegionTemplate" [], ⟨0⟩, none, #[]⟩] } }
  routines := #[
    flowRoutine "drive" 0 0 [3] [.specification [] [] none none, .call [] (some ⟨3⟩) none],
    flowRoutine "step" 1 1 [4] [.specification [] [] none none,
      .parallel (some ⟨3⟩) [.plain [⟨"a(i) = 1", []⟩], .call [] (some ⟨4⟩) none]],
    flowRoutine "relax" 2 1 [5] [.specification [] [] none none, .call [] (some ⟨5⟩) none],
    flowRoutine "step" 1 1 [] [], { name := "weigh", moduleName := none },
    flowRoutine "step" 1 1 [] []]
  modules := #[{
    name := "flow", node := none
    versions := .ofList [("drive", .ofList [(.openMP, ⟨0⟩)]), ("step", .ofList [(.cuda, ⟨1⟩)]),
      ("relax", .ofList [(.cuda, ⟨2⟩)])] }]
  backends := #[.new .openMP [], .new .cuda []]

def flowModels : List SourceModel := [⟨"flow.h90", "", [⟨0⟩], .empty⟩]

def flowIndexed : Session := ((indexRoutines flowModels).run flow).2

theorem visited_flow : visitedRoutines flowIndexed = [⟨0⟩, ⟨3⟩, ⟨4⟩, ⟨5⟩] := by
  have unseen : programRoutines flowIndexed flowIndexed.routinesByName.values =
      [⟨0⟩, ⟨1⟩, ⟨2⟩, ⟨3⟩, ⟨4⟩, ⟨5⟩] := by decide +kernel
  have hosts : flowIndexed.routinesByName.values.filter (runsOnHost flowIndexed) = [⟨0⟩] := by
    decide +kernel
  have ofDrive : following flowIndexed ⟨0⟩ = [⟨3⟩, ⟨3⟩, ⟨5⟩] := by decide +kernel
  have ofStep : following flowIndexed ⟨3⟩ = [⟨4⟩, ⟨4⟩] := by decide +kernel
  have ofWeigh : following flowIndexed ⟨4⟩ = [] := by decide +kernel
  have ofOther : following flowIndexed ⟨5⟩ = [⟨4⟩, ⟨4⟩] := by decide +kernel
  rw [visitedRoutines, unseen, hosts]
  simp [visit, ofDrive, ofStep, ofWeigh, ofOther, removeAll]

theorem flow_codeBase : CodeBase flow (sourceRoutines flow flowModels) := by
  have sources : sourceRoutines flow flowModels = [⟨0⟩, ⟨1⟩, ⟨2⟩] := by decide +kernel
  rw [sources]
  constructor
  · decide +kernel
  · intro id member
    have flat : ∀ template parts,
        Region.parallel template parts ∈ [.specification [] [] none none,
          Region.parallel (some ⟨3⟩) [.plain [⟨"a(i) = 1", []⟩], .call [] (some ⟨4⟩) none]] →
        ∀ part ∈ parts, part.isParallel = false := by
      intro template parts inside
      simp only [mem_cons, not_mem_nil, or_false, reduceCtorEq, false_or] at inside
      rcases inside with ⟨_, rfl⟩
      decide
    simp only [mem_cons, not_mem_nil, or_false] at member
    rcases member with rfl | rfl | rfl
    · exact ⟨_, rfl, rfl, by decide, by decide, by decide, by simp⟩
    · exact ⟨_, rfl, rfl, by decide, by decide, by decide, flat⟩
    · exact ⟨_, rfl, rfl, by decide, by decide, by decide, by simp⟩
  · decide +kernel
  · intro id member callee called
    simp only [mem_cons, not_mem_nil, or_false] at member
    rcases member with rfl | rfl | rfl
    · obtain rfl : callee = ⟨3⟩ := mem_singleton.mp called
      exact ⟨by decide, rfl, by decide, by decide +kernel⟩
    · obtain rfl : callee = ⟨4⟩ := mem_singleton.mp called
      have outside : ∀ id ∈ [⟨0⟩, ⟨1⟩, ⟨2⟩], (flow.routine id).name ∉ ["weigh", limited "weigh"] := by
        decide +kernel
      exact ⟨by decide, outside⟩
    · obtain rfl : callee = ⟨5⟩ := mem_singleton.mp called
      exact ⟨by decide, rfl, by decide, by decide +kernel⟩

end ParallelFortran.Work
