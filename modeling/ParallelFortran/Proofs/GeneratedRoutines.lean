import ParallelFortran.Proofs.Kernels
import ParallelFortran.Proofs.RoutineNames

/-! What is known of the routines that are generated for those of the sources: their names, their
backends and the routines that they call. -/

namespace ParallelFortran.Work

open Xml Naming List Session

variable {changed ids : List RoutineId} {number : Nat} {template : NodeId} {region : Region}
    {routine caller kernel : Routine} {body : RoutineBody} {session : Session}

/-- A session comes later than another one: of its routines only some have changed. -/
structure Follows (session later : Session) (changed : List RoutineId) : Prop where
  known : ∀ id, session.knows id → later.knows id
  routine : ∀ id, session.knows id → id ∉ changed → later.routine id = session.routine id
  backends : session.backends.size ≤ later.backends.size
  backend : ∀ id : BackendId, id.index < session.backends.size →
    later.backend id = session.backend id

theorem Follows.refl (session : Session) (changed : List RoutineId) :
    Follows session session changed :=
  ⟨fun _ known => known, fun _ _ _ => rfl, Nat.le_refl _, fun _ _ => rfl⟩

theorem Follows.trans {first second third : Session} {others : List RoutineId}
    (earlier : Follows first second changed) (later : Follows second third others) :
    Follows first third (changed ++ others) := by
  refine ⟨fun id known => later.known id (earlier.known id known), ?_,
    Nat.le_trans earlier.backends later.backends, ?_⟩
  · intro id known unchanged
    rw [mem_append, not_or] at unchanged
    rw [later.routine id (earlier.known id known) unchanged.2, earlier.routine id known unchanged.1]
  · intro id known
    rw [later.backend id (Nat.lt_of_lt_of_le known earlier.backends), earlier.backend id known]

theorem follows_grown (id : RoutineId) (registry : Registry) (routines : List Routine)
    (backends : List Backend) (update : Routine → Routine) :
    Follows session ((session.grown registry routines backends).changed id update) [id] := by
  refine ⟨?_, ?_, ?_, ?_⟩
  · intro other known
    rw [knows_changed]
    exact knows_grown known registry routines backends
  · intro other known different
    rw [routine_changed_of_ne _ (by simpa using different),
      routine_grown known registry routines backends]
  · simp [changed, grown]
  · intro backend known
    simp [Session.backend, changed, grown, Array.getElem?_append, known]

/-! Routines that are generated for one -/

def RunsOnDevice (session : Session) (routine : Routine) : Prop :=
  ∃ body, routine.body = some body ∧ (session.backend body.backend).kind.isOnDevice = true

def regionCallees (routine : Routine) : List RoutineId :=
  (routine.body.map fun body => body.regions.flatMap Region.callees).getD []

/-- A body stands for itself and knows what it calls, with a known backend that handles data on the
device only if it is on the device. -/
structure PlainBody (session : Session) (body : RoutineBody) : Prop where
  sister : body.sister = none
  calls : ∀ region ∈ body.regions, KnowsCallees region
  backend : body.backend.index < session.backends.size
  device : (session.backend body.backend).kind.handlesDeviceData = true →
    (session.backend body.backend).kind.isOnDevice = true

theorem PlainBody.later {later : Session} (plain : PlainBody session body)
    (follows : Follows session later changed) : PlainBody later body := by
  refine ⟨plain.sister, plain.calls, Nat.lt_of_lt_of_le plain.backend follows.backends, ?_⟩
  rw [follows.backend _ plain.backend]
  exact plain.device

section

variable (source : Routine) (kind : BackendKind) (ids : List RoutineId) (session : Session)

structure IsGenerated (version : Routine) : Prop where
  name : IsVersion source.name version.name
  body : ∃ body, version.body = some body ∧ PlainBody session body
  callees : ∀ callee ∈ regionCallees version, callee ∈ regionCallees source ∨
    RunsOnDevice session version ∧ callee ∈ ids ∧ ∃ number : Nat,
      (session.routine callee).name = "hfk" ++ toString number ++ "_" ++ source.name
  onHost : ¬ RunsOnDevice session version →
    source.isUsedOnHostOnly = true ∨ kind.handlesDeviceData = false

structure Generated : Prop where
  distinct : (ids.map fun id => (session.routine id).name).Nodup
  versions : ∀ id ∈ ids, IsGenerated source kind ids session (session.routine id)
  plain : ∃ id ∈ ids, (session.routine id).name = source.name ∧
    (source.isUsedOnHostOnly = true → ¬ RunsOnDevice session (session.routine id))
  device : source.isUsedOnHostOnly = true → kind.isCuda = true →
    ∃ id ∈ ids, (session.routine id).name = "hfd_" ++ source.name

end

theorem RunsOnDevice.congr {later : Session} (follows : Follows session later changed)
    (found : routine.body = some body) (known : body.backend.index < session.backends.size) :
    RunsOnDevice later routine ↔ RunsOnDevice session routine := by
  simp [RunsOnDevice, found, Option.some.injEq, follows.backend _ known]

theorem Generated.later {source : Routine} {kind : BackendKind} {later : Session}
    (generated : Generated source kind ids session) (follows : Follows session later changed)
    (kept : ∀ id ∈ ids, session.knows id ∧ id ∉ changed) : Generated source kind ids later := by
  have same := fun id member => follows.routine id (kept id member).1 (kept id member).2
  have onDevice : ∀ id ∈ ids, (RunsOnDevice later (session.routine id) ↔
      RunsOnDevice session (session.routine id)) := by
    intro id member
    obtain ⟨body, found, plain⟩ := (generated.versions id member).body
    exact RunsOnDevice.congr follows found plain.backend
  refine ⟨?_, ?_, ?_, ?_⟩
  · have names : (ids.map fun id => (later.routine id).name) =
        ids.map fun id => (session.routine id).name :=
      map_congr_left fun id member => by rw [same id member]
    rw [names]
    exact generated.distinct
  · intro id member
    have version := generated.versions id member
    obtain ⟨body, found, plain⟩ := version.body
    rw [same id member]
    refine ⟨version.name, ⟨body, found, plain.later follows⟩, ?_, ?_⟩
    · intro callee called
      rcases version.callees callee called with ofSource | ⟨device, inside, kernel⟩
      · exact .inl ofSource
      · refine .inr ⟨(onDevice id member).mpr device, inside, ?_⟩
        rw [same callee inside]
        exact kernel
    · rw [onDevice id member]
      exact version.onHost
  · obtain ⟨id, member, named, onHost⟩ := generated.plain
    refine ⟨id, member, ?_⟩
    rw [same id member, onDevice id member]
    exact ⟨named, onHost⟩
  · intro used isCuda
    obtain ⟨id, member, named⟩ := generated.device used isCuda
    refine ⟨id, member, ?_⟩
    rw [same id member]
    exact named

theorem regionCallees_eq (found : routine.body = some body) :
    regionCallees routine = body.regions.flatMap Region.callees := by
  rw [regionCallees, found]
  rfl

theorem callees_withoutImportLines (region : Region) :
    (withoutImportLines region).callees = region.callees := by
  cases region <;> rfl

theorem Divided.knowsCallees {regions rest : List Region} {items : List (Region × NodeId)}
    {kernels : List RoutineId} (divided : Divided regions items kernels rest)
    (flat : ∀ template parts, Region.parallel template parts ∈ regions →
      ∀ part ∈ parts, part.isParallel = false)
    (knows : ∀ region ∈ regions, KnowsCallees region) : ∀ region ∈ rest, KnowsCallees region := by
  intro region member
  rcases divided.mem_rest member with ⟨_, _, rfl⟩ | ⟨parts, inside, part⟩ | ⟨inside, _⟩
  · simp [KnowsCallees, Region.parts, knowsCallee]
  · intro inner within
    rw [Region.parts_eq (flat none parts inside region part), mem_singleton] at within
    rw [within]
    exact knows _ inside region part
  · exact knows region inside

theorem knowsCallee_forgetPassed (region : Region) :
    knowsCallee region.forgetPassed = knowsCallee region := by
  cases region <;> rfl

theorem knowsCallees_unprepared (region : Region) :
    KnowsCallees region.unprepared ↔ KnowsCallees region := by
  cases region with
  | parallel template parts =>
    simp [KnowsCallees, Region.unprepared, Region.mapParts, Region.parts, knowsCallee_forgetPassed]
  | _ => simp [KnowsCallees, Region.unprepared, Region.mapParts, Region.parts, Region.forgetPassed,
      knowsCallee]

section

variable (isKernel : IsKernel caller body number region template kernel)

include isKernel

theorem IsKernel.knowsCallees {kernelBody : RoutineBody}
    (found : kernel.body = some kernelBody) (knows : ∀ region ∈ body.regions, KnowsCallees region)
    (inside : region ∈ body.regions) : ∀ region ∈ kernelBody.regions, KnowsCallees region := by
  obtain ⟨given, givenFound, _, _, _, same⟩ := isKernel.body
  obtain rfl := Option.some.inj (givenFound.symm.trans found)
  intro part member
  have copied := mem_map_of_mem (f := Region.unprepared) member
  rw [same] at copied
  obtain ⟨original, ofBody, shape⟩ := mem_map.mp copied
  rw [← knowsCallees_unprepared, ← shape, knowsCallees_unprepared]
  rcases mem_append.mp ofBody with head | last
  · obtain ⟨first, isHead, rfl⟩ := mem_map.mp head
    rw [knowsCallees_withoutImportLines]
    exact knows first (mem_of_mem_head? (Option.mem_toList.mp isHead))
  · rw [mem_singleton.mp last, knowsCallees_withoutImportLines]
    exact knows region inside

theorem IsKernel.regionCallees (inside : region ∈ body.regions) :
    ∀ callee ∈ regionCallees kernel, callee ∈ body.regions.flatMap Region.callees := by
  obtain ⟨kernelBody, found, _, _, _, same⟩ := isKernel.body
  intro callee called
  rw [regionCallees_eq found, Region.flatMap_callees_congr same, flatMap_append, mem_append] at called
  rw [mem_flatMap]
  rcases called with head | last
  · cases shape : body.regions with
    | nil => simp [shape] at head
    | cons first rest =>
      refine ⟨first, mem_cons_self, ?_⟩
      simpa [shape, callees_withoutImportLines] using head
  · refine ⟨region, inside, ?_⟩
    simpa [callees_withoutImportLines] using last

end

/-! Generating the routines -/

structure SourceBody (session : Session) (body : RoutineBody) : Prop where
  sister : body.sister = none
  calls : ∀ region ∈ body.regions, KnowsCallees region
  backend : body.backend.index < session.backends.size
  kind : (session.backend body.backend).kind = .plain ∨
    (session.backend body.backend).kind = .openMP ∨
    (session.backend body.backend).kind.isCuda = true
  flat : ∀ template parts, Region.parallel template parts ∈ body.regions →
    ∀ part ∈ parts, part.isParallel = false

theorem SourceBody.plain (source : SourceBody session body) : PlainBody session body := by
  refine ⟨source.sister, source.calls, source.backend, fun handles => ?_⟩
  rcases source.kind with plain | openMP | isCuda
  · rw [plain] at handles
    cases handles
  · rw [openMP] at handles
    cases handles
  · rw [BackendKind.isOnDevice, isCuda, Bool.or_true]

section

variable (unreserved : Unreserved routine.name)

include unreserved

theorem name_deviceVersion : (deviceVersion routine).name =
      if routine.isUsedOnHostOnly then "hfd_" ++ routine.name else routine.name := by
  rw [deviceVersion]
  split
  · rw [Naming.deviceRoutine, plainRoutine_unreserved unreserved]
  · rfl

theorem version_deviceVersion : IsVersion routine.name (deviceVersion routine).name := by
  rw [name_deviceVersion unreserved]
  split
  · exact .device
  · exact .plain

theorem IsKernel.version
    (isKernel : IsKernel (deviceVersion routine) body number region template kernel) :
    kernel.name = "hfk" ++ toString number ++ "_" ++ routine.name := by
  rw [isKernel.name, Naming.kernel,
    plainRoutine_version unreserved (version_deviceVersion unreserved)]
  rfl

end

theorem plainBody_congr {other : RoutineBody} (plain : PlainBody session body)
    (sister : other.sister = none) (calls : ∀ region ∈ other.regions, KnowsCallees region)
    (backend : other.backend = body.backend) : PlainBody session other :=
  ⟨sister, calls, backend ▸ plain.backend, backend ▸ plain.device⟩

theorem HostVersions.exists_mem {hosts : List Routine} {backends : List Backend}
    (versions : HostVersions session routine body hosts backends)
    (used : routine.isUsedOnHostOnly = true) : ∃ host, host ∈ hosts := by
  rw [HostVersions, if_pos used] at versions
  obtain ⟨host, _, rfl, _⟩ := versions
  exact ⟨host, mem_cons_self⟩

section

variable {isWithin : Bool} {kernels : List Routine} {remaining : Routine}
  (versions : KernelVersions isWithin caller body ids kernels remaining)
include versions

theorem KernelVersions.isKernel (member : kernel ∈ kernels) :
    ∃ number, ∃ item ∈ kernelRegions body.regions,
      IsKernel caller body number item.1 item.2 kernel := by
  unfold KernelVersions at versions
  split at versions
  · exact isKernel_of_mem versions.1 member
  · rw [versions.1] at member
    cases member

theorem KernelVersions.names_nodup : (kernels.map Routine.name).Nodup := by
  unfold KernelVersions at versions
  split at versions
  · exact kernel_names_nodup versions.1
  · rw [versions.1]
    exact nodup_nil

end

section Cuda

variable {remaining : Routine} {session after : Session} {id : RoutineId} {body : RoutineBody}
    {ids : List RoutineId} (found : (session.routine id).body = some body)
    (source : SourceBody session body) (isCuda : (session.backend body.backend).kind.isCuda = true)
    (unreserved : Unreserved (session.routine id).name) (follows : Follows session after [id])

include source isCuda follows in
theorem runsOnDevice_of_backend {version : Routine} {given : RoutineBody}
    (versionFound : version.body = some given) (same : given.backend = body.backend) :
    RunsOnDevice after version := by
  refine ⟨given, versionFound, ?_⟩
  rw [same, follows.backend _ source.backend, BackendKind.isOnDevice, isCuda, Bool.or_true]

include found source isCuda unreserved follows

theorem isGenerated_kernel {item : Region × NodeId} (inside : item ∈ kernelRegions body.regions)
    (isKernel : IsKernel (deviceVersion (session.routine id)) body number item.1 item.2 kernel) :
    IsGenerated (session.routine id) (session.backend body.backend).kind ids after kernel := by
  obtain ⟨kernelBody, kernelFound, backend, sister, _, _⟩ := isKernel.body
  refine ⟨?_, ⟨kernelBody, kernelFound, ?_⟩, ?_, ?_⟩
  · rw [isKernel.version unreserved]
    exact .kernel number
  · exact plainBody_congr (source.plain.later follows) sister
      (isKernel.knowsCallees kernelFound source.calls (mem_of_mem_kernelRegions inside)) backend
  · intro callee called
    refine .inl ?_
    rw [regionCallees_eq found]
    exact isKernel.regionCallees (mem_of_mem_kernelRegions inside) callee called
  · intro onHost
    exact absurd (runsOnDevice_of_backend source isCuda follows kernelFound backend) onHost

omit isCuda follows in
theorem isGenerated_host {host : Routine} (used : (session.routine id).isUsedOnHostOnly = true)
    (isCopy : IsHostCopy session (session.routine id) body host)
    (backends : session.backends.size < after.backends.size)
    (backend : (after.backend ⟨session.backends.size⟩).kind = .plain) :
    IsGenerated (session.routine id) (session.backend body.backend).kind ids after host := by
  obtain ⟨copyBody, copyFound, copyBackend, sister, regions⟩ := isCopy.body
  refine ⟨?_, ⟨copyBody, copyFound, sister, ?_, ?_, ?_⟩, ?_, fun _ => .inl used⟩
  · rw [isCopy.name, Naming.hostRoutine, plainRoutine_unreserved unreserved]
    exact .plain
  · rw [regions]
    exact source.calls
  · rw [copyBackend]
    exact backends
  · rw [copyBackend, backend]
    intro handles
    cases handles
  · intro callee called
    refine .inl ?_
    rwa [regionCallees_eq copyFound, regions, ← regionCallees_eq found] at called

theorem isGenerated_remaining {isWithin : Bool} {kernelIds : List RoutineId}
    {kernels : List Routine} (versions : KernelVersions isWithin (deviceVersion (session.routine
      id)) body kernelIds kernels remaining) (placed : kernelIds.map after.routine = kernels)
    (inside : ∀ kernel ∈ kernelIds, kernel ∈ ids) :
    IsGenerated (session.routine id) (session.backend body.backend).kind ids after remaining ∧
      RunsOnDevice after remaining ∧ remaining.name = (deviceVersion (session.routine id)).name := by
  unfold KernelVersions at versions
  split at versions
  · obtain ⟨areKernels, rfl⟩ := versions
    have onDevice : RunsOnDevice after { deviceVersion (session.routine id) with
        body := some (kernelCaller kernelIds body) } :=
      runsOnDevice_of_backend source isCuda follows rfl rfl
    have divided := divided_callingRegions body.regions kernelIds (by
      have same := areKernels.length_eq
      rw [length_zipIdx, ← placed, length_map] at same
      exact same.symm)
    refine ⟨⟨version_deviceVersion unreserved, ⟨_, rfl, ?_⟩, ?_, ?_⟩, onDevice, rfl⟩
    · exact plainBody_congr (source.plain.later follows) source.sister
        (divided.knowsCallees source.flat source.calls) rfl
    · intro callee called
      rw [regionCallees_eq found]
      rcases divided.callees source.flat called with ofRegions | ofKernels
      · exact .inl ofRegions
      · refine .inr ⟨onDevice, inside callee ofKernels, ?_⟩
        have member : after.routine callee ∈ kernels := placed ▸ mem_map_of_mem ofKernels
        obtain ⟨number, item, _, isKernel⟩ := isKernel_of_mem areKernels member
        exact ⟨number, isKernel.version unreserved⟩
    · exact fun onHost => absurd onDevice onHost
  · obtain ⟨_, rfl⟩ := versions
    have sameBody : (deviceVersion (session.routine id)).body = some body := by
      rw [body_deviceVersion]
      exact found
    have onDevice := runsOnDevice_of_backend source isCuda follows sameBody rfl
    refine ⟨⟨version_deviceVersion unreserved, ⟨_, sameBody, source.plain.later follows⟩, ?_, ?_⟩,
      onDevice, rfl⟩
    · intro callee called
      refine .inl ?_
      rwa [regionCallees_eq sameBody, ← regionCallees_eq found] at called
    · exact fun onHost => absurd onDevice onHost

omit found source isCuda follows in
theorem version_names_nodup {isWithin : Bool} {kernelIds : List RoutineId}
    {hosts kernels : List Routine} {backends : List Backend}
    (hostVersions : HostVersions session (session.routine id) body hosts backends)
    (versions : KernelVersions isWithin (deviceVersion (session.routine id)) body kernelIds kernels
      remaining) (remainingName : remaining.name = (deviceVersion (session.routine id)).name) :
    ((remaining :: (hosts ++ kernels)).map Routine.name).Nodup := by
  have apart : ∀ name, (∀ number, name ≠ "hfk" ++ number ++ "_" ++ (session.routine id).name) →
      name ∉ kernels.map Routine.name := by
    intro name different member
    obtain ⟨kernel, inside, rfl⟩ := mem_map.mp member
    obtain ⟨number, _, _, isKernel⟩ := versions.isKernel inside
    exact different (toString number) (isKernel.version unreserved)
  have notKernel := apart (session.routine id).name (ne_kernel unreserved · _)
  have deviceNotKernel := apart _ (device_ne_kernel (session.routine id).name · _)
  rw [map_cons, remainingName, name_deviceVersion unreserved]
  unfold HostVersions at hostVersions
  by_cases used : (session.routine id).isUsedOnHostOnly = true
  · rw [if_pos used] at hostVersions ⊢
    obtain ⟨host, isCopy, rfl, _⟩ := hostVersions
    have hostName : host.name = (session.routine id).name := by
      rw [isCopy.name, Naming.hostRoutine, plainRoutine_unreserved unreserved]
    have different := ne_device unreserved (session.routine id).name
    rw [singleton_append, map_cons, hostName, nodup_cons, nodup_cons,
      mem_cons, not_or]
    exact ⟨⟨Ne.symm different, deviceNotKernel⟩, notKernel, versions.names_nodup⟩
  · rw [if_neg used] at hostVersions ⊢
    rw [hostVersions.1, nil_append, nodup_cons]
    exact ⟨notKernel, versions.names_nodup⟩

omit isCuda follows in
theorem hosts_generated {hosts routines : List Routine} {backends : List Backend}
    {registry : Registry}
    (hostVersions : HostVersions session (session.routine id) body hosts backends)
    (state : withVersions session id registry routines backends remaining = after) :
    ∀ host ∈ hosts, (session.routine id).isUsedOnHostOnly = true ∧
      host.name = (session.routine id).name ∧ ¬ RunsOnDevice after host ∧
      IsGenerated (session.routine id) (session.backend body.backend).kind ids after host := by
  intro host member
  unfold HostVersions at hostVersions
  split at hostVersions
  · next used =>
    obtain ⟨_, isCopy, rfl, rfl⟩ := hostVersions
    obtain rfl := mem_singleton.mp member
    have backend : (after.backend ⟨session.backends.size⟩).kind = .plain := by
      rw [← state]
      exact congrArg Backend.kind (backend_grown_new session registry routines _)
    have backends : session.backends.size < after.backends.size := by
      rw [← state]
      simp [withVersions, changed, grown]
    refine ⟨used, ?_, ?_, isGenerated_host found source unreserved used isCopy backends backend⟩
    · rw [isCopy.name, Naming.hostRoutine, plainRoutine_unreserved unreserved]
    · rintro ⟨copyBody, copyFound, onDevice⟩
      obtain ⟨given, givenFound, copyBackend, _⟩ := isCopy.body
      obtain rfl := Option.some.inj (givenFound.symm.trans copyFound)
      rw [copyBackend, backend] at onDevice
      cases onDevice
  · rw [hostVersions.1] at member
    cases member

omit follows in
theorem generated_cuda : Ensures (generateRoutines id) session fun ids after =>
    Generated (session.routine id) (session.backend body.backend).kind ids after ∧
      Follows session after [id] ∧
      ∀ version ∈ ids, after.knows version ∧ (version = id ∨ ¬ session.knows version) := by
  have known := knows_of_body found
  refine (generateRoutines_attains found isCuda).1.weaken ?_
  rintro _ _ ⟨registry, hosts, backends, kernels, remaining, ⟨hostVersions, _⟩, kernelVersions, rfl, rfl⟩
  generalize state : withVersions session id registry (hosts ++ kernels) backends remaining = after
  have follows : Follows session after [id] := state ▸ follows_grown _ _ _ _ _
  have first : after.routine id = remaining := state ▸ routine_withVersions known _ _ _ _
  have others : (session.newIds 0 (hosts ++ kernels).length).map after.routine =
      hosts ++ kernels := state ▸ map_routine_withVersions known registry [] _ backends remaining
  have placed : (session.newIds hosts.length kernels.length).map after.routine = kernels :=
    state ▸ map_routine_withVersions known registry hosts kernels backends remaining
  have inside : ∀ kernel ∈ session.newIds hosts.length kernels.length,
      kernel ∈ id :: session.newIds 0 (hosts ++ kernels).length := by
    intro kernel member
    rw [length_append, ← newIds_append]
    exact mem_cons_of_mem _ (mem_append_right _ member)
  obtain ⟨isRemaining, remainingOnDevice, remainingName⟩ :=
    isGenerated_remaining found source isCuda unreserved follows kernelVersions placed inside
  have hostsGenerated := @hosts_generated _ _ _ _ _ (id :: session.newIds 0 (hosts ++ kernels).length)
    found source unreserved _ _ _ _ hostVersions state
  have routines : (id :: session.newIds 0 (hosts ++ kernels).length).map after.routine =
      remaining :: (hosts ++ kernels) := by
    rw [map_cons, first, others]
  have versions : ∀ version ∈ id :: session.newIds 0 (hosts ++ kernels).length,
      IsGenerated (session.routine id) (session.backend body.backend).kind
        (id :: session.newIds 0 (hosts ++ kernels).length) after (after.routine version) := by
    intro version member
    have chosen : after.routine version ∈ remaining :: (hosts ++ kernels) :=
      routines ▸ mem_map_of_mem member
    rcases mem_cons.mp chosen with isFirst | other
    · rw [isFirst]
      exact isRemaining
    · rcases mem_append.mp other with host | kernel
      · exact (hostsGenerated _ host).2.2.2
      · obtain ⟨number, item, chosen, isKernel⟩ := kernelVersions.isKernel kernel
        exact isGenerated_kernel found source isCuda unreserved follows chosen isKernel
  refine ⟨⟨?_, versions, ?_, ?_⟩, follows, ?_⟩
  · have distinct := version_names_nodup unreserved hostVersions kernelVersions remainingName
    rwa [← routines, map_map] at distinct
  · by_cases used : (session.routine id).isUsedOnHostOnly = true
    · obtain ⟨host, member⟩ := hostVersions.exists_mem used
      have copy : host ∈ (session.newIds 0 (hosts ++ kernels).length).map after.routine := by
        rw [others]
        exact mem_append_left _ member
      obtain ⟨version, isNew, rfl⟩ := mem_map.mp copy
      obtain ⟨_, named, onHost, _⟩ := hostsGenerated _ member
      exact ⟨version, mem_cons_of_mem _ isNew, named, fun _ => onHost⟩
    · refine ⟨id, mem_cons_self, ?_, fun isUsed => absurd isUsed used⟩
      rw [first, remainingName, name_deviceVersion unreserved, if_neg used]
  · intro used _
    refine ⟨id, mem_cons_self, ?_⟩
    rw [first, remainingName, name_deviceVersion unreserved, if_pos used]
  · intro version member
    obtain ⟨given, versionFound, _⟩ := (versions version member).body
    refine ⟨knows_of_body versionFound, ?_⟩
    rcases mem_cons.mp member with isFirst | isNew
    · exact .inl isFirst
    · exact .inr fun known => not_mem_newIds known _ _ isNew

end Cuda

theorem generated {id : RoutineId} (found : (session.routine id).body = some body)
    (source : SourceBody session body) (unreserved : Unreserved (session.routine id).name) :
    Ensures (generateRoutines id) session fun ids after =>
      Generated (session.routine id) (session.backend body.backend).kind ids after ∧
        Follows session after [id] ∧
        ∀ version ∈ ids, after.knows version ∧ (version = id ∨ ¬ session.knows version) := by
  by_cases isCuda : (session.backend body.backend).kind.isCuda = true
  · exact generated_cuda found source isCuda unreserved
  · have onHost : (session.backend body.backend).kind.handlesDeviceData = false := by
      rcases source.kind with plain | openMP | cuda
      · rw [plain]
        rfl
      · rw [openMP]
        rfl
      · exact absurd cuda isCuda
    refine .step (run_body found) (.step (run_backend session _) ?_)
    rw [if_pos (by simpa using isCuda)]
    refine .pure ⟨⟨?_, ?_, ?_, ?_⟩, .refl _ _, ?_⟩
    · exact nodup_singleton _
    · intro version member
      obtain rfl := mem_singleton.mp member
      exact ⟨.plain, ⟨body, found, source.plain⟩, fun _ called => .inl called, fun _ => .inr onHost⟩
    · refine ⟨id, mem_singleton_self _, rfl, fun _ => ?_⟩
      rintro ⟨given, givenFound, onDevice⟩
      obtain rfl := Option.some.inj (givenFound.symm.trans found)
      rw [BackendKind.handlesDeviceData, onDevice, Bool.or_true] at onHost
      cases onHost
    · exact fun _ cuda => absurd cuda isCuda
    · intro version member
      obtain rfl := mem_singleton.mp member
      exact ⟨knows_of_body found, .inl rfl⟩

theorem SourceBody.later {later : Session} (source : SourceBody session body)
    (follows : Follows session later changed) : SourceBody later body := by
  refine ⟨source.sister, source.calls, Nat.lt_of_lt_of_le source.backend follows.backends, ?_,
    source.flat⟩
  rw [follows.backend _ source.backend]
  exact source.kind

def IsSource (session : Session) (id : RoutineId) : Prop :=
  ∃ body, (session.routine id).body = some body ∧ SourceBody session body ∧
    Unreserved (session.routine id).name

theorem IsSource.later {later : Session} {id : RoutineId} (source : IsSource session id)
    (follows : Follows session later changed) (unchanged : id ∉ changed) : IsSource later id := by
  obtain ⟨body, found, isSource, unreserved⟩ := source
  have same := follows.routine id (knows_of_body found) unchanged
  exact ⟨body, same ▸ found, isSource.later follows, same ▸ unreserved⟩

def GeneratedFrom (session after : Session) (id : RoutineId) (ids : List RoutineId) : Prop :=
  ∃ body, (session.routine id).body = some body ∧
    Generated (session.routine id) (session.backend body.backend).kind ids after

theorem generated_all {sources : List RoutineId} (distinct : sources.Nodup)
    (areSources : ∀ id ∈ sources, IsSource session id) :
    Ensures (sources.mapM generateRoutines) session fun versions after =>
      Follows session after sources ∧ Forall₂ (GeneratedFrom session after) sources versions := by
  induction sources generalizing session with
  | nil => exact .pure ⟨.refl _ _, .nil⟩
  | cons id sources ih =>
    obtain ⟨isFirst, distinct⟩ := nodup_cons.mp distinct
    obtain ⟨body, found, source, unreserved⟩ := areSources id mem_cons_self
    have known : ∀ other ∈ sources, session.knows other := by
      intro other member
      obtain ⟨_, otherFound, _⟩ := areSources other (mem_cons_of_mem _ member)
      exact knows_of_body otherFound
    have unchanged : ∀ other ∈ sources, other ∉ [id] := by
      intro other member same
      exact isFirst (mem_singleton.mp same ▸ member)
    rw [mapM_cons]
    refine .bind (generated found source unreserved) ?_
    rintro ids between ⟨isGenerated, follows, places⟩
    refine .bind (ih distinct fun other member =>
      (areSources other (mem_cons_of_mem _ member)).later follows
        (unchanged other member)) ?_
    rintro versions after ⟨later, others⟩
    refine .pure ⟨follows.trans later, .cons ⟨body, found, isGenerated.later later ?_⟩ ?_⟩
    · intro version member
      refine ⟨(places version member).1, fun isOther => ?_⟩
      rcases (places version member).2 with rfl | isNew
      · exact isFirst isOther
      · exact isNew (known version isOther)
    · refine ((forall₂_and_left _ _).mpr ⟨fun _ member => member, others⟩).imp ?_
      rintro other versions ⟨member, given, givenFound, isGenerated⟩
      have same := follows.routine other (known other member) (unchanged other member)
      obtain ⟨_, otherFound, otherSource, _⟩ := areSources other (mem_cons_of_mem _ member)
      rw [same] at givenFound isGenerated
      obtain rfl := Option.some.inj (otherFound.symm.trans givenFound)
      rw [follows.backend _ otherSource.backend] at isGenerated
      exact ⟨_, givenFound, isGenerated⟩

end ParallelFortran.Work
