import ParallelFortran.Proofs.Session
import ParallelFortran.Proofs.Store
import ParallelFortran.Routine.Versions

/-! The routines that are generated for a routine of the sources. -/

namespace ParallelFortran

open Xml List Session
open Xml.Store (Kept)

namespace Region

def callee? : Region → Option RoutineId
  | call _ callee _ => callee
  | _ => none

def callees (region : Region) : List RoutineId :=
  region.parts.filterMap callee?

def forgetPassed : Region → Region
  | call lines callee _ => call lines callee none
  | region => region

variable (region : Region)

def unprepared : Region :=
  region.mapParts forgetPassed

theorem callee?_forgetPassed : region.forgetPassed.callee? = region.callee? := by
  cases region <;> rfl

theorem callees_unprepared : region.unprepared.callees = region.callees := by
  cases region with
  | parallel template inner =>
    simp [unprepared, mapParts, callees, parts, callee?_forgetPassed]
  | plain lines => rfl
  | call lines callee passed => rfl
  | specification lines dataLines context typeParameters => rfl
  | earlyExit lines => rfl

theorem parts_eq {region : Region} (alone : region.isParallel = false) :
    region.parts = [region] := by
  cases region with
  | parallel template inner => cases alone
  | _ => rfl

theorem callees_eq {region : Region} (alone : region.isParallel = false) :
    region.callees = region.callee?.toList := by
  rw [callees, parts_eq alone]
  cases called : region.callee? <;> simp [called]

theorem unprepared_congr {left right : Region} (same : left.forgetPassed = right.forgetPassed)
    (alone : right.isParallel = false) : left.unprepared = right.unprepared := by
  cases right with
  | parallel template inner => cases alone
  | _ =>
    cases left with
    | parallel template inner => cases same
    | _ => exact same

theorem flatMap_callees_congr {regions others : List Region}
    (same : regions.map unprepared = others.map unprepared) :
    regions.flatMap callees = others.flatMap callees := by
  have unfolded : ∀ regions : List Region,
      regions.flatMap callees = (regions.map unprepared).flatMap callees := by
    intro regions
    rw [flatMap_map]
    exact flatMap_congr fun region _ => (callees_unprepared region).symm
  rw [unfolded, same, ← unfolded]

end Region

namespace Work

def calledNames (session : Session) (body : RoutineBody) (callees : List RoutineId) :
    List (String × String) :=
  callees.map fun callee =>
    ((session.routine callee).name, session.calleeName body (session.routine callee))

def knowsCallee : Region → Bool
  | .call _ callee _ => callee.isSome
  | _ => true

def KnowsCallees (region : Region) : Prop :=
  ∀ part ∈ region.parts, knowsCallee part = true

instance (region : Region) : Decidable (KnowsCallees region) :=
  inferInstanceAs (Decidable (∀ part ∈ region.parts, knowsCallee part = true))

theorem knowsCallees_withoutImportLines (region : Region) :
    KnowsCallees (withoutImportLines region) ↔ KnowsCallees region := by
  cases region <;> simp [KnowsCallees, withoutImportLines, Region.parts, knowsCallee]

variable {session : Session} {id : RoutineId} {body : RoutineBody}

section

variable (session : Session) (body : RoutineBody)

theorem prepareCall?_attains (region : Region) :
    Attains (prepareCall? body region) session (knowsCallee region = true) fun result after =>
      after = session ∧ result.1.forgetPassed = region.forgetPassed ∧
        result.2.toList = calledNames session body region.callee?.toList := by
  cases region with
  | call lines callee passed =>
    cases callee with
    | none => exact .throw fun known => by cases known
    | some callee => exact .step (run_get session) (.pure ⟨rfl, rfl, rfl⟩)
  | _ => exact .pure ⟨rfl, rfl, rfl⟩

theorem prepareParts_attains (parts : List Region) :
    Attains (parts.mapM (prepareCall? body)) session (∀ part ∈ parts, knowsCallee part = true)
      fun results after => after = session ∧
        (results.map Prod.fst).map Region.forgetPassed = parts.map Region.forgetPassed ∧
        results.filterMap Prod.snd =
          calledNames session body (parts.filterMap Region.callee?) := by
  refine (Attains.gather (fun part result =>
    result.1.forgetPassed = part.forgetPassed ∧
      result.2.toList = calledNames session body part.callee?.toList)
    (prepareCall?_attains session body)).weaken ?_ fun _ => id
  rintro results _ ⟨rfl, related⟩
  refine ⟨rfl, ?_⟩
  induction related with
  | nil => exact ⟨rfl, rfl⟩
  | @cons part result parts results first others ih =>
    constructor
    · rw [map_cons, map_cons, map_cons, first.1, ih.1]
    · cases name : result.2 <;> cases called : part.callee? <;>
        simp_all [calledNames]

theorem prepareRegion_attains (region : Region) :
    Attains (prepareRegion body region) session (KnowsCallees region) fun result after =>
      after = session ∧ result.1.unprepared = region.unprepared ∧
        result.2 = calledNames session body region.callees := by
  cases region with
  | parallel template parts =>
    refine .bind (prepareParts_attains session body parts) ?_
    rintro results between ⟨unchanged, same, names⟩
    refine .pure ⟨unchanged, ?_, names⟩
    rw [Region.unprepared, Region.mapParts, same]
    rfl
  | _ =>
    refine .bind (prepareCall?_attains session body _ |>.only fun knows => knows _ mem_cons_self) ?_
    rintro result between ⟨unchanged, same, names⟩
    exact .pure ⟨unchanged, Region.unprepared_congr same rfl, names⟩

theorem prepareRegions_attains :
    Attains (body.regions.mapM (prepareRegion body)) session
      (∀ region ∈ body.regions, KnowsCallees region) fun prepared after => after = session ∧
        (prepared.map Prod.fst).map Region.unprepared = body.regions.map Region.unprepared ∧
        prepared.flatMap Prod.snd =
          calledNames session body (body.regions.flatMap Region.callees) := by
  refine (Attains.gather _ (prepareRegion_attains session body)).weaken ?_ fun _ => id
  rintro prepared _ ⟨same, related⟩
  refine ⟨same, ?_⟩
  generalize body.regions = regions at related
  induction related with
  | nil => exact ⟨rfl, rfl⟩
  | cons first others ih =>
    constructor
    · rw [map_cons, map_cons, map_cons, first.1, ih.1]
    · rw [flatMap_cons, flatMap_cons, first.2, ih.2, calledNames, calledNames,
        calledNames, map_append]

end

section

variable (found : (session.routine id).body = some body)

include found

theorem prepareCalls_attains :
    Attains (prepareCalls id) session (∀ region ∈ body.regions, KnowsCallees region) fun _ after =>
      ∃ regions, regions.map Region.unprepared = body.regions.map Region.unprepared ∧
        after = session.setBody id { body with
          regions
          calleeNames := some (Table.ofList
            (calledNames session body (body.regions.flatMap Region.callees))) } := by
  refine .step (run_body found) (.bind (prepareRegions_attains session body) ?_)
  rintro prepared _ ⟨rfl, same, names⟩
  refine Yields.leads ⟨(), _, run_changeBody found _, prepared.map Prod.fst, same, ?_⟩ _
  rw [names]

theorem reduceImports_attains :
    Attains (reduceImports id) session (∀ region ∈ body.regions, KnowsCallees region) fun _ after =>
      ∃ regions calleeNames imports,
        regions.map Region.unprepared =
          (body.regions.map withoutImportLines).map Region.unprepared ∧
        after = session.setBody id { body with regions, calleeNames, imports } := by
  have known := knows_of_body found
  refine .step (run_changeBody found _) ?_
  generalize reducedBody : { body with regions := body.regions.map withoutImportLines } = reduced
  have reducedFound := body_setBody known reduced
  refine .step (run_body reducedFound) ?_
  have unchanged : ∃ regions calleeNames imports,
      regions.map Region.unprepared =
        (body.regions.map withoutImportLines).map Region.unprepared ∧
      session.setBody id reduced = session.setBody id { body with regions, calleeNames, imports } :=
    ⟨_, body.calleeNames, body.imports, rfl, by rw [← reducedBody]⟩
  split
  · exact .pure unchanged
  · split
    · exact .pure unchanged
    · subst reducedBody
      refine .bind ((prepareCalls_attains reducedFound).only ?_) ?_
      · intro knows region member
        obtain ⟨given, inside, rfl⟩ := mem_map.mp member
        exact (knowsCallees_withoutImportLines given).mpr (knows given inside)
      rintro _ _ ⟨regions, same, rfl⟩
      rw [setBody_setBody]
      refine .step (run_get _) (.step (run_body (body_setBody known _)) ?_)
      refine Yields.leads ⟨(), _, run_changeBody (body_setBody known _) _, ?_⟩ _
      rw [setBody_setBody]
      exact ⟨regions, _, _, same, rfl⟩

theorem copyRoutine_attains (name : String) (regions : List Region) :
    Attains (copyRoutine id name regions) session (Text.isBlankText name = false) fun copy after =>
      copy = session.nextId 0 ∧ ∃ registry node, session.store.IsClone body.node node registry.store ∧
        after = session.grown registry [{ session.routine id with
          name
          body := some { body with
            node, regions
            sister := none
            synthesized := none
            packed := .empty
            calleeNames := none
            usedNames := []
            kernelUses := .empty } }] [] := by
  refine .step (run_routine session id) (.step (run_body found) ?_)
  split
  · next blank => exact .thrown (by simp [blank])
  · refine .bind ((stored_yields (cloneNode_isClone session.store body.node)).leads _) ?_
    rintro node _ ⟨registry, isClone, rfl⟩
    exact Yields.leads ⟨_, _, rfl, rfl, registry, node, isClone, rfl⟩ _

end

structure IsKernel (caller : Routine) (body : RoutineBody) (number : Nat) (region : Region)
    (template : NodeId) (kernel : Routine) : Prop where
  name : kernel.name = Naming.kernel caller.name number
  isUsedOnHostOnly : kernel.isUsedOnHostOnly = caller.isUsedOnHostOnly
  body : ∃ kernelBody, kernel.body = some kernelBody ∧ kernelBody.backend = body.backend ∧
    kernelBody.sister = none ∧ kernelBody.regionTemplates = some [template] ∧
    kernelBody.regions.map Region.unprepared =
      (body.regions.head?.toList.map withoutImportLines ++ [withoutImportLines region]).map
        Region.unprepared

theorem mem_of_mem_kernelRegions {regions : List Region} {item : Region × NodeId}
    (member : item ∈ kernelRegions regions) : item.1 ∈ regions := by
  obtain ⟨region, inside, chosen⟩ := mem_filterMap.mp member
  split at chosen
  · cases chosen
    exact inside
  · cases chosen

section

variable (found : (session.routine id).body = some body)

include found

theorem kernelOf_attains (number : Nat) (region : Region) (template : NodeId) :
    Attains (kernelOf id number region template) session
      (∀ given ∈ body.regions ++ [region], KnowsCallees given) fun copy after =>
      copy = session.nextId 0 ∧ ∃ registry kernel,
        IsKernel (session.routine id) body number region template kernel ∧
        Kept none session.store registry.store ∧ after = session.grown registry [kernel] [] := by
  refine .step (run_body found) (.step (run_routine session id) ?_)
  refine .bind ((copyRoutine_attains found _ _).only fun _ => by
    simp [Naming.kernel, Text.isBlankText, Text.isBlank]) ?_
  rintro _ _ ⟨rfl, copied, node, isClone, rfl⟩
  refine .step (run_body (congrArg Routine.body (routine_new session copied _ []))) ?_
  refine .bind ((stored_yields (setAttribute_kept _ node _ _)).leads _) ?_
  rintro _ _ ⟨placed, first, rfl⟩
  refine .bind ((stored_yields (setAttribute_kept _ node _ _)).leads _) ?_
  rintro _ _ ⟨registry, second, rfl⟩
  have kept := isClone.kept.assigned (trans_of (Kept (some node)) first second)
    (Nat.le_of_eq isClone.index.symm)
  change Attains _ (session.grown registry _ []) _ _
  refine .step (run_changeBody (congrArg Routine.body (routine_new session registry _ [])) _) ?_
  rw [setBody_new]
  refine .bind ((reduceImports_attains
    (congrArg Routine.body (routine_new session registry _ []))).only ?_) ?_
  · intro knows given member
    rcases mem_append.mp member with head | last
    · exact knows given (mem_append_left _ (mem_of_mem_head? (Option.mem_toList.mp head)))
    · exact knows given (mem_append_right _ last)
  rintro _ _ ⟨regions, calleeNames, imports, same, rfl⟩
  rw [setBody_new]
  refine .pure ⟨rfl, registry, _, ?_, kept, rfl⟩
  refine ⟨rfl, rfl, _, rfl, rfl, rfl, rfl, ?_⟩
  rw [same, map_append]
  rfl

theorem kernels_attains (items : List (Region × NodeId)) (first : Nat) :
    Attains ((items.zipIdx first).mapM fun ((region, template), number) =>
        kernelOf id number region template) session
      (∀ given ∈ body.regions ++ items.map Prod.fst, KnowsCallees given) fun ids after =>
      ∃ registry kernels,
        Forall₂ (fun item kernel =>
          IsKernel (session.routine id) body item.2 item.1.1 item.1.2 kernel)
          (items.zipIdx first) kernels ∧
        ids = session.newIds 0 kernels.length ∧ Kept none session.store registry.store ∧
        after = session.grown registry kernels [] := by
  have known := knows_of_body found
  induction items generalizing session first with
  | nil =>
    exact .pure ⟨session.registry, [], .nil, rfl, refl_of (Kept none) _, by simp [Session.grown]⟩
  | cons item items ih =>
    rw [zipIdx_cons, mapM_cons]
    refine .bind ((kernelOf_attains found first item.1 item.2).only ?_) ?_
    · intro knows given member
      exact knows given (by simp at member ⊢; tauto)
    rintro _ _ ⟨rfl, begun, kernel, isKernel, kept, rfl⟩
    have same := routine_grown known begun [kernel] []
    refine .bind ((ih (by rw [same]; exact found) (first + 1)
      (knows_grown known begun [kernel] [])).only ?_) ?_
    · intro knows given member
      exact knows given (by simp at member ⊢; tauto)
    rintro _ _ ⟨registry, kernels, areKernels, rfl, keptNext, rfl⟩
    rw [same] at areKernels
    refine .pure ⟨registry, kernel :: kernels, .cons isKernel areKernels, ?_,
      trans_of (Kept none) kept keptNext, ?_⟩
    · rw [length_cons, newIds_grown]
      rfl
    · rw [grown_grown]
      rfl

theorem splitKernels_attains :
    Attains (splitKernels id) session (∀ region ∈ body.regions, KnowsCallees region) fun ids after =>
      ∃ registry kernels,
        Forall₂ (fun item kernel =>
          IsKernel (session.routine id) body item.2 item.1.1 item.1.2 kernel)
          (kernelRegions body.regions).zipIdx kernels ∧
        ids = session.newIds 0 kernels.length ∧
        Kept (some body.node) session.store registry.store ∧
        after = (session.grown registry kernels []).setBody id (kernelCaller ids body) := by
  have known := knows_of_body found
  refine .step (run_body found) (.bind ((kernels_attains found _ 0).only ?_) ?_)
  · intro knows given member
    rcases mem_append.mp member with inside | ofItem
    · exact knows given inside
    · obtain ⟨item, isItem, rfl⟩ := mem_map.mp ofItem
      exact knows _ (mem_of_mem_kernelRegions isItem)
  rintro ids _ ⟨made, kernels, areKernels, rfl, keeps, rfl⟩
  refine .bind ((stored_yields (setAttribute_kept _ body.node _ _)).leads _) ?_
  rintro _ _ ⟨placed, first, rfl⟩
  refine .bind ((stored_yields (setAttribute_kept _ body.node _ _)).leads _) ?_
  rintro _ _ ⟨registry, second, rfl⟩
  have kept : ((session.grown registry kernels []).routine id).body = some body := by
    rw [routine_grown known]
    exact found
  refine .step (run_changeBody kept _) (.pure ?_)
  exact ⟨registry, kernels, areKernels, rfl,
    trans_of (Kept _) ⟨keeps.size, fun node old _ => keeps.label node old (by simp)⟩
      (trans_of (Kept _) first second), rfl⟩

end

structure IsHostCopy (session : Session) (routine : Routine) (body : RoutineBody) (copy : Routine) :
    Prop where
  name : copy.name = Naming.hostRoutine routine.name
  isUsedOnHostOnly : copy.isUsedOnHostOnly = routine.isUsedOnHostOnly
  callees : ∀ region ∈ body.regions, needsDevice session region = false
  body : ∃ copyBody, copy.body = some copyBody ∧
    copyBody.backend = ⟨session.backends.size⟩ ∧ copyBody.sister = none ∧
    copyBody.regions = body.regions

/-- Where the copy of a routine with kernels stands: nowhere, if the first of its parallel regions is
for other architectures than those that one of three letters names. -/
def HostPosition (session : Session) (body : RoutineBody) (position : String) : List NodeId → Prop
  | [] => position = session.position body
  | template :: _ => session.position body = "within" → ∃ applies,
      CallGraph.appliesTo session.store ["G", "P", "U"] template = .ok applies ∧
        position = if applies then "within" else ""

def HostPlaced (session : Session) (body : RoutineBody) (kernels : List NodeId) (store : Store)
    (host : Routine) : Prop :=
  ∃ copyBody, host.body = some copyBody ∧ copyBody.node.index = session.store.nodes.size ∧
    copyBody.node.index < store.nodes.size ∧
    HostPosition session body (store.value copyBody.node "parallelRegionPosition") kernels

theorem HostPlaced.onward {kernels : List NodeId} {store after : Store} {host : Routine} {node : NodeId}
    (placed : HostPlaced session body kernels store host) (old : node.index < session.store.nodes.size)
    (kept : Kept (some node) store after) : HostPlaced session body kernels after host := by
  obtain ⟨copyBody, found, index, known, stands⟩ := placed
  refine ⟨copyBody, found, index, Nat.lt_of_lt_of_le known kept.size, ?_⟩
  rw [kept.value known]
  · exact stands
  · intro same
    cases same
    exact absurd index (Nat.ne_of_lt old)

theorem clearPosition_attains {given : Session} {copyBody : RoutineBody} {copy : RoutineId}
    (found : (session.routine copy).body = some copyBody)
    (same : session.store.value copyBody.node "parallelRegionPosition" = given.position body)
    (kernels : List NodeId) :
    Attains (clearPosition given body copy kernels) session (∀ template ∈ kernels.head?, ∃ applies,
        CallGraph.appliesTo given.store ["G", "P", "U"] template = .ok applies) fun _ after =>
      ∃ registry, after = { session with registry } ∧
        session.store.nodes.size ≤ registry.store.nodes.size ∧ HostPosition given body
          (registry.store.value copyBody.node "parallelRegionPosition") kernels := by
  cases kernels with
  | nil => exact .pure ⟨session.registry, rfl, Nat.le_refl _, same⟩
  | cons template others =>
    rw [clearPosition]
    split
    · next isWithin =>
      have within := same.trans (beq_iff_eq.mp isWithin)
      refine .known (fun applies given => ?_) fun fault refused can => ?_
      rotate_left
      · obtain ⟨_, given⟩ := can template rfl
        cases given.symm.trans refused
      split
      · next unfit =>
        have tagged : (session.store.tag? copyBody.node).isSome := by
          cases tag : session.store.tag? copyBody.node with
          | some _ => rfl
          | none => exact absurd (within.symm.trans (Store.value_untagged tag _)) (by decide)
        refine .step (run_body found) (Yields.leads ((stored_yields
          (setAttributeValue_yields _ _ tagged)).weaken ?_) _)
        rintro _ _ ⟨registry, assigned, rfl⟩
        refine ⟨registry, rfl, Nat.le_of_eq assigned.size.symm, fun _ => ⟨applies, given, ?_⟩⟩
        rw [Store.value, Store.value?, assigned.attributes, Attributes.value_set, if_pos rfl,
          if_neg (by simpa using unfit)]
        rfl
      · next fits =>
        refine .pure ⟨session.registry, rfl, Nat.le_refl _, fun _ => ⟨applies, given, ?_⟩⟩
        rw [if_pos (by simpa using fits)]
        exact within
    · next elsewhere =>
      exact .pure ⟨session.registry, rfl, Nat.le_refl _, fun isWithin => by simp [isWithin] at elsewhere⟩

structure CanRunOnHost (session : Session) (routine : Routine) (body : RoutineBody) : Prop where
  name : Text.isBlankText (Naming.hostRoutine routine.name) = false
  callees : ∀ region ∈ body.regions, needsDevice session region = false
  applies : ∀ template ∈ (kernelTemplates body.regions).head?, ∃ applies,
    CallGraph.appliesTo session.store ["G", "P", "U"] template = .ok applies

section

variable (found : (session.routine id).body = some body)

include found

theorem hostCopy_attains {kernels : List NodeId}
    (chosen : ∀ template ∈ kernels.head?, template ∈ (kernelTemplates body.regions).head?) :
    Attains (hostCopy id kernels) session (CanRunOnHost session (session.routine id) body)
      fun copy after => copy = session.nextId 0 ∧ ∃ registry host,
        IsHostCopy session (session.routine id) body host ∧
        HostPlaced session body kernels registry.store host ∧
        after = session.grown registry [host] [(session.backend body.backend).forHost] := by
  refine .step (run_get session) (.step (run_body found) ?_)
  refine .bind ((copyRoutine_attains found _ _).only fun can => can.name) ?_
  rintro _ _ ⟨rfl, copied, node, isClone, rfl⟩
  refine .step (run_addBackend _ _) ?_
  change Attains _ (session.grown copied [_] [_]) _ _
  refine .step (run_changeBody (congrArg Routine.body (routine_new session copied _ _)) _) ?_
  rw [setBody_new]
  split
  · next needs =>
    refine .thrown fun can => ?_
    obtain ⟨region, member, needed⟩ := any_eq_true.mp needs
    rw [can.callees region member] at needed
    cases needed
  · next allowed =>
    refine .bind ((clearPosition_attains (congrArg Routine.body (routine_new session copied _ _))
      ?_ kernels).only fun can template first => can.applies template (chosen template first)) ?_
    · exact isClone.value _
    rintro _ _ ⟨registry, rfl, size, position⟩
    refine .pure ⟨rfl, registry, _, ?_, ⟨_, rfl, isClone.index, ?_, position⟩, rfl⟩
    · refine ⟨rfl, rfl, by simpa using allowed, _, rfl, ?_, rfl, rfl⟩
      simp [Session.grown]
    · exact Nat.lt_of_lt_of_le isClone.known size

def deviceVersion (routine : Routine) : Routine :=
  if routine.isUsedOnHostOnly then { routine with name := Naming.deviceRoutine routine.name }
  else routine

def HostVersions (session : Session) (routine : Routine) (body : RoutineBody)
    (hosts : List Routine) (backends : List Backend) : Prop :=
  if routine.isUsedOnHostOnly then
    ∃ host, IsHostCopy session routine body host ∧ hosts = [host] ∧
      backends = [(session.backend body.backend).forHost]
  else hosts = [] ∧ backends = []

theorem splitHost_attains {kernels : List NodeId}
    (chosen : ∀ template ∈ kernels.head?, template ∈ (kernelTemplates body.regions).head?) :
    Attains (splitHost id kernels) session ((session.routine id).isUsedOnHostOnly = true →
        CanRunOnHost session (session.routine id) body) fun ids after =>
      ∃ registry hosts backends,
        (HostVersions session (session.routine id) body hosts backends ∧
          ∀ host ∈ hosts, HostPlaced session body kernels registry.store host) ∧
        ids = session.newIds 0 hosts.length ∧
        after = (session.grown registry hosts backends).changed id deviceVersion := by
  have known := knows_of_body found
  refine .step (run_routine session id) ?_
  by_cases used : (session.routine id).isUsedOnHostOnly = true
  · rw [if_neg (by simp [used])]
    refine .bind ((hostCopy_attains found chosen).only fun can => can used) ?_
    rintro _ _ ⟨rfl, registry, host, isCopy, placed, rfl⟩
    refine .step (run_changeRoutine _ _ _) (.pure ?_)
    refine ⟨registry, [host], [(session.backend body.backend).forHost], ⟨?_, by simpa⟩, rfl, ?_⟩
    · rw [HostVersions, if_pos used]
      exact ⟨host, isCopy, rfl, rfl⟩
    · apply changed_congr
      rw [routine_grown known, deviceVersion, if_pos used]
  · rw [if_pos (by simp [used])]
    refine .pure ⟨session.registry, [], [], ⟨?_, forall_mem_nil _⟩, rfl, ?_⟩
    · rw [HostVersions, if_neg used]
      exact ⟨rfl, rfl⟩
    · refine Eq.trans (by simp [Session.grown]) (changed_same ?_).symm
      exact if_neg used

end

def KernelVersions (isWithin : Bool) (caller : Routine) (body : RoutineBody)
    (ids : List RoutineId) (kernels : List Routine) (remaining : Routine) : Prop :=
  if isWithin then
    Forall₂ (fun (item : (Region × NodeId) × Nat) kernel =>
      IsKernel caller body item.2 item.1.1 item.1.2 kernel)
      (kernelRegions body.regions).zipIdx kernels ∧
    remaining = { caller with body := some (kernelCaller ids body) }
  else kernels = [] ∧ remaining = caller

theorem body_deviceVersion (routine : Routine) : (deviceVersion routine).body = routine.body := by
  rw [deviceVersion]
  split <;> rfl

def withVersions (session : Session) (id : RoutineId) (registry : Registry)
    (routines : List Routine) (backends : List Backend) (remaining : Routine) : Session :=
  (session.grown registry routines backends).changed id fun _ => remaining

theorem routine_withVersions (known : session.knows id) (registry : Registry) (routines : List Routine)
    (backends : List Backend) (remaining : Routine) :
    (withVersions session id registry routines backends remaining).routine id = remaining :=
  routine_changed_self (knows_grown known _ _ _) _

theorem map_routine_withVersions (known : session.knows id) (registry : Registry)
    (front routines : List Routine) (backends : List Backend) (remaining : Routine) :
    (session.newIds front.length routines.length).map
      (withVersions session id registry (front ++ routines) backends remaining).routine =
      routines := by
  refine Eq.trans ?_ (map_routine_newIds session registry front routines backends)
  apply map_congr_left
  intro new member
  apply routine_changed_of_ne
  rintro rfl
  exact not_mem_newIds known _ _ member

theorem generateRoutines_attains (found : (session.routine id).body = some body)
    (isCuda : (session.backend body.backend).kind.isCuda = true) :
    Attains (generateRoutines id) session ((∀ region ∈ body.regions, KnowsCallees region) ∧
        ((session.routine id).isUsedOnHostOnly = true →
          CanRunOnHost session (session.routine id) body)) fun ids after =>
      ∃ registry hosts backends kernels remaining,
        (HostVersions session (session.routine id) body hosts backends ∧ ∀ host ∈ hosts,
          HostPlaced session body (kernelTemplates body.regions) registry.store host) ∧
        KernelVersions (session.position body == "within")
          (deviceVersion (session.routine id)) body
          (session.newIds hosts.length kernels.length) kernels remaining ∧
        ids = id :: session.newIds 0 (hosts ++ kernels).length ∧
        after = withVersions session id registry (hosts ++ kernels) backends remaining := by
  have known := knows_of_body found
  refine .step (run_body found) (.step (run_backend session _) ?_)
  rw [if_neg (by simp [isCuda])]
  refine .step (run_position session _)
    (.bind ((splitHost_attains found ?_).only And.right) ?_)
  · split <;> simp
  rintro _ _ ⟨begun, hosts, backends, ⟨hostVersions, placed⟩, rfl, rfl⟩
  have renamed : ((session.grown begun hosts backends).changed id deviceVersion).routine id =
      deviceVersion (session.routine id) := by
    rw [routine_changed_self (knows_grown known _ _ _),
      routine_grown known]
  have renamedFound : (((session.grown begun hosts backends).changed id deviceVersion).routine
      id).body = some body := by
    rw [renamed, body_deviceVersion]
    exact found
  by_cases isWithin : (session.position body == "within") = true
  · have inside : (session.store.value body.node "parallelRegionPosition" == "within") = true :=
      isWithin
    rw [if_pos inside] at placed ⊢
    refine .bind ((splitKernels_attains renamedFound).only And.left) ?_
    rintro _ _ ⟨registry, kernels, areKernels, rfl, kept, rfl⟩
    have old : body.node.index < session.store.nodes.size := by
      by_contra beyond
      rw [Store.value_beyond (Nat.le_of_not_lt beyond)] at inside
      cases inside
    rw [renamed] at areKernels
    rw [newIds_changed, newIds_grown, Nat.add_zero]
    refine .pure ⟨registry, hosts, backends, kernels, { deviceVersion (session.routine id) with
      body := some (kernelCaller (session.newIds hosts.length kernels.length) body) },
      ⟨hostVersions, fun host member => (placed host member).onward old kept⟩, ?_, ?_, ?_⟩
    · rw [KernelVersions, if_pos isWithin]
      exact ⟨areKernels, rfl⟩
    · rw [newIds_append, length_append]
    · rw [grown_changed (knows_grown known _ _ _), grown_grown,
        append_nil, setBody, changed_changed]
      apply changed_congr
      rw [routine_grown known]
  · have elsewhere : ¬ (session.store.value body.node "parallelRegionPosition" == "within") = true :=
      isWithin
    rw [if_neg elsewhere] at placed ⊢
    refine .step (run_pure _ _) (.pure ?_)
    refine ⟨begun, hosts, backends, [], deviceVersion (session.routine id),
      ⟨hostVersions, fun host member => ?_⟩, ?_, ?_, ?_⟩
    · obtain ⟨copyBody, found, index, known, stands⟩ := placed host member
      refine ⟨copyBody, found, index, known, ?_⟩
      cases kernelTemplates body.regions with
      | nil => exact stands
      | cons template others => exact fun inside => absurd (beq_iff_eq.mpr inside) isWithin
    · rw [KernelVersions, if_neg isWithin]
      exact ⟨rfl, rfl⟩
    · rw [append_nil, append_nil]
    · rw [append_nil]
      apply changed_congr
      rw [routine_grown known]

end Work

end ParallelFortran
