import ParallelFortran.Proofs.RegionActivation
import ParallelFortran.Proofs.RegionFilter
import ParallelFortran.Proofs.RegionSpread

/-! Positions of the routines of a call graph. Kernel after kernel, the routines that reach it and
those that it reaches from a region learn of it. -/

namespace ParallelFortran.CallGraph

open Xml Xml.Store RegionAnalysis Relation List

section

variable (store : Store) (document : Document)

/-- A call graph that the analysis can start from: calls lead back nowhere, and no kernel is called
by way of another one. -/
structure Analysable (architecture : String) : Prop where
  graph : CallGraphDocument store document
  unique : ((routineNodes store document).map (store.value · "name")).Nodup
  unplaced : ∀ routine ∈ routineNodes store document, positionOf store routine = ""
  acyclic : ∀ routine, ¬ Reaches store document routine routine
  separate : ∀ kernel other, IsKernel store document architecture kernel →
    IsKernel store document architecture other → ¬ Reaches store document kernel other

end

inductive Side where
  | inside
  | outside

def Side.name : Side → String
  | inside => "inside"
  | outside => "outside"

namespace Net

variable (net : Net)

abbrev reaches : NodeId → NodeId → Prop :=
  TransGen net.calls

abbrev reachesFromRegion (caller callee : NodeId) : Prop :=
  ∃ first, net.callsFromRegion caller first ∧ ReflTransGen net.calls first callee

def calledBy (callee caller : NodeId) : Prop :=
  net.calls caller callee

/-- A step to a callee. Of a kernel only calls from a region count. -/
def callsOutward (caller callee : NodeId) : Prop :=
  net.calls caller callee ∧ (net.kernel caller → net.callsFromRegion caller callee)

theorem calledBy_eq (kernel : NodeId) :
    TransGen net.calledBy kernel = fun routine => net.reaches routine kernel :=
  funext fun _ => propext transGen_swap

def Lies (routine kernel : NodeId) : Side → Prop
  | .inside => net.reaches routine kernel
  | .outside => net.reachesFromRegion kernel routine

def concerned (routine kernel : NodeId) : Prop :=
  ∃ side, net.Lies routine kernel side

def owed (done : NodeId → Prop) (routine : NodeId) (id : String) : Prop :=
  ∃ kernel, done kernel ∧ net.concerned routine kernel ∧ net.keeps kernel id

/-- Calls lead back nowhere, and no kernel is called by way of another one. -/
structure Layered : Prop where
  known : ∀ caller callee, net.calls caller callee → net.routine caller ∧ net.routine callee
  covers : ∀ caller callee, net.callsFromRegion caller callee → net.calls caller callee
  acyclic : ∀ routine, ¬ net.reaches routine routine
  separate : ∀ kernel other, net.kernel kernel → net.kernel other → ¬ net.reaches kernel other

namespace Layered

variable {net : Net} {caller callee here next routine kernel other : NodeId} {side : Side}
  {done : NodeId → Prop} {id : String} (layered : net.Layered)

include layered

theorem reaches_of_region (path : net.reachesFromRegion caller callee) :
    net.reaches caller callee := by
  obtain ⟨first, step, rest⟩ := path
  exact TransGen.head'_iff.mpr ⟨first, layered.covers _ _ step, rest⟩

theorem reaches_known (path : net.reaches caller callee) :
    net.routine caller ∧ net.routine callee := by
  constructor
  · obtain ⟨_, step, _⟩ := TransGen.head'_iff.mp path
    exact (layered.known _ _ step).1
  · obtain ⟨_, _, step⟩ := TransGen.tail'_iff.mp path
    exact (layered.known _ _ step).2

section

variable (isKernel : net.kernel kernel)

include isKernel

theorem callsOutward_eq : TransGen net.callsOutward kernel = net.reachesFromRegion kernel := by
  funext routine
  refine propext ⟨fun path => ?_, ?_⟩
  · obtain ⟨first, step, rest⟩ := TransGen.head'_iff.mp path
    exact ⟨first, step.2 isKernel, ReflTransGen.mono (fun _ _ step => step.1) _ _ rest⟩
  · rintro ⟨first, step, rest⟩
    induction rest with
    | refl => exact .single ⟨layered.covers _ _ step, fun _ => step⟩
    | @tail middle last path next ih =>
      refine ih.tail ⟨next, fun another => ?_⟩
      exact (layered.separate kernel middle isKernel another
        (layered.reaches_of_region ⟨first, step, path⟩)).elim

theorem not_kernel (concerned : net.concerned routine kernel) : ¬ net.kernel routine := by
  intro another
  obtain ⟨_ | _, path⟩ := concerned
  · exact layered.separate routine kernel another isKernel path
  · exact layered.separate kernel routine isKernel another (layered.reaches_of_region path)

variable (isOther : net.kernel other)

include isOther

theorem same_side (lies : net.Lies routine kernel side) (concerned : net.concerned routine other) :
    net.Lies routine other side := by
  obtain ⟨_ | _, found⟩ := concerned
  · cases side with
    | inside => exact found
    | outside => exact (layered.separate kernel other isKernel isOther
        ((layered.reaches_of_region lies).trans found)).elim
  · cases side with
    | inside => exact (layered.separate other kernel isOther isKernel
        ((layered.reaches_of_region found).trans lies)).elim
    | outside => exact found

end

theorem owed_onward (all : ∀ other, done other → net.kernel other) (isDone : done kernel)
    (lies : net.Lies here kernel side)
    (onward : ∀ other, net.Lies here other side → net.Lies next other side)
    (owed : net.owed done here id) : net.owed done next id := by
  obtain ⟨other, earlier, concerned, kept⟩ := owed
  have same := layered.same_side (all kernel isDone) (all other earlier) lies concerned
  exact ⟨other, earlier, ⟨side, onward other same⟩, kept⟩

end Layered

end Net

namespace Analysable

variable {fuel : Nat} {store : Store} {document : Document} {architecture : String}
  (analysable : Analysable store document architecture)

include analysable

theorem layered : (net store document architecture).Layered := by
  refine ⟨fun _ _ calls => ⟨calls.1, calls.2.1⟩, ?_, analysable.acyclic, analysable.separate⟩
  rintro caller callee ⟨callerKnown, calleeKnown, call, member, origin, target, _⟩
  exact ⟨callerKnown, calleeKnown, call, member, origin, target⟩

theorem name_injective {left right : NodeId} (leftKnown : left ∈ routineNodes store document)
    (rightKnown : right ∈ routineNodes store document)
    (same : store.value left "name" = store.value right "name") : left = right :=
  inj_on_of_nodup_map analysable.unique leftKnown rightKnown same

theorem shallow {edge : NodeId → NodeId → Prop} (side : String)
    (covered : ∀ place other, edge place other → ∃ call ∈ callNodes store document, place ∈
      routineNodes store document ∧ store.value call side = store.value place "name")
    (acyclic : ∀ place, ¬ TransGen edge place place)
    (enough : (callNodes store document).length < fuel) (routine : NodeId) :
    Shallow edge fuel routine := by
  refine shallow_of_acyclic (callNodes store document) (fun call place =>
    place ∈ routineNodes store document ∧ store.value call side = store.value place "name")
    covered ?_ acyclic fuel routine enough
  rintro call left right ⟨leftKnown, leftName⟩ ⟨rightKnown, rightName⟩
  exact analysable.name_injective leftKnown rightKnown (leftName.symm.trans rightName)

section

variable (enough : (callNodes store document).length < fuel)

include enough

theorem calledBy_shallow (routine : NodeId) :
    Shallow (net store document architecture).calledBy fuel routine := by
  refine analysable.shallow "callee" ?_ ?_ enough routine
  · rintro place other ⟨_, known, call, member, _, target⟩
    exact ⟨call, member, known, target⟩
  · intro place loop
    rw [Net.calledBy_eq] at loop
    exact analysable.acyclic place loop

theorem callsOutward_shallow (routine : NodeId) :
    Shallow (net store document architecture).callsOutward fuel routine := by
  refine analysable.shallow "caller" ?_ ?_ enough routine
  · rintro place other ⟨⟨known, _, call, member, origin, _⟩, _⟩
    exact ⟨call, member, known, origin⟩
  · intro place loop
    exact analysable.acyclic place (TransGen.mono (fun _ _ step => step.1) _ _ loop)

end

end Analysable

section

variable {done : List NodeId} {store filtered now : Store} {document : Document}
  {architecture : String} {allowed : NodeId → String → Prop} {here other : NodeId}

theorem Selected.value (selected : Selected store filtered document architecture done)
    (node : NodeId) (name : String) : filtered.value node name = store.value node name :=
  value_congr (selected.label node) name

theorem Selected.name_injective (analysable : Analysable store document architecture)
    (selected : Selected store filtered document architecture done) :
    ∀ left, left ∈ routineNodes store document → ∀ right, right ∈ routineNodes store document →
      filtered.value left "name" = filtered.value right "name" → left = right := by
  intro left leftKnown right rightKnown same
  rw [selected.value, selected.value] at same
  exact analysable.name_injective leftKnown rightKnown same

variable (graph : CallGraphDocument store document)

include graph

theorem Selected.inactive {routine : NodeId}
    (selected : Selected store filtered document architecture (routineNodes store document))
    (known : routine ∈ routineNodes store document) :
    filtered.descendants routine "activeParallelRegions" = [] := by
  rw [descendants_eq_nil selected.arranged (by decide)]
  intro node below tag
  rw [tag?_congr (selected.label node)] at tag
  have place := ((mem_routineNodes graph.arranged).mp known).1
  exact (descendants_eq_nil graph.arranged (by decide)).mp graph.unanalysed node
    (place.trans (selected.old _ _ below)) tag

variable (selected : Selected store filtered document architecture done)
  (progress : Progress filtered now (net store document architecture) allowed)

include selected progress

theorem Progress.call_value {call : NodeId} (member : call ∈ callNodes store document)
    (name : String) : now.value call name = store.value call name := by
  obtain ⟨place, tag⟩ := (mem_descendants graph.arranged (by decide)).mp member
  have old : call.index < filtered.nodes.size := by
    rw [selected.size]
    exact bound_of_tag place.tagged
  rw [progress.value call name old, selected.value]
  left
  intro known
  rw [((mem_routineNodes graph.arranged).mp known).2] at tag
  simp at tag

variable (hereKnown : here ∈ routineNodes store document)
    (otherKnown : other ∈ routineNodes store document)

include hereKnown otherKnown

theorem mem_callerNames : filtered.value other "name" ∈
        callerNames (groupByAttribute filtered "callee" (callNodes store document)) now here ↔
      (net store document architecture).calledBy here other := by
  rw [callerNames, groupByAttribute_get, progress.name hereKnown]
  simp only [selected.value, mem_map, mem_filter, beq_iff_eq]
  constructor
  · rintro ⟨call, ⟨member, target⟩, origin⟩
    rw [progress.call_value graph selected member] at origin
    exact ⟨otherKnown, hereKnown, call, member, origin, target⟩
  · rintro ⟨_, _, call, member, origin, target⟩
    refine ⟨call, ⟨member, target⟩, ?_⟩
    rw [progress.call_value graph selected member, origin]

theorem mem_calleeNames
    (within : positionOf now here = "within" ↔ IsKernel store document architecture here) :
    filtered.value other "name" ∈
        calleeNames (groupByAttribute filtered "caller" (callNodes store document)) now here ↔
      (net store document architecture).callsOutward here other := by
  rw [calleeNames, groupByAttribute_get, progress.name hereKnown]
  by_cases isKernel : IsKernel store document architecture here
  · simp only [within.mpr isKernel, if_true, selected.value, mem_map,
      mem_filter, beq_iff_eq]
    constructor
    · rintro ⟨call, ⟨⟨member, origin⟩, surrounded⟩, target⟩
      rw [progress.call_value graph selected member] at target surrounded
      exact ⟨⟨hereKnown, otherKnown, call, member, origin, target⟩,
        fun _ => ⟨hereKnown, otherKnown, call, member, origin, target, surrounded⟩⟩
    · rintro ⟨_, region⟩
      obtain ⟨_, _, call, member, origin, target, surrounded⟩ := region isKernel
      refine ⟨call, ⟨⟨member, origin⟩, ?_⟩, ?_⟩
      · rw [progress.call_value graph selected member, surrounded]
      · rw [progress.call_value graph selected member, target]
  · have outside : (positionOf now here == "within") = false := by
      simpa using fun position => isKernel (within.mp position)
    simp only [outside, Bool.false_eq_true, if_false, selected.value, mem_map, mem_filter,
      beq_iff_eq]
    constructor
    · rintro ⟨call, ⟨member, origin⟩, target⟩
      rw [progress.call_value graph selected member] at target
      exact ⟨⟨hereKnown, otherKnown, call, member, origin, target⟩, fun inside => (isKernel inside).elim⟩
    · rintro ⟨⟨_, _, call, member, origin, target⟩, _⟩
      refine ⟨call, ⟨member, origin⟩, ?_⟩
      rw [progress.call_value graph selected member, target]

end

/-! What is known of some kernels -/

/-- The routines that some kernels concern have their places. -/
structure Located (net : Net) (now : Store) (done : NodeId → Prop) : Prop where
  finished : ∀ kernel, done kernel → positionOf now kernel = "within" ∧
    ∀ id, id ∈ activeIds now kernel ↔ net.keeps kernel id
  position : ∀ routine, net.routine routine → ¬ net.kernel routine → ∀ kernel, done kernel →
    ∀ side, net.Lies routine kernel side → positionOf now routine = side.name
  elsewhere : ∀ routine, net.routine routine → ¬ net.kernel routine →
    (∀ kernel, done kernel → ¬ net.concerned routine kernel) → positionOf now routine = ""
  ids : ∀ routine, net.routine routine → ¬ net.kernel routine →
    ∀ id, id ∈ activeIds now routine ↔ net.owed done routine id

structure Underway (net : Net) (filtered now : Store) (done : NodeId → Prop) : Prop
    extends Located net now done where
  progress : Progress filtered now net (net.owed done)
  kernels : ∀ kernel, done kernel → net.kernel kernel ∧ net.routine kernel
  waiting : ∀ kernel, net.routine kernel → net.kernel kernel → ¬ done kernel →
    Untouched filtered now kernel

structure Announced (net : Net) (marked lowered : Store) (kernel : NodeId) : Prop where
  size : marked.nodes.size ≤ lowered.nodes.size
  position : ∀ routine side, net.Lies routine kernel side → positionOf lowered routine = side.name
  elsewhere : ∀ routine, net.routine routine → ¬ net.concerned routine kernel →
    Untouched marked lowered routine
  kept : ∀ routine, net.routine routine → ¬ net.kernel routine →
    activeIds marked routine ⊆ activeIds lowered routine
  gained : ∀ routine, net.concerned routine kernel → ∀ id, net.keeps kernel id →
    id ∈ activeIds lowered routine

section

variable {net : Net} {filtered now marked raised lowered after : Store}
  {allowed : NodeId → String → Prop} {done : NodeId → Prop} {kernel : NodeId} {ids : List String}
  (layered : net.Layered)

include layered

theorem announced (isKernel : net.kernel kernel)
    (up : Spreading filtered marked raised net allowed "inside" ids (net.reaches · kernel))
    (down : Spreading filtered raised lowered net allowed "outside" ids
      (net.reachesFromRegion kernel))
    (own : ∀ id, id ∈ ids ↔ net.keeps kernel id) : Announced net marked lowered kernel := by
  refine ⟨Nat.le_trans up.size down.size, ?_, ?_, ?_, ?_⟩
  · rintro routine (_ | _) path
    · have exclusive : ¬ net.reachesFromRegion kernel routine := fun back =>
        layered.acyclic kernel ((layered.reaches_of_region back).trans path)
      rw [(down.unreached routine (layered.reaches_known path).1 exclusive).positionOf_eq]
      exact up.position routine path
    · exact down.position routine path
  · intro routine known apart
    have first := up.unreached routine known fun path => apart ⟨.inside, path⟩
    have second := down.unreached routine known fun path => apart ⟨.outside, path⟩
    exact first.trans second up.size
  · intro routine known plain
    exact List.Subset.trans (up.kept routine known plain) (down.kept routine known plain)
  · intro routine concerned id kept
    have given := (own id).mpr kept
    have plain := layered.not_kernel isKernel concerned
    obtain ⟨_ | _, path⟩ := concerned
    · exact down.kept routine (layered.reaches_known path).1 plain (up.gained routine path given)
    · exact down.gained routine path given

theorem Underway.step (underway : Underway net filtered now done) (known : net.routine kernel)
    (isKernel : net.kernel kernel) (new : ¬ done kernel) (touched : Touched now marked kernel)
    (announced : Announced net marked lowered kernel)
    (progress : Progress filtered lowered net (net.owed fun other => done other ∨ other = kernel))
    (changed : Touched lowered after kernel) (position : positionOf after kernel = "within")
    (own : ∀ id, id ∈ activeIds after kernel ↔ net.keeps kernel id) :
    Underway net filtered after fun other => done other ∨ other = kernel := by
  have before := fun routine member different =>
    touched.untouched underway.progress.arranged
      (underway.progress.apart routine member kernel known different)
  have behind := fun routine member different =>
    changed.untouched progress.arranged (progress.apart routine member kernel known different)
  have whole : ∀ routine, net.routine routine → routine ≠ kernel →
      ¬ net.concerned routine kernel → Untouched now after routine := by
    intro routine member different apart
    have first := (before routine member different).trans (announced.elsewhere routine member apart)
      touched.size
    exact first.trans (behind routine member different) (Nat.le_trans touched.size announced.size)
  have notKernel : ∀ routine, ¬ net.kernel routine → routine ≠ kernel := by
    rintro routine free rfl
    exact free isKernel
  have progressAfter := progress.touch known changed (fun free => (free isKernel).elim)
    fun _ => isKernel
  refine ⟨⟨?_, ?_, ?_, ?_⟩, progressAfter, ?_, ?_⟩
  · rintro other (old | rfl)
    · have different : other ≠ kernel := by
        rintro rfl
        exact new old
      obtain ⟨another, member⟩ := underway.kernels other old
      have same := whole other member different fun concerned =>
        layered.not_kernel isKernel concerned another
      rw [same.positionOf_eq, same.activeIds_eq]
      exact underway.finished other old
    · exact ⟨position, own⟩
  · intro routine member free other earlier side lies
    by_cases concerned : net.concerned routine kernel
    · have isOther : net.kernel other := by
        rcases earlier with old | rfl
        · exact (underway.kernels other old).1
        · exact isKernel
      rw [(behind routine member (notKernel routine free)).positionOf_eq]
      exact announced.position routine side (layered.same_side isOther isKernel lies concerned)
    · rcases earlier with old | rfl
      · rw [(whole routine member (notKernel routine free) concerned).positionOf_eq]
        exact underway.position routine member free other old side lies
      · exact (concerned ⟨side, lies⟩).elim
  · intro routine member free apart
    have same := whole routine member (notKernel routine free) (apart kernel (.inr rfl))
    rw [same.positionOf_eq]
    exact underway.elsewhere routine member free fun other old => apart other (.inl old)
  · intro routine member free id
    refine ⟨progressAfter.bounded routine member free id, ?_⟩
    have different := notKernel routine free
    rw [(behind routine member different).activeIds_eq]
    rintro ⟨other, old | rfl, concerned, kept⟩
    · refine announced.kept routine member free ?_
      rw [(before routine member different).activeIds_eq, underway.ids routine member free]
      exact ⟨other, old, concerned, kept⟩
    · exact announced.gained routine concerned id kept
  · rintro other (old | rfl)
    · exact underway.kernels other old
    · exact ⟨isKernel, known⟩
  · intro other member another outside
    rw [not_or] at outside
    have apart : ¬ net.concerned other kernel := fun concerned =>
      layered.not_kernel isKernel concerned another
    exact (underway.waiting other member another outside.1).trans
      (whole other member outside.2 apart) underway.progress.size

end

section

variable {fuel : Nat} {analysis : RegionAnalysis} {store filtered : Store} {document : Document}
  {architecture : String} {done : NodeId → Prop} {kernel : NodeId}
  (analysable : Analysable store document architecture)
  (selected : Selected store filtered document architecture (routineNodes store document))
  (enough : (callNodes store document).length < fuel)

include analysable selected enough

section

variable (progress : Progress filtered analysis.store (net store document architecture)
    ((net store document architecture).owed done))
  (all : ∀ other, done other → IsKernel store document architecture other) (isDone : done kernel)
  (known : kernel ∈ routineNodes store document)
  (own : ∀ id, id ∈ relationIds analysis.store kernel ↔ Keeps store document architecture kernel id)

include progress all isDone known own

theorem markCallers_yields :
    Yields (markCallers (groupByAttribute filtered "callee" (callNodes store document))
        (routineNodes store document) fuel kernel) analysis fun _ after =>
      Spreading filtered analysis.store after.store (net store document architecture)
        ((net store document architecture).owed done) "inside" (relationIds analysis.store kernel)
        ((net store document architecture).reaches · kernel) := by
  have layered := analysable.layered
  rw [← Net.calledBy_eq]
  refine spread_yields (fun _ => Iff.rfl) (selected.name_injective analysable) (by decide) ?_ fuel
    kernel analysis progress (analysable.calledBy_shallow enough kernel) ?_ ?_ ?_ ?_
  · intro now progress here hereKnown _ routine routineKnown
    exact mem_callerNames analysable.graph selected progress hereKnown routineKnown
  · intro routine path
    rw [Net.calledBy_eq] at path
    exact ⟨(layered.reaches_known path).1, fun another =>
      layered.separate routine kernel another (all kernel isDone) path⟩
  · intro routine routineKnown
    exact mem_callerNames analysable.graph selected progress known routineKnown
  · intro routine id step held
    exact ⟨kernel, isDone, ⟨.inside, .single step⟩, (own id).mp held⟩
  · intro here routine id path step
    rw [Net.calledBy_eq] at path
    have inside : (net store document architecture).Lies here kernel .inside := path
    exact layered.owed_onward all isDone inside fun _ above => TransGen.head step above

theorem markCallees_yields (position : positionOf analysis.store kernel = "within") :
    Yields (markCallees (groupByAttribute filtered "caller" (callNodes store document))
        (routineNodes store document) fuel kernel) analysis fun _ after =>
      Spreading filtered analysis.store after.store (net store document architecture)
        ((net store document architecture).owed done) "outside" (relationIds analysis.store kernel)
        ((net store document architecture).reachesFromRegion kernel) := by
  have layered := analysable.layered
  have outward := layered.callsOutward_eq (all kernel isDone)
  rw [← outward]
  refine spread_yields (fun _ => Iff.rfl) (selected.name_injective analysable) (by decide) ?_ fuel
    kernel analysis progress (analysable.callsOutward_shallow enough kernel) ?_ ?_ ?_ ?_
  · intro now progress here hereKnown free routine routineKnown
    refine mem_calleeNames analysable.graph selected progress hereKnown routineKnown ?_
    exact ⟨progress.within here hereKnown, fun inside => (free inside).elim⟩
  · intro routine path
    rw [outward] at path
    have reaches := layered.reaches_of_region path
    exact ⟨(layered.reaches_known reaches).2, fun another =>
      layered.separate kernel routine (all kernel isDone) another reaches⟩
  · intro routine routineKnown
    refine mem_calleeNames analysable.graph selected progress known routineKnown ?_
    exact ⟨fun _ => all kernel isDone, fun _ => position⟩
  · intro routine id step held
    have path : (net store document architecture).reachesFromRegion kernel routine := by
      rw [← outward]
      exact .single step
    exact ⟨kernel, isDone, ⟨.outside, path⟩, (own id).mp held⟩
  · intro here routine id path step
    rw [outward] at path
    have outside : (net store document architecture).Lies here kernel .outside := path
    exact layered.owed_onward all isDone outside fun _ ⟨first, begin, rest⟩ =>
      ⟨first, begin, rest.tail step.1⟩

end

theorem announce_yields {regions : NodeId}
    (underway : Underway (net store document architecture) filtered analysis.store done)
    (known : kernel ∈ routineNodes store document)
    (isKernel : IsKernel store document architecture kernel) (new : ¬ done kernel)
    (has : HasRegions filtered kernel regions) :
    Yields (announce (groupByAttribute filtered "caller" (callNodes store document))
        (groupByAttribute filtered "callee" (callNodes store document))
        (routineNodes store document) fuel kernel regions) analysis fun _ after =>
      Underway (net store document architecture) filtered after.store
        (fun other => done other ∨ other = kernel) := by
  obtain ⟨same, hasSame, own⟩ := (selected.settled kernel known).kernel isKernel
  obtain rfl : same = regions := by
    have both := hasSame.only.symm.trans has.only
    simpa using both
  have arranged := underway.progress.arranged
  have tagged := underway.progress.tagged kernel known
  have waiting := underway.waiting kernel known isKernel new
  have place := ((has.mem_iff waiting.arranged same).mpr rfl).1
  have all : ∀ other, done other ∨ other = kernel → IsKernel store document architecture other := by
    rintro other (old | rfl)
    · exact (underway.kernels other old).1
    · exact isKernel
  refine (lifted_yields (setAttributeValue_yields "parallelRegionPosition" (some "within")
    tagged)).bind fun _ marking assigned => ?_
  have touched := (Touched.refl arranged kernel).assign assigned (.inl ⟨rfl, rfl⟩)
  have within : positionOf marking.store kernel = "within" := by
    rw [positionOf, Store.value, value?, assigned.attributes, Attributes.value_set, if_pos rfl]
    rfl
  have wider : Progress filtered analysis.store (net store document architecture)
      ((net store document architecture).owed fun other => done other ∨ other = kernel) :=
    underway.progress.mono fun _ _ owed => owed.imp fun _ => And.imp_left .inl
  have progress := wider.touch known touched (fun free => (free isKernel).elim) fun _ => isKernel
  obtain ⟨hasMarked, idsMarked⟩ := (waiting.hasRegions has).assign arranged assigned
  have ids : ∀ id, id ∈ relationIds marking.store kernel ↔ Keeps store document architecture kernel id := by
    intro id
    rw [hasMarked.relationIds_eq, idsMarked, (waiting.within place).idsBelow_eq, own]
  refine (markCallers_yields analysable selected enough progress all (.inr rfl) known ids).bind ?_
  intro _ raising up
  have still := up.unreached kernel known (analysable.acyclic kernel)
  refine (markCallees_yields analysable selected enough up.progress all (.inr rfl) known
    (by rwa [still.relationIds_eq]) (still.positionOf_eq.trans within)).bind ?_
  intro _ lowering down
  rw [still.relationIds_eq] at down
  have stillLower := down.unreached kernel known fun loop =>
    analysable.acyclic kernel (analysable.layered.reaches_of_region loop)
  have unmoved := still.trans stillLower up.size
  have hasLowered := unmoved.hasRegions hasMarked
  have taggedRegions := ((hasLowered.mem_iff down.progress.arranged same).mpr rfl).1.tagged
  refine (activate_yields down.progress.arranged (down.progress.tagged kernel known) hasLowered.member
    taggedRegions ?_).weaken ?_
  · rw [unmoved.descendants, (assigned.sameBelow kernel).descendants arranged touched.arranged,
      waiting.descendants, selected.inactive analysable.graph known]
  · intro _ after activated
    refine underway.step analysable.layered known isKernel new touched
      (announced analysable.layered isKernel up down ids) down.progress activated.touched ?_ ?_
    · rw [activated.position, unmoved.positionOf_eq, within]
    · intro id
      rw [activated.ids, ← hasLowered.relationIds_eq, unmoved.relationIds_eq, ids]

end

end ParallelFortran.CallGraph
