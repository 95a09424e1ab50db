import ParallelFortran.Proofs.RegionMarks

/-! Filtering of regions: of a routine there remain the references to templates that are for the
architecture, and without any the element around them goes, too. -/

namespace ParallelFortran.CallGraph

open Xml Xml.Store RegionAnalysis List

theorem not_mem_of_nodup {α : Type} {members done rest : List α} {member : α}
    (whole : members = done ++ member :: rest) (distinct : members.Nodup) : member ∉ done := by
  rw [whole, nodup_append] at distinct
  exact fun inside => distinct.2.2 member inside member mem_cons_self rfl

theorem anyM_entries (store : Store) (architecture : String) (entries : List NodeId)
    (valid : ∀ entry ∈ entries, (simpleValue? (store.tree entry)).isSome) :
    ∃ found, (entries.anyM fun entry => match simpleValue? (store.tree entry) with
        | none => (.error (.defect .missingPart) : Outcome Bool)
        | some text => .ok (matchesArchitecture architecture text)) = .ok found ∧
      (found = true ↔ ∃ entry ∈ entries, ∃ text, simpleValue? (store.tree entry) = some text ∧
        matchesArchitecture architecture text = true) := by
  induction entries with
  | nil => exact ⟨false, rfl, by simp⟩
  | cons entry entries ih =>
    obtain ⟨found, run, meaning⟩ := ih fun other member => valid other (by simp [member])
    obtain ⟨text, known⟩ := Option.isSome_iff_exists.mp (valid entry (by simp))
    cases applies : matchesArchitecture architecture text with
    | true =>
      refine ⟨true, ?_, ?_⟩
      · simp only [anyM, known, applies]
        rfl
      · simp [known, applies]
    | false =>
      refine ⟨found, ?_, ?_⟩
      · simp only [anyM, known, applies]
        exact run
      · rw [meaning]
        simp [known, applies]

variable {store : Store} {template : NodeId}

theorem keepsTemplate_eq (architecture : String)
    (valid : ∀ setting ∈ store.descendants template "appliesTo",
      ∀ entry ∈ store.descendants setting "entry", (simpleValue? (store.tree entry)).isSome) :
    ∃ kept, keepsTemplate store architecture template = .ok kept ∧
      (kept = true ↔ Applies store architecture template) := by
  rw [keepsTemplate, Applies]
  cases settings : store.descendants template "appliesTo" with
  | nil => exact ⟨true, rfl, by simp⟩
  | cons setting rest =>
    exact anyM_entries store architecture _ (valid setting (by simp [settings]))

variable {before after : Store}

theorem Untouched.keepsTemplate_eq (untouched : Untouched before after template)
    (architecture : String) :
    keepsTemplate after architecture template = keepsTemplate before architecture template := by
  rw [keepsTemplate, keepsTemplate, untouched.descendants]
  cases settings : before.descendants template "appliesTo" with
  | nil => rfl
  | cons setting rest =>
    have within := untouched.within (descendants_first untouched.arranged (by decide) settings).1
    simp only [within.descendants]
    have same : ∀ entry ∈ before.descendants setting "entry",
        after.tree entry = before.tree entry := by
      intro entry inside
      have below := ((mem_descendants untouched.arranged (by decide)).mp inside).1
      exact (within.within below).tree below.tagged
    generalize before.descendants setting "entry" = entries at same
    induction entries with
    | nil => rfl
    | cons entry entries ih =>
      rw [anyM, anyM, same entry (by simp),
        ih fun other inside => same other (by simp [inside])]

/-! References that are taken away -/

structure Thinned (before after : Store) (regions : NodeId) (removed : List NodeId) : Prop where
  size : after.nodes.size = before.nodes.size
  arranged : Arranged after
  label : ∀ node, after.label node = before.label node
  children : ∀ node, after.children node =
    if node = regions then (before.children node).filter (· ∉ removed) else before.children node
  parent : ∀ node, after.parent? node = if node ∈ removed then none else before.parent? node

namespace Thinned

variable {before between after : Store} {regions : NodeId} {removed : List NodeId}

theorem refl (arranged : Arranged before) (regions : NodeId) : Thinned before before regions [] :=
  ⟨rfl, arranged, fun _ => rfl, by simp, by simp⟩

theorem remove {relation : NodeId} (thinned : Thinned before between regions removed)
    (linked : between.parent? relation = some regions)
    (detached : Detached between after regions relation) :
    Thinned before after regions (removed ++ [relation]) := by
  refine ⟨detached.size.trans thinned.size, detached.arranged thinned.arranged linked, ?_, ?_, ?_⟩
  · intro node
    rw [detached.label, thinned.label]
  · intro node
    rw [detached.children, thinned.children]
    by_cases same : node = regions
    · simp only [same, if_true, filter_filter]
      apply filter_congr
      intro child _
      by_cases gone : child = relation <;> simp [gone]
    · simp [same]
  · intro node
    rw [detached.parent, thinned.parent]
    by_cases same : node = relation <;> simp [same]

variable (thinned : Thinned before after regions removed)

include thinned

theorem tag (node : NodeId) : after.tag? node = before.tag? node :=
  tag?_congr (thinned.label node)

theorem below_old {ancestor node : NodeId} (below : Below after ancestor node) :
    Below before ancestor node := by
  refine below.mono ?_ fun other => (thinned.tag other).symm
  intro other
  rw [thinned.children]
  split
  · exact filter_subset_self _
  · exact Subset.refl _

theorem touched {routine : NodeId} (arranged : Arranged before)
    (member : regions ∈ before.children routine) : Touched before after routine := by
  refine ⟨Nat.le_of_eq thinned.size.symm, thinned.arranged, fun node _ _ => thinned.label node,
    fun node _ => thinned.tag node, fun node name _ _ => value_congr (thinned.label node) name, ?_, ?_⟩
  · intro node _ _ free
    have other : node ≠ regions := by
      rintro rfl
      exact free ((arranged.linked _ _).mp member)
    rw [thinned.children, if_neg other]
  · intro node _
    rw [thinned.parent]
    split
    · exact .inr rfl
    · exact .inl rfl

theorem descendants (arranged : Arranged before) {tag : String} (particular : tag ≠ "*")
    (flat : ∀ node ∈ before.descendants regions tag, node ∈ before.children regions) :
    after.descendants regions tag = (before.descendants regions tag).filter (· ∉ removed) := by
  have flatAfter : ∀ node ∈ after.descendants regions tag, node ∈ after.children regions := by
    intro node found
    obtain ⟨below, same⟩ := (mem_descendants thinned.arranged particular).mp found
    rw [thinned.tag] at same
    have member :=
      flat node ((mem_descendants arranged particular).mpr ⟨thinned.below_old below, same⟩)
    obtain ⟨parent, linked, _⟩ := below.parent thinned.arranged
    rw [thinned.parent] at linked
    have kept : node ∉ removed := by
      intro gone
      simp [gone] at linked
    rw [thinned.children]
    simp [member, kept]
  rw [descendants_flat arranged particular flat, descendants_flat thinned.arranged particular flatAfter,
    thinned.children, if_pos rfl, filter_comm]
  simp [thinned.tag]

end Thinned

/-- The regions of a routine are all in one element, which holds its references directly. -/
structure HasRegions (store : Store) (routine regions : NodeId) : Prop where
  only : store.descendants routine "parallelRegions" = [regions]
  member : regions ∈ store.children routine
  flat : ∀ relation ∈ store.descendants regions "templateRelation", relation ∈ store.children regions

variable {routine regions : NodeId}

theorem HasRegions.mem_iff (arranged : Arranged store) (has : HasRegions store routine regions)
    (node : NodeId) :
    Below store routine node ∧ store.tag? node = some "parallelRegions" ↔ node = regions := by
  rw [← mem_descendants arranged (by decide), has.only, mem_singleton]

theorem HasRegions.relationIds_eq (has : HasRegions store routine regions) :
    relationIds store routine = idsBelow store regions := by
  simp [relationIds, relationsOf, has.only, idsBelow]

theorem HasRegions.assign {name : String} {given : Option String}
    (has : HasRegions before routine regions) (arranged : Arranged before)
    (assigned : Assigned before after routine name given) :
    HasRegions after routine regions ∧ idsBelow after regions = idsBelow before regions := by
  have descendants :=
    fun id tag => (assigned.sameBelow id).descendants arranged (assigned.arranged arranged) tag
  refine ⟨⟨by rw [descendants, has.only], ?_, ?_⟩, ?_⟩
  · rw [assigned.children]
    exact has.member
  · intro relation member
    rw [descendants] at member
    rw [assigned.children]
    exact has.flat relation member
  · rw [idsBelow, descendants]
    apply map_congr_left
    intro relation member
    have upper := arranged.later _ _ has.member
    have lower := arranged.later _ _ (has.flat relation member)
    refine value_congr (assigned.label relation ?_) _
    rintro rfl
    omega

def Cleared (before after : Store) (routine regions : NodeId) : Prop :=
  ∃ between removed, Thinned before between regions removed ∧ Detached between after routine regions

def Filtering (before now : Store) (routine regions : NodeId) (removed : List NodeId) : Prop :=
  (∃ relation ∈ before.descendants regions "templateRelation", relation ∉ removed) ∧
      Thinned before now regions removed ∨
    (∀ relation ∈ before.descendants regions "templateRelation", relation ∈ removed) ∧
      Cleared before now routine regions

variable {removed : List NodeId}

section

variable (thinned : Thinned before after regions removed)

include thinned

theorem Thinned.hasRegions (arranged : Arranged before)
    (has : HasRegions before routine regions) : HasRegions after routine regions := by
  have later := arranged.later _ _ has.member
  have different : routine ≠ regions := by
    rintro rfl
    omega
  have member : regions ∈ after.children routine := by
    rw [thinned.children, if_neg different]
    exact has.member
  obtain ⟨place, tag⟩ := (has.mem_iff arranged regions).mpr rfl
  refine ⟨descendants_eq_singleton thinned.arranged (by decide) ?_, member, ?_⟩
  · intro node
    rw [thinned.tag, ← has.mem_iff arranged]
    constructor
    · rintro ⟨below, same⟩
      exact ⟨thinned.below_old below, same⟩
    · intro same
      rw [(has.mem_iff arranged node).mp same]
      exact ⟨.child member (by rw [thinned.tag]; exact place.tagged), tag⟩
  · intro relation found
    rw [thinned.descendants arranged (by decide) has.flat, mem_filter] at found
    rw [thinned.children, if_pos rfl, mem_filter]
    exact ⟨has.flat relation found.1, found.2⟩

end

namespace Cleared

variable (cleared : Cleared before after routine regions)

include cleared

theorem label (node : NodeId) : after.label node = before.label node := by
  obtain ⟨between, removed, thinned, detached⟩ := cleared
  rw [detached.label, thinned.label]

theorem size : after.nodes.size = before.nodes.size := by
  obtain ⟨between, removed, thinned, detached⟩ := cleared
  rw [detached.size, thinned.size]

section

variable (arranged : Arranged before) (has : HasRegions before routine regions)
include arranged has

theorem touched : Touched before after routine := by
  obtain ⟨between, removed, thinned, detached⟩ := cleared
  have linked := (thinned.arranged.linked _ _).mp (thinned.hasRegions arranged has).member
  exact (thinned.touched arranged has.member).detach detached linked

theorem descendants : after.descendants routine "parallelRegions" = [] := by
  have arrangedAfter := (cleared.touched arranged has).arranged
  obtain ⟨between, removed, thinned, detached⟩ := cleared
  have left := thinned.hasRegions arranged has
  have linked := (thinned.arranged.linked _ _).mp left.member
  rw [descendants_eq_nil arrangedAfter (by decide)]
  intro node below tag
  obtain ⟨old, outside⟩ := (detached.below_iff thinned.arranged linked).mp below
  rw [tag?_congr (detached.label node)] at tag
  exact outside ⟨.inl rfl, .inl ((left.mem_iff thinned.arranged node).mp ⟨old, tag⟩)⟩

end

end Cleared

variable {analysis : RegionAnalysis}

variable {relation : NodeId}

section

variable (arranged : Arranged before)

include arranged

section

variable (has : HasRegions before routine regions)

include has

theorem purgeRelation_yields (thinned : Thinned before analysis.store regions removed)
    (member : relation ∈ before.children regions) (fresh : relation ∉ removed) :
    Yields (purgeRelation routine regions relation) analysis fun _ after =>
      Filtering before after.store routine regions (removed ++ [relation]) := by
  have later := arranged.later _ _ member
  have memberNow : relation ∈ analysis.store.children regions := by
    rw [thinned.children]
    simp [member, fresh]
  have linked := (thinned.arranged.linked _ _).mp memberNow
  refine (lifted_yields (removeChild_yields memberNow linked ?_)).bind ?_
  · rintro rfl
    omega
  intro _ removing detached
  have thinnedNow := thinned.remove linked detached
  have left := thinnedNow.descendants arranged (by decide) has.flat
  refine Yields.step (run_get removing) ?_
  by_cases empty : (removing.store.descendants regions "templateRelation").isEmpty
  · have all : ∀ other ∈ before.descendants regions "templateRelation", other ∈ removed ++ [relation] := by
      rw [List.isEmpty_iff, left, List.filter_eq_nil_iff] at empty
      intro other inside
      by_contra outside
      exact empty other inside (by simpa using outside)
    have rest := thinnedNow.hasRegions arranged has
    have contained : (removing.store.children routine).contains regions = true := by
      simpa using rest.member
    have linkedRegions := (thinnedNow.arranged.linked _ _).mp rest.member
    have laterRegions := thinnedNow.arranged.later _ _ rest.member
    simp only [empty, contained]
    refine (lifted_yields (removeChild_yields rest.member linkedRegions ?_)).weaken ?_
    · rintro rfl
      omega
    · exact fun _ after cleared => .inr ⟨all, removing.store, _, thinnedNow, cleared⟩
  · simp only [empty]
    refine .pure (.inl ⟨?_, thinnedNow⟩)
    rw [List.isEmpty_iff, left] at empty
    simpa using empty

variable {architecture : String} {accepts : NodeId → Bool}

variable {templates : List NodeId}

theorem filterRelation_yields
    (listed : relation ∈ before.descendants regions "templateRelation") (fresh : relation ∉ removed)
    (found : templates.find? (fun template =>
      before.value template "id" == before.value relation "id") = some template)
    (kept : keepsTemplate before architecture template = .ok (accepts relation))
    (thinned : Thinned before analysis.store regions removed) :
    Yields (filterRelation before architecture templates routine regions relation) analysis
      fun _ after => Filtering before after.store routine regions
        (removed ++ [relation].filter fun relation => !accepts relation) := by
  simp only [filterRelation, found]
  refine Yields.step (run_outcome kept analysis) ?_
  cases answer : accepts relation with
  | true =>
    refine .pure (.inl ?_)
    simpa [answer] using ⟨⟨relation, listed, fresh⟩, thinned⟩
  | false =>
    simpa [answer] using purgeRelation_yields arranged has thinned (has.flat relation listed) fresh

structure Filtered (before after : Store) (routine regions : NodeId) (accepts : NodeId → Bool) :
    Prop where
  size : after.nodes.size = before.nodes.size
  label : ∀ node, after.label node = before.label node
  touched : Touched before after routine
  left : (∃ relation ∈ before.descendants regions "templateRelation", accepts relation = true) →
    HasRegions after routine regions ∧ after.descendants regions "templateRelation" =
      (before.descendants regions "templateRelation").filter accepts
  gone : (∀ relation ∈ before.descendants regions "templateRelation", accepts relation = false) →
    after.descendants routine "parallelRegions" = []

theorem Filtering.filtered (filtering : Filtering before after routine regions
      ((before.descendants regions "templateRelation").filter fun relation => !accepts relation)) :
    Filtered before after routine regions accepts := by
  rcases filtering with ⟨⟨relation, member, outside⟩, thinned⟩ | ⟨all, cleared⟩
  · refine ⟨thinned.size, thinned.label, thinned.touched arranged has.member, ?_, ?_⟩
    · intro _
      refine ⟨thinned.hasRegions arranged has, ?_⟩
      rw [thinned.descendants arranged (by decide) has.flat]
      apply filter_congr
      intro relation member
      simp [member]
    · intro rejected
      simp [member, rejected relation member] at outside
  · refine ⟨cleared.size, cleared.label, cleared.touched arranged has, ?_, ?_⟩
    · rintro ⟨relation, member, accepted⟩
      simpa [accepted] using all relation member
    · intro _
      exact cleared.descendants arranged has

end

end

theorem filterRoutine_yields (accepts : NodeId → Bool)
    (arranged : Arranged analysis.store) (has : HasRegions analysis.store routine regions)
    (listed : analysis.store.descendants regions "templateRelation" ≠ [])
    (known : ∀ relation ∈ analysis.store.descendants regions "templateRelation", ∃ template,
      templates.find? (fun template =>
        analysis.store.value template "id" == analysis.store.value relation "id") = some template ∧
      keepsTemplate analysis.store architecture template = .ok (accepts relation)) :
    Yields (filterRoutine architecture templates routine) analysis fun _ after =>
      Filtered analysis.store after.store routine regions accepts := by
  refine Yields.step (run_get analysis) ?_
  simp only [has.only]
  obtain ⟨first, member⟩ := exists_mem_of_ne_nil _ listed
  refine (Yields.along (fun done (now : RegionAnalysis) => Filtering analysis.store now.store
    routine regions (done.filter fun relation => !accepts relation)) ?_
    (.inl ⟨⟨first, member, by simp⟩, .refl arranged regions⟩)).weaken
      fun _ after filtering => filtering.filtered arranged has
  intro done relation rest now whole filtering
  have inside : relation ∈ analysis.store.descendants regions "templateRelation" := by simp [whole]
  have fresh : relation ∉ done.filter fun relation => !accepts relation := fun member =>
    not_mem_of_nodup whole (descendants_nodup arranged _ (by decide)) (mem_of_mem_filter member)
  rcases filtering with ⟨_, thinned⟩ | ⟨gone, _⟩
  · obtain ⟨template, found, kept⟩ := known relation inside
    rw [filter_append]
    exact filterRelation_yields arranged has inside fresh found kept thinned
  · exact (fresh (gone relation inside)).elim

/-! All routines of a document -/

variable {document : Document}

theorem mem_routineNodes (arranged : Arranged store) : routine ∈ routineNodes store document ↔
      Below store document.root routine ∧ store.tag? routine = some "routine" :=
  mem_descendants arranged (by decide)

namespace CallGraphDocument

variable {routine other template regions : NodeId}

section

variable (graph : CallGraphDocument store document)

include graph

theorem apart
    (known : routine ∈ routineNodes store document) (otherKnown : other ∈ routineNodes store document)
    (different : routine ≠ other) : Apart store routine other := by
  obtain ⟨_, tag⟩ := (mem_routineNodes graph.arranged).mp known
  obtain ⟨_, otherTag⟩ := (mem_routineNodes graph.arranged).mp otherKnown
  have nested := fun place member =>
    (descendants_eq_nil graph.arranged (by decide)).mp (graph.routines place member).1
  exact ⟨by simp [tag], by simp [otherTag], different,
    fun below => nested routine known other below otherTag,
    fun below => nested other otherKnown routine below tag⟩

theorem apart_template (templateKnown : template ∈ templateNodes store document)
    (known : routine ∈ routineNodes store document) : Apart store template routine := by
  obtain ⟨_, tag⟩ := (mem_routineNodes graph.arranged).mp known
  obtain ⟨_, templateTag⟩ := (mem_descendants graph.arranged (by decide)).mp templateKnown
  refine ⟨by simp [templateTag], by simp [tag], ?_, ?_, ?_⟩
  · rintro rfl
    simp [tag] at templateTag
  · intro below
    exact (descendants_eq_nil graph.arranged (by decide)).mp (graph.templates template templateKnown)
      routine below tag
  · intro below
    exact (descendants_eq_nil graph.arranged (by decide)).mp (graph.routines routine known).2
      template below templateTag

theorem hasRegions (known : routine ∈ routineNodes store document)
    (found : store.descendants routine "parallelRegions" = [regions]) :
    HasRegions store routine regions ∧ regions ∈ store.descendants document.root "parallelRegions" := by
  obtain ⟨place, tag⟩ := (mem_routineNodes graph.arranged).mp known
  obtain ⟨below, regionsTag⟩ := descendants_first graph.arranged (by decide) found
  have listed := (mem_descendants graph.arranged (by decide)).mpr ⟨place.trans below, regionsTag⟩
  obtain ⟨owner, ownerKnown, member⟩ := graph.regions regions listed
  have same : owner = routine := by
    rcases below.above graph.arranged ((graph.arranged.linked _ _).mp member) with same | nested
    · exact same
    · by_contra different
      exact (graph.apart known ownerKnown (Ne.symm different)).notBelow nested
  rw [same] at member
  exact ⟨⟨found, member, fun relation inner => (graph.relations regions listed relation inner).1⟩, listed⟩

end

end CallGraphDocument

theorem Untouched.hasRegions (untouched : Untouched before after routine)
    (has : HasRegions before routine regions) : HasRegions after routine regions := by
  have place : Below before routine regions := ((has.mem_iff untouched.arranged regions).mpr rfl).1
  refine ⟨by rw [untouched.descendants, has.only], ?_, ?_⟩
  · rw [untouched.same.children routine (.inl rfl)]
    exact has.member
  · rw [(untouched.within place).descendants, untouched.same.children regions (.inr place)]
    exact has.flat

structure Settled (net : Net) (now : Store) (routine : NodeId) : Prop where
  kernel : net.kernel routine → ∃ regions, HasRegions now routine regions ∧
    ∀ id, id ∈ idsBelow now regions ↔ net.keeps routine id
  other : ¬ net.kernel routine → now.descendants routine "parallelRegions" = []

variable {start : Store}

theorem Untouched.settled {net : Net} (untouched : Untouched before after routine)
    (settled : Settled net before routine) : Settled net after routine := by
  refine ⟨?_, ?_⟩
  · intro kernel
    obtain ⟨regions, has, ids⟩ := settled.kernel kernel
    have place := ((has.mem_iff untouched.arranged regions).mpr rfl).1
    refine ⟨regions, untouched.hasRegions has, ?_⟩
    rw [(untouched.within place).idsBelow_eq]
    exact ids
  · intro other
    rw [untouched.descendants, settled.other other]

structure Selected (start now : Store) (document : Document) (architecture : String)
    (done : List NodeId) : Prop where
  size : now.nodes.size = start.nodes.size
  arranged : Arranged now
  label : ∀ node, now.label node = start.label node
  parent : ∀ node, node.index < start.nodes.size →
    now.parent? node = start.parent? node ∨ now.parent? node = none
  old : ∀ ancestor node, Below now ancestor node → Below start ancestor node
  placed : ∀ routine ∈ routineNodes start document, Below now document.root routine
  templates : ∀ template ∈ templateNodes start document, Untouched start now template
  pending : ∀ routine ∈ routineNodes start document, routine ∉ done → Untouched start now routine
  settled : ∀ routine ∈ done, Settled (net start document architecture) now routine

namespace Selected

variable {start now after : Store} {document : Document} {architecture : String} {done : List NodeId}

theorem refl (graph : CallGraphDocument start document) :
    Selected start start document architecture [] :=
  ⟨rfl, graph.arranged, fun _ => rfl, fun _ _ => .inl rfl, fun _ _ => id,
    fun _ known => ((mem_routineNodes graph.arranged).mp known).1,
    fun template _ => .refl graph.arranged template, fun routine _ _ => .refl graph.arranged routine,
    by simp⟩

theorem apart {left right : NodeId} (selected : Selected start now document architecture done)
    (apart : Apart start left right) : Apart now left right := by
  refine ⟨?_, ?_, apart.different, fun below => apart.notBelow (selected.old _ _ below),
    fun below => apart.notAbove (selected.old _ _ below)⟩
  · rw [tag?_congr (selected.label left)]
    exact apart.taggedLeft
  · rw [tag?_congr (selected.label right)]
    exact apart.taggedRight

variable (graph : CallGraphDocument start document)
    (selected : Selected start now document architecture done)

include graph selected

theorem step {routine : NodeId} (known : routine ∈ routineNodes start document)
    (distinct : routine ∉ done) (doneKnown : done ⊆ routineNodes start document)
    (size : after.nodes.size = now.nodes.size) (label : ∀ node, after.label node = now.label node)
    (touched : Touched now after routine)
    (settled : Settled (net start document architecture) after routine) :
    Selected start after document architecture (done ++ [routine]) := by
  have untouched : ∀ other ∈ routineNodes start document, other ≠ routine →
      Untouched now after other := fun other otherKnown different =>
    touched.untouched selected.arranged (selected.apart (graph.apart otherKnown known different))
  have sizes : start.nodes.size ≤ now.nodes.size := Nat.le_of_eq selected.size.symm
  refine ⟨size.trans selected.size, touched.arranged, ?_, ?_, ?_, ?_, ?_, ?_, ?_⟩
  · intro node
    rw [label, selected.label]
  · intro node old
    rcases touched.parent node (by omega) with same | gone
    · rw [same]
      exact selected.parent node old
    · exact .inr gone
  · intro ancestor node below
    refine selected.old ancestor node (touched.below_old selected.arranged below ?_)
    rw [← size]
    exact bound_of_tag below.tagged
  · intro other otherKnown
    have place := selected.placed other otherKnown
    have higher := (selected.placed routine known).index_lt selected.arranged
    refine touched.below_kept selected.arranged ?_ ?_ ?_ place
    · intro same
      rw [same] at higher
      omega
    · intro linked
      have lower := selected.arranged.later _ _ ((selected.arranged.linked _ _).mpr linked)
      omega
    · intro nested
      by_cases same : other = routine
      · rw [same] at nested
        have loop := nested.index_lt selected.arranged
        omega
      · exact (graph.apart known otherKnown (Ne.symm same)).notBelow (selected.old _ _ nested)
  · intro template templateKnown
    have apart := selected.apart (graph.apart_template templateKnown known)
    exact (selected.templates template templateKnown).trans (touched.untouched selected.arranged apart)
      sizes
  · intro other otherKnown outside
    rw [mem_append, mem_singleton, not_or] at outside
    exact (selected.pending other otherKnown outside.1).trans (untouched other otherKnown outside.2) sizes
  · intro other member
    rw [mem_append, mem_singleton] at member
    rcases member with old | rfl
    · refine (untouched other (doneKnown old) ?_).settled (selected.settled other old)
      rintro rfl
      exact distinct old
    · exact settled

theorem accepted {regions relation : NodeId}
    (listed : regions ∈ start.descendants document.root "parallelRegions")
    (member : relation ∈ start.descendants regions "templateRelation") {accepts : Bool}
    (decides : accepts = true ↔ Wanted start document architecture (start.value relation "id")) :
    ∃ template, (templateNodes start document).find? (fun template =>
        now.value template "id" == now.value relation "id") = some template ∧
      keepsTemplate now architecture template = .ok accepts := by
  obtain ⟨template, found⟩ := Option.isSome_iff_exists.mp (graph.relations regions listed relation member).2
  have templateKnown := mem_of_find?_eq_some found
  refine ⟨template, ?_, ?_⟩
  · simp only [value_congr (selected.label _)]
    exact found
  · obtain ⟨kept, run, meaning⟩ := keepsTemplate_eq architecture (graph.settings template templateKnown)
    have same : kept = accepts := by
      rw [Bool.eq_iff_iff, meaning, decides, Wanted, found]
      simp
    rw [(selected.templates template templateKnown).keepsTemplate_eq, run, same]

end Selected

theorem Filtered.settled (untouched : Untouched start before routine)
    (label : ∀ node, before.label node = start.label node) (has : HasRegions start routine regions)
    (decides : ∀ relation, accepts relation = true ↔
      Wanted start document architecture (start.value relation "id"))
    (filtered : Filtered before after routine regions accepts) :
    Settled (net start document architecture) after routine := by
  have place : Below start routine regions := ((has.mem_iff untouched.arranged regions).mpr rfl).1
  have relations := (untouched.within place).descendants "templateRelation"
  have keeps : ∀ id, Keeps start document architecture routine id ↔
      ∃ relation ∈ before.descendants regions "templateRelation",
        start.value relation "id" = id ∧ accepts relation = true := by
    intro id
    simp only [Keeps, has.only, mem_singleton, exists_eq_left, relations, decides]
    constructor
    · rintro ⟨relation, member, rfl, wanted⟩
      exact ⟨relation, member, rfl, wanted⟩
    · rintro ⟨relation, member, rfl, wanted⟩
      exact ⟨relation, member, rfl, wanted⟩
  refine ⟨?_, ?_⟩
  · rintro ⟨id, kept⟩
    obtain ⟨relation, member, _, accepted⟩ := (keeps id).mp kept
    obtain ⟨hasAfter, left⟩ := filtered.left ⟨relation, member, accepted⟩
    refine ⟨regions, hasAfter, ?_⟩
    intro other
    have value : ∀ relation, after.value relation "id" = start.value relation "id" :=
      fun relation => value_congr ((filtered.label relation).trans (label relation)) _
    refine Iff.trans ?_ (keeps other).symm
    rw [idsBelow, left]
    simp only [mem_map, mem_filter, value]
    constructor
    · rintro ⟨relation, ⟨member, accepted⟩, same⟩
      exact ⟨relation, member, same, accepted⟩
    · rintro ⟨relation, member, same, accepted⟩
      exact ⟨relation, ⟨member, accepted⟩, same⟩
  · intro other
    refine filtered.gone ?_
    intro relation member
    by_contra accepted
    rw [Bool.not_eq_false] at accepted
    exact other ⟨_, (keeps _).mpr ⟨relation, member, rfl, accepted⟩⟩

theorem filterRoutines_yields (architecture : String)
    (graph : CallGraphDocument analysis.store document) :
    Yields ((routineNodes analysis.store document).forM
        (filterRoutine architecture (templateNodes analysis.store document))) analysis
      fun _ after => Selected analysis.store after.store document architecture
          (routineNodes analysis.store document) := by
  classical
  let accepts (relation : NodeId) : Bool :=
    decide (Wanted analysis.store document architecture (analysis.store.value relation "id"))
  refine Yields.along (fun done (now : RegionAnalysis) =>
    Selected analysis.store now.store document architecture done) ?_ (.refl graph)
  intro done routine rest now whole selected
  have known : routine ∈ routineNodes analysis.store document := by simp [whole]
  have outside := not_mem_of_nodup whole (descendants_nodup graph.arranged _ (by decide))
  have doneKnown : done ⊆ routineNodes analysis.store document := by simp [whole]
  have pending := selected.pending routine known outside
  cases found : analysis.store.descendants routine "parallelRegions" with
  | nil =>
    refine Yields.step (run_get now) ?_
    simp only [pending.descendants, found]
    refine .pure (selected.step graph known outside doneKnown rfl (fun _ => rfl)
      (.refl selected.arranged routine) ⟨?_, ?_⟩)
    · rintro ⟨id, regions, member, _⟩
      simp [found] at member
    · intro _
      rw [pending.descendants, found]
  | cons regions more =>
    have only : analysis.store.descendants routine "parallelRegions" = [regions] := by
      have single := graph.single routine known
      rw [found, length_cons] at single
      rw [found, length_eq_zero_iff.mp (by omega : more.length = 0)]
    obtain ⟨has, listed⟩ := graph.hasRegions known only
    have place := ((has.mem_iff graph.arranged regions).mpr rfl).1
    have relations := (pending.within place).descendants "templateRelation"
    have decides : ∀ relation, accepts relation = true ↔
        Wanted analysis.store document architecture (analysis.store.value relation "id") :=
      fun relation => decide_eq_true_iff
    refine (filterRoutine_yields accepts selected.arranged (pending.hasRegions has) ?_ ?_).weaken ?_
    · rw [relations]
      exact graph.listed regions listed
    · rw [relations]
      exact fun relation member => selected.accepted graph listed member (decides relation)
    · intro _ after filtered
      exact selected.step graph known outside doneKnown filtered.size filtered.label
        filtered.touched (filtered.settled pending selected.label has decides)

end ParallelFortran.CallGraph
