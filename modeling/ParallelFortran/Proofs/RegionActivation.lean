import ParallelFortran.Proofs.RegionMarks

/-! A kernel turns its regions into active ones: their references are copied into a new element,
which takes the place of the regions. -/

namespace ParallelFortran.CallGraph

open Xml Xml.Store RegionAnalysis List

variable {analysis : RegionAnalysis}

theorem copyInto_yields {store : Store} {element : NodeId} {nodes : List NodeId} {tag : String}
    {attributes : Attributes} (arranged : Arranged store)
    (known : ∀ node ∈ nodes, node.index < store.nodes.size)
    (started : Planted store analysis.store element (.element tag attributes [])) :
    Yields (copyInto element nodes) analysis fun _ after =>
      Planted store after.store element (.element tag attributes (nodes.map store.tree)) := by
  refine Yields.along (fun done (now : RegionAnalysis) =>
    Planted store now.store element (.element tag attributes (done.map store.tree))) ?_ started
  intro done node rest now whole collected
  refine (lifted_yields (.step (run_get _) (addTree_yields collected.grown.arranged _ _))).bind
    fun copy planting copied => ?_
  have tagged : (now.store.tag? element).isSome := by
    rw [tag?, label_of_tree collected.grown.arranged collected.placed collected.tree]
    rfl
  refine (lifted_yields (copied.append_yields tagged)).weaken fun _ after filled => ?_
  have old := known node (by simp [whole])
  have same : SameFrom store now.store 0 := collected.grown.sameFrom fun _ => False.elim
  rw [map_append, map_singleton,
    ← same.tree arranged collected.grown.arranged node (Nat.zero_le _) old]
  exact collected.inner filled

structure Activated (before after : Store) (routine regions : NodeId) : Prop where
  touched : Touched before after routine
  position : positionOf after routine = positionOf before routine
  ids : activeIds after routine = idsBelow before regions

structure Replaced (before after : Store) (routine regions element : NodeId) : Prop where
  arranged : Arranged after
  label : ∀ node, after.label node = before.label node
  children : ∀ node, after.children node =
    if node = routine then (before.children node).filter (· != regions) ++ [element]
    else before.children node

section

variable {before copied removed after : Store} {routine regions element : NodeId}
  (collected : Planted before copied element
    (.element "activeParallelRegions" [] ((before.children regions).map before.tree)))
  (arranged : Arranged before)

include collected arranged

theorem replaced_of_planted (member : regions ∈ before.children routine)
    (detached : Detached copied removed routine regions)
    (attached : Attached removed after routine element) :
    Replaced copied after routine regions element ∧ Touched before after routine := by
  have later := arranged.later _ _ member
  have new := collected.index
  have linked : copied.parent? regions = some routine := by
    rw [collected.grown.parent arranged later.2]
    exact (arranged.linked _ _).mp member
  have alone : removed.parent? element = none := by
    have different : element ≠ regions := by
      rintro rfl
      omega
    rw [detached.parent, if_neg different, collected.alone]
  have arrangedAfter : Arranged after := by
    refine attached.arranged (detached.arranged collected.grown.arranged linked) alone (by omega) ?_ ?_
    · rw [detached.size]
      exact collected.known
    · rw [detached.label]
      exact collected.placed
  refine ⟨⟨arrangedAfter, ?_, ?_⟩, ?_⟩
  · intro node
    rw [attached.label, detached.label]
  · intro node
    rw [attached.children, detached.children]
    split <;> rfl
  · have touched := (Touched.refl arranged routine).grow collected.grown fun _ _ => False.elim
    exact (touched.detach detached linked).attach attached arrangedAfter (by omega)

section

variable (replaced : Replaced copied after routine regions element)

include replaced

theorem Replaced.attributes (old : routine.index < element.index) {tag : String}
    (particular : tag ≠ "*") : (after.descendants element tag).map after.attributes =
      (before.descendants regions tag).map before.attributes := by
  have beyond : SameFrom copied after (element.index + 1) := by
    refine ⟨fun node _ _ => replaced.label node, ?_⟩
    intro node later _
    rw [replaced.children, if_neg (by rintro rfl; omega)]
  have trees : (after.children element).map after.tree =
      (before.children regions).map before.tree := by
    rw [← children_of_tree collected.grown.arranged collected.tree, replaced.children,
      if_neg (by rintro rfl; omega)]
    apply map_congr_left
    intro node inside
    have deeper := collected.grown.arranged.later _ _ inside
    exact beyond.tree collected.grown.arranged replaced.arranged node (by omega) deeper.2
  rw [descendants_attributes replaced.arranged particular,
    descendants_attributes arranged particular, trees]

theorem Replaced.active (member : regions ∈ before.children routine)
    (tagged : (before.tag? regions).isSome)
    (inactive : before.descendants routine "activeParallelRegions" = []) :
    after.descendants routine "activeParallelRegions" = [element] := by
  have later := arranged.later _ _ member
  have new := collected.index
  have nothing := (descendants_eq_nil arranged (by decide)).mp inactive
  rw [descendants_eq arranged, flatMap_eq_nil_iff] at inactive
  have siblings : ∀ node ∈ (before.children routine).filter (· != regions),
      after.fromChild "activeParallelRegions" node = [] := by
    intro node inside
    have old := arranged.later _ _ (mem_of_mem_filter inside)
    rw [← inactive node (mem_of_mem_filter inside)]
    refine SameBelow.fromChild arranged replaced.arranged ⟨?_, ?_⟩ old.2 _
    · intro lower known
      rw [tag?_congr (replaced.label lower), collected.grown.tag known]
    · intro lower place
      have deep : node.index ≤ lower.index ∧ lower.index < before.nodes.size := by
        rcases place with rfl | below
        · exact ⟨Nat.le_refl _, old.2⟩
        · exact ⟨Nat.le_of_lt (below.index_lt arranged), bound_of_tag below.tagged⟩
      rw [replaced.children, if_neg (by rintro rfl; omega), collected.grown.still deep.2 not_false]
  have inner : after.descendants element "activeParallelRegions" = [] := by
    have noRegions : before.descendants regions "activeParallelRegions" = [] := by
      rw [descendants_eq_nil arranged (by decide)]
      intro node below
      exact nothing node (.deeper member tagged below)
    have copies := replaced.attributes collected arranged (by omega)
      (by decide : "activeParallelRegions" ≠ "*")
    rw [noRegions, map_nil, map_eq_nil_iff] at copies
    exact copies
  have self : after.fromChild "activeParallelRegions" element = [element] := by
    have label := label_of_tree collected.grown.arranged collected.placed collected.tree
    simp [Store.fromChild, tag?, replaced.label, label, inner]
  rw [descendants_eq replaced.arranged, replaced.children, if_pos rfl,
    collected.grown.still (by omega) not_false, flatMap_append,
    flatMap_eq_nil_iff.mpr siblings, flatMap_singleton, self, nil_append]

end

theorem activated_of_planted (member : regions ∈ before.children routine)
    (tagged : (before.tag? regions).isSome)
    (inactive : before.descendants routine "activeParallelRegions" = [])
    (detached : Detached copied removed routine regions)
    (attached : Attached removed after routine element) :
    Activated before after routine regions := by
  have later := arranged.later _ _ member
  have new := collected.index
  obtain ⟨replaced, touched⟩ := replaced_of_planted collected arranged member detached attached
  refine ⟨touched, ?_, ?_⟩
  · refine value_congr ?_ _
    rw [replaced.label, collected.grown.label routine (by omega)]
  · rw [activeIds_single (replaced.active collected arranged member tagged inactive)]
    have same := replaced.attributes collected arranged (by omega)
      (by decide : "templateRelation" ≠ "*")
    have ids := congrArg (map fun found => (Attributes.value found "id").getD "") same
    rw [map_map, map_map] at ids
    exact ids

end

theorem activate_yields {routine regions : NodeId}
    (arranged : Arranged analysis.store) (tagged : (analysis.store.tag? routine).isSome)
    (member : regions ∈ analysis.store.children routine)
    (taggedRegions : (analysis.store.tag? regions).isSome)
    (none : analysis.store.descendants routine "activeParallelRegions" = []) :
    Yields (activate routine regions) analysis fun _ after =>
      Activated analysis.store after.store routine regions := by
  refine Yields.step (run_get analysis) ?_
  simp only [none]
  refine Yields.step (run_get analysis) ?_
  refine (lifted_yields (addNode_yields _ (.element "activeParallelRegions" []) _)).bind ?_
  intro element adding created
  have known : ∀ node ∈ analysis.store.children regions, node.index < analysis.store.nodes.size :=
    fun node inside => (arranged.later _ _ inside).2
  refine (copyInto_yields arranged known (created.planted arranged (by simp))).bind ?_
  intro _ copying collected
  have later := arranged.later _ _ member
  have memberNow : regions ∈ copying.store.children routine := by
    rw [collected.grown.still (by omega) not_false]
    exact member
  have linked := (collected.grown.arranged.linked _ _).mp memberNow
  refine (lifted_yields (removeChild_yields memberNow linked ?_)).bind ?_
  · rintro rfl
    omega
  intro _ removing detached
  have taggedNow : (removing.store.tag? routine).isSome := by
    rw [tag?_congr (detached.label routine)]
    exact collected.grown.tagged tagged
  have new := collected.index
  have knownElement := collected.known
  have alone : removing.store.parent? element = Option.none := by
    rw [detached.parent, if_neg (by rintro rfl; omega), collected.alone]
  have appends : Yields (appendChild routine element) removing.store fun _ after =>
      Attached removing.store after routine element := by
    refine Leads.yields (appendChild_leads (bound_of_tag taggedNow) (by rw [detached.size]; omega)
      alone ?_ fun untagged => ?_)
    · rintro rfl
      omega
    · simp [untagged] at taggedNow
  refine (lifted_yields appends).weaken ?_
  · intro _ after attached
    exact activated_of_planted collected arranged member taggedRegions none detached attached

end ParallelFortran.CallGraph
