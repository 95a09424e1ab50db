import ParallelFortran.Proofs.CallGraph
import ParallelFortran.Proofs.Duplicate

/-! What marking a routine changes in the document. Everything that is changed belongs to the element
of the routine, so that the other routines say of themselves what they said before. -/

namespace ParallelFortran.CallGraph

open Xml Xml.Store RegionAnalysis List

def relationTree (id : Option String) : Tree := .element "templateRelation" [("id", id)] []

theorem sameAttributes_relations (known new : Option String) :
    sameAttributes false (relationTree known) (relationTree new) = .ok (known == new) := by
  simp [sameAttributes, relationTree, Tree.isElement, Tree.tag?, Tree.attributes, Attributes.value]

theorem firstDuplicate?_relations (known : List (Option String)) (new : Option String) :
    ∃ found, firstDuplicate? false (known.map relationTree) (relationTree new) = .ok found ∧
      (found.isSome ↔ new ∈ known) := by
  have search := @search_eq (Option String) known relationTree (· == new) (fun _ => true)
    (fun candidate => sameAttributes false candidate (relationTree new))
  refine ⟨_, search (fun id _ => sameAttributes_relations id new) rfl fun _ _ _ => rfl, ?_⟩
  simp [findIdx?_isSome]

/-- Only the element of a routine and its children have been changed: the position of the routine,
and what stands below them. -/
structure Touched (before after : Store) (routine : NodeId) : Prop where
  size : before.nodes.size ≤ after.nodes.size
  arranged : Arranged after
  label : ∀ node, node.index < before.nodes.size → node ≠ routine →
    after.label node = before.label node
  tag : ∀ node, node.index < before.nodes.size → after.tag? node = before.tag? node
  value : ∀ node name, node.index < before.nodes.size → name ≠ "parallelRegionPosition" →
    after.value node name = before.value node name
  children : ∀ node, node.index < before.nodes.size → node ≠ routine →
    before.parent? node ≠ some routine → after.children node = before.children node
  parent : ∀ node, node.index < before.nodes.size →
    after.parent? node = before.parent? node ∨ after.parent? node = none

structure Apart (store : Store) (left right : NodeId) : Prop where
  taggedLeft : (store.tag? left).isSome
  taggedRight : (store.tag? right).isSome
  different : left ≠ right
  notBelow : ¬ Below store left right
  notAbove : ¬ Below store right left

namespace Touched

theorem refl {store : Store} (arranged : Arranged store) (routine : NodeId) :
    Touched store store routine :=
  ⟨Nat.le_refl _, arranged, fun _ _ _ => rfl, fun _ _ => rfl, fun _ _ _ _ => rfl, fun _ _ _ _ => rfl,
    fun _ _ => .inl rfl⟩

variable {first : Store} {routine : NodeId}

theorem trans {second third : Store} (left : Touched first second routine)
    (right : Touched second third routine) : Touched first third routine := by
  have size := left.size
  refine ⟨Nat.le_trans size right.size, right.arranged, ?_, ?_, ?_, ?_, ?_⟩
  · intro node old other
    rw [right.label node (by omega) other, left.label node old other]
  · intro node old
    rw [right.tag node (by omega), left.tag node old]
  · intro node name old kept
    rw [right.value node name (by omega) kept, left.value node name old kept]
  · intro node old other free
    have stillFree : second.parent? node ≠ some routine := by
      rcases left.parent node old with same | gone
      · rw [same]
        exact free
      · rw [gone]
        simp
    rw [right.children node (by omega) other stillFree, left.children node old other free]
  · intro node old
    rcases right.parent node (by omega) with same | gone
    · rw [same]
      exact left.parent node old
    · exact .inr gone

/-! A change goes on within the same routine. -/

variable {before after : Store}

section

variable (touched : Touched first before routine)

include touched

theorem relinked (size : before.nodes.size ≤ after.nodes.size) (arranged : Arranged after)
    (label : ∀ node, node.index < first.nodes.size → after.label node = before.label node)
    (children : ∀ node, node.index < first.nodes.size → node ≠ routine →
      first.parent? node ≠ some routine → after.children node = before.children node)
    (parent : ∀ node, node.index < first.nodes.size →
      after.parent? node = before.parent? node ∨ after.parent? node = none) :
    Touched first after routine := by
  refine ⟨Nat.le_trans touched.size size, arranged, ?_, ?_, ?_, ?_, ?_⟩
  · intro node old other
    rw [label node old, touched.label node old other]
  · intro node old
    rw [tag?_congr (label node old), touched.tag node old]
  · intro node name old kept
    rw [value_congr (label node old), touched.value node name old kept]
  · intro node old other free
    rw [children node old other free, touched.children node old other free]
  · intro node old
    rcases parent node old with same | gone
    · rw [same]
      exact touched.parent node old
    · exact .inr gone

theorem grow {growing : NodeId → Prop} (grown : Grown before after growing)
    (place : ∀ node, node.index < first.nodes.size → growing node →
      node = routine ∨ first.parent? node = some routine) : Touched first after routine := by
  have size := touched.size
  refine touched.relinked grown.size grown.arranged (fun node old => grown.label node (by omega)) ?_
    fun node old => .inl (grown.parent touched.arranged (by omega))
  intro node old other free
  exact grown.still (by omega) fun grows => (place node old grows).elim other free

theorem assign {id : NodeId} {name : String} {given : Option String}
    (assigned : Assigned before after id name given)
    (place : id = routine ∧ name = "parallelRegionPosition" ∨ first.nodes.size ≤ id.index) :
    Touched first after routine := by
  refine ⟨by rw [assigned.size]; exact touched.size, assigned.arranged touched.arranged,
    ?_, ?_, ?_, ?_, ?_⟩
  · intro node old other
    have elsewhere : node ≠ id := by
      rintro rfl
      rcases place with ⟨same, _⟩ | new
      · exact other same
      · omega
    rw [assigned.label node elsewhere, touched.label node old other]
  · intro node old
    rw [assigned.tag, touched.tag node old]
  · intro node asked old kept
    rw [← touched.value node asked old kept]
    by_cases same : node = id
    · rcases place with ⟨rfl, rfl⟩ | new
      · rw [Store.value, Store.value, value?, value?, same, assigned.attributes,
          Attributes.value_set, if_neg kept]
      · rw [same] at old
        omega
    · exact value_congr (assigned.label node same) asked
  · intro node old other free
    rw [assigned.children, touched.children node old other free]
  · intro node old
    rw [assigned.parent]
    exact touched.parent node old

variable {child : NodeId}

theorem attach (attached : Attached before after routine child)
    (arranged : Arranged after) (new : first.nodes.size ≤ child.index) :
    Touched first after routine := by
  refine touched.relinked (Nat.le_of_eq attached.size.symm) arranged
    (fun node _ => attached.label node) ?_ ?_
  · intro node old other free
    rw [attached.children, if_neg other]
  · intro node old
    rw [attached.parent, if_neg (by rintro rfl; omega)]
    exact .inl rfl

theorem detach (detached : Detached before after routine child)
    (linked : before.parent? child = some routine) : Touched first after routine := by
  refine touched.relinked (Nat.le_of_eq detached.size.symm)
    (detached.arranged touched.arranged linked) (fun node _ => detached.label node) ?_ ?_
  · intro node old other free
    rw [detached.children, if_neg other]
  · intro node old
    rw [detached.parent]
    split
    · exact .inr rfl
    · exact .inl rfl

end

variable (touched : Touched before after routine) (arranged : Arranged before)

include touched arranged

variable {ancestor node : NodeId}

theorem below_old (below : Below after ancestor node)
    (old : node.index < before.nodes.size) : Below before ancestor node := by
  induction node using touched.arranged.upward with
  | step node ih =>
    obtain ⟨parent, known, place⟩ := below.parent touched.arranged
    have smaller := (touched.arranged.later _ _ ((touched.arranged.linked _ _).mpr known)).1
    have linked : before.parent? node = some parent := by
      rcases touched.parent node old with same | gone
      · rw [← same, known]
      · rw [gone] at known
        simp at known
    have tagged : (before.tag? node).isSome := by
      rw [← touched.tag node old]
      exact below.tagged
    have step : Below before parent node := .child ((arranged.linked _ _).mpr linked) tagged
    rcases place with rfl | higher
    · exact step
    · exact (ih parent known higher (by omega)).trans step

theorem below_kept (different : ancestor ≠ routine)
    (free : before.parent? ancestor ≠ some routine) (outside : ¬ Below before routine node)
    (below : Below before ancestor node) : Below after ancestor node := by
  have children : ∀ {upper lower}, lower ∈ before.children upper → upper ≠ routine →
      before.parent? upper ≠ some routine → (before.tag? lower).isSome →
      lower ∈ after.children upper ∧ (after.tag? lower).isSome := by
    intro upper lower member other unlinked tagged
    have later := arranged.later _ _ member
    rw [touched.children upper (by omega) other unlinked, touched.tag lower later.2]
    exact ⟨member, tagged⟩
  induction below with
  | child member tagged =>
    obtain ⟨memberAfter, taggedAfter⟩ := children member different free tagged
    exact .child memberAfter taggedAfter
  | @deeper parent child node member tagged lower ih =>
    obtain ⟨memberAfter, taggedAfter⟩ := children member different free tagged
    refine .deeper memberAfter taggedAfter (ih ?_ ?_ outside)
    · rintro rfl
      exact outside lower
    · rw [(arranged.linked _ _).mp member]
      simpa using different

theorem apart {left right : NodeId} (apart : Apart before left right) : Apart after left right := by
  have oldLeft := bound_of_tag apart.taggedLeft
  have oldRight := bound_of_tag apart.taggedRight
  refine ⟨?_, ?_, apart.different, fun below => apart.notBelow (touched.below_old arranged below oldRight),
    fun below => apart.notAbove (touched.below_old arranged below oldLeft)⟩
  · rw [touched.tag left oldLeft]
    exact apart.taggedLeft
  · rw [touched.tag right oldRight]
    exact apart.taggedRight

theorem sameBelow {other : NodeId} (apart : Apart before other routine) :
    SameBelow before after other := by
  refine ⟨touched.tag, ?_⟩
  rintro node (rfl | below)
  · refine touched.children node (bound_of_tag apart.taggedLeft) apart.different ?_
    intro linked
    exact apart.notAbove (.child ((arranged.linked _ _).mpr linked) apart.taggedLeft)
  · refine touched.children node (bound_of_tag below.tagged) ?_ ?_
    · rintro rfl
      exact apart.notBelow below
    · intro linked
      rcases below.above arranged linked with rfl | deeper
      · exact apart.different rfl
      · exact apart.notBelow deeper

end Touched

/-- An element and everything below it is as it was. -/
structure Untouched (before after : Store) (element : NodeId) : Prop where
  arranged : Arranged before
  arrangedAfter : Arranged after
  same : SameBelow before after element
  own : after.label element = before.label element
  inner : ∀ node, node = element ∨ Below before element node → ∀ child ∈ before.children node,
    after.label child = before.label child

variable {before after : Store} {routine : NodeId}

theorem Touched.untouched {other : NodeId} (touched : Touched before after routine)
    (arranged : Arranged before) (apart : Apart before other routine) :
    Untouched before after other := by
  refine ⟨arranged, touched.arranged, touched.sameBelow arranged apart,
    touched.label other (bound_of_tag apart.taggedLeft) apart.different, ?_⟩
  intro node place child member
  refine touched.label child (arranged.later _ _ member).2 ?_
  rintro rfl
  rcases place with rfl | below
  · exact apart.notBelow (.child member apart.taggedRight)
  · exact apart.notBelow (below.trans (.child member apart.taggedRight))

namespace Untouched

theorem refl {store : Store} (arranged : Arranged store) (element : NodeId) :
    Untouched store store element :=
  ⟨arranged, arranged, ⟨fun _ _ => rfl, fun _ _ => rfl⟩, rfl, fun _ _ _ _ => rfl⟩

variable {before between after : Store} {element : NodeId}

theorem trans (left : Untouched before between element) (right : Untouched between after element)
    (size : before.nodes.size ≤ between.nodes.size) : Untouched before after element := by
  have place : ∀ node, node = element ∨ Below before element node →
      node = element ∨ Below between element node := by
    intro node known
    rw [left.same.below_iff left.arranged]
    exact known
  refine ⟨left.arranged, right.arrangedAfter, ⟨?_, ?_⟩, right.own.trans left.own, ?_⟩
  · intro node old
    rw [right.same.tag node (by omega), left.same.tag node old]
  · intro node known
    rw [right.same.children node (place node known), left.same.children node known]
  · intro node known child member
    rw [← left.inner node known child member]
    refine right.inner node (place node known) child ?_
    rw [left.same.children node known]
    exact member

variable (untouched : Untouched before after element)

include untouched

theorem descendants (tag : String) :
    after.descendants element tag = before.descendants element tag :=
  untouched.same.descendants untouched.arranged untouched.arrangedAfter tag

variable {node : NodeId}

theorem label_below (below : Below before element node) : after.label node = before.label node := by
  obtain ⟨parent, linked, place⟩ := below.parent untouched.arranged
  exact untouched.inner parent place node ((untouched.arranged.linked _ _).mpr linked)

theorem within (below : Below before element node) : Untouched before after node := by
  refine ⟨untouched.arranged, untouched.arrangedAfter, untouched.same.within below,
    untouched.label_below below, ?_⟩
  rintro lower (rfl | deeper) child member
  · exact untouched.inner lower (.inr below) child member
  · exact untouched.inner lower (.inr (below.trans deeper)) child member

theorem tree (tagged : (before.tag? element).isSome) :
    after.tree element = before.tree element := by
  induction element using untouched.arranged.downward with
  | step element ih =>
    have below : (before.children element).map after.tree =
        (before.children element).map before.tree := by
      apply map_congr_left
      intro child member
      cases inside : before.tag? child with
      | some tag =>
        have taggedChild : (before.tag? child).isSome := by simp [inside]
        exact ih child member (untouched.within (.child member taggedChild)) taggedChild
      | none =>
        have placed := untouched.arranged.placed _ _ member
        rw [tree_eq untouched.arranged, tree_eq untouched.arrangedAfter,
          untouched.inner element (.inl rfl) child member]
        cases shape : before.label child with
        | document => exact (placed shape).elim
        | element tag attributes => simp [tag?, shape] at inside
        | _ => rfl
    rw [tree_eq untouched.arranged, tree_eq untouched.arrangedAfter, untouched.own,
      untouched.same.children element (.inl rfl), below]

end Untouched

theorem untouched_of_grown {element : NodeId} {growing : NodeId → Prop}
    (grown : Grown before after growing) (arranged : Arranged before)
    (tagged : (before.tag? element).isSome)
    (elsewhere : ∀ node, growing node → node ≠ element ∧ ¬ Below before element node) :
    Untouched before after element := by
  have known := bound_of_tag tagged
  refine ⟨arranged, grown.arranged, ⟨fun _ old => grown.tag old, ?_⟩, grown.label element known, ?_⟩
  · rintro node (rfl | below)
    · exact grown.still known fun grows => (elsewhere node grows).1 rfl
    · exact grown.still (bound_of_tag below.tagged) fun grows => (elsewhere node grows).2 below
  · intro node _ child member
    exact grown.label child (arranged.later _ _ member).2

/-! What a routine says -/

def idsBelow (store : Store) (node : NodeId) : List String :=
  (store.descendants node "templateRelation").map (store.value · "id")

def activeIds (store : Store) (routine : NodeId) : List String :=
  match store.descendants routine "activeParallelRegions" with
  | [] => []
  | active :: _ => idsBelow store active

variable {store : Store} {element : NodeId}

theorem activeIds_single (found : store.descendants routine "activeParallelRegions" = [element]) :
    activeIds store routine = idsBelow store element := by
  rw [activeIds, found]

variable {relation : NodeId}

theorem relationsOf_below (arranged : Arranged store)
    (member : relation ∈ relationsOf store routine) : Below store routine relation := by
  have parents : ∀ tag, tag ≠ "*" → ∀ parent rest, store.descendants routine tag = parent :: rest →
      relation ∈ store.descendants parent "templateRelation" → Below store routine relation := by
    intro tag particular parent rest found inside
    exact (descendants_first arranged particular found).1.trans
      ((mem_descendants arranged (by decide)).mp inside).1
  simp only [relationsOf] at member
  cases own : store.descendants routine "parallelRegions" with
  | cons parent rest =>
    simp only [own] at member
    exact parents _ (by decide) parent rest own member
  | nil =>
    simp only [own] at member
    cases active : store.descendants routine "activeParallelRegions" with
    | nil => simp [active] at member
    | cons parent rest =>
      simp only [active] at member
      exact parents _ (by decide) parent rest active member

namespace Untouched

variable (untouched : Untouched before after routine)

include untouched

theorem idsBelow_eq : idsBelow after routine = idsBelow before routine := by
  rw [idsBelow, untouched.descendants]
  apply map_congr_left
  intro relation member
  have below := ((mem_descendants untouched.arranged (by decide)).mp member).1
  exact value_congr (untouched.label_below below) _

theorem activeIds_eq : activeIds after routine = activeIds before routine := by
  rw [activeIds, activeIds, untouched.descendants]
  cases found : before.descendants routine "activeParallelRegions" with
  | nil => rfl
  | cons active rest =>
    exact (untouched.within (descendants_first untouched.arranged (by decide) found).1).idsBelow_eq

theorem relationsOf_eq : relationsOf after routine = relationsOf before routine := by
  have inner : ∀ tag, tag ≠ "*" → ∀ node rest, before.descendants routine tag = node :: rest →
      after.descendants node "templateRelation" = before.descendants node "templateRelation" := by
    intro tag particular node rest found
    exact (untouched.within (descendants_first untouched.arranged particular found).1).descendants _
  simp only [relationsOf, untouched.descendants]
  cases own : before.descendants routine "parallelRegions" with
  | nil =>
    cases active : before.descendants routine "activeParallelRegions" with
    | nil => rfl
    | cons node rest => exact inner _ (by decide) node rest active
  | cons node rest => exact inner _ (by decide) node rest own

theorem positionOf_eq : positionOf after routine = positionOf before routine :=
  value_congr untouched.own _

end Untouched

/-! References of routines that are no kernels -/

def HoldsRelations (store : Store) (active : NodeId) : Prop :=
  ∀ child ∈ store.children active, ∃ id,
    store.label child = .element "templateRelation" [("id", id)] ∧ store.children child = []

/-- A routine without regions of its own. What it refers to has been put there by the analysis. -/
structure Plain (store : Store) (routine : NodeId) : Prop where
  regions : store.descendants routine "parallelRegions" = []
  active : store.descendants routine "activeParallelRegions" = [] ∨
    ∃ active, store.descendants routine "activeParallelRegions" = [active] ∧
      active ∈ store.children routine ∧ HoldsRelations store active

theorem Untouched.plain (untouched : Untouched before after routine) (plain : Plain before routine) :
    Plain after routine := by
  refine ⟨by rw [untouched.descendants, plain.regions], ?_⟩
  rw [untouched.descendants, untouched.same.children routine (.inl rfl)]
  rcases plain.active with none | ⟨element, found, member, holds⟩
  · exact .inl none
  · have place := (descendants_first untouched.arranged (by decide) found).1
    refine .inr ⟨element, found, member, ?_⟩
    intro child inside
    rw [untouched.same.children element (.inr place)] at inside
    obtain ⟨id, shape, childless⟩ := holds child inside
    have deeper : Below before routine child :=
      place.trans (.child inside (by rw [tag?, shape]; rfl))
    rw [untouched.label_below deeper, untouched.same.children child (.inr deeper)]
    exact ⟨id, shape, childless⟩

variable {active : NodeId}

section

variable (arranged : Arranged store) (holds : HoldsRelations store active)
include arranged holds

theorem HoldsRelations.tree : (store.children active).map store.tree =
      ((store.children active).map (store.value? · "id")).map relationTree := by
  rw [map_map]
  apply map_congr_left
  intro child member
  obtain ⟨id, shape, childless⟩ := holds child member
  rw [tree_eq arranged, childless]
  simp [assemble, relationTree, value?, Store.attributes, shape, Attributes.value]

theorem HoldsRelations.descendants :
    store.descendants active "templateRelation" = store.children active := by
  rw [descendants_eq arranged]
  have single : ∀ child ∈ store.children active,
      store.fromChild "templateRelation" child = [child] := by
    intro child member
    obtain ⟨id, shape, childless⟩ := holds child member
    simp [fromChild, tag?, shape, descendants_eq arranged, childless]
  rw [flatMap_congr single, flatMap_singleton']

end

theorem HoldsRelations.kept (holds : HoldsRelations before element)
    (children : ∀ node, after.children node = before.children node)
    (label : ∀ child ∈ before.children element, after.label child = before.label child) :
    HoldsRelations after element := by
  intro child member
  rw [children] at member
  rw [label child member, children]
  exact holds child member

theorem Plain.kept (plain : Plain before routine) (arranged : Arranged before)
    (children : ∀ node, after.children node = before.children node)
    (descendants : ∀ id tag, after.descendants id tag = before.descendants id tag)
    (label : ∀ element ∈ before.children routine, ∀ child ∈ before.children element,
      after.label child = before.label child) :
    Plain after routine ∧ activeIds after routine = activeIds before routine := by
  rcases plain.active with none | ⟨element, found, member, holds⟩
  · refine ⟨⟨by rw [descendants, plain.regions], .inl (by rw [descendants, none])⟩, ?_⟩
    rw [activeIds, activeIds, descendants, none]
  · have foundAfter : after.descendants routine "activeParallelRegions" = [element] := by
      rw [descendants, found]
    refine ⟨⟨by rw [descendants, plain.regions], .inr ⟨element, foundAfter, ?_,
      holds.kept children (label element member)⟩⟩, ?_⟩
    · rw [children]
      exact member
    · rw [activeIds_single foundAfter, activeIds_single found, idsBelow, idsBelow, descendants,
        holds.descendants arranged]
      exact map_congr_left fun child inside => value_congr (label element member child inside) _

def relationIds (store : Store) (routine : NodeId) : List String :=
  (relationsOf store routine).map (store.value · "id")

theorem Untouched.relationIds_eq (untouched : Untouched before after routine) :
    relationIds after routine = relationIds before routine := by
  rw [relationIds, untouched.relationsOf_eq]
  apply map_congr_left
  intro relation member
  exact value_congr (untouched.label_below (relationsOf_below untouched.arranged member)) _

theorem Plain.relationIds_eq (plain : Plain store routine) :
    relationIds store routine = activeIds store routine := by
  simp only [relationIds, relationsOf, plain.regions, activeIds]
  cases store.descendants routine "activeParallelRegions" <;> rfl

/-! Actions on the store of an analysis -/

variable {analysis : RegionAnalysis}

theorem lifted_yields {α : Type} {action : StoreM α} {condition : α → Store → Prop}
    (holds : Yields action analysis.store condition) :
    Yields (liftM action : RegionM α) analysis fun value after => condition value after.store := by
  obtain ⟨value, store, run, met⟩ := holds
  refine ⟨value, { analysis with store }, ?_, met⟩
  change (onStore action).run analysis = _
  simp only [onStore, run_bind, run_get, run]
  rfl

structure Opened (before after : Store) (routine element : NodeId) : Prop where
  touched : Touched before after routine
  position : positionOf after routine = positionOf before routine
  regions : after.descendants routine "parallelRegions" = []
  active : after.descendants routine "activeParallelRegions" = [element]
  member : element ∈ after.children routine
  holds : HoldsRelations after element
  ids : idsBelow after element = activeIds before routine

theorem opened_new (arranged : Arranged before) (tagged : (before.tag? routine).isSome)
    (regions : before.descendants routine "parallelRegions" = [])
    (none : before.descendants routine "activeParallelRegions" = [])
    (filled : Filled before after routine [element] [.element "activeParallelRegions" [] []]) :
    Opened before after routine element := by
  have known := bound_of_tag tagged
  refine ⟨(Touched.refl arranged routine).grow filled.grown fun _ _ => .inl, ?_, ?_, ?_, ?_, ?_, ?_⟩
  · exact filled.grown.value known _
  · rw [filled.grown.descendants_other arranged (by decide) known
      (filled.labels.other (by simp [elementsOf, Tree.elements])), regions]
  · rw [filled.descendants_same arranged, none, nil_append]
  · simp [filled.children]
  · intro child member
    rw [filled.childless] at member
    simp at member
  · rw [idsBelow, activeIds, none, descendants_eq filled.grown.arranged, filled.childless]
    rfl

structure Marked (before after : Store) (routine : NodeId) (position : String) (ids : List String) :
    Prop where
  touched : Touched before after routine
  position : positionOf after routine = position
  plain : Plain after routine
  ids : ∀ id, id ∈ activeIds after routine ↔ id ∈ activeIds before routine ∨ id ∈ ids

namespace Opened

variable {before between after : Store} {routine element new : NodeId} {given : Option String}

variable (opened : Opened before between routine element)

include opened

theorem place (old : element.index < before.nodes.size) : before.parent? element = some routine := by
  have linked := (opened.touched.arranged.linked _ _).mp opened.member
  rcases opened.touched.parent element old with same | gone
  · rw [← same, linked]
  · rw [gone] at linked
    simp at linked

theorem tagged : (between.tag? element).isSome :=
  (descendants_first opened.touched.arranged (by decide) opened.active).1.tagged

theorem refer_known (tagged : (before.tag? routine).isSome)
    (created : Created between after new (.element "templateRelation" [("id", given)]))
    (known : given ∈ (between.children element).map (between.value? · "id")) :
    Marked before after routine (positionOf before routine) [given.getD ""] := by
  have arranged := opened.touched.arranged
  have touched := opened.touched.grow ((Grown.refl arranged _).create created) fun _ _ => False.elim
  have plain : Plain between routine :=
    ⟨opened.regions, .inr ⟨element, opened.active, opened.member, opened.holds⟩⟩
  obtain ⟨plainAfter, ids⟩ := plain.kept arranged created.children
    (fun id tag => (created.sameBelow id).descendants arranged touched.arranged tag)
    fun _ _ child member => created.label_old (arranged.later _ _ member).2
  refine ⟨touched, ?_, plainAfter, fun id => ?_⟩
  · rw [← opened.position]
    exact value_congr
      (created.label_old (Nat.lt_of_lt_of_le (bound_of_tag tagged) opened.touched.size)) _
  · rw [ids, activeIds_single opened.active, opened.ids, mem_singleton]
    refine ⟨.inl, ?_⟩
    rintro (old | rfl)
    · exact old
    · rw [← opened.ids, idsBelow, opened.holds.descendants arranged]
      obtain ⟨child, member, rfl⟩ := mem_map.mp known
      exact mem_map_of_mem member

theorem refer_new (tagged : (before.tag? routine).isSome)
    (filled : Filled between after element [new] [.element "templateRelation" [("id", given)] []]) :
    Marked before after routine (positionOf before routine) [given.getD ""] := by
  have arranged := opened.touched.arranged
  have known : routine.index < between.nodes.size :=
    Nat.lt_of_lt_of_le (bound_of_tag tagged) opened.touched.size
  have later := arranged.later _ _ opened.member
  have different : routine ≠ element := by
    rintro rfl
    omega
  have others : ∀ tag, tag ≠ "*" → tag ≠ "templateRelation" →
      after.descendants routine tag = between.descendants routine tag := by
    intro tag particular other
    refine filled.grown.descendants_other arranged particular known (filled.labels.other ?_)
    simpa [elementsOf, Tree.elements] using other
  have active : after.descendants routine "activeParallelRegions" = [element] := by
    rw [others _ (by decide) (by decide), opened.active]
  have holds : HoldsRelations after element := by
    intro child member
    rw [filled.children, mem_append, mem_singleton] at member
    rcases member with old | rfl
    · have inside := arranged.later _ _ old
      have other : child ≠ element := by
        rintro rfl
        omega
      rw [filled.grown.label child inside.2, filled.grown.still inside.2 other]
      exact opened.holds child old
    · exact ⟨given, filled.label, filled.childless⟩
  have ids : activeIds after routine = activeIds before routine ++ [given.getD ""] := by
    have old : (between.children element).map (after.value · "id") =
        (between.children element).map (between.value · "id") :=
      map_congr_left fun child member => filled.grown.value (arranged.later _ _ member).2 _
    have last : after.value new "id" = given.getD "" := by
      simp [Store.value, value?, Store.attributes, filled.label, Attributes.value]
    rw [← opened.ids, activeIds_single active, idsBelow, idsBelow,
      holds.descendants filled.grown.arranged, opened.holds.descendants arranged, filled.children,
      map_append, old, map_singleton, last]
  refine ⟨opened.touched.grow filled.grown ?_, ?_, ⟨?_, .inr ⟨element, active, ?_, holds⟩⟩, ?_⟩
  · rintro node old rfl
    exact .inr (opened.place old)
  · rw [← opened.position]
    exact filled.grown.value known _
  · rw [others _ (by decide) (by decide), opened.regions]
  · rw [filled.grown.still known different]
    exact opened.member
  · intro id
    rw [ids, mem_append]

end Opened

theorem Marked.trans {first second third : Store} {given position : String} {ids more : List String}
    (left : Marked first second routine given ids) (right : Marked second third routine position more) :
    Marked first third routine position (ids ++ more) := by
  refine ⟨left.touched.trans right.touched, right.position, right.plain, ?_⟩
  intro id
  rw [right.ids, left.ids, mem_append, or_assoc]

theorem Plain.assign {name : String} {given : Option String} (plain : Plain before routine)
    (arranged : Arranged before) (assigned : Assigned before after routine name given) :
    Plain after routine ∧ activeIds after routine = activeIds before routine := by
  refine plain.kept arranged assigned.children
    (fun id tag => (assigned.sameBelow id).descendants arranged (assigned.arranged arranged) tag) ?_
  intro element member child inside
  have later := arranged.later _ _ member
  have deeper := arranged.later _ _ inside
  refine assigned.label child ?_
  rintro rfl
  omega

theorem append_yields {parent child : NodeId} {tag : String} {attributes : Attributes}
    (arranged : Arranged store) (tagged : (store.tag? parent).isSome)
    (created : Created store analysis.store child (.element tag attributes)) :
    Yields (liftM (appendChild parent child) : RegionM Unit) analysis fun _ after =>
      Filled store after.store parent [child] [.element tag attributes []] := by
  have planted := created.planted arranged (by simp)
  exact lifted_yields (planted.append_yields tagged)

section

variable (arranged : Arranged analysis.store) (tagged : (analysis.store.tag? routine).isSome)
  (plain : Plain analysis.store routine)

include arranged tagged plain

theorem activeElement_yields :
    Yields (activeElement routine) analysis fun element after =>
      Opened analysis.store after.store routine element := by
  refine Yields.step (run_get analysis) ?_
  rcases plain.active with none | ⟨element, found, member, holds⟩
  · simp only [none]
    refine Yields.step (run_get analysis) ?_
    refine (lifted_yields (addNode_yields _ (.element "activeParallelRegions" []) _)).bind ?_
    intro element between created
    refine (append_yields arranged tagged created).bind ?_
    intro _ after filled
    exact .pure (opened_new arranged tagged plain.regions none filled)
  · simp only [found]
    exact .pure ⟨.refl arranged routine, rfl, plain.regions, found, member, holds,
      (activeIds_single found).symm⟩

theorem addRelation_yields (known : relation.index < analysis.store.nodes.size) :
    Yields (addRelation routine relation) analysis fun _ after =>
      Marked analysis.store after.store routine (positionOf analysis.store routine)
        [analysis.store.value relation "id"] := by
  refine (activeElement_yields arranged tagged plain).bind fun element opening opened => ?_
  refine Yields.step (run_get opening) ?_
  refine (lifted_yields (addNode_yields _ (.element "templateRelation" []) _)).bind ?_
  intro new adding added
  refine Yields.step (run_get adding) ?_
  have taggedNew : (adding.store.tag? new).isSome := by
    rw [tag?, added.label_self]
    rfl
  refine (lifted_yields (setAttributeValue_yields "id" _ taggedNew)).bind ?_
  intro _ naming assigned
  have created := added.assigned assigned
  have id : (adding.store.value? relation "id").getD "" = analysis.store.value relation "id" := by
    have old := Nat.lt_of_lt_of_le known opened.touched.size
    rw [← opened.touched.value relation "id" known (by decide)]
    exact value_congr (added.label_old old) _
  have treeNew : naming.store.tree new = relationTree (adding.store.value? relation "id") := by
    rw [tree_eq (created.arranged opened.touched.arranged), created.label_self,
      created.childless]
    rfl
  have label : ∀ child ∈ opening.store.children element,
      naming.store.label child = opening.store.label child :=
    fun child member => created.label_old (opened.touched.arranged.later _ _ member).2
  have trees := (opened.holds.kept created.children label).tree
    (created.arranged opened.touched.arranged)
  obtain ⟨found, search, isKnown⟩ := firstDuplicate?_relations
    ((naming.store.children element).map (naming.store.value? · "id"))
    (adding.store.value? relation "id")
  rw [← trees, ← treeNew] at search
  refine Yields.step (run_get naming) ?_
  refine Yields.step (run_outcome search naming) ?_
  have known : ∀ id, id ∈ (naming.store.children element).map (naming.store.value? · "id") ↔
      id ∈ (opening.store.children element).map (opening.store.value? · "id") := by
    intro id
    rw [created.children, map_congr_left fun child member => value?_congr (label child member) _]
  rw [known] at isKnown
  rw [← id]
  cases found with
  | some place =>
    exact .pure (opened.refer_known tagged created (isKnown.mp rfl))
  | none =>
    refine (append_yields opened.touched.arranged opened.tagged created).weaken ?_
    exact fun _ _ filled => opened.refer_new tagged filled

variable {relations : List NodeId}
  (known : ∀ relation ∈ relations, relation.index < analysis.store.nodes.size)

include known

theorem addRelations_yields :
    Yields (relations.forM (addRelation routine)) analysis fun _ after =>
      Marked analysis.store after.store routine (positionOf analysis.store routine)
        (relations.map (analysis.store.value · "id")) := by
  refine Yields.along (fun done (now : RegionAnalysis) => Marked analysis.store now.store routine
    (positionOf analysis.store routine) (done.map (analysis.store.value · "id"))) ?_
      ⟨.refl arranged routine, rfl, plain, by simp⟩
  intro done relation rest now whole marked
  have old := known relation (by simp [whole])
  have size := marked.touched.size
  have stillTagged : (now.store.tag? routine).isSome := by
    rw [marked.touched.tag routine (bound_of_tag tagged)]
    exact tagged
  refine (addRelation_yields marked.touched.arranged stillTagged marked.plain
    (by omega)).weaken fun _ after more => ?_
  rw [marked.touched.value relation "id" old (by decide), marked.position] at more
  rw [map_append]
  exact marked.trans more

theorem mark_yields (position : String) :
    Yields (mark position relations routine) analysis fun _ after =>
      Marked analysis.store after.store routine position
        (relations.map (analysis.store.value · "id")) := by
  refine (lifted_yields (setAttributeValue_yields "parallelRegionPosition" (some position)
    tagged)).bind fun _ positioned assigned => ?_
  have touched := (Touched.refl arranged routine).assign assigned (.inl ⟨rfl, rfl⟩)
  obtain ⟨plainNow, idsNow⟩ := plain.assign arranged assigned
  have moved : Marked analysis.store positioned.store routine position [] := by
    refine ⟨touched, ?_, plainNow, by simp [idsNow]⟩
    rw [positionOf, Store.value, value?, assigned.attributes, Attributes.value_set]
    rfl
  have same :=
    map_congr_left fun relation member =>
      touched.value relation "id" (known relation member) (by decide)
  refine (addRelations_yields touched.arranged (by rw [assigned.tag]; exact tagged) plainNow
    (by rw [assigned.size]; exact known)).weaken fun _ after marked => ?_
  rw [moved.position, same] at marked
  exact moved.trans marked

end

end ParallelFortran.CallGraph
