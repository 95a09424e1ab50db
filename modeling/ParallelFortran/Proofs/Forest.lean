import Mathlib.Data.List.Nodup
import ParallelFortran.Proofs.Store

/-! The store as a forest: which elements stand below a node, and what changes of the store mean for
them. -/

namespace ParallelFortran.Xml

open List

namespace Store

/-- Children come later in the store than their parents, and both know of each other. -/
structure Arranged (store : Store) : Prop where
  later : ∀ parent child, child ∈ store.children parent →
    parent.index < child.index ∧ child.index < store.nodes.size
  linked : ∀ parent child, child ∈ store.children parent ↔ store.parent? child = some parent
  distinct : ∀ parent, (store.children parent).Nodup
  placed : ∀ parent child, child ∈ store.children parent → store.label child ≠ .document

inductive Below (store : Store) : NodeId → NodeId → Prop
  | child {parent child} : child ∈ store.children parent → (store.tag? child).isSome →
      Below store parent child
  | deeper {parent child node} : child ∈ store.children parent → (store.tag? child).isSome →
      Below store child node → Below store parent node

variable {store : Store} {ancestor node : NodeId}

theorem Below.tagged (below : Below store ancestor node) : (store.tag? node).isSome := by
  induction below with
  | child _ tagged => exact tagged
  | deeper _ _ _ ih => exact ih

theorem Below.trans {middle : NodeId} (upper : Below store ancestor middle)
    (lower : Below store middle node) : Below store ancestor node := by
  induction upper with
  | child member tagged => exact .deeper member tagged lower
  | deeper member tagged _ ih => exact .deeper member tagged (ih lower)

theorem Below.index_lt (arranged : Arranged store) (below : Below store ancestor node) :
    ancestor.index < node.index := by
  induction below with
  | child member _ => exact (arranged.later _ _ member).1
  | deeper member _ _ ih =>
    have first := (arranged.later _ _ member).1
    omega

theorem Below.parent (arranged : Arranged store) (below : Below store ancestor node) :
    ∃ parent, store.parent? node = some parent ∧ (parent = ancestor ∨ Below store ancestor parent) := by
  induction below with
  | @child parent child member _ => exact ⟨parent, (arranged.linked _ _).mp member, .inl rfl⟩
  | @deeper parent child node member tagged _ ih =>
    obtain ⟨next, known, place⟩ := ih
    refine ⟨next, known, .inr ?_⟩
    rcases place with rfl | below
    · exact .child member tagged
    · exact .deeper member tagged below

theorem Below.above {parent : NodeId} (arranged : Arranged store) (below : Below store ancestor node)
    (linked : store.parent? node = some parent) : parent = ancestor ∨ Below store ancestor parent := by
  obtain ⟨found, known, place⟩ := below.parent arranged
  cases linked.symm.trans known
  exact place

/-- What holds of a node once it holds of its children holds of every node. -/
theorem Arranged.downward {holds : NodeId → Prop} (arranged : Arranged store)
    (step : ∀ id, (∀ child ∈ store.children id, holds child) → holds id) (id : NodeId) :
    holds id := by
  generalize size : store.nodes.size - id.index = depth
  induction depth using Nat.strongRecOn generalizing id with
  | ind depth ih =>
    refine step id fun child member => ih (store.nodes.size - child.index) ?_ child rfl
    have later := arranged.later _ _ member
    omega

/-- What holds of a node once it holds of its parent holds of every node. -/
theorem Arranged.upward {holds : NodeId → Prop} (arranged : Arranged store)
    (step : ∀ id, (∀ parent, store.parent? id = some parent → holds parent) → holds id)
    (id : NodeId) : holds id := by
  generalize size : id.index = bound
  induction bound using Nat.strongRecOn generalizing id with
  | ind bound ih =>
    refine step id fun parent known => ih parent.index ?_ parent rfl
    rw [← size]
    exact (arranged.later _ _ ((arranged.linked _ _).mpr known)).1

variable {left right : NodeId}

theorem Below.comparable (arranged : Arranged store)
    (leftAbove : Below store left node) (rightAbove : Below store right node) :
    left = right ∨ Below store left right ∨ Below store right left := by
  induction node using arranged.upward with
  | step node ih =>
    obtain ⟨parent, known, leftPlace⟩ := leftAbove.parent arranged
    have rightPlace := rightAbove.above arranged known
    rcases leftPlace with rfl | leftBelow
    · rcases rightPlace with rfl | rightBelow
      · exact .inl rfl
      · exact .inr (.inr rightBelow)
    · rcases rightPlace with rfl | rightBelow
      · exact .inr (.inl leftBelow)
      · exact ih parent known leftBelow rightBelow

def fromChild (store : Store) (tag : String) (child : NodeId) : List NodeId :=
  match store.tag? child with
  | some found =>
    if found == tag || tag == "*" then child :: store.descendants child tag
    else store.descendants child tag
  | none => []

theorem descendantsLoop_stable (arranged : Arranged store) (tag : String) (fuel more : Nat)
    (id : NodeId) (enough : store.nodes.size ≤ id.index + fuel) (larger : fuel ≤ more) :
    store.descendantsLoop tag more id = store.descendantsLoop tag fuel id := by
  induction fuel generalizing more id with
  | zero =>
    cases more with
    | zero => rfl
    | succ more => simp [descendantsLoop, children_beyond (by omega : store.nodes.size ≤ id.index)]
  | succ fuel ih =>
    obtain ⟨more, rfl⟩ : ∃ rest, more = rest + 1 := ⟨more - 1, by omega⟩
    apply flatMap_congr
    intro child member
    have later := (arranged.later _ _ member).1
    rw [ih more child (by omega) (by omega)]

theorem descendants_eq (arranged : Arranged store) (id : NodeId) (tag : String) :
    store.descendants id tag = (store.children id).flatMap (store.fromChild tag) := by
  have one := descendantsLoop_stable arranged tag store.nodes.size (store.nodes.size + 1) id
    (by omega) (by omega)
  rw [descendants, ← one]
  rfl

variable {id child : NodeId} {tag : String}

theorem mem_fromChild_iff (particular : tag ≠ "*") :
    node ∈ store.fromChild tag child ↔ (store.tag? child).isSome ∧
      (node = child ∧ store.tag? child = some tag ∨ node ∈ store.descendants child tag) := by
  cases tagged : store.tag? child with
  | none => simp [fromChild, tagged]
  | some found =>
    by_cases same : found = tag <;> simp [fromChild, tagged, particular, same]

theorem mem_descendants (arranged : Arranged store) (particular : tag ≠ "*") :
    node ∈ store.descendants id tag ↔ Below store id node ∧ store.tag? node = some tag := by
  induction id using arranged.downward with
  | step id ih =>
    rw [descendants_eq arranged, mem_flatMap]
    constructor
    · rintro ⟨child, member, found⟩
      obtain ⟨tagged, ⟨rfl, same⟩ | inside⟩ := (mem_fromChild_iff particular).mp found
      · exact ⟨.child member tagged, same⟩
      · have deeper := (ih child member).mp inside
        exact ⟨.deeper member tagged deeper.1, deeper.2⟩
    · rintro ⟨below, same⟩
      cases below with
      | child member tagged =>
        exact ⟨node, member, (mem_fromChild_iff particular).mpr ⟨tagged, .inl ⟨rfl, same⟩⟩⟩
      | @deeper _ child _ member tagged inside =>
        exact ⟨child, member, (mem_fromChild_iff particular).mpr
          ⟨tagged, .inr ((ih child member).mpr ⟨inside, same⟩)⟩⟩

theorem descendants_first (arranged : Arranged store) (particular : tag ≠ "*") {rest : List NodeId}
    (found : store.descendants id tag = node :: rest) :
    Below store id node ∧ store.tag? node = some tag :=
  (mem_descendants arranged particular).mp (found ▸ mem_cons_self)

variable {parent : NodeId}

theorem children_apart (arranged : Arranged store)
    (leftMember : left ∈ store.children parent) (rightMember : right ∈ store.children parent)
    (underLeft : node = left ∨ Below store left node)
    (underRight : node = right ∨ Below store right node) : left = right := by
  have notBelow : ∀ upper lower, upper ∈ store.children parent → lower ∈ store.children parent →
      ¬ Below store upper lower := by
    intro upper lower upperMember lowerMember below
    have first := (arranged.later _ _ upperMember).1
    rcases below.above arranged ((arranged.linked _ _).mp lowerMember) with rfl | deeper
    · omega
    · have second := deeper.index_lt arranged
      omega
  rcases underLeft with rfl | leftBelow
  · rcases underRight with same | rightBelow
    · exact same
    · exact (notBelow _ _ rightMember leftMember rightBelow).elim
  · rcases underRight with rfl | rightBelow
    · exact (notBelow _ _ leftMember rightMember leftBelow).elim
    · rcases leftBelow.comparable arranged rightBelow with same | below | below
      · exact same
      · exact (notBelow _ _ leftMember rightMember below).elim
      · exact (notBelow _ _ rightMember leftMember below).elim

section

variable (arranged : Arranged store)

include arranged

theorem mem_fromChild (particular : tag ≠ "*") (found : node ∈ store.fromChild tag child) :
    (node = child ∨ Below store child node) ∧ store.tag? node = some tag := by
  obtain ⟨_, ⟨rfl, same⟩ | inside⟩ := (mem_fromChild_iff particular).mp found
  · exact ⟨.inl rfl, same⟩
  · have deeper := (mem_descendants arranged particular).mp inside
    exact ⟨.inr deeper.1, deeper.2⟩

theorem descendants_nodup (id : NodeId) (particular : tag ≠ "*") :
    (store.descendants id tag).Nodup := by
  induction id using arranged.downward with
  | step id ih =>
    rw [descendants_eq arranged, nodup_flatMap]
    constructor
    · intro child member
      have deeper := ih child member
      cases tagged : store.tag? child with
      | none => simp [fromChild, tagged]
      | some known =>
        simp only [fromChild, tagged]
        split
        · refine nodup_cons.mpr ⟨?_, deeper⟩
          intro inside
          have below := ((mem_descendants arranged particular).mp inside).1
          have larger := below.index_lt arranged
          omega
        · exact deeper
    · refine (arranged.distinct id).imp_of_mem ?_
      intro left right leftMember rightMember different node leftFound rightFound
      exact different (children_apart arranged leftMember rightMember
        (mem_fromChild arranged particular leftFound).1
        (mem_fromChild arranged particular rightFound).1)

section

variable (particular : tag ≠ "*")

include particular

theorem descendants_eq_nil :
    store.descendants id tag = [] ↔ ∀ node, Below store id node → store.tag? node ≠ some tag := by
  simp [eq_nil_iff_forall_not_mem, mem_descendants arranged particular]

theorem descendants_eq_singleton {only : NodeId}
    (unique : ∀ node, Below store id node ∧ store.tag? node = some tag ↔ node = only) :
    store.descendants id tag = [only] := by
  have same : ∀ node, node ∈ store.descendants id tag ↔ node ∈ [only] := by
    intro node
    rw [mem_descendants arranged particular, unique, mem_singleton]
  have permuted := (perm_ext_iff_of_nodup (descendants_nodup arranged id particular)
    (by simp)).mpr same
  exact perm_singleton.mp permuted

theorem descendants_flat (flat : ∀ node ∈ store.descendants id tag, node ∈ store.children id) :
    store.descendants id tag = (store.children id).filter fun child => store.tag? child = some tag := by
  have single : ∀ child ∈ store.children id,
      store.fromChild tag child = if store.tag? child = some tag then [child] else [] := by
    intro child member
    cases tagged : store.tag? child with
    | none => simp [fromChild, tagged]
    | some found =>
      have nothing : store.descendants child tag = [] := by
        rw [descendants_eq_nil arranged particular]
        intro node below same
        have place : Below store id node := .deeper member (by simp [tagged]) below
        have direct := flat node ((mem_descendants arranged particular).mpr ⟨place, same⟩)
        have own : child = node := children_apart arranged member direct (.inr below) (.inl rfl)
        have later := below.index_lt arranged
        rw [own] at later
        omega
      simp [fromChild, tagged, particular, nothing]
  rw [descendants_eq arranged, flatMap_congr single]
  induction store.children id with
  | nil => rfl
  | cons child rest ih =>
    rw [flatMap_cons, ih]
    by_cases same : store.tag? child = some tag <;> simp [same]

end

end

/-- Below a node nothing has changed but what has no bearing on the elements there. -/
structure SameBelow (before after : Store) (id : NodeId) : Prop where
  tag : ∀ node, node.index < before.nodes.size → after.tag? node = before.tag? node
  children : ∀ node, node = id ∨ Below before id node →
    after.children node = before.children node

variable {before after : Store}

variable {lower upper : NodeId}

theorem SameBelow.within (same : SameBelow before after upper)
    (below : Below before upper lower) : SameBelow before after lower := by
  refine ⟨same.tag, ?_⟩
  rintro node (rfl | deeper)
  · exact same.children node (.inr below)
  · exact same.children node (.inr (below.trans deeper))

section

variable (arranged : Arranged before)

include arranged

theorem SameBelow.descendants (arrangedAfter : Arranged after)
    (same : SameBelow before after id) (tag : String) :
    after.descendants id tag = before.descendants id tag := by
  induction id using arranged.downward with
  | step id ih =>
    rw [descendants_eq arranged, descendants_eq arrangedAfter, same.children id (.inl rfl)]
    apply flatMap_congr
    intro child member
    have sameTag := same.tag child (arranged.later _ _ member).2
    cases tagged : before.tag? child with
    | none => simp [fromChild, sameTag, tagged]
    | some known =>
      have deeper := ih child member (same.within (.child member (by simp [tagged])))
      simp [fromChild, sameTag, deeper]

theorem SameBelow.fromChild (arrangedAfter : Arranged after)
    (same : SameBelow before after id) (known : id.index < before.nodes.size) (tag : String) :
    after.fromChild tag id = before.fromChild tag id := by
  rw [Store.fromChild, Store.fromChild, same.tag id known, same.descendants arranged arrangedAfter]

theorem SameBelow.below_iff (same : SameBelow before after id) :
    Below after id node ↔ Below before id node := by
  constructor
  · intro below
    induction below with
    | @child parent child member tagged =>
      rw [same.children parent (.inl rfl)] at member
      rw [same.tag child (arranged.later _ _ member).2] at tagged
      exact .child member tagged
    | @deeper parent child node member tagged _ ih =>
      rw [same.children parent (.inl rfl)] at member
      rw [same.tag child (arranged.later _ _ member).2] at tagged
      exact .deeper member tagged (ih (same.within (.child member tagged)))
  · intro below
    induction below with
    | @child parent child member tagged =>
      rw [← same.tag child (arranged.later _ _ member).2] at tagged
      rw [← same.children parent (.inl rfl)] at member
      exact .child member tagged
    | @deeper parent child node member tagged _ ih =>
      have deeper := ih (same.within (.child member tagged))
      rw [← same.tag child (arranged.later _ _ member).2] at tagged
      rw [← same.children parent (.inl rfl)] at member
      exact .deeper member tagged deeper

end

theorem Arranged.relabel (arranged : Arranged before) (size : before.nodes.size ≤ after.nodes.size)
    (children : ∀ node, after.children node = before.children node)
    (parent : ∀ node, after.parent? node = before.parent? node)
    (placed : ∀ parent child, child ∈ before.children parent → after.label child ≠ .document) :
    Arranged after := by
  refine ⟨fun parent child member => ?_, fun upper child => ?_, fun parent => ?_, ?_⟩
  · rw [children] at member
    have later := arranged.later _ _ member
    omega
  · rw [children, parent]
    exact arranged.linked upper child
  · rw [children]
    exact arranged.distinct parent
  · intro parent child member
    rw [children] at member
    exact placed parent child member

theorem Created.arranged {given : Label} (created : Created before after id given)
    (arranged : Arranged before) : Arranged after := by
  refine arranged.relabel (by simp [created.size]) created.children created.parent ?_
  intro parent child member
  rw [created.label_old (arranged.later _ _ member).2]
  exact arranged.placed parent child member

variable {name : String} {given : Option String}

theorem Assigned.arranged
    (assigned : Assigned before after id name given) (arranged : Arranged before) : Arranged after := by
  refine arranged.relabel (Nat.le_of_eq assigned.size.symm) assigned.children assigned.parent ?_
  intro parent child member
  by_cases same : child = id
  · obtain ⟨tag, attributes, _, new⟩ := assigned.changed
    rw [same, new]
    simp
  · rw [assigned.label child same]
    exact arranged.placed parent child member

theorem Attached.arranged (attached : Attached before after parent child) (arranged : Arranged before)
    (alone : before.parent? child = none) (later : parent.index < child.index)
    (known : child.index < before.nodes.size) (placed : before.label child ≠ .document) :
    Arranged after := by
  have unlisted : ∀ other, child ∉ before.children other := by
    intro other member
    rw [arranged.linked, alone] at member
    simp at member
  refine ⟨?_, ?_, ?_, ?_⟩
  · intro other node member
    rw [attached.children] at member
    rw [attached.size]
    split at member
    · rename_i same
      subst same
      rcases mem_append.mp member with old | new
      · exact arranged.later _ _ old
      · rw [mem_singleton.mp new]
        exact ⟨later, known⟩
    · exact arranged.later _ _ member
  · intro other node
    rw [attached.children, attached.parent]
    by_cases isChild : node = child
    · subst isChild
      by_cases isParent : other = parent
      · subst isParent
        simp
      · simp [isParent, Ne.symm isParent, unlisted]
    · by_cases isParent : other = parent
      · subst isParent
        simp [isChild, arranged.linked]
      · simp [isChild, isParent, arranged.linked]
  · intro other
    rw [attached.children]
    split
    · refine nodup_append.mpr ⟨arranged.distinct _, by simp, ?_⟩
      intro node member last same
      rw [mem_singleton.mp same]
      rintro rfl
      exact unlisted _ member
    · exact arranged.distinct other
  · intro other node member
    rw [attached.label]
    by_cases isChild : node = child
    · rw [isChild]
      exact placed
    · rw [attached.children] at member
      split at member
      · exact arranged.placed other node (by simpa [isChild] using member)
      · exact arranged.placed other node member

theorem Detached.arranged (detached : Detached before after parent child) (arranged : Arranged before)
    (linked : before.parent? child = some parent) : Arranged after := by
  refine ⟨?_, ?_, ?_, ?_⟩
  · intro other node member
    rw [detached.children] at member
    rw [detached.size]
    split at member
    · exact arranged.later _ _ (mem_of_mem_filter member)
    · exact arranged.later _ _ member
  · intro other node
    rw [detached.children, detached.parent]
    by_cases isChild : node = child
    · subst isChild
      by_cases isParent : other = parent
      · subst isParent
        simp
      · simp [isParent, arranged.linked, linked, Ne.symm isParent]
    · by_cases isParent : other = parent
      · subst isParent
        simp [isChild, arranged.linked]
      · simp [isChild, isParent, arranged.linked]
  · intro other
    rw [detached.children]
    split
    · exact (arranged.distinct _).filter _
    · exact arranged.distinct other
  · intro other node member
    rw [detached.label]
    rw [detached.children] at member
    split at member
    · exact arranged.placed other node (mem_of_mem_filter member)
    · exact arranged.placed other node member

theorem Created.sameBelow {given : Label} (created : Created before after id given)
    (ancestor : NodeId) : SameBelow before after ancestor :=
  ⟨fun _ known => tag?_congr (created.label_old known), fun other _ => created.children other⟩

theorem Assigned.sameBelow (assigned : Assigned before after id name given) (ancestor : NodeId) :
    SameBelow before after ancestor :=
  ⟨fun other _ => assigned.tag other, fun other _ => assigned.children other⟩

theorem Below.mono (children : ∀ parent, before.children parent ⊆ after.children parent)
    (tag : ∀ other, after.tag? other = before.tag? other) (below : Below before ancestor node) :
    Below after ancestor node := by
  induction below with
  | child member tagged => exact .child (children _ member) (by rw [tag]; exact tagged)
  | deeper member tagged _ ih => exact .deeper (children _ member) (by rw [tag]; exact tagged) ih

variable (detached : Detached before after parent child)

include detached

theorem Detached.children_subset (other : NodeId) :
    after.children other ⊆ before.children other := by
  rw [detached.children]
  split
  · exact filter_subset_self _
  · exact Subset.refl _

theorem Detached.mem_children (member : lower ∈ before.children upper)
    (other : upper = parent → lower ≠ child) : lower ∈ after.children upper := by
  rw [detached.children]
  split
  · rename_i same
    exact mem_filter.mpr ⟨member, by simpa using other same⟩
  · exact member

section

variable (arranged : Arranged before) (linked : before.parent? child = some parent)
include arranged linked

theorem Detached.top_le (under : lower = child ∨ Below before child lower)
    (below : Below after ancestor lower) : child.index ≤ ancestor.index := by
  have arrangedAfter := detached.arranged arranged linked
  induction lower using arrangedAfter.upward with
  | step lower ih =>
    obtain ⟨upper, known, upperPlace⟩ := below.parent arrangedAfter
    have higherUp := ih upper known
    rw [detached.parent] at known
    split at known
    · simp at known
    · rename_i other
      have foundPlace := (under.resolve_left other).above arranged known
      rcases upperPlace with rfl | higher
      · rcases foundPlace with rfl | between
        · exact Nat.le_refl _
        · exact Nat.le_of_lt (between.index_lt arranged)
      · exact higherUp foundPlace higher

theorem Detached.below_iff : Below after ancestor node ↔ Below before ancestor node ∧
      ¬ ((ancestor = parent ∨ Below before ancestor parent) ∧
        (node = child ∨ Below before child node)) := by
  have tag := fun other => tag?_congr (detached.label other)
  constructor
  · intro below
    refine ⟨below.mono detached.children_subset fun other => (tag other).symm, ?_⟩
    rintro ⟨place, under⟩
    have lower := detached.top_le arranged linked under below
    have upper := (arranged.later _ _ ((arranged.linked _ _).mpr linked)).1
    rcases place with rfl | above
    · omega
    · have first := above.index_lt arranged
      omega
  · rintro ⟨below, kept⟩
    induction below with
    | child member tagged =>
      refine .child (detached.mem_children member ?_) (by rw [tag]; exact tagged)
      intro same isChild
      exact kept ⟨.inl same, .inl isChild⟩
    | deeper member tagged inside ih =>
      refine .deeper (detached.mem_children member ?_) (by rw [tag]; exact tagged) (ih ?_)
      · rintro same rfl
        exact kept ⟨.inl same, .inr inside⟩
      · rintro ⟨place, under⟩
        refine kept ⟨.inr ?_, under⟩
        rcases place with rfl | deeper
        · exact .child member tagged
        · exact .deeper member tagged deeper

end

end Store

end ParallelFortran.Xml
