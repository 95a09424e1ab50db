import ParallelFortran.Proofs.Forest

/-! Trees that are put into a store, and copies of what stands there. A tree that has been put into a
store is found there again, and a store that is filled with trees only is a forest. -/

namespace ParallelFortran.Xml

open List

mutual

def Tree.elements : Tree → List (String × Attributes)
  | .element tag attributes children => (tag, attributes) :: elementsOf children
  | _ => []

def elementsOf : List Tree → List (String × Attributes)
  | [] => []
  | tree :: trees => tree.elements ++ elementsOf trees

end

theorem elementsOf_eq_flatMap (trees : List Tree) :
    elementsOf trees = trees.flatMap Tree.elements := by
  induction trees with
  | nil => rfl
  | cons tree trees ih => rw [elementsOf, flatMap_cons, ih]

theorem elementsOf_append (trees more : List Tree) :
    elementsOf (trees ++ more) = elementsOf trees ++ elementsOf more := by
  simp [elementsOf_eq_flatMap]

def Tree.inside (tag : String) (tree : Tree) : List Attributes :=
  (tree.elements.filter fun element => element.1 == tag).map Prod.snd

namespace Store

variable {given : Label} {index : Nat} {id : NodeId} {before after store : Store}

theorem treeLoop_stable (arranged : Arranged store) (fuel more : Nat) (id : NodeId)
    (some : 0 < fuel) (enough : store.nodes.size < id.index + fuel) (larger : fuel ≤ more) :
    store.treeLoop more id = store.treeLoop fuel id := by
  induction fuel generalizing more id with
  | zero => omega
  | succ fuel ih =>
    obtain ⟨more, rfl⟩ : ∃ rest, more = rest + 1 := ⟨more - 1, by omega⟩
    have below : (store.children id).map (store.treeLoop more) =
        (store.children id).map (store.treeLoop fuel) := by
      apply map_congr_left
      intro child member
      have later := arranged.later _ _ member
      exact ih more child (by omega) (by omega) (by omega)
    rw [treeLoop, treeLoop, below]

def assemble (given : Label) (children : List Tree) : Tree :=
  match given with
  | .document => .element "" [] children
  | .element tag attributes => .element tag attributes children
  | .text data => .text data
  | .verbatim data => .verbatim data
  | .comment data => .comment data
  | .instruction target data => .instruction target data

theorem tree_eq (arranged : Arranged store) (id : NodeId) :
    store.tree id = assemble (store.label id) ((store.children id).map store.tree) := by
  have below : (store.children id).map (store.treeLoop store.nodes.size) =
      (store.children id).map store.tree := by
    apply map_congr_left
    intro child member
    have later := arranged.later _ _ member
    exact (treeLoop_stable arranged _ _ child (by omega) (by omega) (by omega)).symm
  rw [tree, treeLoop, below]
  rfl

structure SameFrom (before after : Store) (index : Nat) : Prop where
  label : ∀ node, index ≤ node.index → node.index < before.nodes.size →
    after.label node = before.label node
  children : ∀ node, index ≤ node.index → node.index < before.nodes.size →
    after.children node = before.children node

theorem SameFrom.tree (arranged : Arranged before) (arrangedAfter : Arranged after)
    (same : SameFrom before after index) (id : NodeId) (lower : index ≤ id.index)
    (known : id.index < before.nodes.size) : after.tree id = before.tree id := by
  induction id using arranged.downward with
  | step id ih =>
    have below : (before.children id).map after.tree = (before.children id).map before.tree := by
      apply map_congr_left
      intro child member
      have later := arranged.later _ _ member
      exact ih child member (by omega) later.2
    rw [tree_eq arranged, tree_eq arrangedAfter, same.label id lower known,
      same.children id lower known, below]

section

variable (arranged : Arranged store) {tag : String} (particular : tag ≠ "*") (id : NodeId)
include arranged particular

theorem fromChild_attributes (placed : store.label id ≠ .document) :
    (store.fromChild tag id).map store.attributes = (store.tree id).inside tag := by
  induction id using arranged.downward with
  | step id ih =>
    rw [tree_eq arranged]
    cases shape : store.label id with
    | document => exact (placed shape).elim
    | element found attributes =>
      have below : (store.descendants id tag).map store.attributes =
          ((elementsOf ((store.children id).map store.tree)).filter fun element =>
            element.1 == tag).map Prod.snd := by
        rw [descendants_eq arranged, elementsOf_eq_flatMap, map_flatMap, flatMap_map, filter_flatMap,
          map_flatMap]
        apply flatMap_congr
        intro child member
        exact ih child member (arranged.placed _ _ member)
      have own : store.attributes id = attributes := by rw [Store.attributes, shape]
      simp only [fromChild, tag?, shape, assemble, Tree.inside, Tree.elements, Bool.or_false,
        beq_eq_false_iff_ne.mpr particular, filter_cons]
      split
      · rw [map_cons, map_cons, below, own]
      · exact below
    | text data | verbatim data | comment data =>
      simp [fromChild, tag?, shape, assemble, Tree.inside, Tree.elements]
    | instruction target data =>
      simp [fromChild, tag?, shape, assemble, Tree.inside, Tree.elements]

theorem descendants_attributes : (store.descendants id tag).map store.attributes =
      ((store.children id).map store.tree).flatMap (Tree.inside tag) := by
  rw [descendants_eq arranged, map_flatMap, flatMap_map]
  exact flatMap_congr fun child member =>
    fromChild_attributes arranged particular child (arranged.placed _ _ member)

end

/-- Nodes have been added. Old nodes are as they were, but that those which may grow have new children
behind their old ones. -/
structure Grown (before after : Store) (growing : NodeId → Prop) : Prop where
  size : before.nodes.size ≤ after.nodes.size
  arranged : Arranged after
  label : ∀ node, node.index < before.nodes.size → after.label node = before.label node
  children : ∀ node, node.index < before.nodes.size → ∃ more,
    after.children node = before.children node ++ more ∧ (¬ growing node → more = []) ∧
      ∀ child ∈ more, before.nodes.size ≤ child.index

abbrev Extended (before after : Store) : Prop := Grown before after fun _ => True

namespace Grown

variable {first : Store} {growing later : NodeId → Prop}

theorem refl (arranged : Arranged store) (growing : NodeId → Prop) : Grown store store growing :=
  ⟨Nat.le_refl _, arranged, fun _ _ => rfl, fun _ _ => ⟨[], by simp, by simp⟩⟩

theorem weaken (grown : Grown before after growing) (wider : ∀ node, growing node → later node) :
    Grown before after later := by
  refine ⟨grown.size, grown.arranged, grown.label, fun node old => ?_⟩
  obtain ⟨more, own, still, new⟩ := grown.children node old
  exact ⟨more, own, fun other => still fun grows => other (wider node grows), new⟩

theorem extended (grown : Grown before after growing) : Extended before after :=
  grown.weaken fun _ _ => trivial

theorem trans (left : Grown first before growing) (right : Grown before after later)
    (within : ∀ node, node.index < first.nodes.size → later node → growing node) :
    Grown first after growing := by
  have size := left.size
  refine ⟨Nat.le_trans size right.size, right.arranged, ?_, ?_⟩
  · intro node old
    rw [right.label node (by omega), left.label node old]
  · intro node old
    obtain ⟨more, own, still, new⟩ := left.children node old
    obtain ⟨further, next, stillNext, newer⟩ := right.children node (by omega)
    refine ⟨more ++ further, by rw [next, own, append_assoc], fun other => ?_, ?_⟩
    · rw [still other, stillNext fun grows => other (within node old grows), nil_append]
    · exact forall_mem_append.mpr ⟨new, fun child member => Nat.le_trans size (newer child member)⟩

section

variable (grown : Grown first before growing)

include grown

theorem create (created : Created before after id given) : Grown first after growing := by
  have size := grown.size
  refine ⟨by rw [created.size]; omega, created.arranged grown.arranged, ?_, ?_⟩
  · intro node old
    rw [created.label_old (by omega), grown.label node old]
  · intro node old
    rw [created.children]
    exact grown.children node old

theorem attach {parent child : NodeId} (attached : Attached before after parent child)
    (alone : before.parent? child = none) (later : parent.index < child.index)
    (known : child.index < before.nodes.size) (placed : before.label child ≠ .document)
    (new : first.nodes.size ≤ child.index) (grows : parent.index < first.nodes.size → growing parent) :
    Grown first after growing := by
  refine ⟨by rw [attached.size]; exact grown.size,
    attached.arranged grown.arranged alone later known placed, ?_, ?_⟩
  · intro node old
    rw [attached.label, grown.label node old]
  · intro node old
    obtain ⟨more, own, still, newer⟩ := grown.children node old
    rw [attached.children]
    split
    · next same =>
      subst same
      refine ⟨more ++ [child], by rw [own, append_assoc], fun other => (other (grows old)).elim, ?_⟩
      exact forall_mem_append.mpr ⟨newer, by simpa using new⟩
    · exact ⟨more, own, still, newer⟩

end

variable {node : NodeId} (grown : Grown before after growing)

include grown

theorem sameNodes {other : Store} (same : other.nodes = after.nodes) :
    Grown before other growing := by
  obtain ⟨size, ⟨later, linked, distinct, placed⟩, label, children⟩ := grown
  obtain ⟨nodes, _, _, _, _⟩ := other
  cases same
  exact ⟨size, ⟨later, linked, distinct, placed⟩, label, children⟩

theorem tag (old : node.index < before.nodes.size) : after.tag? node = before.tag? node :=
  tag?_congr (grown.label node old)

theorem tagged (tagged : (before.tag? node).isSome) : (after.tag? node).isSome := by
  rw [grown.tag (bound_of_tag tagged)]
  exact tagged

theorem value (old : node.index < before.nodes.size) (name : String) :
    after.value node name = before.value node name :=
  value_congr (grown.label node old) name

theorem still (old : node.index < before.nodes.size) (other : ¬ growing node) :
    after.children node = before.children node := by
  obtain ⟨more, own, none, _⟩ := grown.children node old
  rw [own, none other, append_nil]

theorem sameFrom (behind : ∀ node, growing node → node.index < index) :
    SameFrom before after index := by
  refine ⟨fun node _ old => grown.label node old, fun node later old => grown.still old ?_⟩
  intro grows
  have earlier := behind node grows
  omega

theorem mem_children_iff {parent child : NodeId} (old : parent.index < before.nodes.size)
    (oldChild : child.index < before.nodes.size) :
    child ∈ after.children parent ↔ child ∈ before.children parent := by
  obtain ⟨more, own, _, new⟩ := grown.children parent old
  rw [own, mem_append]
  constructor
  · rintro (inner | outer)
    · exact inner
    · have newer := new child outer
      omega
  · exact .inl

theorem parent (arranged : Arranged before) (old : node.index < before.nodes.size) :
    after.parent? node = before.parent? node := by
  apply Option.ext
  intro above
  rw [← grown.arranged.linked, ← arranged.linked]
  constructor
  · intro member
    have earlier := (grown.arranged.later _ _ member).1
    exact (grown.mem_children_iff (by omega) old).mp member
  · intro member
    have earlier := (arranged.later _ _ member).1
    exact (grown.mem_children_iff (by omega) old).mpr member

theorem below (arranged : Arranged before) {ancestor : NodeId}
    (below : Below before ancestor node) : Below after ancestor node := by
  have step : ∀ {upper lower}, lower ∈ before.children upper → lower ∈ after.children upper := by
    intro upper lower member
    have later := arranged.later _ _ member
    exact (grown.mem_children_iff (by omega) later.2).mpr member
  induction below with
  | child member tagged => exact .child (step member) (grown.tagged tagged)
  | deeper member tagged _ ih => exact .deeper (step member) (grown.tagged tagged) ih

theorem below_old {ancestor : NodeId} (below : Below after ancestor node)
    (old : node.index < before.nodes.size) : Below before ancestor node := by
  induction below with
  | @child parent child member tagged =>
    have earlier := (grown.arranged.later _ _ member).1
    rw [grown.tag old] at tagged
    exact .child ((grown.mem_children_iff (by omega) old).mp member) tagged
  | @deeper parent child node member tagged inner ih =>
    have earlier := (grown.arranged.later _ _ member).1
    have later := inner.index_lt grown.arranged
    rw [grown.tag (by omega)] at tagged
    exact .deeper ((grown.mem_children_iff (by omega) (by omega)).mp member) tagged (ih old)

theorem descendants_old (arranged : Arranged before) {tag : String} (particular : tag ≠ "*")
    (id : NodeId) (old : id.index < before.nodes.size) :
    (after.descendants id tag).filter (fun node => node.index < before.nodes.size) =
      before.descendants id tag := by
  induction id using arranged.downward with
  | step id ih =>
    obtain ⟨more, own, _, new⟩ := grown.children id old
    have inner : ∀ child ∈ before.children id,
        (after.fromChild tag child).filter (fun node => node.index < before.nodes.size) =
          before.fromChild tag child := by
      intro child member
      have later := arranged.later _ _ member
      have deeper := ih child member later.2
      simp only [fromChild, grown.tag later.2]
      cases before.tag? child with
      | none => rfl
      | some found =>
        simp only
        split
        · rw [filter_cons_of_pos (by simpa using later.2), deeper]
        · exact deeper
    -- whatever stands below a new node is new
    have outer : ∀ child ∈ more,
        (after.fromChild tag child).filter (fun node => node.index < before.nodes.size) = [] := by
      intro child member
      have newer := new child member
      rw [filter_eq_nil_iff]
      intro node found
      rw [decide_eq_true_eq, Nat.not_lt]
      rcases (mem_fromChild grown.arranged particular found).1 with rfl | below
      · exact newer
      · exact Nat.le_trans newer (Nat.le_of_lt (below.index_lt grown.arranged))
    rw [descendants_eq arranged, descendants_eq grown.arranged, own, flatMap_append,
      filter_append, filter_flatMap, filter_flatMap, flatMap_congr inner,
      flatMap_congr outer]
    simp

theorem descendants_other (arranged : Arranged before) {tag : String} (particular : tag ≠ "*")
    (old : id.index < before.nodes.size)
    (others : ∀ node, before.nodes.size ≤ node.index → after.tag? node ≠ some tag) :
    after.descendants id tag = before.descendants id tag := by
  rw [← grown.descendants_old arranged particular id old, eq_comm, filter_eq_self]
  intro node member
  rw [decide_eq_true_eq]
  by_contra new
  exact others node (Nat.le_of_not_lt new) ((mem_descendants grown.arranged particular).mp member).2

end Grown

theorem Extended.trans {first : Store} (left : Extended first before) (right : Extended before after) :
    Extended first after :=
  Grown.trans left right fun _ _ grows => grows

section NewLabels

variable {first : Store} {elements : List (String × Attributes)}

def NewLabels (before after : Store) (elements : List (String × Attributes)) : Prop :=
  ∀ node, before.nodes.size ≤ node.index → ∀ tag attributes,
    after.label node = .element tag attributes → (tag, attributes) ∈ elements

theorem NewLabels.refl (store : Store) (elements : List (String × Attributes)) :
    NewLabels store store elements := by
  intro node beyond tag attributes found
  rw [Store.label, node?_beyond beyond] at found
  cases found

theorem NewLabels.trans {growing : NodeId → Prop} {more : List (String × Attributes)}
    (left : NewLabels first before elements) (right : NewLabels before after more)
    (grown : Grown before after growing) : NewLabels first after (elements ++ more) := by
  intro node new tag attributes found
  by_cases old : node.index < before.nodes.size
  · rw [grown.label node old] at found
    exact mem_append_left _ (left node new tag attributes found)
  · exact mem_append_right _ (right node (Nat.le_of_not_lt old) tag attributes found)

theorem NewLabels.identified (new : NewLabels before after elements) {node : NodeId}
    (beyond : before.nodes.size ≤ node.index) {name : String} (filled : after.value node name ≠ "") :
    ∃ tag attributes, (tag, attributes) ∈ elements ∧ attributes ≠ [] ∧ after.tag? node = some tag := by
  cases shape : after.label node with
  | element tag attributes =>
    refine ⟨tag, attributes, new node beyond tag attributes shape, ?_, by rw [tag?, shape]⟩
    rintro rfl
    simp [Store.value, value?, Store.attributes, shape, Attributes.value] at filled
  | _ => exact absurd (value_untagged (by rw [tag?, shape]) name) filled

theorem NewLabels.unnamed (new : NewLabels before after elements)
    (plain : ∀ element ∈ elements, element.2 = []) (node : NodeId)
    (beyond : before.nodes.size ≤ node.index) : after.value node "id" = "" := by
  by_contra filled
  obtain ⟨tag, attributes, member, some, _⟩ := new.identified beyond filled
  exact some (plain _ member)

theorem NewLabels.other {tag : String} (new : NewLabels before after elements)
    (free : tag ∉ elements.map Prod.fst) (node : NodeId) (beyond : before.nodes.size ≤ node.index) :
    after.tag? node ≠ some tag := by
  intro found
  rw [tag?] at found
  split at found
  · next shape =>
    cases found
    exact free (mem_map_of_mem (new node beyond _ _ shape))
  · cases found

end NewLabels

variable (before after) in
structure Planted (id : NodeId) (tree : Tree) : Prop where
  grown : Grown before after fun _ => False
  index : id.index = before.nodes.size
  known : id.index < after.nodes.size
  alone : after.parent? id = none
  placed : after.label id ≠ .document
  labels : NewLabels before after tree.elements
  memory : after.memory = before.memory
  tree : after.tree id = tree

variable (before after) in
structure Filled (parent : NodeId) (ids : List NodeId) (trees : List Tree) : Prop where
  grown : Grown before after (· = parent)
  children : after.children parent = before.children parent ++ ids
  new : ∀ id ∈ ids, before.nodes.size ≤ id.index
  labels : NewLabels before after (elementsOf trees)
  memory : after.memory = before.memory
  trees : ids.map after.tree = trees

theorem Attached.sameFrom {parent child : NodeId} (attached : Attached before after parent child)
    (behind : parent.index < index) : SameFrom before after index := by
  refine ⟨fun node _ _ => attached.label node, ?_⟩
  intro node later _
  have different : node ≠ parent := by
    rintro rfl
    omega
  rw [attached.children, if_neg different]

section

variable (created : Created before after id given)

include created

theorem Created.alone : after.parent? id = none := by
  rw [created.parent, parent?, node?_beyond (Nat.le_of_eq created.index.symm)]
  rfl

theorem Created.childless : after.children id = [] := by
  rw [created.children, children_beyond (Nat.le_of_eq created.index.symm)]

theorem Created.planted (arranged : Arranged before) (placed : given ≠ .document) :
    Planted before after id (assemble given []) := by
  refine ⟨(Grown.refl arranged _).create created, created.index, ?_, created.alone, ?_, ?_,
    created.memory, ?_⟩
  · rw [created.size, created.index]
    omega
  · rw [created.label_self]
    exact placed
  · intro node beyond tag attributes found
    rw [created.label] at found
    split at found
    · rw [found]
      exact mem_cons_self
    · exact NewLabels.refl before _ node beyond tag attributes found
  · rw [tree_eq (created.arranged arranged), created.label_self, created.childless]
    rfl

end

section

variable {first : Store} {parent : NodeId} {ids others : List NodeId} {trees more front : List Tree}
  {tag : String} {attributes : Attributes}

section

variable (arranged : Arranged store)

include arranged

theorem label_of_tree (placed : store.label id ≠ .document)
    (own : store.tree id = .element tag attributes trees) :
    store.label id = .element tag attributes := by
  rw [tree_eq arranged] at own
  cases label : store.label id <;> simp_all [assemble]

theorem children_of_tree (own : store.tree id = .element tag attributes trees) :
    (store.children id).map store.tree = trees := by
  rw [tree_eq arranged] at own
  cases label : store.label id <;> simp_all [assemble]

theorem Filled.nil (parent : NodeId) : Filled store store parent [] [] :=
  ⟨.refl arranged _, by simp, by simp, .refl store _, rfl, rfl⟩

end

theorem Filled.known (filled : Filled before after parent ids trees) (member : id ∈ ids) :
    id.index < after.nodes.size := by
  have child : id ∈ after.children parent := by simp [filled.children, member]
  exact (filled.grown.arranged.later _ _ child).2

theorem Filled.label (filled : Filled before after parent [id] [.element tag attributes trees]) :
    after.label id = .element tag attributes := by
  have child : id ∈ after.children parent := by simp [filled.children]
  exact label_of_tree filled.grown.arranged (filled.grown.arranged.placed _ _ child)
    (singleton_inj.mp filled.trees)

theorem Filled.childless (filled : Filled before after parent [id] [.element tag attributes []]) :
    after.children id = [] :=
  map_eq_nil_iff.mp (children_of_tree filled.grown.arranged (singleton_inj.mp filled.trees))

theorem Filled.descendants_same (filled : Filled before after parent [id] [.element tag attributes []])
    (arranged : Arranged before) :
    after.descendants parent tag = before.descendants parent tag ++ [id] := by
  have inner : ∀ node ∈ before.children parent,
      after.fromChild tag node = before.fromChild tag node := by
    intro node member
    have later := arranged.later _ _ member
    refine SameBelow.fromChild arranged filled.grown.arranged
      ⟨fun _ old => filled.grown.tag old, ?_⟩ later.2 tag
    rintro inside (rfl | deeper)
    · exact filled.grown.still later.2 (by rintro rfl; omega)
    · have lower := deeper.index_lt arranged
      exact filled.grown.still (bound_of_tag deeper.tagged) (by rintro rfl; omega)
  have leaf : after.fromChild tag id = [id] := by
    simp [fromChild, tag?, filled.label, descendants_eq filled.grown.arranged, filled.childless]
  rw [descendants_eq arranged, descendants_eq filled.grown.arranged, filled.children, flatMap_append,
    flatMap_congr inner, flatMap_singleton, leaf]

theorem Filled.trans (left : Filled first before parent ids trees)
    (right : Filled before after parent others more) (known : parent.index < first.nodes.size) :
    Filled first after parent (ids ++ others) (trees ++ more) := by
  have size := left.grown.size
  have same : SameFrom before after first.nodes.size := by
    refine right.grown.sameFrom ?_
    rintro node rfl
    exact known
  have kept : ids.map after.tree = trees := by
    rw [← left.trees]
    apply map_congr_left
    intro id member
    exact same.tree left.grown.arranged right.grown.arranged id (left.new id member)
      (left.known member)
  refine ⟨left.grown.trans right.grown fun _ _ grows => grows, ?_, ?_, ?_,
    right.memory.trans left.memory, ?_⟩
  · rw [right.children, left.children, append_assoc]
  · exact forall_mem_append.mpr ⟨left.new, fun id member => Nat.le_trans size (right.new id member)⟩
  · rw [elementsOf_append]
    exact left.labels.trans right.labels right.grown
  · rw [map_append, kept, right.trees]

theorem Filled.tree (filled : Filled before after parent ids trees) (arranged : Arranged before)
    (known : parent.index < before.nodes.size)
    (own : before.tree parent = .element tag attributes front) :
    after.tree parent = .element tag attributes (front ++ trees) := by
  have same : SameFrom before after (parent.index + 1) := by
    refine filled.grown.sameFrom ?_
    rintro node rfl
    exact Nat.lt_succ_self _
  have kept : (before.children parent).map after.tree = front := by
    rw [← children_of_tree arranged own]
    apply map_congr_left
    intro child member
    have later := arranged.later _ _ member
    exact same.tree arranged filled.grown.arranged child later.1 later.2
  rw [tree_eq arranged] at own
  rw [tree_eq filled.grown.arranged, filled.grown.label parent known, filled.children, map_append,
    kept, filled.trees]
  cases label : before.label parent <;> simp_all [assemble]

theorem Filled.inner {element : NodeId}
    (outer : Filled first before parent [element] [.element tag attributes []])
    (inner : Filled before after element ids trees) (known : parent.index < first.nodes.size) :
    Filled first after parent [element] [.element tag attributes trees] := by
  have new := outer.new element mem_cons_self
  have size := outer.grown.size
  have different : parent ≠ element := by
    rintro rfl
    omega
  refine ⟨outer.grown.trans inner.grown ?_, ?_, outer.new, ?_, inner.memory.trans outer.memory, ?_⟩
  · rintro node earlier rfl
    omega
  · rw [inner.grown.still (by omega) different, outer.children]
  · have labels := outer.labels.trans inner.labels inner.grown
    simpa [elementsOf, Tree.elements] using labels
  · have own := singleton_inj.mp outer.trees
    rw [map_singleton, inner.tree outer.grown.arranged (outer.known mem_cons_self) own, nil_append]

theorem Planted.inner (planted : Planted first before id (.element tag attributes front))
    (filled : Filled before after id ids trees) :
    Planted first after id (.element tag attributes (front ++ trees)) := by
  have index := planted.index
  have known := planted.known
  have size := filled.grown.size
  refine ⟨planted.grown.trans filled.grown ?_, index, by omega, ?_, ?_, ?_,
    filled.memory.trans planted.memory, filled.tree planted.grown.arranged known planted.tree⟩
  · rintro node old rfl
    omega
  · rw [filled.grown.parent planted.grown.arranged known, planted.alone]
  · rw [filled.grown.label id known]
    exact planted.placed
  · have labels := planted.labels.trans filled.labels filled.grown
    simpa [Tree.elements, elementsOf_append] using labels

theorem Planted.filled {between : Store} {tree : Tree} (planted : Planted before between id tree)
    (attached : Attached between after parent id) (known : parent.index < before.nodes.size) :
    Filled before after parent [id] [tree] := by
  have index := planted.index
  have grown : Grown before after (· = parent) :=
    (planted.grown.weaken fun _ => False.elim).attach attached planted.alone (by omega) planted.known
      planted.placed (by omega) fun _ => rfl
  refine ⟨grown, ?_, ?_, ?_, attached.memory.trans planted.memory, ?_⟩
  · rw [attached.children, if_pos rfl, planted.grown.still known not_false]
  · simpa using Nat.le_of_eq index.symm
  · intro node beyond tag attributes found
    rw [attached.label] at found
    simpa [elementsOf] using planted.labels node beyond tag attributes found
  · have same : SameFrom between after id.index := attached.sameFrom (by omega)
    rw [map_singleton, same.tree planted.grown.arranged grown.arranged id (Nat.le_refl _)
      planted.known, planted.tree]

end

end Store

open Store

mutual

theorem addTree_yields {store : Store} (arranged : Arranged store) (owner : NodeId) (tree : Tree) :
    Yields (addTree owner tree) store fun id after => Planted store after id tree := by
  match tree with
  | .element tag attributes children =>
    refine (addNode_yields store (.element tag attributes) owner).bind ?_
    intro id created new
    have planted := new.planted arranged (by simp)
    refine (addTrees_yields planted.grown.arranged owner id planted.known children).bind ?_
    rintro _ after ⟨ids, filled⟩
    exact .pure (planted.inner filled)
  | .text data | .verbatim data | .comment data | .instruction target data =>
    exact (addNode_yields store _ owner).weaken fun _ _ new => new.planted arranged (by simp)

theorem addTrees_yields {store : Store} (arranged : Arranged store) (owner parent : NodeId)
    (known : parent.index < store.nodes.size) (trees : List Tree) :
    Yields (addTrees owner parent trees) store fun _ after =>
      ∃ ids, Filled store after parent ids trees := by
  match trees with
  | [] => exact .pure ⟨[], .nil arranged parent⟩
  | tree :: trees =>
    refine (addTree_yields arranged owner tree).bind ?_
    intro child planted plant
    have index := plant.index
    have parentKnown := Nat.lt_of_lt_of_le known plant.grown.size
    have different : child ≠ parent := by
      rintro rfl
      omega
    have first := plant.filled (relinked_attached parentKnown plant.known different) known
    refine .step (run_modifyNode _ _ _) (.step (run_modifyNode _ _ _) ?_)
    refine (addTrees_yields first.grown.arranged owner parent
      (Nat.lt_of_lt_of_le known first.grown.size) trees).weaken ?_
    rintro _ after ⟨ids, filled⟩
    exact ⟨child :: ids, first.trans filled known⟩

end

theorem Store.Planted.append_leads {store planted : Store} {parent child : NodeId} {tree : Tree}
    (plant : Planted store planted child tree) (known : parent.index < store.nodes.size)
    {failure : Store → Prop} (untagged : store.tag? parent = none → failure planted) :
    Leads (appendChild parent child) planted (fun _ after =>
      Filled store after parent [child] [tree] ∧ Attached planted after parent child) failure := by
  have index := plant.index
  have size := plant.grown.size
  have different : child ≠ parent := by
    rintro rfl
    omega
  refine (appendChild_leads (by omega) plant.known plant.alone different ?_).weaken
    (fun _ _ attached => ⟨plant.filled attached known, attached⟩) fun _ failed => failed
  rw [plant.grown.tag known]
  exact untagged

theorem Store.Planted.append_yields {store planted : Store} {parent child : NodeId} {tree : Tree}
    (plant : Planted store planted child tree) (tagged : (store.tag? parent).isSome) :
    Yields (appendChild parent child) planted fun _ after =>
      Filled store after parent [child] [tree] := by
  refine Yields.weaken (Leads.yields (plant.append_leads (bound_of_tag tagged) fun untagged => ?_))
    fun _ _ reached => reached.1
  simp [untagged] at tagged

theorem empty_arranged : Arranged {} := by
  refine ⟨?_, ?_, ?_, ?_⟩
  all_goals simp [children, parent?, node?]

theorem addDocument_yields (trees : List Tree) : Yields (addDocument trees) {} fun document store =>
      document = ⟨⟨0⟩, 0⟩ ∧ Arranged store ∧ document.root.index < store.nodes.size ∧
        store.memory = memory {} := by
  refine .step (run_get _) (.bind (addNode_yields {} .document ⟨0⟩) ?_)
  intro root created new
  have size : created.nodes.size = 1 := new.size
  refine .bind (addTrees_yields (new.arranged empty_arranged) _ ⟨0⟩ (by rw [size]; simp) trees) ?_
  rintro _ store ⟨ids, filled⟩
  have grown := filled.grown.size
  exact .pure ⟨rfl, filled.grown.arranged, Nat.lt_of_lt_of_le (by simp [size]) grown,
    filled.memory.trans new.memory⟩

end ParallelFortran.Xml
