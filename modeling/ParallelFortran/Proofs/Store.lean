import ParallelFortran.Proofs.Action
import ParallelFortran.Xml.Store

/-! What each change of a store does to its nodes, and what it leaves alone. -/

namespace ParallelFortran.Xml

open List

theorem Attributes.value_set (attributes : Attributes) (name other : String)
    (given : Option String) :
    (attributes.set name given).value other =
      if other = name then given else attributes.value other := by
  have sameKey : (fun entry : String × Option String => entry.1 == other) ∘
      (fun entry => if entry.1 == name then (name, given) else entry) =
      fun entry => entry.1 == other := by
    funext entry
    by_cases isName : entry.1 = name <;> simp [isName]
  by_cases present : attributes.any fun entry => entry.1 == name
  · rw [Attributes.set, if_pos present, Attributes.value, find?_map, sameKey]
    cases found : attributes.find? fun entry => entry.1 == other with
    | none =>
      have absent : other ≠ name := by
        rintro rfl
        rw [any_eq_true, ← find?_isSome, found] at present
        simp at present
      simp [Attributes.value, found, absent]
    | some entry =>
      have key : entry.1 = other := by simpa using find?_some found
      by_cases same : other = name <;> simp [Attributes.value, found, key, same]
  · rw [Attributes.set, if_neg present, Attributes.value]
    by_cases same : other = name
    · subst same
      rw [any_eq_true, ← find?_isSome, Option.not_isSome_iff_eq_none] at present
      simp [present]
    · simp [Attributes.value, Ne.symm same, same]

namespace Store

theorem node?_push (store : Store) (node : Node) (id : NodeId) :
    node? { store with nodes := store.nodes.push node } id =
      if id.index = store.nodes.size then some node else store.node? id := by
  simp [node?, Array.getElem?_push]

theorem node?_modify (store : Store) (changed id : NodeId) (change : Node → Node) :
    node? { store with nodes := store.nodes.modify changed.index change } id =
      if id = changed then (store.node? id).map change else store.node? id := by
  simp only [node?, Array.getElem?_modify]
  by_cases same : id = changed
  · simp [same]
  · have different : changed.index ≠ id.index := by
      intro equal
      cases changed
      simp_all
    simp [same, different]

theorem node?_modify_both (store : Store) {parent child : NodeId} (different : child ≠ parent)
    (changeParent changeChild : Node → Node) (id : NodeId) :
    node? { store with nodes :=
        (store.nodes.modify parent.index changeParent).modify child.index changeChild } id =
      if id = child then (store.node? id).map changeChild
      else if id = parent then (store.node? id).map changeParent
      else store.node? id := by
  rw [node?_modify { store with nodes := store.nodes.modify parent.index changeParent } child id,
    node?_modify]
  by_cases isChild : id = child
  · subst isChild
    simp [different]
  · simp [isChild]

variable {store : Store} {id : NodeId}

theorem exists_node (bound : id.index < store.nodes.size) : ∃ node, store.node? id = some node :=
  ⟨store.nodes[id.index], by simp [node?]⟩

section

variable (beyond : store.nodes.size ≤ id.index)

include beyond

theorem node?_beyond : store.node? id = none := by
  simp [node?, beyond]

theorem children_beyond : store.children id = [] := by
  simp [children, node?_beyond beyond]

theorem tag?_beyond : store.tag? id = none := by
  simp [tag?, label, node?_beyond beyond]

end

theorem value_untagged (untagged : store.tag? id = none) (name : String) :
    store.value id name = "" := by
  rw [tag?] at untagged
  split at untagged
  · cases untagged
  · simp [value, value?, attributes, Attributes.value]

theorem value_beyond (beyond : store.nodes.size ≤ id.index) (name : String) :
    store.value id name = "" :=
  value_untagged (tag?_beyond beyond) name

variable {before after : Store} {other : NodeId}

section

variable (same : after.label id = before.label other)

include same

theorem tag?_congr : after.tag? id = before.tag? other := by
  simp [tag?, same]

theorem value?_congr (name : String) : after.value? id name = before.value? other name := by
  simp [value?, attributes, same]

theorem value_congr (name : String) : after.value id name = before.value other name := by
  simp [value, value?_congr same]

end

theorem bound_of_tag (tagged : (store.tag? id).isSome) : id.index < store.nodes.size := by
  apply Nat.lt_of_not_le
  intro beyond
  rw [tag?_beyond beyond] at tagged
  simp at tagged

def memory (store : Store) :
    Table (Document × String) NodeId × Table (Document × String) (Table String NodeId) :=
  (store.sections, store.libraries)

section

variable (before after : Store)

structure Created (id : NodeId) (given : Label) : Prop where
  size : after.nodes.size = before.nodes.size + 1
  index : id.index = before.nodes.size
  label : ∀ node, after.label node = if node = id then given else before.label node
  children : ∀ node, after.children node = before.children node
  parent : ∀ node, after.parent? node = before.parent? node
  memory : after.memory = before.memory

structure Attached (parent child : NodeId) : Prop where
  size : after.nodes.size = before.nodes.size
  label : ∀ node, after.label node = before.label node
  children : ∀ node, after.children node =
    if node = parent then before.children node ++ [child] else before.children node
  parent : ∀ node, after.parent? node = if node = child then some parent else before.parent? node
  memory : after.memory = before.memory

structure Detached (parent child : NodeId) : Prop where
  size : after.nodes.size = before.nodes.size
  label : ∀ node, after.label node = before.label node
  children : ∀ node, after.children node =
    if node = parent then (before.children node).filter (· != child) else before.children node
  parent : ∀ node, after.parent? node = if node = child then none else before.parent? node

structure Assigned (id : NodeId) (name : String) (given : Option String) : Prop where
  size : after.nodes.size = before.nodes.size
  label : ∀ node, node ≠ id → after.label node = before.label node
  changed : ∃ tag attributes, before.label id = .element tag attributes ∧
    after.label id = .element tag (attributes.set name given)
  children : ∀ node, after.children node = before.children node
  parent : ∀ node, after.parent? node = before.parent? node
  memory : after.memory = before.memory

end

variable {name : String} {given : Option String}

theorem Assigned.tag (assigned : Assigned before after id name given) (node : NodeId) :
    after.tag? node = before.tag? node := by
  by_cases same : node = id
  · obtain ⟨tag, attributes, old, new⟩ := assigned.changed
    rw [same, tag?, tag?, old, new]
  · exact tag?_congr (assigned.label node same)

theorem Assigned.attributes (assigned : Assigned before after id name given) :
    after.attributes id = (before.attributes id).set name given := by
  obtain ⟨tag, attributes, old, new⟩ := assigned.changed
  rw [Store.attributes, Store.attributes, old, new]

theorem Created.label_self {given : Label} (created : Created before after id given) :
    after.label id = given := by
  rw [created.label, if_pos rfl]

theorem Created.label_old {given : Label} (created : Created before after id given) {node : NodeId}
    (known : node.index < before.nodes.size) : after.label node = before.label node := by
  rw [created.label, if_neg]
  rintro rfl
  exact absurd created.index (Nat.ne_of_lt known)

theorem Created.assigned {between : Store} {tag : String}
    (created : Created before between id (.element tag []))
    (assigned : Assigned between after id name given) :
    Created before after id (.element tag [(name, given)]) := by
  refine ⟨assigned.size.trans created.size, created.index, ?_, ?_, ?_,
    assigned.memory.trans created.memory⟩
  · intro node
    by_cases same : node = id
    · obtain ⟨found, attributes, old, new⟩ := assigned.changed
      rw [created.label_self] at old
      cases old
      rw [same, new, if_pos rfl]
      rfl
    · rw [assigned.label node same, created.label, if_neg same, if_neg same]
  · intro node
    rw [assigned.children, created.children]
  · intro node
    rw [assigned.parent, created.parent]

theorem pushed_created (store : Store) (given : Label) (owner : NodeId) :
    Created store { store with nodes := store.nodes.push { label := given, owner } }
      ⟨store.nodes.size⟩ given := by
  have unknown : store.node? ⟨store.nodes.size⟩ = none := node?_beyond (Nat.le_refl _)
  refine ⟨by simp, rfl, ?_, ?_, ?_, rfl⟩
  all_goals
    intro node
    by_cases new : node = ⟨store.nodes.size⟩
    · subst new
      simp [label, children, parent?, node?_push, unknown]
    · have other : node.index ≠ store.nodes.size := by
        intro same
        cases node
        simp_all
      simp [label, children, parent?, node?_push, other, new]

end Store

open Store

theorem addNode_yields (store : Store) (given : Label) (owner : NodeId) :
    Yields (addNode given owner) store fun id after => Created store after id given :=
  ⟨_, _, rfl, pushed_created store given owner⟩

theorem run_modifyNode (store : Store) (id : NodeId) (change : Node → Node) :
    (modifyNode id change).run store =
      (.ok (), { store with nodes := store.nodes.modify id.index change }) :=
  rfl

variable {store : Store}

theorem setAttributeValue_yields {id : NodeId} (name : String) (given : Option String)
    (tagged : (store.tag? id).isSome) :
    Yields (setAttributeValue id name given) store fun _ after =>
      Assigned store after id name given := by
  refine ⟨(), _, run_modifyNode _ _ _, ?_⟩
  obtain ⟨node, found⟩ := exists_node (bound_of_tag tagged)
  have labelled : ∃ tag attributes, node.label = .element tag attributes := by
    simp only [tag?, label] at tagged
    cases shape : node.label <;> simp_all
  obtain ⟨tag, attributes, labelled⟩ := labelled
  refine ⟨by simp, ?_, ⟨tag, attributes, ?_, ?_⟩, ?_, ?_, rfl⟩
  · intro other different
    simp [label, node?_modify, different]
  · simp [label, found, labelled]
  · simp [label, node?_modify, found, labelled]
  · intro other
    by_cases same : other = id
    · subst same
      simp [children, node?_modify, found, labelled]
    · simp [children, node?_modify, same]
  · intro other
    by_cases same : other = id
    · subst same
      simp [parent?, node?_modify, found, labelled]
    · simp [parent?, node?_modify, same]

variable {child : NodeId}

theorem detach_alone (alone : store.parent? child = none) :
    (detach child).run store = (.ok (), store) := by
  simp [detach, run_bind, run_get, alone, run_pure]

variable {parent : NodeId}

theorem relinked_attached (parentKnown : parent.index < store.nodes.size)
    (childKnown : child.index < store.nodes.size) (different : child ≠ parent) :
    Attached store { store with nodes := (store.nodes.modify parent.index fun node =>
      { node with children := node.children.push child }).modify child.index fun node =>
      { node with parent := some parent } } parent child := by
  obtain ⟨parentNode, parentFound⟩ := exists_node parentKnown
  obtain ⟨childNode, childFound⟩ := exists_node childKnown
  refine ⟨by simp, ?_, ?_, ?_, rfl⟩
  all_goals
    intro node
    simp only [label, children, parent?, node?_modify_both store different]
    by_cases isChild : node = child
    · subst isChild
      simp [different, childFound]
    · by_cases isParent : node = parent
      · subst isParent
        simp [isChild, parentFound]
      · simp [isChild, isParent]

/-- Only elements take every node. -/
theorem appendChild_leads (parentKnown : parent.index < store.nodes.size)
    (known : child.index < store.nodes.size) (alone : store.parent? child = none)
    (different : child ≠ parent) {failure : Store → Prop}
    (untagged : store.tag? parent = none → failure store) :
    Leads (appendChild parent child) store (fun _ after => Attached store after parent child)
      failure := by
  have attached := relinked_attached parentKnown known different
  have rest : Leads (do
      detach child
      modifyNode parent fun node => { node with children := node.children.push child }
      modifyNode child fun node => { node with parent := some parent }) store
      (fun _ after => Attached store after parent child) failure := by
    refine .step (detach_alone alone) (.step (run_modifyNode _ _ _) ?_)
    exact Yields.leads ⟨(), _, run_modifyNode _ _ _, attached⟩ _
  refine .step (run_get store) ?_
  split
  · exact rest
  · next shape _ =>
    split
    · exact .thrown (untagged (by rw [tag?, shape]))
    · exact rest
  · exact rest
  · exact rest
  · next other _ _ _ =>
    refine .thrown (untagged ?_)
    rw [tag?]
    split
    · next shape => exact (other _ _ shape).elim
    · rfl

theorem removeChild_yields (member : child ∈ store.children parent)
    (linked : store.parent? child = some parent) (different : child ≠ parent) :
    Yields (removeChild parent child) store fun _ after => Detached store after parent child := by
  have parentKnown : ∃ node, store.node? parent = some node := by
    cases found : store.node? parent with
    | none => simp [children, found] at member
    | some node => exact ⟨node, rfl⟩
  have childKnown : ∃ node, store.node? child = some node := by
    cases found : store.node? child with
    | none => simp [parent?, found] at linked
    | some node => exact ⟨node, rfl⟩
  obtain ⟨parentNode, parentFound⟩ := parentKnown
  obtain ⟨childNode, childFound⟩ := childKnown
  refine ⟨(), { store with nodes := (store.nodes.modify parent.index fun node =>
      { node with children := node.children.filter (· != child) }).modify child.index fun node =>
      { node with parent := none } }, ?_, ?_⟩
  · have contained : (store.children parent).contains child = true := by simpa using member
    simp only [removeChild, run_bind, run_get, if_pos contained, detach, linked, run_modifyNode]
  · refine ⟨by simp, ?_, ?_, ?_⟩
    all_goals
      intro node
      simp only [label, children, parent?, node?_modify_both store different]
      by_cases isChild : node = child
      · subst isChild
        simp [different, childFound]
      · by_cases isParent : node = parent
        · subst isParent
          simp [isChild, parentFound]
        · simp [isChild, isParent]

structure Store.Kept (changed : Option NodeId) (before after : Store) : Prop where
  size : before.nodes.size ≤ after.nodes.size
  label : ∀ node, node.index < before.nodes.size → some node ≠ changed →
    after.label node = before.label node

variable {changed : Option NodeId}

variable {node : NodeId}

theorem Store.Kept.assigned {before between after : Store}
    (kept : Kept none before between) (assigned : Kept (some node) between after)
    (new : before.nodes.size ≤ node.index) : Kept none before after := by
  refine ⟨Nat.le_trans kept.size assigned.size, fun other old _ => ?_⟩
  rw [assigned.label other (Nat.lt_of_lt_of_le old kept.size), kept.label other old (by simp)]
  intro same
  cases same
  exact absurd old (Nat.not_lt.mpr new)

variable {before after : Store}

theorem Store.Kept.value (kept : Kept changed before after)
    (old : node.index < before.nodes.size) (other : some node ≠ changed) (name : String) :
    after.value node name = before.value node name :=
  value_congr (kept.label node old other) name

instance : IsPreorder Store (Kept changed) where
  refl _ := ⟨Nat.le_refl _, fun _ _ _ => rfl⟩
  trans _ _ _ first second :=
    ⟨Nat.le_trans first.size second.size, fun node old other =>
      (second.label node (Nat.lt_of_lt_of_le old first.size) other).trans (first.label node old other)⟩

theorem Store.Created.kept {id : NodeId} {given : Label}
    (created : Created before after id given) : Kept changed before after :=
  ⟨by rw [created.size]; exact Nat.le_succ _, fun _ old _ => created.label_old old⟩

theorem modifyNode_kept (id : NodeId) {change : Node → Node}
    (same : ∀ node, (change node).label = node.label ∨ changed = some id) :
    Advances (Kept changed) (modifyNode id change) := by
  refine .modified fun store => ⟨by simp, fun node _ other => ?_⟩
  rw [label, node?_modify]
  split
  · next isChanged =>
    cases found : store.node? node with
    | none => simp [label, found]
    | some given =>
      rcases same given with kept | rfl
      · simp [label, found, kept]
      · exact absurd (congrArg some isChanged) other
  · rfl

theorem modifyNode_yields (id : NodeId) {change : Node → Node}
    (same : ∀ node, (change node).label = node.label) (store : Store) :
    Yields (modifyNode id change) store fun _ after => Kept none store after :=
  ⟨(), _, rfl, (modifyNode_kept id fun node => .inl (same node)).follows store⟩

mutual

theorem addTree_kept (owner : NodeId) (tree : Tree) (store : Store) :
    Yields (addTree owner tree) store fun _ after => Kept none store after := by
  match tree with
  | .element tag attributes children =>
    refine (addNode_yields store _ owner).bind fun id between created => ?_
    refine (addTrees_kept owner id children between).bind fun _ after kept => .pure ?_
    exact trans_of (Kept none) created.kept kept
  | .text data | .verbatim data | .comment data | .instruction target data =>
    exact (addNode_yields store _ owner).weaken fun _ _ created => created.kept

theorem addTrees_kept (owner parent : NodeId) (trees : List Tree) (store : Store) :
    Yields (addTrees owner parent trees) store fun _ after => Kept none store after := by
  match trees with
  | [] => exact .pure (refl_of (Kept none) store)
  | tree :: trees =>
    refine (addTree_kept owner tree store).bind fun child between first => ?_
    refine .bind (modifyNode_yields parent (fun _ => by rfl) between) fun _ linked second => ?_
    refine .bind (modifyNode_yields child (fun _ => by rfl) linked) fun _ placed third => ?_
    refine (addTrees_kept owner parent trees placed).weaken fun _ after others => ?_
    exact trans_of (Kept none) (trans_of (Kept none) first second) (trans_of (Kept none) third others)

end

structure Store.IsClone (before : Store) (node copy : NodeId) (after : Store) : Prop where
  kept : Kept none before after
  index : copy.index = before.nodes.size
  known : copy.index < after.nodes.size
  value : ∀ name, after.value copy name = before.value node name

variable (store : Store)

theorem cloneNode_isClone (node : NodeId) :
    Yields (cloneNode node) store (IsClone store node) := by
  have added : ∀ {given copy between}, Created store between copy given →
      copy.index < between.nodes.size := by
    intro given copy between created
    rw [created.size, created.index]
    exact Nat.lt_succ_self _
  have leaf : ∀ given, store.label node = given →
      Yields (addNode given (store.owner node).root) store (IsClone store node) := by
    rintro _ rfl
    refine (addNode_yields store _ _).weaken fun copy after created => ?_
    exact ⟨created.kept, created.index, added created,
      fun name => value_congr created.label_self name⟩
  have branch : ∀ tag attributes trees, store.attributes node = attributes →
      Yields (addTree (store.owner node).root (.element tag attributes trees)) store
        (IsClone store node) := by
    rintro tag _ trees rfl
    refine .bind (addNode_yields store _ _) fun copy between created => ?_
    refine .bind (addTrees_kept _ copy trees between) fun _ after kept => .pure ?_
    have label := kept.label copy (added created) (by simp)
    rw [created.label_self] at label
    refine ⟨trans_of (Kept none) created.kept kept, created.index,
      Nat.lt_of_lt_of_le (added created) kept.size, fun name => ?_⟩
    simp [Store.value, value?, Store.attributes, label]
  refine .step (run_get store) ?_
  rw [tree, treeLoop]
  split
  · next shape => exact branch _ _ _ (by rw [Store.attributes, shape])
  · next shape => exact branch _ _ _ (by rw [Store.attributes, shape])
  · next shape => exact leaf _ shape
  · next shape => exact leaf _ shape
  · next shape => exact leaf _ shape
  · next shape => exact leaf _ shape

theorem setAttribute_kept (id : NodeId) (name given : String) :
    Yields (setAttribute id name given) store fun _ after => Kept (some id) store after :=
  ⟨(), _, rfl, (modifyNode_kept id fun _ => .inr rfl).follows store⟩

end ParallelFortran.Xml
