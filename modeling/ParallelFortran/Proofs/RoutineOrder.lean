import ParallelFortran.Proofs.RegionAnalysis

/-! The order of the routines in a document has no bearing on the analysis of its regions, as long as
no kernel reaches another one. -/

namespace ParallelFortran.CallGraph

open List Xml Xml.Store RegionAnalysis Relation

/-- A document with the same elements. Only around routines they may stand in another order, and
the templates may not. -/
structure Reordered (document : Document) (store other : Store) : Prop where
  size : other.nodes.size = store.nodes.size
  label : other.label = store.label
  parent : other.parent? = store.parent?
  children : ∀ node, (other.children node).Perm (store.children node)
  others : ∀ node, (∀ child ∈ store.children node, store.tag? child ≠ some "routine") →
    other.children node = store.children node
  templates : templateNodes other document = templateNodes store document

namespace Reordered

variable {store other : Store} {document : Document} {architecture tag : String} {id node : NodeId}
  (reordered : Reordered document store other)

include reordered

theorem tag?_eq : other.tag? = store.tag? :=
  funext fun node => tag?_congr (congrFun reordered.label node)

theorem value_eq : other.value = store.value :=
  funext fun node => funext fun name => value_congr (congrFun reordered.label node) name

theorem below_iff : Below other id node ↔ Below store id node :=
  ⟨.mono (fun parent => (reordered.children parent).subset) (congrFun reordered.tag?_eq.symm),
    .mono (fun parent => (reordered.children parent).symm.subset) (congrFun reordered.tag?_eq)⟩

theorem template? (id : String) : template? other document id = template? store document id := by
  rw [CallGraph.template?, reordered.templates, reordered.value_eq, CallGraph.template?]

section

variable (arranged : Arranged store)

include arranged

theorem other_arranged : Arranged other := by
  constructor
  all_goals simp only [(reordered.children _).mem_iff, (reordered.children _).nodup_iff,
    reordered.size, reordered.parent, reordered.label]
  case later => exact arranged.later
  case linked => exact arranged.linked
  case distinct => exact arranged.distinct
  case placed => exact arranged.placed

theorem descendants (id : NodeId) (particular : tag ≠ "*") :
    (other.descendants id tag).Perm (store.descendants id tag) := by
  have arrangedToo := reordered.other_arranged arranged
  refine (perm_ext_iff_of_nodup (descendants_nodup arrangedToo id particular)
    (descendants_nodup arranged id particular)).mpr fun node => ?_
  rw [mem_descendants arrangedToo particular, mem_descendants arranged particular,
    reordered.below_iff, reordered.tag?_eq]

theorem mem_iff (particular : tag ≠ "*") :
    node ∈ other.descendants id tag ↔ node ∈ store.descendants id tag :=
  (reordered.descendants arranged id particular).mem_iff

theorem calls : Calls other document = Calls store document := by
  funext caller callee
  simp (disch := decide) [Calls, routineNodes, callNodes, reordered.value_eq,
    reordered.mem_iff arranged]

theorem reaches : Reaches other document = Reaches store document := by
  rw [Reaches, reordered.calls arranged, Reaches]

theorem callsFromRegion : CallsFromRegion other document = CallsFromRegion store document := by
  funext caller callee
  simp (disch := decide) [CallsFromRegion, routineNodes, callNodes, reordered.value_eq,
    reordered.mem_iff arranged]

end

variable (graph : CallGraphDocument store document)

include graph

theorem untouched {template : NodeId} (known : template ∈ templateNodes store document) :
    Untouched store other template := by
  have free := (descendants_eq_nil graph.arranged (by decide)).mp (graph.templates template known)
  have label := congrFun reordered.label
  refine ⟨graph.arranged, reordered.other_arranged graph.arranged,
    ⟨fun node _ => tag?_congr (label node), fun node place => ?_⟩, label _, fun _ _ child _ => label child⟩
  refine reordered.others node fun child member isRoutine => ?_
  have below : Below store node child := .child member (by simp [isRoutine])
  rcases place with rfl | upper
  · exact free child below isRoutine
  · exact free child (upper.trans below) isRoutine

theorem entry_tree {template setting entry : NodeId} (known : template ∈ templateNodes store document)
    (set : setting ∈ store.descendants template "appliesTo")
    (listed : entry ∈ store.descendants setting "entry") : other.tree entry = store.tree entry := by
  obtain ⟨upper, _⟩ := (mem_descendants graph.arranged (by decide)).mp set
  obtain ⟨lower, _⟩ := (mem_descendants graph.arranged (by decide)).mp listed
  exact ((reordered.untouched graph known).within (upper.trans lower)).tree lower.tagged

theorem wanted : Wanted other document architecture = Wanted store document architecture := by
  funext id
  refine propext (exists_congr fun template => ?_)
  rw [reordered.template?]
  refine and_congr_right fun found => ?_
  have known := mem_of_find?_eq_some found
  rw [Applies, Applies, (reordered.untouched graph known).descendants]
  cases given : store.descendants template "appliesTo" with
  | nil => rfl
  | cons setting =>
    refine exists_congr fun entry => ?_
    rw [reordered.mem_iff graph.arranged (by decide)]
    refine and_congr_right fun listed => ?_
    rw [reordered.entry_tree graph known (by simp [given]) listed]

theorem keeps : Keeps other document architecture = Keeps store document architecture := by
  funext routine id
  simp (disch := decide) [Keeps, reordered.value_eq, reordered.wanted graph,
    reordered.mem_iff graph.arranged]

theorem isKernel : IsKernel other document architecture = IsKernel store document architecture := by
  funext routine
  rw [IsKernel, reordered.keeps graph, IsKernel]

theorem other_graph : CallGraphDocument other document := by
  have empty : ∀ id {tag}, tag ≠ "*" →
      (other.descendants id tag = [] ↔ store.descendants id tag = []) := by
    intro id tag particular
    rw [← perm_nil, ← perm_nil]
    exact ⟨(reordered.descendants graph.arranged id particular).symm.trans,
      (reordered.descendants graph.arranged id particular).trans⟩
  constructor
  case arranged => exact reordered.other_arranged graph.arranged
  case unanalysed => exact (empty _ (by decide)).mpr graph.unanalysed
  all_goals simp (disch := decide) only [routineNodes, templateNodes, ne_eq, empty,
    reordered.mem_iff graph.arranged, (reordered.children _).mem_iff, reordered.value_eq,
    reordered.template?]
  case routines => exact graph.routines
  case templates => exact graph.templates
  case regions => exact graph.regions
  case listed => exact graph.listed
  case relations => exact graph.relations
  case settings =>
    intro template known setting set entry listed
    rw [reordered.entry_tree graph known set listed]
    exact graph.settings template known setting set entry listed
  case single =>
    intro routine known
    rw [(reordered.descendants graph.arranged routine (by decide)).length_eq]
    exact graph.single routine known

theorem net_eq : net other document architecture = net store document architecture := by
  have routines : (· ∈ routineNodes other document) = (· ∈ routineNodes store document) :=
    funext fun _ => propext (reordered.mem_iff graph.arranged (by decide))
  rw [net, routines, reordered.calls graph.arranged, reordered.callsFromRegion graph.arranged,
    reordered.keeps graph]

end Reordered

theorem Analysable.reordered {store other : Store} {document : Document} {architecture : String}
    (analysable : Analysable store document architecture) (reordered : Reordered document store other) :
    Analysable other document architecture := by
  have routines := reordered.descendants analysable.graph.arranged document.root
    (by decide : "routine" ≠ "*")
  refine ⟨reordered.other_graph analysable.graph, ?_, fun routine known => ?_, ?_, ?_⟩
  · rw [reordered.value_eq]
    exact (routines.map _).nodup_iff.mpr analysable.unique
  · rw [positionOf, reordered.value_eq]
    exact analysable.unplaced routine (routines.mem_iff.mp known)
  · rw [reordered.reaches analysable.graph.arranged]
    exact analysable.acyclic
  · rw [reordered.isKernel analysable.graph, reordered.reaches analysable.graph.arranged]
    exact analysable.separate

theorem Located.determined {net : Net} {now again : Store} {routine : NodeId}
    (first : Located net now net.kernels) (second : Located net again net.kernels)
    (known : net.routine routine) : positionOf again routine = positionOf now routine ∧
      ∀ id, id ∈ activeIds again routine ↔ id ∈ activeIds now routine := by
  by_cases isKernel : net.kernel routine
  · obtain ⟨position, own⟩ := first.finished routine ⟨isKernel, known⟩
    obtain ⟨samePosition, sameOwn⟩ := second.finished routine ⟨isKernel, known⟩
    exact ⟨samePosition.trans position.symm, fun id => (sameOwn id).trans (own id).symm⟩
  refine ⟨?_, fun id => (second.ids routine known isKernel id).trans
    (first.ids routine known isKernel id).symm⟩
  by_cases concerned : ∃ kernel, net.kernels kernel ∧ net.concerned routine kernel
  · obtain ⟨kernel, isKnown, side, lies⟩ := concerned
    rw [second.position routine known isKernel kernel isKnown side lies,
      first.position routine known isKernel kernel isKnown side lies]
  · have unconcerned := fun kernel isKnown path => concerned ⟨kernel, isKnown, path⟩
    rw [second.elsewhere routine known isKernel unconcerned,
      first.elsewhere routine known isKernel unconcerned]

/-- In a call graph without cycles, where no kernel reaches another one, every order of the routines
gives them the same positions and the same active templates. -/
theorem analyse_reordered (store other : Store) (document : Document) (architecture : String)
    (analysable : Analysable store document architecture)
    (reordered : Reordered document store other) :
    ∃ result again, ExceptT.run (analyse architecture) { store, document } = (.ok (), result) ∧
      ExceptT.run (analyse architecture) { store := other, document } = (.ok (), again) ∧
      ∀ routine ∈ routineNodes store document,
        positionOf again.store routine = positionOf result.store routine ∧
        ∀ id, id ∈ activeIds again.store routine ↔ id ∈ activeIds result.store routine := by
  have first : Yields (analyse architecture) { store, document } _ := analyse_yields analysable
  have second : Yields (analyse architecture) { store := other, document } _ :=
    analyse_yields (analysable.reordered reordered)
  obtain ⟨_, result, run, located⟩ := first
  obtain ⟨_, again, rerun, relocated⟩ := second
  rw [reordered.net_eq analysable.graph] at relocated
  exact ⟨result, again, run, rerun, fun routine known => located.determined relocated known⟩

def withChildren (store : Store) (parent : NodeId) (children : List NodeId) : Store :=
  { store with nodes := store.nodes.modify parent.index fun node =>
      { node with children := children.toArray } }

theorem reordered_withChildren {store : Store} {document : Document} {parent : NodeId}
    {children : List NodeId} (permuted : children.Perm (store.children parent))
    (routine : ∃ child ∈ store.children parent, store.tag? child = some "routine")
    (templates : templateNodes (withChildren store parent children) document =
      templateNodes store document) :
    Reordered document store (withChildren store parent children) := by
  have found := fun node => node?_modify store parent node fun node =>
    { node with children := children.toArray }
  have same : ∀ node, node ≠ parent →
      (withChildren store parent children).children node = store.children node := by
    intro node different
    rw [withChildren, Store.children, found, if_neg different, Store.children]
  refine ⟨by simp [withChildren], funext fun node => ?_, funext fun node => ?_, fun node => ?_,
    fun node free => same node ?_, templates⟩
  · rw [withChildren, Store.label, found, Store.label]
    split <;> cases store.node? node <;> rfl
  · rw [withChildren, Store.parent?, found, Store.parent?]
    split <;> cases store.node? node <;> rfl
  · by_cases isParent : node = parent
    · rw [isParent, withChildren, Store.children, found]
      cases known : store.node? parent with
      | none => simp [Store.children, known]
      | some => simpa [known] using permuted
    · rw [same node isParent]
  · rintro rfl
    obtain ⟨child, member, isRoutine⟩ := routine
    exact free child member isRoutine

def turnedStore : Store := withChildren smallStore ⟨2⟩ (smallStore.children ⟨2⟩).reverse

theorem analyse_reordered_smallProgram :
    ∃ result again, ExceptT.run (analyse "GPU") { store := smallStore, document := smallDocument } =
        (.ok (), result) ∧
      (analyse "GPU").run { store := turnedStore, document := smallDocument } =
        (.ok (), again) ∧
      ∀ routine ∈ routineNodes smallStore smallDocument,
        positionOf again.store routine = positionOf result.store routine ∧
        ∀ id, id ∈ activeIds again.store routine ↔ id ∈ activeIds result.store routine :=
  analyse_reordered smallStore turnedStore smallDocument "GPU"
    ⟨smallStore_graph, by decide +kernel, by decide +kernel, smallStore_acyclic, smallStore_separate⟩
    (reordered_withChildren (reverse_perm _) (by decide +kernel) (by decide +kernel))

end ParallelFortran.CallGraph
