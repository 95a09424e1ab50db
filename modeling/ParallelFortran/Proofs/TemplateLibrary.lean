import Mathlib.Data.List.Find
import ParallelFortran.Proofs.RegionMarks
import ParallelFortran.Proofs.TemplateEquality
import ParallelFortran.Proofs.TemplateIndex

/-! What the libraries of a document hold while specifications are recorded. Every step of a recording
is described by its effect on the templates on the shelves: at most one is added, and none changes. -/

open List

namespace ParallelFortran

namespace CallGraph

open Xml Xml.Store

deriving instance DecidableEq for TemplateKind

theorem TemplateKind.apart : ∀ kind ∈ TemplateKind.all, ∀ other ∈ TemplateKind.all,
    kind.tag ≠ other.library ∧ kind.references ≠ other.library ∧ kind.references ≠ other.tag ∧
      (kind ≠ other → kind.library ≠ other.library) := by
  decide

structure Fresh (store : Store) (document : Document) (outermost : NodeId) : Prop
    extends Untold store document where
  unfrozen : document.frozen = false
  root : store.label document.root = .document
  outermost : store.rootElement? document.root = some outermost
  empty : ∀ kind ∈ TemplateKind.all, store.descendants document.root kind.library = []

structure Shelved where
  kind : TemplateKind
  template : NodeId
  id : String
  settings : List Setting

variable (document : Document)

structure Unused (store : Store) (stock : List Shelved) (kind : TemplateKind) : Prop where
  forgotten : store.sections.get? (document, kind.library) = none
  absent : store.descendants document.root kind.library = []
  unlisted : ∀ item ∈ stock, item.kind ≠ kind

structure Shelf (outermost : NodeId) (start store : Store) (stock : List Shelved)
    (kind : TemplateKind) (library : NodeId) : Prop where
  remembered : store.sections.get? (document, kind.library) = some library
  new : start.nodes.size ≤ library.index
  inside : library ∈ store.children outermost
  tag : store.tag? library = some kind.library
  children : store.children library =
    (stock.filter fun item => item.kind = kind).map Shelved.template

structure Stocked (outermost : NodeId) (kinds : List TemplateKind) (start store : Store)
    (stock : List Shelved) : Prop where
  fresh : Fresh start document outermost
  usual : kinds ⊆ TemplateKind.all
  extended : Extended start store
  shelves : ∀ kind ∈ kinds, Unused document store stock kind ∨
    ∃ library, Shelf document outermost start store stock kind library
  listed : ∀ item ∈ stock, item.kind ∈ kinds
  trees : ∀ item ∈ stock, store.tree item.template =
    templateTree item.kind.tag item.id item.settings
  proper : ∀ item ∈ stock, ProperSettings item.settings
  ids : (stock.map Shelved.id).Nodup
  distinct : stock.Pairwise fun item other =>
    item.kind = other.kind → ¬ SameSettings item.settings other.settings

variable {document : Document}

namespace Fresh

variable {store : Store} {document : Document} {outermost : NodeId}

theorem outermost_child (fresh : Fresh store document outermost) :
    outermost ∈ store.children document.root ∧ (store.tag? outermost).isSome :=
  ⟨mem_of_find?_eq_some fresh.outermost, (rootElement?_below fresh.outermost).1⟩

theorem stocked (fresh : Fresh store document outermost) {kinds : List TemplateKind}
    (usual : kinds ⊆ TemplateKind.all) : Stocked document outermost kinds store store [] := by
  refine ⟨fresh, usual, .refl fresh.arranged _, ?_, ?_, ?_, ?_, .nil, .nil⟩
  · intro kind member
    exact .inl ⟨fresh.sections _, fresh.empty kind (usual member), forall_mem_nil _⟩
  all_goals exact forall_mem_nil _

end Fresh

section Growing

variable {outermost : NodeId} {start store after : Store} {stock : List Shelved}
  {kind : TemplateKind} {growing : NodeId → Prop} {elements : List (String × Attributes)}

theorem Unused.grow (unused : Unused document store stock kind) (usual : kind ∈ TemplateKind.all)
    (arranged : Arranged store) (known : document.root.index < store.nodes.size)
    (grown : Grown store after growing) (new : NewLabels store after elements)
    (free : kind.library ∉ elements.map Prod.fst)
    (sections : after.sections.get? (document, kind.library) =
      store.sections.get? (document, kind.library)) : Unused document after stock kind := by
  refine ⟨by rw [sections, unused.forgotten], ?_, unused.unlisted⟩
  rw [grown.descendants_other arranged (TemplateKind.particular kind usual).1 known (new.other free),
    unused.absent]

variable {library : NodeId}

section

variable (shelf : Shelf document outermost start store stock kind library)

include shelf

theorem Shelf.grow
    (arranged : Arranged store) (grown : Grown store after growing) (other : ¬ growing library)
    (sections : after.sections.get? (document, kind.library) =
      store.sections.get? (document, kind.library)) :
    Shelf document outermost start after stock kind library := by
  have later := arranged.later _ _ shelf.inside
  refine ⟨by rw [sections, shelf.remembered], shelf.new, ?_, ?_, ?_⟩
  · exact (grown.mem_children_iff (by omega) later.2).mpr shelf.inside
  · rw [grown.tag later.2, shelf.tag]
  · rw [grown.still later.2 other, shelf.children]

theorem Shelf.used
    (unused : Unused document store stock kind) : False := by
  have forgotten := unused.forgotten
  rw [shelf.remembered] at forgotten
  cases forgotten

end

end Growing

namespace Stocked

variable {outermost : NodeId} {kinds : List TemplateKind} {start store after : Store}
  {stock : List Shelved} {item : Shelved}
  (stocked : Stocked document outermost kinds start store stock)

include stocked

section

variable (member : item ∈ stock)

include member

theorem place :
    ∃ library, Shelf document outermost start store stock item.kind library ∧
      item.template ∈ store.children library := by
  rcases stocked.shelves item.kind (stocked.listed item member) with unused | ⟨library, shelf⟩
  · exact absurd rfl (unused.unlisted item member)
  · refine ⟨library, shelf, ?_⟩
    rw [shelf.children]
    exact mem_map_of_mem (mem_filter.mpr ⟨member, by simp⟩)

theorem label :
    store.label item.template = .element item.kind.tag [("id", some item.id)] := by
  obtain ⟨library, _, inside⟩ := stocked.place member
  exact label_of_tree stocked.extended.arranged (stocked.extended.arranged.placed _ _ inside)
    (stocked.trees item member)

theorem tag :
    store.tag? item.template = some item.kind.tag := by
  rw [tag?, stocked.label member]

theorem new :
    start.nodes.size ≤ item.template.index := by
  obtain ⟨library, shelf, inside⟩ := stocked.place member
  exact Nat.le_trans shelf.new (Nat.le_of_lt (stocked.extended.arranged.later _ _ inside).1)

end

theorem above {library node : NodeId}
    (inside : library ∈ store.children outermost) (below : Below store node library)
    (tagged : (store.tag? node).isSome) : node = outermost := by
  have arranged := stocked.extended.arranged
  obtain ⟨child, isElement⟩ := stocked.fresh.outermost_child
  have inStore :=
    (stocked.extended.mem_children_iff stocked.fresh.known (bound_of_tag isElement)).mpr child
  have root : store.label document.root = .document := by
    rw [stocked.extended.label _ stocked.fresh.known, stocked.fresh.root]
  rcases below.above arranged ((arranged.linked _ _).mp inside) with same | higher
  · exact same.symm
  · rcases higher.above arranged ((arranged.linked _ _).mp inStore) with rfl | highest
    · simp [tag?, root] at tagged
    · have isElement := highest.tagged
      simp [tag?, root] at isElement

section

variable (member : item ∈ stock)

include member

theorem old_elsewhere {node : NodeId} (old : node.index < start.nodes.size) :
    node ≠ item.template ∧ ¬ Below store item.template node := by
  have new := stocked.new member
  refine ⟨by rintro rfl; omega, fun below => ?_⟩
  have later := below.index_lt stocked.extended.arranged
  omega

theorem not_below {parent node : NodeId}
    (old : parent.index < start.nodes.size) (tagged : (store.tag? parent).isSome)
    (inner : parent ≠ outermost) (place : node = parent ∨ Below store parent node) :
    node ≠ item.template ∧ ¬ Below store item.template node := by
  have arranged := stocked.extended.arranged
  have new := stocked.new member
  obtain ⟨library, shelf, child⟩ := stocked.place member
  have newLibrary := shelf.new
  -- whatever stands above the template is new, or is the outermost element
  have notAbove : ¬ Below store parent item.template := by
    intro below
    rcases below.above arranged ((arranged.linked _ _).mp child) with rfl | higher
    · omega
    · exact inner (stocked.above shelf.inside higher tagged)
  rcases place with rfl | below
  · exact stocked.old_elsewhere member old
  · refine ⟨by rintro rfl; exact notAbove below, fun other => ?_⟩
    rcases below.comparable arranged other with rfl | lower | higher
    · omega
    · exact notAbove lower
    · have later := higher.index_lt arranged
      omega

variable {growing : NodeId → Prop}

theorem tree_kept (grown : Grown store after growing) (elsewhere : ∀ node, growing node →
      node ≠ item.template ∧ ¬ Below store item.template node) :
    after.tree item.template = templateTree item.kind.tag item.id item.settings := by
  have tagged : (store.tag? item.template).isSome := by simp [stocked.tag member]
  rw [(untouched_of_grown grown stocked.extended.arranged tagged elsewhere).tree tagged,
    stocked.trees item member]

end

variable {elements : List (String × Attributes)}

theorem shelves_grow {kind : TemplateKind} (member : kind ∈ kinds)
    (grown : Grown store after growing) (new : NewLabels store after elements)
    (sections : after.sections.get? (document, kind.library) =
      store.sections.get? (document, kind.library))
    (free : Unused document store stock kind → kind.library ∉ elements.map Prod.fst)
    (elsewhere : ∀ node, growing node → ¬ Shelf document outermost start store stock kind node) :
    Unused document after stock kind ∨
      ∃ library, Shelf document outermost start after stock kind library := by
  have arranged := stocked.extended.arranged
  rcases stocked.shelves kind member with unused | ⟨library, shelf⟩
  · exact .inl (unused.grow (stocked.usual member) arranged
      (Nat.lt_of_lt_of_le stocked.fresh.known stocked.extended.size) grown new (free unused)
      sections)
  · exact .inr ⟨library, shelf.grow arranged grown (fun grows => elsewhere library grows shelf)
      sections⟩

theorem grow (grown : Grown store after growing) (new : NewLabels store after elements)
    (sections : after.sections = store.sections)
    (free : ∀ kind ∈ kinds, Unused document store stock kind →
      kind.library ∉ elements.map Prod.fst)
    (elsewhere : ∀ node, growing node → (∀ item ∈ stock,
      node ≠ item.template ∧ ¬ Below store item.template node) ∧
      ∀ kind ∈ kinds, ¬ Shelf document outermost start store stock kind node) :
    Stocked document outermost kinds start after stock := by
  refine ⟨stocked.fresh, stocked.usual, stocked.extended.trans grown.extended, ?_, stocked.listed, ?_,
    stocked.proper, stocked.ids, stocked.distinct⟩
  · intro kind member
    exact stocked.shelves_grow member grown new (by rw [sections]) (free kind member)
      fun node grows => (elsewhere node grows).2 kind member
  · intro item member
    exact stocked.tree_kept member grown fun node grows => (elsewhere node grows).1 item member

theorem rootElement? :
    store.rootElement? document.root = some outermost := by
  obtain ⟨more, own, _⟩ := stocked.extended.children document.root stocked.fresh.known
  have same : (start.children document.root).find? (fun child => (store.tag? child).isSome) =
      some outermost := by
    rw [← stocked.fresh.outermost]
    refine find?_congr fun child member => ?_
    rw [stocked.extended.tag (stocked.fresh.arranged.later _ _ member).2]
  rw [Store.rootElement?, own, find?_append, same]
  rfl

variable {kind : TemplateKind}

theorem shelf_of_filled (unused : Unused document store stock kind)
    {library : NodeId} (filled : Filled store after outermost [library] [.element kind.library [] []])
    {remembering : Store} (nodes : remembering.nodes = after.nodes)
    (remembered : remembering.sections.get? (document, kind.library) = some library) :
    Shelf document outermost start remembering stock kind library := by
  have child : library ∈ after.children outermost := by simp [filled.children]
  have none : stock.filter (fun item => item.kind = kind) = [] := by
    rw [filter_eq_nil_iff]
    intro item member
    simpa using unused.unlisted item member
  have same : ∀ node, remembering.children node = after.children node ∧
      remembering.label node = after.label node := by
    intro node
    simp [children, Store.label, node?, nodes]
  refine ⟨remembered, ?_, ?_, ?_, ?_⟩
  · exact Nat.le_trans stocked.extended.size (filled.new library mem_cons_self)
  · rw [(same outermost).1]
    exact child
  · rw [tag?_congr (same library).2, tag?, filled.label]
  · rw [(same library).1, filled.childless, none]
    rfl

theorem firstLevel_yields (member : kind ∈ kinds) :
    Yields (firstLevel document kind.library) store fun library after =>
      Stocked document outermost kinds start after stock ∧ Extended store after ∧
        Shelf document outermost start after stock kind library := by
  have arranged := stocked.extended.arranged
  have early := bound_of_tag stocked.fresh.outermost_child.2
  refine Yields.weaken (Leads.yields (firstLevel_leads arranged
    (fun frozen => by simp [stocked.fresh.unfrozen] at frozen)
    fun rootless => by simp [stocked.rootElement?] at rootless)) ?_
  intro library _ found
  rcases stocked.shelves kind member with unused | ⟨known, shelf⟩
  · cases found with
    | remembered known => simp [unused.forgotten] at known
    | met _ found => simp [unused.absent] at found
    | @sprouted root between _ _ isRoot filled =>
      obtain rfl : outermost = root := Option.some.inj (stocked.rootElement?.symm.trans isRoot)
      generalize changed : ({ between with
        sections := between.sections.set (document, kind.library) library }) = after
      have nodes : after.nodes = between.nodes := by rw [← changed]
      have look : ∀ tag, after.sections.get? (document, tag) =
          if tag = kind.library then some library else store.sections.get? (document, tag) := by
        intro tag
        have sections : between.sections = store.sections := congrArg Prod.fst filled.memory
        rw [← changed, Table.get?_set, sections]
        by_cases same : tag = kind.library <;> simp [same]
      have shelf := stocked.shelf_of_filled unused filled nodes (by rw [look, if_pos rfl])
      have grown := filled.grown.sameNodes nodes
      have labels : NewLabels store after [(kind.library, [])] := by
        intro node beyond tag attributes found
        rw [← changed] at found
        simpa [elementsOf, Tree.elements] using filled.labels node beyond tag attributes found
      refine ⟨⟨stocked.fresh, stocked.usual, stocked.extended.trans grown.extended, ?_, stocked.listed,
        ?_, stocked.proper, stocked.ids, stocked.distinct⟩, grown.extended, shelf⟩
      · intro other listed
        by_cases same : other = kind
        · rw [same]
          exact .inr ⟨library, shelf⟩
        · have different := (TemplateKind.apart other (stocked.usual listed) kind
            (stocked.usual member)).2.2.2 same
          refine stocked.shelves_grow listed grown labels (by rw [look, if_neg different])
            (fun _ => by simpa using different) ?_
          rintro node rfl shelfOther
          exact absurd shelfOther.new (Nat.not_le.mpr early)
      · intro item listed
        refine stocked.tree_kept listed grown ?_
        rintro node rfl
        exact stocked.old_elsewhere listed early
  · have remembered := shelf.remembered
    cases found with
    | remembered same =>
      obtain rfl := Option.some.inj (same.symm.trans remembered)
      exact ⟨stocked, .refl arranged _, shelf⟩
    | met forgotten | sprouted forgotten => simp [forgotten] at remembered

end Stocked

variable (kind : TemplateKind) (settings : List Setting)

def templateTags : List String :=
  kind.tag :: "entry" :: settings.map Setting.name

theorem template_tags {kind : TemplateKind} {settings : List Setting} {id : String} :
    (templateTree kind.tag id settings).elements.map Prod.fst ⊆ templateTags kind settings := by
  intro tag member
  obtain ⟨element, inside, rfl⟩ := mem_map.mp member
  simp only [templateTree, Tree.elements, elementsOf_eq_flatMap, flatMap_map] at inside
  rcases mem_cons.mp inside with rfl | deeper
  · exact mem_cons_self
  · obtain ⟨setting, listed, within⟩ := mem_flatMap.mp deeper
    rcases setting.elements_tree within with rfl | rfl
    · exact .tail _ (.tail _ (mem_map_of_mem (f := Setting.name) listed))
    · exact .tail _ (.head _)

abbrev Written (opened store : Store) (template : NodeId) (id : String) : Prop :=
  Drafted opened store template kind.tag id (settings.map Setting.tree)

theorem written_yields {opened : Store} {β : Type} {kind : TemplateKind}
    {settings : List Setting} {text : String} {next : NodeId → StoreM β} {condition : β → Store → Prop}
    (unfrozen : document.frozen = false) (arranged : Arranged opened)
    (spelled : Spells settings text.toList) (proper : ∀ setting ∈ settings, setting.Proper)
    (rest : ∀ template id store, Written kind settings opened store template id →
      Yields (next template) store condition) :
    Yields (do
      let template ← createIn document kind.tag
      setAttribute template "id" (← freshIdentifier)
      addSettings document template (text.length + 1) text
      next template) opened condition := by
  refine Leads.yields (draft_leads (fun frozen => by simp [unfrozen] at frozen) arranged ?_)
  intro template id labelled _ tagged arrangedNow drafted
  have enough : text.toList.length < text.length + 1 := Nat.lt_succ_self _
  have fills := addSettings_yields unfrozen arrangedNow tagged spelled proper enough
  rw [String.ofList_toList] at fills
  refine Yields.leads (fills.bind ?_) _
  rintro _ store ⟨ids, filled⟩
  refine rest template id store (drafted store ids _ filled fun element member => ?_)
  rw [elementsOf_eq_flatMap, flatMap_map] at member
  obtain ⟨setting, _, within⟩ := mem_flatMap.mp member
  rcases setting.elements_tree within with rfl | rfl <;> rfl

namespace Stocked

variable {outermost : NodeId} {kinds : List TemplateKind} {start opened store : Store}
  {stock : List Shelved} {kind : TemplateKind} {library template : NodeId} {settings : List Setting}
  {id : String}

theorem sameNodes (stocked : Stocked document outermost kinds start opened stock)
    (nodes : store.nodes = opened.nodes) (sections : store.sections = opened.sections) :
    Stocked document outermost kinds start store stock := by
  have grown := (Grown.refl stocked.extended.arranged fun _ => False).sameNodes nodes
  have labels : NewLabels opened store [] := by
    intro node beyond tag attributes found
    rw [Store.label, node?_beyond (by rw [nodes]; exact beyond)] at found
    cases found
  exact stocked.grow grown labels sections (by simp) (by simp)

variable {item : Shelved}

theorem shelf_elsewhere (stocked : Stocked document outermost kinds start store stock)
    (member : kind ∈ kinds) (shelf : Shelf document outermost start store stock kind library)
    (listed : item ∈ stock) : library ≠ item.template ∧ ¬ Below store item.template library := by
  refine ⟨?_, fun below => ?_⟩
  · rintro rfl
    have tag := stocked.tag listed
    rw [shelf.tag, Option.some_inj] at tag
    exact (TemplateKind.apart item.kind (stocked.usual (stocked.listed item listed)) kind
      (stocked.usual member)).1 tag.symm
  · have tagged : (store.tag? item.template).isSome := by simp [stocked.tag listed]
    have new := stocked.new listed
    have early := bound_of_tag stocked.fresh.outermost_child.2
    rw [stocked.above shelf.inside below tagged] at new
    omega

section

variable (stocked : Stocked document outermost kinds start opened stock) (member : kind ∈ kinds)
    (shelf : Shelf document outermost start opened stock kind library)

include stocked member shelf

theorem add (filled : Filled opened store library [template] [templateTree kind.tag id settings])
    (proper : ProperSettings settings) (unseen : ∀ node, opened.value? node "id" ≠ some id)
    (free : ∀ other ∈ kinds, other ≠ kind → other.library ∉ templateTags kind settings)
    (missing : ∀ item ∈ stock, item.kind = kind → ¬ SameSettings item.settings settings) :
    Stocked document outermost kinds start store (stock ++ [⟨kind, template, id, settings⟩]) := by
  have arranged := stocked.extended.arranged
  have libraryKnown := (arranged.later _ _ shelf.inside).2
  have sections : store.sections = opened.sections := congrArg Prod.fst filled.memory
  refine ⟨stocked.fresh, stocked.usual, stocked.extended.trans filled.grown.extended, ?_, ?_, ?_, ?_, ?_,
    ?_⟩
  · intro other listed
    by_cases same : other = kind
    · subst same
      refine .inr ⟨library, by rw [sections, shelf.remembered], shelf.new, ?_, ?_, ?_⟩
      · have later := arranged.later _ _ shelf.inside
        exact (filled.grown.mem_children_iff (by omega) later.2).mpr shelf.inside
      · rw [filled.grown.tag libraryKnown, shelf.tag]
      · rw [filled.children, shelf.children, filter_append]
        simp
    · have unchanged : ∀ item ∈ [(⟨kind, template, id, settings⟩ : Shelved)], item.kind ≠ other := by
        simpa using Ne.symm same
      have grown := stocked.shelves_grow listed filled.grown filled.labels (by rw [sections])
        (fun _ inside => free other listed same (template_tags (by simpa [elementsOf] using inside))) (by
          rintro node rfl shelfOther
          have tag := shelf.tag
          rw [shelfOther.tag, Option.some_inj] at tag
          exact (TemplateKind.apart other (stocked.usual listed) kind (stocked.usual member)).2.2.2
            same tag)
      rcases grown with unused | ⟨known, kept⟩
      · exact .inl ⟨unused.forgotten, unused.absent,
          forall_mem_append.mpr ⟨unused.unlisted, unchanged⟩⟩
      · refine .inr ⟨known, kept.remembered, kept.new, kept.inside, kept.tag, ?_⟩
        rw [kept.children]
        simp [Ne.symm same]
  · exact forall_mem_append.mpr ⟨stocked.listed, by simpa using member⟩
  · refine forall_mem_append.mpr ⟨fun item listed => ?_, ?_⟩
    · refine stocked.tree_kept listed filled.grown ?_
      rintro node rfl
      exact stocked.shelf_elsewhere member shelf listed
    · simpa using singleton_inj.mp filled.trees
  · exact forall_mem_append.mpr ⟨stocked.proper, by simpa using proper⟩
  · rw [map_append, nodup_append]
    refine ⟨stocked.ids, by simp, ?_⟩
    rintro known inside other isNew rfl
    obtain ⟨item, listed, rfl⟩ := mem_map.mp inside
    have same : item.id = id := mem_singleton.mp isNew
    refine unseen item.template ?_
    rw [value?, attributes, stocked.label listed, same]
    rfl
  · rw [pairwise_append]
    refine ⟨stocked.distinct, pairwise_singleton _ _, ?_⟩
    rintro item listed other isNew
    rw [mem_singleton.mp isNew]
    exact missing item listed

theorem shelve_yields (written : Written kind settings opened store template id)
    (proper : ProperSettings settings)
    (free : ∀ other ∈ kinds, other ≠ kind → other.library ∉ templateTags kind settings) :
    Yields (shelve document kind library template) store fun kept after =>
      ∃ more, Stocked document outermost kinds start after (stock ++ more) ∧ Extended opened after ∧
        (∀ item ∈ more, item.settings = settings) ∧
        ∃ item ∈ stock ++ more, item.template = kept ∧ item.kind = kind ∧
          SameSettings item.settings settings := by
  have planted : Planted opened store template (templateTree kind.tag id settings) := written.planted
  have sections : store.sections = opened.sections := congrArg Prod.fst planted.memory
  -- as long as the template stands apart, the libraries are as they were
  have apart : Stocked document outermost kinds start store stock := by
    refine stocked.grow planted.grown planted.labels sections ?_ (by simp)
    intro other listed unused inside
    refine free other listed ?_ (template_tags inside)
    rintro rfl
    exact shelf.used unused
  have shelfNow := shelf.grow stocked.extended.arranged planted.grown not_false
    (by rw [sections])
  let items := stock.filter fun item => item.kind = kind
  have ofItems : ∀ item ∈ items, item ∈ stock ∧ item.kind = kind := by
    intro item inside
    simpa [items] using inside
  have trees : (store.children library).map store.tree =
      items.map fun item => templateTree kind.tag item.id item.settings := by
    rw [shelfNow.children, map_map]
    apply map_congr_left
    intro item inside
    obtain ⟨listed, same⟩ := ofItems item inside
    rw [Function.comp, apart.trees item listed, same]
  have search : firstDuplicate? true ((store.children library).map store.tree) (store.tree template) =
      .ok (items.findIdx? fun item => decide (SameSettings item.settings settings)) := by
    rw [trees, planted.tree]
    exact firstDuplicate?_template proper
      (fun item inside => stocked.proper item (ofItems item inside).1) kind.tag id
  refine .step (run_get store) (.step (run_outcome search store) ?_)
  cases found : items.findIdx? fun item => decide (SameSettings item.settings settings) with
  | some place =>
    obtain ⟨bound, same, _⟩ := findIdx?_eq_some_iff_getElem.mp found
    obtain ⟨listed, isKind⟩ := ofItems items[place] (getElem_mem bound)
    refine .pure ⟨[], by simpa using apart, planted.grown.extended, forall_mem_nil _, items[place],
      by simpa using listed, ?_, isKind, by simpa using same⟩
    rw [shelfNow.children]
    simp [items, bound]
  | none =>
    have missing : ∀ item ∈ stock, item.kind = kind → ¬ SameSettings item.settings settings := by
      intro item listed isKind
      have unlike := findIdx?_eq_none_iff.mp found item (by simp [items, listed, isKind])
      simpa using unlike
    refine (planted.append_yields (by simp [shelf.tag])).bind ?_
    intro _ between filled
    have more := stocked.add member shelf filled proper written.fresh free missing
    refine .step (run_modify _ _) (.pure ⟨[⟨kind, template, id, settings⟩],
      more.sameNodes rfl rfl, filled.grown.extended.sameNodes rfl, by simp,
      ⟨kind, template, id, settings⟩, by simp, rfl, rfl, fun _ => Iff.rfl⟩)

end

variable (stocked : Stocked document outermost kinds start store stock)

include stocked

theorem descendants_template (listed : item ∈ stock) {tag : String}
    (particular : tag ≠ "*") (entry : tag ≠ "entry")
    (named : ∀ setting ∈ item.settings, setting.name ≠ tag) :
    store.descendants item.template tag = [] := by
  have arranged := stocked.extended.arranged
  have attributes := descendants_attributes arranged particular item.template
  rw [children_of_tree arranged (stocked.trees item listed), flatMap_map] at attributes
  have each : ∀ setting ∈ item.settings, setting.tree.inside tag = [] :=
    fun setting inside => setting.inside_tree entry (named setting inside)
  rw [flatMap_eq_nil_iff.mpr each, map_eq_nil_iff] at attributes
  exact attributes

variable {parent : NodeId}

section

variable (member : kind ∈ kinds) (tagged : (start.tag? parent).isSome)
  (unnamed : parent = outermost →
    ∀ item ∈ stock, ∀ setting ∈ item.settings, setting.name ≠ kind.references)
include member tagged unnamed

theorem referenceElement_yields :
    Yields (referenceElement document kind parent) store fun element after =>
      Stocked document outermost kinds start after stock ∧ Extended store after ∧
        after.tag? element = some kind.references ∧
        ∀ item ∈ stock, element ≠ item.template ∧ ¬ Below after item.template element := by
  have arranged := stocked.extended.arranged
  have old := bound_of_tag tagged
  have taggedNow := stocked.extended.tagged tagged
  have particular := (TemplateKind.particular kind (stocked.usual member)).2.2
  refine Yields.weaken (Leads.yields (referenceElement_leads arranged stocked.fresh.unfrozen
    (bound_of_tag taggedNow) fun untagged => by simp [untagged] at taggedNow)) ?_
  rintro element after (⟨rfl, rest, found⟩ | ⟨_, filled⟩)
  · obtain ⟨below, tag⟩ := descendants_first arranged particular found
    refine ⟨stocked, .refl arranged _, tag, fun item inStock => ?_⟩
    by_cases outer : parent = outermost
    · have entry := (TemplateKind.ordinary kind (stocked.usual member)).2.2.1
      have none := stocked.descendants_template inStock particular entry
        (unnamed outer item inStock)
      refine ⟨?_, fun inside => ?_⟩
      · rintro rfl
        rw [stocked.tag inStock, Option.some_inj] at tag
        exact (TemplateKind.apart kind (stocked.usual member) item.kind
          (stocked.usual (stocked.listed item inStock))).2.2.1 tag.symm
      · have within := (mem_descendants arranged particular).mpr ⟨inside, tag⟩
        rw [none] at within
        cases within
    · exact stocked.not_below inStock old taggedNow outer (.inr below)
  · have child : element ∈ after.children parent := by simp [filled.children]
    have grown := stocked.grow filled.grown filled.labels (congrArg Prod.fst filled.memory)
      (fun other listed _ => by
        simpa [elementsOf, Tree.elements] using Ne.symm (TemplateKind.apart kind (stocked.usual member) other
          (stocked.usual listed)).2.1)
      (by
        rintro node rfl
        exact ⟨fun item inStock => stocked.old_elsewhere inStock old, fun other _ shelf =>
          absurd shelf.new (Nat.not_le.mpr old)⟩)
    refine ⟨grown, filled.grown.extended, by rw [tag?, filled.label],
      fun item inStock => ⟨?_, ?_⟩⟩
    · have isNew := filled.new element mem_cons_self
      have known := bound_of_tag (by simp [stocked.tag inStock] : (store.tag? item.template).isSome)
      rintro rfl
      omega
    · intro below
      have elsewhere := grown.old_elsewhere inStock old
      have arrangedNow := filled.grown.arranged
      rcases below.above arrangedNow ((arrangedNow.linked _ _).mp child) with same | higher
      · exact elsewhere.1 same
      · exact elsewhere.2 higher

theorem refer_yields (listed : item ∈ stock) :
    Yields (do
      let references ← referenceElement document kind parent
      let relation ← createIn document "templateRelation"
      setAttributeValue relation "id" ((← get).value? item.template "id")
      appendChild references relation
      return (relation, item.template)) store fun result after =>
      Stocked document outermost kinds start after stock ∧ Extended store after ∧
        result.2 = item.template ∧
        after.label result.1 = .element "templateRelation" [("id", some item.id)] := by
  refine (stocked.referenceElement_yields member tagged unnamed).bind ?_
  rintro references opened ⟨stockedOpened, extended, tag, elsewhere⟩
  have known := bound_of_tag (by simp [stockedOpened.tag listed] : (opened.tag? item.template).isSome)
  refine (relation_yields stocked.fresh.unfrozen stockedOpened.extended.arranged (by simp [tag])
    item.template).weaken ?_
  rintro result after ⟨same, _, filled, given⟩
  have value : opened.value? item.template "id" = some item.id := by
    rw [value?, attributes, stockedOpened.label listed]
    rfl
  rw [given known, value] at filled
  refine ⟨stockedOpened.grow filled.grown filled.labels (congrArg Prod.fst filled.memory) ?_ ?_,
    extended.trans filled.grown.extended, same, filled.label⟩
  · intro other inKinds _
    simpa [elementsOf, Tree.elements] using (TemplateKind.ordinary other (stocked.usual inKinds)).2.1
  · rintro node rfl
    refine ⟨elsewhere, fun other inKinds shelf => ?_⟩
    have library := shelf.tag
    rw [tag, Option.some_inj] at library
    exact (TemplateKind.apart kind (stocked.usual member) other (stocked.usual inKinds)).2.1 library

end

end Stocked

end CallGraph

end ParallelFortran
