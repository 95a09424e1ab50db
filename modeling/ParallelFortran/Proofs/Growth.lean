import ParallelFortran.CallGraph.Template
import ParallelFortran.Proofs.Copy
import ParallelFortran.Proofs.Table

/-! Documents that grow: nodes are added below old ones or apart from them, and what was there stays.
The steps in which a template is written are of this kind, whether they succeed or not. -/

open List

namespace ParallelFortran.Xml

namespace Store

variable {before after store other : Store}

theorem Arranged.sameNodes (arranged : Arranged store) (same : other.nodes = store.nodes) :
    Arranged other := by
  obtain ⟨nodes, _, _, _, _⟩ := other
  cases same
  exact ⟨arranged.later, arranged.linked, arranged.distinct, arranged.placed⟩

theorem Below.sameNodes {ancestor node : NodeId} (below : Below store ancestor node)
    (same : other.nodes = store.nodes) : Below other ancestor node := by
  refine below.mono (fun parent => ?_) fun other => ?_
  · simp only [children, node?, same, Subset.refl]
  · simp [tag?, label, node?, same]

end Store

end ParallelFortran.Xml

namespace ParallelFortran.CallGraph

open Xml Xml.Store

variable {store : Store} {document : Document} {parent : NodeId}

section

variable {failure : Store → Prop} (frozen : document.frozen = true → failure store)

include frozen

theorem createIn_leads (tag : String) : Leads (createIn document tag) store
    (fun id after => document.frozen = false ∧ Created store after id (.element tag [])) failure := by
  unfold createIn
  split
  · next isFrozen => exact .thrown (frozen isFrozen)
  · next unfrozen =>
    refine Yields.leads ((addNode_yields store _ _).weaken fun _ _ new => ⟨?_, new⟩) _
    simpa using unfrozen

theorem sprout_leads {β : Type} {tag : String} {next : NodeId → StoreM β} {success : β → Store → Prop}
    (arranged : Arranged store) (known : parent.index < store.nodes.size)
    (untagged : store.tag? parent = none → ∀ element after,
      Planted store after element (.element tag [] []) → failure after)
    (rest : ∀ element after, Filled store after parent [element] [.element tag [] []] →
      Leads (next element) after success failure) :
    Leads (do
      let element ← createIn document tag
      appendChild parent element
      next element) store success failure := by
  refine .bind (createIn_leads frozen tag) ?_
  rintro element created ⟨_, new⟩
  have planted := new.planted arranged (by simp)
  refine .bind (planted.append_leads known fun none => untagged none _ _ planted) ?_
  exact fun _ after reached => rest element after reached.1

end

theorem createIn_yields (unfrozen : document.frozen = false) (tag : String) (store : Store) :
    Yields (createIn document tag) store fun id after => Created store after id (.element tag []) := by
  refine Yields.weaken (Leads.yields (createIn_leads (fun frozen => ?_) tag)) fun _ _ made => made.2
  simp [unfrozen] at frozen

section

variable (unfrozen : document.frozen = false) (arranged : Arranged store)
  (tagged : (store.tag? parent).isSome)

include unfrozen arranged tagged

theorem addTextElement_yields (tag text : String) :
    Yields (addTextElement document parent tag text) store fun element after =>
      Filled store after parent [element] [.element tag [] [.text text]] := by
  refine (createIn_yields unfrozen tag store).bind fun element created new => ?_
  have plant := new.planted arranged (by simp)
  refine (addNode_yields created (.text text) document.root).bind ?_
  intro leaf written newLeaf
  have plantLeaf := newLeaf.planted plant.grown.arranged (by simp)
  refine (plantLeaf.append_yields (by simp [tag?, new.label])).bind ?_
  intro _ filled inside
  refine ((plant.inner inside).append_yields tagged).bind ?_
  intro _ after whole
  exact .pure whole

theorem addTextElements_yields (tag : String) (texts : List String) :
    Yields (texts.mapM (addTextElement document parent tag)) store fun ids after =>
      Filled store after parent ids (texts.map fun text => .element tag [] [.text text]) := by
  have known := bound_of_tag tagged
  induction texts generalizing store with
  | nil => exact .pure (.nil arranged parent)
  | cons text texts ih =>
    rw [mapM_cons]
    refine (addTextElement_yields unfrozen arranged tagged tag text).bind fun element between filled => ?_
    have size := filled.grown.size
    refine (ih filled.grown.arranged (filled.grown.tagged tagged) (by omega)).bind ?_
    intro ids after rest
    exact .pure (filled.trans rest known)

theorem addEntries_leads (text : Option String) :
    Leads (addEntries document parent text) store (fun ids after => ∃ texts : List String,
      Filled store after parent ids (texts.map fun text => .element "entry" [] [.text text]))
      (· = store) := by
  unfold addEntries addSeparated
  cases text with
  | none => exact .throw rfl
  | some text =>
    simp only
    split
    · exact .thrown rfl
    split
    · exact .thrown rfl
    refine ((addTextElements_yields unfrozen arranged tagged "entry" _).weaken ?_).leads _
    exact fun _ _ filled => ⟨_, filled⟩

end

def FilledPlainly (before after : Store) (parent : NodeId) : Prop :=
  ∃ ids trees, Filled before after parent ids trees ∧ ∀ element ∈ elementsOf trees, element.2 = []

theorem FilledPlainly.behind {before between after : Store} {ids : List NodeId} {trees : List Tree}
    (filled : Filled before between parent ids trees)
    (plain : ∀ element ∈ elementsOf trees, element.2 = [])
    (more : FilledPlainly between after parent) (known : parent.index < before.nodes.size) :
    FilledPlainly before after parent := by
  obtain ⟨others, further, filledLater, plainLater⟩ := more
  refine ⟨_, _, filled.trans filledLater known, ?_⟩
  rw [elementsOf_append]
  exact forall_mem_append.mpr ⟨plain, plainLater⟩

theorem addSettings_leads (unfrozen : document.frozen = false) (arranged : Arranged store)
    (tagged : (store.tag? parent).isSome) (fuel : Nat) (specification : String) :
    Leads (addSettings document parent fuel specification) store
      (fun _ after => FilledPlainly store after parent) (FilledPlainly store · parent) := by
  have known := bound_of_tag tagged
  induction fuel generalizing store specification with
  | zero => exact .pure ⟨[], [], .nil arranged parent, forall_mem_nil _⟩
  | succ fuel ih =>
    rw [addSettings]
    split
    · exact .pure ⟨[], [], .nil arranged parent, forall_mem_nil _⟩
    · next found matched =>
      refine sprout_leads (fun frozen => by simp [unfrozen] at frozen) arranged known
        (fun untagged => by simp [untagged] at tagged) fun element placed filled => ?_
      have isElement : (placed.tag? element).isSome := by simp [tag?, filled.label]
      have bare : FilledPlainly store placed parent := ⟨_, _, filled, by simp [elementsOf, Tree.elements]⟩
      refine .known ?_ fun _ _ => bare
      rintro ⟨text, rest⟩ _
      refine .bind ((addEntries_leads unfrozen filled.grown.arranged isElement _).weaken
        (fun _ _ listed => listed) fun _ same => same ▸ bare) ?_
      rintro _ listed ⟨texts, inside⟩
      have whole := filled.inner inside known
      have plain : ∀ entry ∈ elementsOf [Tree.element (Text.strip (found.group 1)) []
          (texts.map fun text => .element "entry" [] [.text text])], entry.2 = [] := by
        simp [elementsOf_eq_flatMap, Tree.elements]
      have size := whole.grown.size
      exact (ih whole.grown.arranged (whole.grown.tagged tagged) _ (by omega)).weaken
        (fun _ _ more => .behind whole plain more known) (fun _ more => .behind whole plain more known)

theorem ofDigitChars_zeros (count : Nat) :
    Nat.ofDigitChars 10 (Text.repeated count "0").toList 0 = 0 := by
  induction count with
  | zero => rfl
  | succ count ih =>
    have first : (Text.repeated (count + 1) "0").toList = '0' :: (Text.repeated count "0").toList := by
      simp [Text.repeated, replicate_succ]
    rw [first, Nat.ofDigitChars_cons]
    exact ih

theorem identifier_injective (left right : Nat) (same : identifier left = identifier right) :
    left = right := by
  unfold identifier at same
  have letters := congrArg String.toList same
  simp only [String.toList_append, append_assoc] at letters
  have numbers := congrArg (fun digits => Nat.ofDigitChars 10 digits 0)
    (append_cancel_left letters)
  simpa [Nat.ofDigitChars_append, ofDigitChars_zeros] using numbers

theorem identifier_ne_empty (number : Nat) : identifier number ≠ "" := by
  unfold identifier
  simp [not_false_eq_true]

theorem freshIdentifier_yields (store : Store) : Yields freshIdentifier store fun id after =>
      (∀ node, store.value? node "id" ≠ some id) ∧ id ≠ "" ∧
        ∃ identifiers, after = { store with identifiers } := by
  let taken := (range store.nodes.size).filterMap fun index => store.value? ⟨index⟩ "id"
  let numbers := (range (taken.length + 1)).map (store.identifiers + 1 + ·)
  obtain ⟨number, found⟩ : ∃ number,
      numbers.find? (fun number => !taken.contains (identifier number)) = some number := by
    rw [← Option.isSome_iff_exists, find?_isSome]
    by_contra none
    simp only [not_exists, not_and] at none
    -- more identifiers than are taken cannot all be taken
    have inside : numbers.map identifier ⊆ taken := by
      intro id member
      obtain ⟨number, listed, rfl⟩ := mem_map.mp member
      simpa using none number listed
    have distinct : (numbers.map identifier).Nodup :=
      (nodup_range.map fun _ _ same => by simpa using same).map identifier_injective
    have short := distinct.length_le_of_subset inside
    simp only [numbers, length_map, length_range] at short
    omega
  refine ⟨identifier number, { store with identifiers := number }, ?_, ?_, ?_, number, rfl⟩
  · have run : freshIdentifier.run store =
        let number := (numbers.find? fun number => !taken.contains (identifier number)).getD
          (store.identifiers + 1)
        (.ok (identifier number), { store with identifiers := number }) := rfl
    rw [run, found]
    rfl
  · intro node has
    have free := find?_some found
    have listed : identifier number ∈ taken := by
      refine mem_filterMap.mpr ⟨node.index, mem_range.mpr ?_, has⟩
      by_contra beyond
      have empty := value_beyond (Nat.le_of_not_lt beyond) "id"
      rw [Store.value, has] at empty
      exact identifier_ne_empty number empty
    simp [listed] at free
  · exact identifier_ne_empty number

/-! Shelves and references -/

def TemplateKind.all : List TemplateKind := [.domainDependant, .parallelRegion]

theorem TemplateKind.particular : ∀ kind ∈ TemplateKind.all,
    kind.library ≠ "*" ∧ kind.tag ≠ "*" ∧ kind.references ≠ "*" := by
  decide

theorem TemplateKind.ordinary : ∀ kind ∈ TemplateKind.all,
    kind.library ≠ "entry" ∧ kind.library ≠ "templateRelation" ∧ kind.references ≠ "entry" ∧
      kind.tag ≠ "templateRelation" := by
  decide

variable {kind : TemplateKind}

structure Tended (store : Store) (document : Document) : Prop where
  arranged : Arranged store
  known : document.root.index < store.nodes.size
  shelves : ∀ kind ∈ TemplateKind.all, ∀ node,
    store.sections.get? (document, kind.library) = some node → Below store document.root node

theorem Tended.extend {before after : Store} {document : Document} (tended : Tended before document)
    (extended : Extended before after) (same : after.sections = before.sections) :
    Tended after document := by
  refine ⟨extended.arranged, Nat.lt_of_lt_of_le tended.known extended.size, ?_⟩
  intro kind usual node remembered
  rw [same] at remembered
  exact extended.below tended.arranged (tended.shelves kind usual node remembered)

theorem rootElement?_below {root element : NodeId} (found : store.rootElement? root = some element) :
    (store.tag? element).isSome ∧ Below store root element := by
  have tagged := find?_some found
  exact ⟨tagged, .child (mem_of_find?_eq_some found) tagged⟩

inductive Provided (document : Document) (tag : String) (store : Store) (library : NodeId) : Store → Prop
  | remembered (known : store.sections.get? (document, tag) = some library) :
      Provided document tag store library store
  | met {rest : List NodeId} (forgotten : store.sections.get? (document, tag) = none)
      (found : store.descendants document.root tag = library :: rest) :
      Provided document tag store library
        { store with sections := store.sections.set (document, tag) library }
  | sprouted {root : NodeId} {between : Store}
      (forgotten : store.sections.get? (document, tag) = none)
      (absent : store.descendants document.root tag = [])
      (outermost : store.rootElement? document.root = some root)
      (filled : Filled store between root [library] [.element tag [] []]) :
      Provided document tag store library
        { between with sections := between.sections.set (document, tag) library }

section

variable {failure : Store → Prop} (arranged : Arranged store)

include arranged

theorem firstLevel_leads {tag : String} (frozen : document.frozen = true → failure store)
    (rootless : store.rootElement? document.root = none → ∀ element after,
      Planted store after element (.element tag [] []) → failure after) :
    Leads (firstLevel document tag) store (fun library after => Provided document tag store library after)
      failure := by
  refine .step (run_get store) ?_
  cases remembered : store.sections.get? (document, tag) with
  | some library => exact .pure (.remembered remembered)
  | none =>
    cases found : store.descendants document.root tag with
    | cons library rest =>
      exact .step (run_pure _ _) (.step (run_modify _ _) (.pure (.met remembered found)))
    | nil =>
      cases outermost : store.rootElement? document.root with
      | none =>
        refine .bind (createIn_leads frozen tag) fun element after made => ?_
        exact .thrown (rootless outermost element after (made.2.planted arranged (by simp)))
      | some root =>
        have isElement := (rootElement?_below outermost).1
        refine sprout_leads frozen arranged (bound_of_tag isElement)
          (fun untagged => by simp [untagged] at isElement) fun library after filled => ?_
        exact .step (run_pure _ _) (.step (run_modify _ _)
          (.pure (.sprouted remembered found outermost filled)))

theorem referenceElement_leads (unfrozen : document.frozen = false)
    (known : parent.index < store.nodes.size)
    (untagged : store.tag? parent = none → ∀ element after,
      Planted store after element (.element kind.references [] []) → failure after) :
    Leads (referenceElement document kind parent) store (fun element after =>
      after = store ∧ (∃ rest, store.descendants parent kind.references = element :: rest) ∨
        store.descendants parent kind.references = [] ∧
          Filled store after parent [element] [.element kind.references [] []]) failure := by
  refine .step (run_get store) ?_
  cases found : store.descendants parent kind.references with
  | cons element rest => exact .pure (.inl ⟨rfl, rest, rfl⟩)
  | nil =>
    refine sprout_leads (fun frozen => by simp [unfrozen] at frozen) arranged known untagged ?_
    exact fun element after filled => .pure (.inr ⟨rfl, filled⟩)

end

/-- A template has been written, and nothing has got an identifier but the template. -/
structure Drafted (opened store : Store) (template : NodeId) (tag id : String) (trees : List Tree) :
    Prop where
  planted : Planted opened store template (.element tag [("id", some id)] trees)
  unnamed : ∀ node, opened.nodes.size ≤ node.index → store.value node "id" ≠ "" → node = template
  fresh : ∀ node, opened.value? node "id" ≠ some id
  filled : id ≠ ""

theorem draft_leads {β : Type} {tag : String} {next : NodeId → StoreM β}
    {success : β → Store → Prop} {failure : Store → Prop}
    (frozen : document.frozen = true → failure store) (arranged : Arranged store)
    (rest : ∀ template id labelled, document.frozen = false → (labelled.tag? template).isSome →
      Arranged labelled →
      (∀ after ids trees, Filled labelled after template ids trees →
        (∀ element ∈ elementsOf trees, element.2 = []) → Drafted store after template tag id trees) →
      Leads (next template) labelled success failure) :
    Leads (do
      let template ← createIn document tag
      setAttribute template "id" (← freshIdentifier)
      next template) store success failure := by
  refine .bind (createIn_leads frozen tag) ?_
  rintro template created ⟨unfrozen, new⟩
  refine .bind ((freshIdentifier_yields created).leads _) ?_
  rintro id _ ⟨unseen, visible, identifiers, rfl⟩
  have counted : Created store { created with identifiers } template (.element tag []) :=
    ⟨new.size, new.index, new.label, new.children, new.parent, new.memory⟩
  have isElement : (Store.tag? { created with identifiers } template).isSome := by
    rw [tag?, counted.label_self]
    rfl
  refine .bind ((setAttributeValue_yields "id" (some id) isElement).leads _) ?_
  intro _ labelled assigned
  have made := counted.assigned assigned
  have planted := made.planted arranged (by simp)
  refine rest template id labelled unfrozen (by simp [tag?, made.label]) planted.grown.arranged ?_
  intro after ids trees filled plain
  refine ⟨planted.inner filled, ?_, ?_, visible⟩
  · intro node beyond identified
    by_contra other
    have newer : labelled.nodes.size ≤ node.index := by
      have index := made.index
      have size := made.size
      have different : node.index ≠ template.index := by
        intro same
        exact other (by cases node; cases template; simp_all)
      omega
    exact identified (filled.labels.unnamed plain node newer)
  · intro node has
    refine unseen node ?_
    by_cases known : node.index < store.nodes.size
    · rw [← has]
      exact value?_congr (new.label_old known) "id"
    · have empty := value_beyond (Nat.le_of_not_lt known) "id"
      rw [Store.value, has] at empty
      exact absurd empty visible

theorem relation_yields (unfrozen : document.frozen = false) (arranged : Arranged store)
    {references : NodeId} (tagged : (store.tag? references).isSome) (template : NodeId) :
    Yields (do
      let relation ← createIn document "templateRelation"
      setAttributeValue relation "id" ((← get).value? template "id")
      appendChild references relation
      return (relation, template)) store fun result after => result.2 = template ∧ ∃ given,
        Filled store after references [result.1] [.element "templateRelation" [("id", given)] []] ∧
        (template.index < store.nodes.size → given = store.value? template "id") := by
  refine (createIn_yields unfrozen "templateRelation" store).bind fun relation created new => ?_
  have isElement : (created.tag? relation).isSome := by simp [tag?, new.label]
  refine .step (run_get created) ?_
  refine (setAttributeValue_yields "id" (created.value? template "id") isElement).bind ?_
  intro _ labelled assigned
  have planted := (new.assigned assigned).planted arranged (by simp)
  refine (planted.append_yields tagged).bind fun _ after filled => ?_
  exact .pure ⟨rfl, _, filled, fun known => value?_congr (new.label_old known) "id"⟩

end ParallelFortran.CallGraph
