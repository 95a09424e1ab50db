import ParallelFortran.CallGraph.Query
import ParallelFortran.Proofs.Growth

/-! The table in which a document remembers its templates. A look-up fills the table with all
templates of the document, whereas the recording of a template adds nothing but that template. So the
table is complete if a look-up fills it first, or if the document begins without templates, and it
stays incomplete otherwise. -/

namespace ParallelFortran.CallGraph

open Xml Xml.Store List

variable (store : Store) (document : Document)

def remembered (tag : String) : Table String NodeId :=
  (store.libraries.get? (document, tag)).getD .empty

/-- The elements of a tag with an identifier, in the order of the document. -/
def identified (tag id : String) : List NodeId :=
  (store.descendants document.root tag).filter fun node => store.value node "id" = id

/-- A table gives for every identifier the last element of the document that has it. -/
def IsIndex (tag : String) (table : Table String NodeId) : Prop :=
  ∀ id, id ≠ "" → table.get? id = (identified store document tag id).getLast?

/-! What is recorded -/

structure Added (kind : TemplateKind) (before after : Store) (template : NodeId) : Prop where
  table : after.libraries = before.libraries.set (document, kind.tag)
    ((remembered before document kind.tag).set (after.value template "id") template)
  filled : after.value template "id" ≠ ""
  fresh : ∀ node, before.value node "id" ≠ after.value template "id"
  place : Below after document.root template
  tag : after.tag? template = some kind.tag

/-- What the recording of a template has done to a document: the template has been added, or none
has. -/
structure Recorded (kind : TemplateKind) (before after : Store) (added : Option NodeId) : Prop where
  extended : Extended before after
  tended : Tended after document
  same : added = none → after.libraries = before.libraries
  new : ∀ template ∈ added, Added document kind before after template
  only : ∀ node, before.nodes.size ≤ node.index → Below after document.root node →
    after.value node "id" ≠ "" → node ∈ added ∨ after.tag? node = some "templateRelation"

section Recording

variable {document : Document} {kind : TemplateKind} {first before after : Store}
  {added : Option NodeId} {growing : NodeId → Prop}

namespace Recorded

theorem refl (tended : Tended before document) : Recorded document kind before before none := by
  refine ⟨.refl tended.arranged _, tended, fun _ => rfl, fun _ none => by simp at none, ?_⟩
  intro node new _ identified
  exact absurd (value_beyond new "id") identified

section

variable (recorded : Recorded document kind first before added)

include recorded

theorem more (grown : Grown before after growing) (tended : Tended after document)
    (libraries : after.libraries = before.libraries)
    (references : ∀ node, before.nodes.size ≤ node.index → Below after document.root node →
      after.value node "id" ≠ "" → after.tag? node = some "templateRelation") :
    Recorded document kind first after added := by
  refine ⟨recorded.extended.trans grown.extended, tended,
    fun none => libraries.trans (recorded.same none), fun template isAdded => ?_, ?_⟩
  · have earlier := recorded.new template isAdded
    have known := bound_of_tag (by simp [earlier.tag] : (before.tag? template).isSome)
    have value := grown.value known "id"
    refine ⟨?_, ?_, ?_, grown.below recorded.tended.arranged earlier.place, ?_⟩
    · rw [libraries, earlier.table, value]
    · rw [value]
      exact earlier.filled
    · rw [value]
      exact earlier.fresh
    · rw [grown.tag known, earlier.tag]
  · intro node new below identified
    by_cases known : node.index < before.nodes.size
    · rw [grown.value known] at identified
      rw [grown.tag known]
      exact recorded.only node new (grown.below_old below known) identified
    · exact .inr (references node (Nat.le_of_not_lt known) below identified)

theorem grow (grown : Grown before after growing) {elements : List (String × Attributes)}
    (labels : NewLabels before after elements) (memory : after.memory = before.memory)
    (plain : ∀ element ∈ elements, element.2 = [] ∨ element.1 = "templateRelation") :
    Recorded document kind first after added := by
  refine recorded.more grown (recorded.tended.extend grown.extended (congrArg Prod.fst memory))
    (congrArg Prod.snd memory) fun node new _ identified => ?_
  obtain ⟨tag, attributes, member, some, tagged⟩ := labels.identified new identified
  rcases plain _ member with none | isRelation
  · exact absurd none some
  · rw [tagged, ← isRelation]

end

theorem found {library : NodeId} (recorded : Recorded document kind first before added)
    (usual : kind ∈ TemplateKind.all) (found : Provided document kind.library before library after) :
    Recorded document kind first after added ∧ Below after document.root library := by
  have arranged := recorded.tended.arranged
  have remember : ∀ {between}, Recorded document kind first between added →
      Below between document.root library → Recorded document kind first
        { between with sections := between.sections.set (document, kind.library) library } added ∧
      Below { between with sections := between.sections.set (document, kind.library) library }
        document.root library := by
    intro between known below
    have grown : Extended between
        { between with sections := between.sections.set (document, kind.library) library } :=
      (Grown.refl known.tended.arranged _).sameNodes rfl
    refine ⟨known.more grown ⟨grown.arranged, known.tended.known, ?_⟩ rfl ?_, below.sameNodes rfl⟩
    · intro other usualOther node found
      rw [Table.get?_set] at found
      split at found
      · cases found
        exact below.sameNodes rfl
      · exact (known.tended.shelves other usualOther node found).sameNodes rfl
    · intro node new _ identified
      exact absurd (value_beyond new "id") identified
  cases found with
  | remembered known => exact ⟨recorded, recorded.tended.shelves kind usual library known⟩
  | met _ found =>
    exact remember recorded (descendants_first arranged (TemplateKind.particular kind usual).1 found).1
  | sprouted _ _ outermost filled =>
    obtain ⟨tagged, below⟩ := rootElement?_below outermost
    refine remember (recorded.grow filled.grown filled.labels filled.memory ?_) ?_
    · simp [elementsOf, Tree.elements]
    · refine (filled.grown.below arranged below).trans (.child (by simp [filled.children]) ?_)
      simp [tag?, filled.label]

end Recorded

section Shelving

variable {opened store : Store} {library template : NodeId} {id : String} {trees : List Tree}
  (drafted : Drafted opened store template kind.tag id trees)
  (unchanged : Recorded document kind first opened none)

include drafted unchanged

theorem Drafted.recorded : Recorded document kind first store none := by
  have memory := drafted.planted.memory
  refine unchanged.more drafted.planted.grown
    (unchanged.tended.extend drafted.planted.grown.extended (congrArg Prod.fst memory))
    (congrArg Prod.snd memory) fun node new below identified => ?_
  -- the template stands apart from the document
  rw [drafted.unnamed node new identified] at below
  obtain ⟨parent, known, _⟩ := below.parent drafted.planted.grown.arranged
  rw [drafted.planted.alone] at known
  cases known

theorem Drafted.unseen (node : NodeId) : first.value node "id" ≠ id := by
  by_cases known : node.index < first.nodes.size
  · rw [← unchanged.extended.value known, Store.value]
    cases given : opened.value? node "id" with
    | none => exact drafted.filled.symm
    | some value =>
      rintro rfl
      exact drafted.fresh node given
  · rw [value_beyond (Nat.le_of_not_lt known)]
    exact drafted.filled.symm

theorem Drafted.shelve_leads (shelf : Below opened document.root library) :
    Leads (shelve document kind library template) store
      (fun _ after => ∃ added, Recorded document kind first after added)
      (fun after => ∃ added, Recorded document kind first after added) := by
  have unshelved := drafted.recorded unchanged
  have isElement := shelf.tagged
  refine .step (run_get store) (.known (fun found _ => ?_) fun _ _ => ⟨none, unshelved⟩)
  cases found with
  | some place => exact .pure ⟨none, unshelved⟩
  | none =>
    refine .bind (drafted.planted.append_leads (bound_of_tag isElement)
      fun untagged => by simp [untagged] at isElement) ?_
    rintro _ between ⟨filled, attached⟩
    have value : between.value template "id" = id := by
      simp [Store.value, value?, Store.attributes, filled.label, Attributes.value]
    have own : store.value template "id" = id := (value_congr (attached.label template) _).symm.trans value
    have tended := unchanged.tended.extend filled.grown.extended (congrArg Prod.fst filled.memory)
    have libraries : between.libraries = first.libraries :=
      Eq.trans (congrArg Prod.snd filled.memory) (unchanged.same rfl)
    have before : store.libraries = first.libraries := unshelved.same rfl
    have tag : between.tag? template = some kind.tag := by rw [tag?, filled.label]
    have place : Below between document.root template :=
      (filled.grown.below unchanged.tended.arranged shelf).trans
        (.child (by simp [filled.children]) (by simp [tag]))
    refine .step (run_modify _ _) (.pure ⟨some template,
      (unchanged.extended.trans filled.grown.extended).sameNodes rfl,
      tended.extend ((Grown.refl tended.arranged _).sameNodes rfl) rfl, fun none => by simp at none,
      ?_, ?_⟩)
    · intro _ isAdded
      cases isAdded
      refine ⟨?_, ?_, ?_, place.sameNodes rfl, tag⟩
      · change _ = first.libraries.set _ ((remembered first document kind.tag).set
          (between.value template "id") template)
        rw [value, ← own, libraries, remembered, ← before]
      · exact value.trans_ne drafted.filled
      · exact fun node => (drafted.unseen unchanged node).trans_eq value.symm
    · intro node new (below : Below _ _ _) (identified : between.value node "id" ≠ "")
      by_cases known : node.index < opened.nodes.size
      · rw [filled.grown.value known] at identified
        rcases unchanged.only node new (filled.grown.below_old (below.sameNodes rfl) known) identified with
          none | isRelation
        · simp at none
        · exact .inr ((filled.grown.tag known).trans isRelation)
      · rw [value_congr (attached.label node)] at identified
        exact .inl (by simp [drafted.unnamed node (Nat.le_of_not_lt known) identified])

end Shelving

theorem recordTemplate_leads (tended : Tended before document) (usual : kind ∈ TemplateKind.all)
    (parent : Option NodeId) (known : ∀ node ∈ parent, node.index < before.nodes.size)
    (specification : String) :
    Leads (recordTemplate document kind parent specification) before
      (fun _ after => ∃ added, Recorded document kind before after added)
      (fun after => ∃ added, Recorded document kind before after added) := by
  have start : Recorded document kind before before none := .refl tended
  have plain : ∀ tag, ∀ element ∈ (Tree.element tag [] []).elements,
      element.2 = [] ∨ element.1 = "templateRelation" := by
    simp [Tree.elements, elementsOf]
  cases parent with
  | none => exact .throw ⟨none, start⟩
  | some parent =>
    have inside := known parent rfl
    refine .bind (firstLevel_leads tended.arranged (fun _ => ⟨none, start⟩) fun _ _ _ planted =>
      ⟨none, start.grow planted.grown planted.labels planted.memory (plain _)⟩) ?_
    intro library opened found
    obtain ⟨unchanged, shelf⟩ := start.found usual found
    refine draft_leads (fun _ => ⟨none, unchanged⟩) unchanged.tended.arranged ?_
    intro template id labelled unfrozen tagged arranged drafted
    refine .bind ((addSettings_leads unfrozen arranged tagged _ _).weaken (fun _ _ filled => filled) ?_) ?_
    · rintro after ⟨ids, trees, filled, bare⟩
      exact ⟨none, (drafted after ids trees filled bare).recorded unchanged⟩
    rintro _ written ⟨ids, trees, filled, bare⟩
    refine .bind ((drafted written ids trees filled bare).shelve_leads unchanged shelf) ?_
    rintro shelved after ⟨added, recorded⟩
    refine .bind (referenceElement_leads recorded.tended.arranged unfrozen
      (Nat.lt_of_lt_of_le inside recorded.extended.size) fun _ _ _ planted =>
      ⟨added, recorded.grow planted.grown planted.labels planted.memory (plain _)⟩) ?_
    intro references referred found
    have collected : Recorded document kind before referred added ∧
        (referred.tag? references).isSome := by
      rcases found with ⟨rfl, _, found⟩ | ⟨_, filled⟩
      · refine ⟨recorded, (descendants_first recorded.tended.arranged ?_ found).1.tagged⟩
        exact (TemplateKind.particular kind usual).2.2
      · refine ⟨recorded.grow filled.grown filled.labels filled.memory ?_, ?_⟩
        · simp [elementsOf, Tree.elements]
        · simp [tag?, filled.label]
    refine (relation_yields unfrozen collected.1.tended.arranged collected.2 shelved).leads _ |>.weaken
      ?_ fun _ failed => failed
    rintro _ after ⟨_, given, filled, _⟩
    refine ⟨added, collected.1.grow filled.grown filled.labels filled.memory ?_⟩
    simp [elementsOf, Tree.elements]

end Recording

/-- What a step, which records a template or looks some up, can do to the table of a tag and to the
elements that belong into it. -/
inductive Change (tag : String) (records : Bool) (before after : Store) : Prop
  | still (table : remembered after document tag = remembered before document tag)
      (elements : ∀ id, id ≠ "" →
        identified after document tag id = identified before document tag id)
  | added (template : NodeId) (id : String) (recording : records = true) (filled : id ≠ "")
      (fresh : identified before document tag id = [])
      (table : remembered after document tag = (remembered before document tag).set id template)
      (elements : ∀ other, other ≠ "" → identified after document tag other =
        if other = id then [template] else identified before document tag other)
  | read (looking : records = false) (blank : (remembered before document tag).isEmpty = true)
      (table : IsIndex before document tag (remembered after document tag))
      (elements : ∀ id, id ≠ "" →
        identified after document tag id = identified before document tag id)

theorem remembered_set (tag other : String) (table : Table String NodeId) (changed : Store)
    (libraries : changed.libraries = store.libraries.set (document, other) table) :
    remembered changed document tag = if tag = other then table else remembered store document tag := by
  rw [remembered, libraries, Table.get?_set]
  by_cases same : tag = other
  · rw [if_pos (by rw [same]), if_pos same]
    rfl
  · rw [if_neg (by simp [same]), if_neg same]
    rfl

theorem identified_sameNodes {store : Store} (arranged : Arranged store) (other : Store)
    (same : other.nodes = store.nodes) (document : Document) (tag id : String) :
    identified other document tag id = identified store document tag id := by
  have label : ∀ node, other.label node = store.label node := by
    intro node
    simp [Store.label, node?, same]
  have below : SameBelow store other document.root := by
    refine ⟨fun node _ => tag?_congr (label node), fun node _ => ?_⟩
    simp only [children, node?, same]
  rw [identified, below.descendants arranged (arranged.sameNodes same)]
  apply filter_congr
  intro node _
  rw [value_congr (label node)]

theorem Recorded.toChange {document : Document} {kind : TemplateKind} {before after : Store}
    {added : Option NodeId} (recorded : Recorded document kind before after added)
    (tended : Tended before document) {tag : String} (particular : tag ≠ "*")
    (template : tag ≠ "templateRelation") : Change document tag true before after := by
  have arranged := tended.arranged
  have arrangedAfter := recorded.tended.arranged
  -- where all elements with the identifier are old, they are those of the document before
  have same : ∀ id, (∀ node, before.nodes.size ≤ node.index → Below after document.root node →
      after.tag? node = some tag → after.value node "id" ≠ id) →
      identified after document tag id = identified before document tag id := by
    intro id old
    rw [identified, identified, ← recorded.extended.descendants_old arranged particular _ tended.known,
      filter_filter]
    apply filter_congr
    intro node member
    obtain ⟨below, tagged⟩ := (mem_descendants arrangedAfter particular).mp member
    by_cases known : node.index < before.nodes.size
    · simp [known, recorded.extended.value known]
    · simp [known, old node (Nat.le_of_not_lt known) below tagged]
  have others : ∀ id, id ≠ "" → (∀ node ∈ added, tag = kind.tag → after.value node "id" ≠ id) →
      identified after document tag id = identified before document tag id := by
    intro id filled other
    refine same id ?_
    rintro node new below tagged rfl
    rcases recorded.only node new below filled with isAdded | reference
    · refine other node isAdded ?_ rfl
      exact Option.some.inj (tagged.symm.trans (recorded.new node isAdded).tag)
    · rw [reference] at tagged
      exact template (Option.some.inj tagged).symm
  cases added with
  | none =>
    refine .still (by rw [remembered, remembered, recorded.same rfl]) fun id filled => ?_
    exact others id filled (by simp)
  | some added =>
    have new := recorded.new added rfl
    have table := remembered_set before document tag kind.tag _ after new.table
    by_cases ours : tag = kind.tag
    · subst ours
      rw [if_pos rfl] at table
      have unknown : identified before document kind.tag (after.value added "id") = [] := by
        rw [identified, filter_eq_nil_iff]
        intro node _
        simpa using new.fresh node
      refine .added added _ rfl new.filled unknown table fun id filled => ?_
      split
      · next isGiven =>
        subst isGiven
        have only : ∀ node, node ∈ identified after document kind.tag (after.value added "id") ↔
            node ∈ [added] := by
          intro node
          rw [identified, mem_filter, mem_descendants arrangedAfter particular, decide_eq_true_eq,
            and_assoc, mem_singleton]
          constructor
          · rintro ⟨below, tagged, value⟩
            by_cases known : node.index < before.nodes.size
            · rw [recorded.extended.value known] at value
              exact (new.fresh node value).elim
            · rw [← value] at filled
              rcases recorded.only node (Nat.le_of_not_lt known) below filled with isAdded | reference
              · exact (Option.some.inj isAdded).symm
              · rw [reference] at tagged
                exact (template (Option.some.inj tagged).symm).elim
          · rintro rfl
            exact ⟨new.place, new.tag, rfl⟩
        have distinct := (descendants_nodup arrangedAfter document.root particular).filter
          fun node => after.value node "id" = after.value added "id"
        exact perm_singleton.mp
          ((perm_ext_iff_of_nodup distinct (nodup_singleton _)).mpr only)
      · next other =>
        refine others id filled fun node isAdded _ same => other ?_
        cases isAdded
        exact same.symm
    · rw [if_neg ours] at table
      exact .still table fun id filled => others id filled fun _ _ isOurs => (ours isOurs).elim

def enter (table : Table String NodeId) (node : NodeId) : StoreM (Table String NodeId) := do
  let id := store.value node "id"
  if id.isEmpty then throw (.callGraph .templateWithoutId)
  pure (table.set id node)

variable (store state : Store)

theorem run_enter (table : Table String NodeId) (node : NodeId) :
    (enter store table node).run state =
      if store.value node "id" = "" then (.error (.callGraph .templateWithoutId), state)
      else (.ok (table.set (store.value node "id") node), state) := by
  by_cases empty : store.value node "id" = ""
  · rw [enter]
    simp only [empty]
    rfl
  · rw [enter]
    simp only [String.isEmpty_iff, empty]
    rfl

variable (nodes : List NodeId)

theorem run_enterAll (table : Table String NodeId) :
    ((∃ node ∈ nodes, store.value node "id" = "") ∧ (nodes.foldlM (enter store) table).run state =
      (.error (.callGraph .templateWithoutId), state)) ∨
    (∀ node ∈ nodes, store.value node "id" ≠ "") ∧
      ∃ result, (nodes.foldlM (enter store) table).run state = (.ok result, state) ∧
        ∀ id, result.get? id =
          ((nodes.filter fun node => store.value node "id" = id).getLast?).or (table.get? id) := by
  induction nodes generalizing table with
  | nil => exact .inr ⟨nofun, table, rfl, fun id => by simp⟩
  | cons node rest ih =>
    rw [foldlM_cons, run_bind, run_enter]
    by_cases empty : store.value node "id" = ""
    · exact .inl ⟨⟨node, mem_cons_self, empty⟩, by rw [if_pos empty]⟩
    rw [if_neg empty]
    rcases ih (table.set (store.value node "id") node) with
      ⟨⟨other, later, value⟩, run⟩ | ⟨all, result, run, found⟩
    · exact .inl ⟨⟨other, .tail _ later, value⟩, run⟩
    · refine .inr ⟨forall_mem_cons.mpr ⟨empty, all⟩, result, run, fun id => ?_⟩
      rw [found, Table.get?_set]
      by_cases same : store.value node "id" = id
      · rw [filter_cons_of_pos (by simpa using same), if_pos same.symm]
        cases (rest.filter fun node => store.value node "id" = id) with
        | nil => simp
        | cons first others => simp [getLast?_cons]
      · rw [filter_cons_of_neg (by simpa using same), if_neg (Ne.symm same)]

/-- A look-up gives the table that is remembered. Without one it makes a table of the document, and
refuses to if an element has no identifier. -/
theorem run_templatesById (store : Store) (document : Document) (tag : String) :
    ((remembered store document tag).isEmpty = false ∧
      ExceptT.run (templatesById document tag) store =
        (.ok (remembered store document tag), store)) ∨
    ((remembered store document tag).isEmpty = true ∧
      (∃ node ∈ store.descendants document.root tag, store.value node "id" = "") ∧
      ExceptT.run (templatesById document tag) store =
        (.error (.callGraph .templateWithoutId), store)) ∨
    ((remembered store document tag).isEmpty = true ∧
      (∀ node ∈ store.descendants document.root tag, store.value node "id" ≠ "") ∧
      ∃ table, IsIndex store document tag table ∧
        ExceptT.run (templatesById document tag) store =
          (.ok table, { store with libraries := store.libraries.set (document, tag) table })) := by
  have run : ExceptT.run (templatesById document tag) store =
      if (remembered store document tag).isEmpty then
        ExceptT.run (do
          let table ← (store.descendants document.root tag).foldlM (enter store) Table.empty
          modify fun store => { store with libraries := store.libraries.set (document, tag) table }
          return table) store
      else (.ok (remembered store document tag), store) := by
    rw [templatesById, run_bind, run_get]
    cases empty : (remembered store document tag).isEmpty with
    | true =>
      rw [remembered] at empty
      simp only [empty]
      rfl
    | false =>
      rw [remembered] at empty
      simp only [empty]
      rfl
  cases blank : (remembered store document tag).isEmpty with
  | false =>
    rw [run, blank]
    exact .inl ⟨rfl, rfl⟩
  | true =>
    rw [run, blank, if_pos rfl]
    rcases run_enterAll store store (store.descendants document.root tag) .empty with
      ⟨some, refused⟩ | ⟨all, table, made, found⟩
    · exact .inr (.inl ⟨rfl, some, by rw [run_bind, refused]⟩)
    · refine .inr (.inr ⟨rfl, all, table, ?_, ?_⟩)
      · intro id _
        rw [found]
        simp [identified]
      · rw [run_bind, made]
        rfl

/-! Sequences of recordings and look-ups -/

inductive LibraryStep where
  | record (kind : TemplateKind) (parent : Option NodeId) (specification : String)
  | lookUp (kind : TemplateKind)

namespace LibraryStep

def isRecording : LibraryStep → Bool
  | record _ _ _ => true
  | lookUp _ => false

def next (store : Store) : LibraryStep → Store
  | record kind parent specification =>
    ((recordTemplate document kind parent specification).run store).2
  | lookUp kind => ((templatesById document kind.tag).run store).2

def Possible (store : Store) : LibraryStep → Prop
  | record kind parent _ => kind ∈ TemplateKind.all ∧ ∀ node ∈ parent, node.index < store.nodes.size
  | lookUp kind => kind ∈ TemplateKind.all

end LibraryStep

def behind (store : Store) (steps : List LibraryStep) : Store :=
  steps.foldl (LibraryStep.next document) store

def AllPossible (document : Document) : Store → List LibraryStep → Prop
  | _, [] => True
  | store, step :: steps => step.Possible store ∧ AllPossible document (step.next document store) steps

/-- The first step behind which there is something in the table is a recording. -/
def FilledByRecording (document : Document) (tag : String) : Store → List LibraryStep → Prop
  | _, [] => False
  | store, step :: steps =>
    if (remembered (step.next document store) document tag).isEmpty then
      FilledByRecording document tag (step.next document store) steps
    else step.isRecording = true

section Sequence

variable {document : Document} {store : Store} {tag : String}

theorem step_change (tended : Tended store document) (particular : tag ≠ "*")
    (template : tag ≠ "templateRelation") (step : LibraryStep) (possible : step.Possible store) :
    Tended (step.next document store) document ∧
      Change document tag step.isRecording store (step.next document store) := by
  cases step with
  | record kind parent specification =>
    obtain ⟨_, recorded⟩ :=
      (recordTemplate_leads tended possible.1 parent possible.2 specification).reached
    exact ⟨recorded.tended, recorded.toChange tended particular template⟩
  | lookUp kind =>
    rcases run_templatesById store document kind.tag with
      ⟨_, run⟩ | ⟨_, _, run⟩ | ⟨blank, _, table, complete, run⟩
    · rw [LibraryStep.next, run]
      exact ⟨tended, .still rfl fun _ _ => rfl⟩
    · rw [LibraryStep.next, run]
      exact ⟨tended, .still rfl fun _ _ => rfl⟩
    · rw [LibraryStep.next, run]
      let filled := { store with libraries := store.libraries.set (document, kind.tag) table }
      have known := remembered_set store document tag kind.tag table filled rfl
      have elements := identified_sameNodes tended.arranged filled rfl document tag
      refine ⟨tended.extend ((Grown.refl tended.arranged _).sameNodes rfl) rfl, ?_⟩
      by_cases ours : tag = kind.tag
      · subst ours
        rw [if_pos rfl] at known
        refine .read rfl blank ?_ fun id _ => elements id
        rw [known]
        exact complete
      · rw [if_neg ours] at known
        exact .still known fun id _ => elements id

def Lacks (store : Store) (document : Document) (tag : String) : Prop :=
  ∃ id, id ≠ "" ∧ (remembered store document tag).get? id = none ∧
    identified store document tag id ≠ []

theorem Lacks.not_isIndex (lacks : Lacks store document tag) :
    ¬ IsIndex store document tag (remembered store document tag) := by
  obtain ⟨id, filled, unknown, some⟩ := lacks
  intro complete
  have found := complete id filled
  rw [unknown] at found
  exact some (getLast?_eq_none_iff.mp found.symm)

theorem isEmpty_set (table : Table String NodeId) (id : String) (node : NodeId) :
    (table.set id node).isEmpty = false := by
  have found := Table.get?_set table id id node
  rw [if_pos rfl] at found
  cases empty : (table.set id node).isEmpty with
  | false => rfl
  | true =>
    have none := isEmpty_iff.mp empty
    rw [Table.get?, none] at found
    cases found

theorem get?_of_isEmpty {table : Table String NodeId} (blank : table.isEmpty = true) (id : String) :
    table.get? id = none := by
  rw [Table.get?, isEmpty_iff.mp blank]
  rfl

namespace Change

variable {records : Bool} {after : Store}

section

variable (change : Change document tag records store after)
    (used : (remembered store document tag).isEmpty = false)

include change used

theorem complete (complete : IsIndex store document tag (remembered store document tag)) :
    (remembered after document tag).isEmpty = false ∧
      IsIndex after document tag (remembered after document tag) := by
  cases change with
  | still table elements =>
    rw [table]
    refine ⟨used, fun id filled => ?_⟩
    rw [elements id filled]
    exact complete id filled
  | added template id _ filled fresh table elements =>
    rw [table]
    refine ⟨isEmpty_set _ _ _, fun other filledOther => ?_⟩
    rw [Table.get?_set, elements other filledOther]
    split
    · rfl
    · exact complete other filledOther
  | read _ blank table elements =>
    rw [blank] at used
    cases used

theorem lacks (lacks : Lacks store document tag) :
    (remembered after document tag).isEmpty = false ∧ Lacks after document tag := by
  obtain ⟨id, filled, unknown, some⟩ := lacks
  cases change with
  | still table elements =>
    rw [Lacks, table]
    refine ⟨used, id, filled, unknown, ?_⟩
    rw [elements id filled]
    exact some
  | added template given _ _ fresh table elements =>
    have other : id ≠ given := by
      rintro rfl
      exact some fresh
    rw [Lacks, table]
    refine ⟨isEmpty_set _ _ _, id, filled, ?_, ?_⟩
    · rw [Table.get?_set, if_neg other]
      exact unknown
    · rw [elements id filled, if_neg other]
      exact some
  | read _ blank table elements =>
    rw [blank] at used
    cases used

end

theorem blank (change : Change document tag records store after)
    (blank : (remembered store document tag).isEmpty = true) :
    ((∀ id, id ≠ "" → identified after document tag id = identified store document tag id) ∧
      ((remembered after document tag).isEmpty = true ∨
        records = false ∧ IsIndex after document tag (remembered after document tag))) ∨
    (records = true ∧ (remembered after document tag).isEmpty = false ∧
      ((∀ id, id ≠ "" → identified store document tag id = []) ∧
        IsIndex after document tag (remembered after document tag) ∨
      (∃ id, id ≠ "" ∧ identified store document tag id ≠ []) ∧ Lacks after document tag)) := by
  cases change with
  | still table elements =>
    refine .inl ⟨elements, .inl ?_⟩
    rw [table, blank]
  | read looking _ table elements =>
    refine .inl ⟨elements, .inr ⟨looking, fun id filled => ?_⟩⟩
    rw [elements id filled]
    exact table id filled
  | added template given recording filled fresh table elements =>
    rw [table]
    refine .inr ⟨recording, isEmpty_set _ _ _, ?_⟩
    by_cases some : ∃ id, id ≠ "" ∧ identified store document tag id ≠ []
    · obtain ⟨id, filledId, had⟩ := some
      have other : id ≠ given := by
        rintro rfl
        exact had fresh
      refine .inr ⟨⟨id, filledId, had⟩, id, filledId, ?_, ?_⟩
      · rw [table, Table.get?_set, if_neg other, get?_of_isEmpty blank]
      · rw [elements id filledId, if_neg other]
        exact had
    · have none : ∀ id, id ≠ "" → identified store document tag id = [] := by
        intro id filledId
        by_contra had
        exact some ⟨id, filledId, had⟩
      refine .inl ⟨none, fun id filledId => ?_⟩
      rw [Table.get?_set, elements id filledId]
      split
      · rfl
      · rw [get?_of_isEmpty blank, none id filledId]
        rfl

end Change

variable {steps : List LibraryStep}

theorem behind_keeps {invariant : Store → Prop} (particular : tag ≠ "*")
    (template : tag ≠ "templateRelation")
    (kept : ∀ {records before after}, Change document tag records before after → invariant before →
      invariant after) (tended : Tended store document)
    (possible : AllPossible document store steps) (holds : invariant store) :
    Tended (behind document store steps) document ∧ invariant (behind document store steps) := by
  induction steps generalizing store with
  | nil => exact ⟨tended, holds⟩
  | cons step steps ih =>
    obtain ⟨tendedNext, change⟩ := step_change tended particular template step possible.1
    exact ih tendedNext possible.2 (kept change holds)

/-- Behind all steps an empty table is still empty, or complete, or it lacks something. It lacks
something only if a recording has filled it while the document had elements. -/
theorem behind_blank (particular : tag ≠ "*") (template : tag ≠ "templateRelation") (tended : Tended store document)
    (possible : AllPossible document store steps)
    (blank : (remembered store document tag).isEmpty = true) :
    let last := behind document store steps
    let some := ∃ id, id ≠ "" ∧ identified store document tag id ≠ []
    ((remembered last document tag).isEmpty = true ∧ ¬ FilledByRecording document tag store steps) ∨
    ((remembered last document tag).isEmpty = false ∧
      IsIndex last document tag (remembered last document tag) ∧
      ¬ (FilledByRecording document tag store steps ∧ some)) ∨
    ((remembered last document tag).isEmpty = false ∧ Lacks last document tag ∧
      FilledByRecording document tag store steps ∧ some) := by
  induction steps generalizing store with
  | nil => exact .inl ⟨blank, fun filled => filled⟩
  | cons step steps ih =>
    obtain ⟨tendedNext, change⟩ := step_change tended particular template step possible.1
    have complete := fun holds => (behind_keeps particular template
      (fun change holds => change.complete holds.1 holds.2) tendedNext possible.2 holds).2
    have lacking := fun holds => (behind_keeps particular template
      (fun change holds => change.lacks holds.1 holds.2) tendedNext possible.2 holds).2
    simp only [FilledByRecording]
    rcases change.blank blank with
      ⟨elements, next⟩ | ⟨recording, used, ⟨none, filled⟩ | ⟨some, lacks⟩⟩
    · have sameElements : (∃ id, id ≠ "" ∧ identified (step.next document store) document tag id ≠ []) ↔
          ∃ id, id ≠ "" ∧ identified store document tag id ≠ [] := by
        refine exists_congr fun id => and_congr_right fun filled => ?_
        rw [elements id filled]
      cases used : (remembered (step.next document store) document tag).isEmpty with
      | true =>
        have rest := ih tendedNext possible.2 used
        rw [sameElements] at rest
        exact rest
      | false =>
        rcases next with stillBlank | ⟨looking, filled⟩
        · rw [used] at stillBlank
          cases stillBlank
        · refine .inr (.inl ⟨(complete ⟨used, filled⟩).1, (complete ⟨used, filled⟩).2, ?_⟩)
          simp [looking]
    · refine .inr (.inl ⟨(complete ⟨used, filled⟩).1, (complete ⟨used, filled⟩).2, ?_⟩)
      rintro ⟨_, id, filledId, had⟩
      exact had (none id filledId)
    · rw [used]
      refine .inr (.inr ⟨(lacking ⟨used, lacks⟩).1, (lacking ⟨used, lacks⟩).2, ?_, some⟩)
      simpa using recording

end Sequence

structure Untold (store : Store) (document : Document) : Prop where
  arranged : Arranged store
  known : document.root.index < store.nodes.size
  sections : ∀ tag, store.sections.get? (document, tag) = none
  libraries : ∀ tag, store.libraries.get? (document, tag) = none

namespace Untold

variable {store : Store} {document : Document}

theorem tended (untold : Untold store document) : Tended store document := by
  refine ⟨untold.arranged, untold.known, ?_⟩
  intro kind _ node found
  rw [untold.sections] at found
  cases found

theorem blank (untold : Untold store document) (tag : String) :
    (remembered store document tag).isEmpty = true := by
  rw [remembered, untold.libraries]
  rfl

end Untold

theorem addDocument_untold (trees : List Tree) :
    Yields (addDocument trees) {} fun document store => document = ⟨⟨0⟩, 0⟩ ∧ Untold store document := by
  obtain ⟨document, store, run, root, arranged, known, same⟩ := addDocument_yields trees
  have sections : store.sections = .empty := congrArg Prod.fst same
  have libraries : store.libraries = .empty := congrArg Prod.snd same
  refine ⟨document, store, run, root, arranged, known, fun tag => ?_, fun tag => ?_⟩
  · rw [sections, Table.get?_empty]
  · rw [libraries, Table.get?_empty]

theorem exists_identified_iff (store : Store) (document : Document) (tag : String) :
    (∃ id, id ≠ "" ∧ identified store document tag id ≠ []) ↔
      ∃ node ∈ store.descendants document.root tag, store.value node "id" ≠ "" := by
  constructor
  · rintro ⟨id, filled, some⟩
    obtain ⟨node, member⟩ := exists_mem_of_ne_nil _ some
    rw [identified, mem_filter, decide_eq_true_eq] at member
    exact ⟨node, member.1, by rw [member.2]; exact filled⟩
  · rintro ⟨node, member, filled⟩
    refine ⟨store.value node "id", filled, ne_nil_of_mem (a := node) ?_⟩
    exact mem_filter.mpr ⟨member, by simp⟩

/-- Behind any sequence of recordings and look-ups, a look-up gives the index of all templates that are
in the document, unless a recording was the first to fill the table and the document had templates
before. It is refused only if there is no table yet and a template has no identifier. -/
theorem templatesById_isIndex_iff {start : Store} {document : Document} {kind : TemplateKind}
    {steps : List LibraryStep} (untold : Untold start document) (usual : kind ∈ TemplateKind.all)
    (possible : AllPossible document start steps) :
    let last := behind document start steps
    Ensures (templatesById document kind.tag) last (fun table _ =>
      IsIndex last document kind.tag table ↔
        ¬ (FilledByRecording document kind.tag start steps ∧
          ∃ node ∈ start.descendants document.root kind.tag, start.value node "id" ≠ "")) ∧
    ((∃ fault, ((templatesById document kind.tag).run last).1 = .error fault) ↔
      (remembered last document kind.tag).isEmpty = true ∧
        ∃ node ∈ last.descendants document.root kind.tag, last.value node "id" = "") := by
  intro last
  have particular := (TemplateKind.particular kind usual).2.1
  have template := (TemplateKind.ordinary kind usual).2.2.2
  have reached := behind_blank particular template untold.tended possible (untold.blank kind.tag)
  rw [exists_identified_iff] at reached
  refine ⟨?_, ?_⟩
  · intro table after run
    rcases run_templatesById last document kind.tag with
      ⟨used, made⟩ | ⟨_, _, made⟩ | ⟨blank, _, index, complete, made⟩
    · rw [run] at made
      cases made
      rcases reached with ⟨blank, _⟩ | ⟨_, complete, covered⟩ | ⟨_, lacks, filled⟩
      · rw [used] at blank
        cases blank
      · exact ⟨fun _ => covered, fun _ => complete⟩
      · exact ⟨fun complete => (lacks.not_isIndex complete).elim, fun covered => (covered filled).elim⟩
    · rw [run] at made
      cases made
    · rw [run] at made
      cases made
      rcases reached with ⟨_, never⟩ | ⟨used, _⟩ | ⟨used, _⟩
      · exact ⟨fun _ both => never both.1, fun _ => complete⟩
      · rw [blank] at used
        cases used
      · rw [blank] at used
        cases used
  · rcases run_templatesById last document kind.tag with
      ⟨used, made⟩ | ⟨blank, unnamed, made⟩ | ⟨_, named, _, _, made⟩
    · simp [made, used]
    · rw [made]
      exact ⟨fun _ => ⟨blank, unnamed⟩, fun _ => ⟨_, rfl⟩⟩
    · rw [made]
      constructor
      · rintro ⟨_, failed⟩
        cases failed
      · rintro ⟨_, node, member, unnamed⟩
        exact (named node member unnamed).elim

def sharedProgram : List Tree :=
  [.element "callGraph" [] [.element "routine" [("name", some "step")] [],
    .element "parallelRegionTemplates" [] [.element "parallelRegionTemplate" [("id", some "A")]
      [.element "domName" [] [.element "entry" [] [.text "x"]]]]]]

def sharedStore : Store := ((addDocument sharedProgram).run {}).2

def sharedDocument : Document := ⟨⟨0⟩, 0⟩

theorem sharedStore_untold : Untold sharedStore sharedDocument := by
  obtain ⟨document, store, run, rfl, untold⟩ := addDocument_untold sharedProgram
  rw [sharedStore, run]
  exact untold

def secondRecording : LibraryStep := .record .parallelRegion (some ⟨2⟩) "domName(y)"

/-- The template `A` is overlooked if a second one is recorded first, and not if the templates are
looked up before. -/
theorem templatesById_isIndex_iff_sharedProgram :
    Yields (templatesById sharedDocument TemplateKind.parallelRegion.tag)
      (behind sharedDocument sharedStore [secondRecording]) (fun table _ =>
        ¬ IsIndex (behind sharedDocument sharedStore [secondRecording]) sharedDocument
          TemplateKind.parallelRegion.tag table) ∧
    Yields (templatesById sharedDocument TemplateKind.parallelRegion.tag)
      (behind sharedDocument sharedStore [.lookUp .parallelRegion, secondRecording])
      (fun table _ => IsIndex (behind sharedDocument sharedStore
        [.lookUp .parallelRegion, secondRecording]) sharedDocument
          TemplateKind.parallelRegion.tag table) := by
  have usual : TemplateKind.parallelRegion ∈ TemplateKind.all := by simp [TemplateKind.all]
  have facts : 2 < sharedStore.nodes.size ∧
      2 < (LibraryStep.next sharedDocument sharedStore (.lookUp .parallelRegion)).nodes.size ∧
      (∀ steps ∈ [[secondRecording], [.lookUp .parallelRegion],
        [.lookUp .parallelRegion, secondRecording]],
        (remembered (behind sharedDocument sharedStore steps) sharedDocument
          TemplateKind.parallelRegion.tag).isEmpty = false) ∧
      ∃ node ∈ sharedStore.descendants sharedDocument.root TemplateKind.parallelRegion.tag,
        sharedStore.value node "id" ≠ "" := by
    decide +kernel
  have untold := sharedStore_untold
  generalize sharedStore = store at facts untold ⊢
  generalize sharedDocument = document at facts untold ⊢
  obtain ⟨known, knownLater, used, some⟩ := facts
  have possible : AllPossible document store [secondRecording] :=
    ⟨⟨usual, fun node member => by cases member; exact known⟩, trivial⟩
  have possibleLater : AllPossible document store [.lookUp .parallelRegion, secondRecording] :=
    ⟨usual, ⟨usual, fun node member => by cases member; exact knownLater⟩, trivial⟩
  have recorded := templatesById_isIndex_iff untold usual possible
  have looked := templatesById_isIndex_iff untold usual possibleLater
  refine ⟨?_, ?_⟩
  · rcases run : (templatesById document TemplateKind.parallelRegion.tag).run
      (behind document store [secondRecording]) with ⟨fault | table, after⟩
    · have blank := (recorded.2.mp ⟨fault, by rw [run]⟩).1
      rw [used _ (.head _)] at blank
      cases blank
    · refine ⟨table, after, run, fun complete => (recorded.1 table after run).mp complete ⟨?_, some⟩⟩
      have filled : (remembered (secondRecording.next document store) document
        TemplateKind.parallelRegion.tag).isEmpty = false := used _ (.head _)
      rw [FilledByRecording, filled]
      rfl
  · rcases run : (templatesById document TemplateKind.parallelRegion.tag).run
      (behind document store [.lookUp .parallelRegion, secondRecording]) with ⟨fault | table, after⟩
    · have blank := (looked.2.mp ⟨fault, by rw [run]⟩).1
      rw [used _ (.tail _ (.tail _ (.head _)))] at blank
      cases blank
    · refine ⟨table, after, run, (looked.1 table after run).mpr ?_⟩
      have filled : (remembered (LibraryStep.next document store (.lookUp .parallelRegion)) document
        TemplateKind.parallelRegion.tag).isEmpty = false := used _ (.tail _ (.head _))
      rw [FilledByRecording, filled]
      rintro ⟨recording, _⟩
      cases recording

end ParallelFortran.CallGraph
