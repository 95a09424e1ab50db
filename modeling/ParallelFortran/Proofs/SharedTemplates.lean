import Mathlib.Data.List.Pairwise
import ParallelFortran.Proofs.TemplateLibrary

/-! Libraries of templates behind any sequence of recordings. A library holds every template once, with
the settings of the first specification that gave them, and all references to templates with the same
settings carry its identifier. -/

namespace ParallelFortran.CallGraph

open Xml Xml.Store List

/-- A specification that is to be recorded: for which kind and from which element, its settings and
how they are written. -/
structure Recording where
  kind : TemplateKind
  parent : NodeId
  settings : List Setting
  text : String

def Recording.run (document : Document) (recording : Recording) : StoreM (NodeId × NodeId) :=
  recordTemplate document recording.kind (some recording.parent) recording.text

structure Recording.Proper (start : Store) (recording : Recording) : Prop where
  usual : recording.kind ∈ TemplateKind.all
  settings : ProperSettings recording.settings
  spelled : Spells recording.settings recording.text.toList
  placed : (start.tag? recording.parent).isSome

open Recording

/-- No setting has a name that makes it be taken for something else: for the library of another kind
that is used too, or for the element that collects the references of the whole document. -/
structure Unmistakable (outermost : NodeId) (recordings : List Recording) : Prop where
  library : ∀ recording ∈ recordings, ∀ other ∈ recordings, other.kind ≠ recording.kind →
    ∀ setting ∈ recording.settings, setting.name ≠ other.kind.library
  references : ∀ recording ∈ recordings, recording.parent = outermost → ∀ other ∈ recordings,
    ∀ setting ∈ other.settings, setting.name ≠ recording.kind.references

structure Refers (store : Store) (stock : List Shelved) (recording : Recording)
    (result : NodeId × NodeId) (item : Shelved) : Prop where
  listed : item ∈ stock
  kind : item.kind = recording.kind
  template : item.template = result.2
  settings : SameSettings item.settings recording.settings
  relation : store.label result.1 = .element "templateRelation" [("id", some item.id)]

theorem Refers.extend {before after : Store} {stock : List Shelved} {recording : Recording}
    {result : NodeId × NodeId} {item : Shelved} (refers : Refers before stock recording result item)
    (extended : Extended before after) (more : List Shelved) :
    Refers after (stock ++ more) recording result item := by
  have known := bound_of_tag (by simp [tag?, refers.relation] : (before.tag? result.1).isSome)
  exact ⟨mem_append_left _ refers.listed, refers.kind, refers.template, refers.settings,
    by rw [extended.label _ known, refers.relation]⟩

section Sequence

variable {document : Document} {outermost : NodeId} {recordings : List Recording}
  {start store : Store} {stock : List Shelved}

section

variable (stocked : Stocked document outermost (recordings.map kind) start store stock)

include stocked

section

variable (unmistakable : Unmistakable outermost recordings)
  (proper : ∀ recording ∈ recordings, recording.Proper start)
  (known : ∀ item ∈ stock, ∃ recording ∈ recordings, item.settings = recording.settings)
include unmistakable proper known

theorem Stocked.record_yields {recording : Recording} (member : recording ∈ recordings) :
    Yields (recording.run document) store fun result after =>
      ∃ more, Stocked document outermost (recordings.map kind) start after (stock ++ more) ∧
        Extended store after ∧ (∀ item ∈ more, item.settings = recording.settings) ∧
        ∃ item, Refers after (stock ++ more) recording result item := by
  have own := proper recording member
  have kindListed : recording.kind ∈ recordings.map kind := mem_map_of_mem member
  have free : ∀ other ∈ recordings.map kind, other ≠ recording.kind →
      other.library ∉ templateTags recording.kind recording.settings := by
    intro kind listed different
    obtain ⟨other, inside, rfl⟩ := mem_map.mp listed
    have apart := TemplateKind.apart recording.kind own.usual other.kind (stocked.usual listed)
    have entry := (TemplateKind.ordinary other.kind (stocked.usual listed)).1
    simp only [templateTags, mem_cons, mem_map, not_or, not_exists, not_and]
    exact ⟨Ne.symm apart.1, entry, fun setting within =>
      unmistakable.library recording member other inside different setting within⟩
  refine (stocked.firstLevel_yields kindListed).bind ?_
  rintro library opened ⟨stockedOpened, extendedOpened, shelf⟩
  refine written_yields stocked.fresh.unfrozen stockedOpened.extended.arranged own.spelled
    own.settings.each ?_
  intro template id written made
  refine (stockedOpened.shelve_yields kindListed shelf made own.settings free).bind ?_
  rintro _ shelved ⟨more, stockedShelved, extendedShelved, given, item, listed, rfl, kind, same⟩
  have unnamed : recording.parent = outermost → ∀ item ∈ stock ++ more, ∀ setting ∈ item.settings,
      setting.name ≠ recording.kind.references := by
    intro outer item inStock setting within
    rcases mem_append.mp inStock with old | new
    · obtain ⟨other, inside, settings⟩ := known item old
      rw [settings] at within
      exact unmistakable.references recording member outer other inside setting within
    · rw [given item new] at within
      exact unmistakable.references recording member outer recording member setting within
  refine (stockedShelved.refer_yields kindListed own.placed unnamed listed).weaken ?_
  rintro result after ⟨stockedAfter, extendedAfter, template, relation⟩
  exact ⟨more, stockedAfter, (extendedOpened.trans extendedShelved).trans extendedAfter, given, item,
    listed, kind, template.symm, same, relation⟩

theorem Stocked.run_yields {remaining : List Recording} (subset : remaining ⊆ recordings) :
    Yields (remaining.mapM (run document)) store fun results after =>
      ∃ more, Stocked document outermost (recordings.map kind) start after (stock ++ more) ∧
        Extended store after ∧ Forall₂ (fun recording result =>
          ∃ item, Refers after (stock ++ more) recording result item) remaining results := by
  induction remaining generalizing store stock with
  | nil => exact .pure ⟨[], by simpa using stocked, .refl stocked.extended.arranged _, .nil⟩
  | cons recording remaining ih =>
    have member : recording ∈ recordings := subset mem_cons_self
    rw [mapM_cons]
    refine (stocked.record_yields unmistakable proper known member).bind ?_
    rintro result between ⟨more, stockedBetween, extended, given, item, refers⟩
    have knownBetween :=
      forall_mem_append.mpr ⟨known, fun item new => ⟨recording, member, given item new⟩⟩
    refine (ih stockedBetween knownBetween fun _ inside => subset (.tail _ inside)).bind ?_
    rintro results after ⟨further, stockedAfter, extendedAfter, others⟩
    rw [append_assoc] at stockedAfter others
    refine .pure ⟨more ++ further, stockedAfter, extended.trans extendedAfter,
      .cons ⟨item, ?_⟩ others⟩
    rw [← append_assoc]
    exact refers.extend extendedAfter further

end

end

def shelfOf (store : Store) (document : Document) (kind : TemplateKind) : List NodeId :=
  ((store.sections.get? (document, kind.library)).map store.children).getD []

theorem Refers.value {item : Shelved} {recording : Recording} {result : NodeId × NodeId}
    (refers : Refers store stock recording result item) : store.value result.1 "id" = item.id := by
  rw [Store.value, value?, attributes, refers.relation]
  rfl

theorem Stocked.id_eq_iff {kinds : List TemplateKind}
    (stocked : Stocked document outermost kinds start store stock) {item other : Shelved}
    (listed : item ∈ stock) (otherListed : other ∈ stock) :
    item.id = other.id ↔ item.kind = other.kind ∧ SameSettings item.settings other.settings := by
  constructor
  · intro same
    have equal : item = other := inj_on_of_nodup_map stocked.ids listed otherListed same
    subst equal
    exact ⟨rfl, fun _ => Iff.rfl⟩
  · rintro ⟨kind, same⟩
    by_contra different
    have symmetric : Std.Symm fun item other : Shelved =>
        item.kind = other.kind → ¬ SameSettings item.settings other.settings :=
      ⟨fun _ _ unlike sameKind alike => unlike sameKind.symm alike.symm⟩
    exact stocked.distinct.forall listed otherListed (fun equal => different (by rw [equal])) kind same

structure Shared (document : Document) (recordings : List Recording)
    (results : List (NodeId × NodeId)) (store : Store) : Prop where
  /-- A template holds exactly the settings, and the reference has its identifier. -/
  templates : Forall₂ (fun recording result => ∃ id settings,
    SameSettings settings recording.settings ∧
      store.tree result.2 = templateTree recording.kind.tag id settings ∧
      store.label result.1 = .element "templateRelation" [("id", some id)]) recordings results
  /-- References have the same identifier if and only if they are to the same settings. -/
  references : ∀ first ∈ recordings.zip results, ∀ second ∈ recordings.zip results,
    (store.value first.2.1 "id" = store.value second.2.1 "id" ↔
      first.1.kind = second.1.kind ∧ SameSettings first.1.settings second.1.settings)
  /-- No library holds two templates with the same settings. -/
  libraries : ∀ recording ∈ recordings, ∃ library : List (String × List Setting),
    (shelfOf store document recording.kind).map store.tree =
      library.map (fun item => templateTree recording.kind.tag item.1 item.2) ∧
    library.Pairwise fun item other => ¬ SameSettings item.2 other.2

/-- Specifications that are recorded in a fresh document, in any order and for both kinds, share their
templates exactly if they give the same settings to the same kind. -/
theorem recordings_share_templates (fresh : Fresh start document outermost)
    (proper : ∀ recording ∈ recordings, recording.Proper start)
    (unmistakable : Unmistakable outermost recordings) :
    Yields (recordings.mapM (Recording.run document)) start (Shared document recordings) := by
  have usual : recordings.map kind ⊆ TemplateKind.all := by
    intro kind listed
    obtain ⟨other, inside, rfl⟩ := mem_map.mp listed
    exact (proper other inside).usual
  refine ((fresh.stocked usual).run_yields unmistakable proper (forall_mem_nil _)
    (Subset.refl recordings)).weaken ?_
  rintro results after ⟨stock, stocked, _, refers⟩
  rw [nil_append] at stocked refers
  refine ⟨refers.imp ?_, ?_, ?_⟩
  · rintro recording result ⟨item, refers⟩
    refine ⟨item.id, item.settings, refers.settings, ?_, refers.relation⟩
    rw [← refers.template, stocked.trees item refers.listed, refers.kind]
  · intro first firstInside second secondInside
    obtain ⟨item, refersFirst⟩ := (forall₂_iff_zip.mp refers).2 firstInside
    obtain ⟨other, refersSecond⟩ := (forall₂_iff_zip.mp refers).2 secondInside
    rw [refersFirst.value, refersSecond.value,
      stocked.id_eq_iff refersFirst.listed refersSecond.listed, refersFirst.kind, refersSecond.kind]
    refine and_congr_right fun _ => ⟨fun same => ?_, fun same => ?_⟩
    · exact refersFirst.settings.symm.trans (same.trans refersSecond.settings)
    · exact refersFirst.settings.trans (same.trans refersSecond.settings.symm)
  · intro recording member
    rcases stocked.shelves recording.kind (mem_map_of_mem member) with unused | ⟨library, shelf⟩
    · refine ⟨[], ?_, .nil⟩
      rw [shelfOf, unused.forgotten]
      rfl
    · refine ⟨(stock.filter fun item => item.kind = recording.kind).map fun item =>
        (item.id, item.settings), ?_, ?_⟩
      · rw [shelfOf, shelf.remembered, Option.map_some, Option.getD_some, shelf.children,
          map_map, map_map]
        apply map_congr_left
        intro item inside
        obtain ⟨listed, kind⟩ := mem_filter.mp inside
        rw [Function.comp, Function.comp, stocked.trees item listed, of_decide_eq_true kind]
      · rw [pairwise_map]
        refine (stocked.distinct.filter _).imp_of_mem ?_
        intro item other inside otherInside unlike
        have kind := of_decide_eq_true (mem_filter.mp inside).2
        have otherKind := of_decide_eq_true (mem_filter.mp otherInside).2
        exact unlike (kind.trans otherKind.symm)

def Recording.plainly (kind : TemplateKind) (parent : NodeId) (settings : List Setting) : Recording :=
  ⟨kind, parent, settings, String.ofList (plainSettings settings)⟩

theorem Recording.Proper.plainly {kind : TemplateKind} {parent : NodeId} {settings : List Setting}
    (usual : kind ∈ TemplateKind.all) (proper : ProperSettings settings)
    (placed : (start.tag? parent).isSome) : (plainly kind parent settings).Proper start := by
  refine ⟨usual, proper, ?_, placed⟩
  rw [Recording.plainly, String.toList_ofList]
  exact spells_plain fun setting member => (proper.each setting member).some

end Sequence

def pairProgram : List Tree :=
  [.element "callGraph" [] [.element "routine" [("name", some "first")] [],
    .element "routine" [("name", some "second")] []]]

def pairStore : Store := ((addDocument pairProgram).run {}).2

def pairDocument : Document := ⟨⟨0⟩, 0⟩

theorem pairStore_fresh : Fresh pairStore pairDocument ⟨1⟩ := by
  have untold : Untold pairStore pairDocument := by
    obtain ⟨document, store, run, rfl, untold⟩ := addDocument_untold pairProgram
    rw [pairStore, run]
    exact untold
  exact ⟨untold, rfl, rfl, by decide +kernel, by decide +kernel⟩

/-- The same settings in two orders and for two kinds, and others with swapped entries. -/
def pairRecordings : List Recording :=
  [.plainly .parallelRegion ⟨2⟩ [⟨"domName", ["x", "y"]⟩, ⟨"domSize", ["NX"]⟩],
    .plainly .parallelRegion ⟨3⟩ [⟨"domSize", ["NX"]⟩, ⟨"domName", ["x", "y"]⟩],
    .plainly .domainDependant ⟨2⟩ [⟨"domName", ["x", "y"]⟩, ⟨"domSize", ["NX"]⟩],
    .plainly .parallelRegion ⟨2⟩ [⟨"domName", ["y", "x"]⟩, ⟨"domSize", ["NX"]⟩]]

theorem recordings_share_templates_pair :
    Fresh pairStore pairDocument ⟨1⟩ ∧ (∀ recording ∈ pairRecordings, recording.Proper pairStore) ∧
      Unmistakable ⟨1⟩ pairRecordings ∧
      Yields (pairRecordings.mapM (Recording.run pairDocument)) pairStore
        (Shared pairDocument pairRecordings) := by
  have placed : (pairStore.tag? ⟨2⟩).isSome ∧ (pairStore.tag? ⟨3⟩).isSome := by decide +kernel
  have fresh := pairStore_fresh
  generalize pairStore = store at fresh placed ⊢
  generalize pairDocument = document at fresh ⊢
  have proper : ∀ recording ∈ pairRecordings, recording.Proper store := by
    simp only [pairRecordings, forall_mem_cons]
    refine ⟨.plainly (by decide) (by decide +kernel) placed.1,
      .plainly (by decide) (by decide +kernel) placed.2,
      .plainly (by decide) (by decide +kernel) placed.1,
      .plainly (by decide) (by decide +kernel) placed.1, forall_mem_nil _⟩
  have unmistakable : Unmistakable ⟨1⟩ pairRecordings := ⟨by decide +kernel, by decide +kernel⟩
  exact ⟨fresh, proper, unmistakable, recordings_share_templates fresh proper unmistakable⟩

def isSpoilt (store : Store) (tag : String) (pair : Recording × NodeId × NodeId) : Bool :=
  pair.1.kind.tag != tag && (pair.1.settings.all fun setting => setting.name != tag) &&
    !((store.tree pair.2.2).inside tag).isEmpty

theorem not_shared {start : Store} {document : Document} {recordings : List Recording} (tag : String)
    (entry : tag ≠ "entry")
    (spoilt : ((recordings.zip (((recordings.mapM (run document)).run
      start).1.toOption.getD [])).any (isSpoilt ((recordings.mapM
        (run document)).run start).2 tag)) = true) :
    ¬ Yields (recordings.mapM (run document)) start (Shared document recordings) := by
  rintro ⟨results, after, run, shared⟩
  rw [run, any_eq_true] at spoilt
  obtain ⟨pair, member, filled⟩ := spoilt
  simp only [isSpoilt, Bool.and_eq_true, bne_iff_ne, all_eq_true] at filled
  obtain ⟨⟨other, named⟩, filled⟩ := filled
  obtain ⟨id, settings, same, own, _⟩ := (forall₂_iff_zip.mp shared.templates).2 member
  have unlisted : tag ∉ templateTags pair.1.kind settings := by
    simp only [templateTags, mem_cons, mem_map, not_or, not_exists, not_and]
    exact ⟨Ne.symm other, entry, fun setting within => named setting ((same setting).mp within)⟩
  have inside : (templateTree pair.1.kind.tag id settings).inside tag = [] := by
    rw [Tree.inside, map_eq_nil_iff, filter_eq_nil_iff]
    intro element member isTag
    rw [← eq_of_beq isTag] at unlisted
    exact unlisted (template_tags (mem_map_of_mem member))
  rw [own, inside] at filled
  cases filled

def bothKinds : List Recording :=
  [.plainly .parallelRegion ⟨2⟩ [⟨"domName", ["x"]⟩],
    .plainly .domainDependant ⟨2⟩ [⟨"domName", ["x"]⟩]]

/-- What the conditions on names and places are for. From the outermost element, references are put
into a setting that has the name of their collection; templates are put into a setting that has the name
of their library; and a place in a template is a place for references, too. The two kinds never share
a template. -/
theorem templates_spoilt :
    (∀ recordings ∈ ([
        [.plainly .parallelRegion ⟨1⟩ [⟨"parallelRegions", ["x"]⟩]],
        [.plainly .parallelRegion ⟨2⟩ [⟨"domainDependantTemplates", ["x"]⟩],
          .plainly .domainDependant ⟨2⟩ [⟨"domName", ["x"]⟩]],
        [.plainly .parallelRegion ⟨2⟩ [⟨"domName", ["x"]⟩],
          .plainly .parallelRegion ⟨6⟩ [⟨"domName", ["y"]⟩]]] : List (List Recording)),
      ¬ Yields (recordings.mapM (Recording.run pairDocument)) pairStore
        (Shared pairDocument recordings)) ∧
    Yields (bothKinds.mapM (Recording.run pairDocument)) pairStore fun results after =>
      (results.map fun result => after.value result.1 "id") = [identifier 1, identifier 2] := by
  refine ⟨?_, ?_⟩
  · simp only [forall_mem_cons]
    exact ⟨not_shared "templateRelation" (by decide) (by decide +kernel),
      not_shared "domainDependantTemplate" (by decide) (by decide +kernel),
      not_shared "templateRelation" (by decide) (by decide +kernel), forall_mem_nil _⟩
  · have facts : (((bothKinds.mapM (run pairDocument)).run pairStore).1.toOption.map
        fun results => results.map fun result =>
          ((bothKinds.mapM (run pairDocument)).run pairStore).2.value result.1 "id") =
        some [identifier 1, identifier 2] := by decide +kernel
    generalize pairStore = store at facts ⊢
    obtain ⟨results, returned, ids⟩ := Option.map_eq_some_iff.mp facts
    exact ⟨results, _, run_of_toOption returned, ids⟩

end ParallelFortran.CallGraph
