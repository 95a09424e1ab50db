import Mathlib.Logic.Relation
import ParallelFortran.CallGraph.Regions
import ParallelFortran.Proofs.Copy
import ParallelFortran.Proofs.Table

/-! The call graph that a document describes: routines, calls between them, and kernels. -/

namespace ParallelFortran.CallGraph

open Xml Xml.Store

variable (store : Store) (document : Document)

def routineNodes : List NodeId :=
  store.descendants document.root "routine"

def callNodes : List NodeId :=
  store.descendants document.root "call"

def templateNodes : List NodeId :=
  store.descendants document.root "parallelRegionTemplate"

variable (caller callee : NodeId)

def Calls : Prop :=
  caller ∈ routineNodes store document ∧ callee ∈ routineNodes store document ∧
    ∃ call ∈ callNodes store document,
      store.value call "caller" = store.value caller "name" ∧
      store.value call "callee" = store.value callee "name"

instance : Decidable (Calls store document caller callee) :=
  inferInstanceAs (Decidable (_ ∧ _))

/-- One routine calls another, and a parallel region surrounds the call. -/
def CallsFromRegion : Prop :=
  caller ∈ routineNodes store document ∧ callee ∈ routineNodes store document ∧
    ∃ call ∈ callNodes store document,
      store.value call "caller" = store.value caller "name" ∧
      store.value call "callee" = store.value callee "name" ∧
      store.value call "parallelRegionPosition" = "surround"

def Reaches : NodeId → NodeId → Prop :=
  Relation.TransGen (Calls store document)

/-- A path of calls of which the first is surrounded by a parallel region. -/
def ReachesFromRegion : Prop :=
  ∃ first, CallsFromRegion store document caller first ∧
    Relation.ReflTransGen (Calls store document) first callee

/-- A template is for the architecture: it names no architecture, or one that matches. -/
def Applies (architecture : String) (template : NodeId) : Prop :=
  match store.descendants template "appliesTo" with
  | [] => True
  | setting :: _ => ∃ entry ∈ store.descendants setting "entry", ∃ text,
      simpleValue? (store.tree entry) = some text ∧
      RegionAnalysis.matchesArchitecture architecture text = true

def template? (id : String) : Option NodeId :=
  (templateNodes store document).find? fun template => store.value template "id" == id

def Wanted (architecture id : String) : Prop :=
  ∃ template, template? store document id = some template ∧ Applies store architecture template

variable (architecture : String) (routine : NodeId)

/-- A routine has a region with a template that is for the architecture. -/
def Keeps (id : String) : Prop :=
  ∃ regions ∈ store.descendants routine "parallelRegions",
    ∃ relation ∈ store.descendants regions "templateRelation",
      store.value relation "id" = id ∧ Wanted store document architecture id

def IsKernel : Prop :=
  ∃ id, Keeps store document architecture routine id

/-- A document as the sources are outlined into it. Nothing has been analysed in it yet. -/
structure CallGraphDocument : Prop where
  arranged : Arranged store
  routines : ∀ routine ∈ routineNodes store document, store.descendants routine "routine" = [] ∧
    store.descendants routine "parallelRegionTemplate" = []
  templates : ∀ template ∈ templateNodes store document, store.descendants template "routine" = []
  settings : ∀ template ∈ templateNodes store document,
    ∀ setting ∈ store.descendants template "appliesTo",
      ∀ entry ∈ store.descendants setting "entry", (simpleValue? (store.tree entry)).isSome
  regions : ∀ regions ∈ store.descendants document.root "parallelRegions",
    ∃ routine ∈ routineNodes store document, regions ∈ store.children routine
  single : ∀ routine ∈ routineNodes store document,
    (store.descendants routine "parallelRegions").length ≤ 1
  listed : ∀ regions ∈ store.descendants document.root "parallelRegions",
    store.descendants regions "templateRelation" ≠ []
  relations : ∀ regions ∈ store.descendants document.root "parallelRegions",
    ∀ relation ∈ store.descendants regions "templateRelation",
      relation ∈ store.children regions ∧ (template? store document (store.value relation "id")).isSome
  unanalysed : store.descendants document.root "activeParallelRegions" = []

/-- What counts of a call graph: its routines, their calls, and the templates that they keep. -/
structure Net where
  routine : NodeId → Prop
  calls : NodeId → NodeId → Prop
  callsFromRegion : NodeId → NodeId → Prop
  keeps : NodeId → String → Prop

abbrev Net.kernel (net : Net) (routine : NodeId) : Prop :=
  ∃ id, net.keeps routine id

abbrev net : Net :=
  ⟨(· ∈ routineNodes store document), Calls store document, CallsFromRegion store document,
    Keeps store document architecture⟩

theorem groupByAttribute_get (name key : String) (nodes : List NodeId) :
    ((groupByAttribute store name nodes).get? key).getD [] =
      nodes.filter fun node => store.value node name == key := by
  have general : ∀ (table : Table String (List NodeId)),
      ((nodes.foldl (fun table node =>
        let key := store.value node name
        table.set key ((table.get? key).getD [] ++ [node])) table).get? key).getD [] =
        (table.get? key).getD [] ++ nodes.filter fun node => store.value node name == key := by
    induction nodes with
    | nil => simp
    | cons node nodes ih =>
      intro table
      rw [List.foldl_cons, ih, Table.get?_set]
      by_cases same : key = store.value node name
      · simp [same]
      · simp [same, Ne.symm same]
  rw [groupByAttribute, general]
  rfl

/-- Every path from a place takes fewer steps than the fuel allows. -/
def Shallow {α : Type} (next : α → α → Prop) : Nat → α → Prop
  | 0, _ => False
  | fuel + 1, place => ∀ other, next place other → Shallow next fuel other

theorem shallow_of_acyclic {α ε : Type} {next : α → α → Prop} (edges : List ε)
    (leaves : ε → α → Prop)
    (covered : ∀ place other, next place other → ∃ edge ∈ edges, leaves edge place)
    (single : ∀ edge left right, leaves edge left → leaves edge right → left = right)
    (acyclic : ∀ place, ¬ Relation.TransGen next place place) (fuel : Nat) (place : α)
    (enough : edges.length < fuel) : Shallow next fuel place := by
  have general : ∀ fuel used place, used.Nodup → used ⊆ edges →
      (∀ edge ∈ used, ∃ origin, leaves edge origin ∧ Relation.TransGen next origin place) →
      edges.length < used.length + fuel → Shallow next fuel place := by
    intro fuel
    induction fuel with
    | zero =>
      intro used place distinct known _ enough
      have fewer := distinct.length_le_of_subset known
      omega
    | succ fuel ih =>
      intro used place distinct known behind enough other forward
      obtain ⟨edge, member, origin⟩ := covered place other forward
      have fresh : edge ∉ used := by
        intro seen
        obtain ⟨earlier, earlierLeaves, path⟩ := behind edge seen
        rw [single edge earlier place earlierLeaves origin] at path
        exact acyclic place path
      refine ih (edge :: used) other (List.nodup_cons.mpr ⟨fresh, distinct⟩)
        (List.cons_subset.mpr ⟨member, known⟩) ?_ (by simp only [List.length_cons]; omega)
      intro step stepMember
      rcases List.mem_cons.mp stepMember with rfl | seen
      · exact ⟨place, origin, .single forward⟩
      · obtain ⟨earlier, earlierLeaves, path⟩ := behind step seen
        exact ⟨earlier, earlierLeaves, path.tail forward⟩
  exact general fuel [] place (by simp) (by simp) (by simp) (by simpa using enough)

end ParallelFortran.CallGraph
