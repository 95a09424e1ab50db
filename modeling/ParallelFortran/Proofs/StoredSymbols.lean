import ParallelFortran.Proofs.Queries
import ParallelFortran.Proofs.Store
import ParallelFortran.Proofs.Table

/-! What is stored of a symbol in its entry, and what the analysis of symbols reads from there. The
module that a symbol comes from is stored under another name than it is looked for. -/

namespace ParallelFortran

open Xml CallGraph AnalysisTable

def Xml.Store.sources (store : Store) (node : NodeId) : Option String :=
  store.value? node "sourceModule"

theorem setAttribute_sources (id : NodeId) {name : String} (value : String)
    (other : "sourceModule" ≠ name) : Advances (Same Store.sources) (setAttribute id name value) := by
  refine .modified fun store => funext fun node => ?_
  simp only [Store.sources, Store.value?, Store.attributes, Store.label, Store.node?_modify]
  by_cases same : node = id
  · subst same
    cases found : store.node? node with
    | none => simp
    | some given => cases shape : given.label <;> simp [shape, Attributes.value_set, other]
  · simp [same]

namespace Registry

theorem storeEntry_sources (id : SymbolId) (other : Option NodeId) :
    Advances (Same fun registry => registry.store.sources) (storeEntry id other) := by
  have plain : ∀ entry {name} value, "sourceModule" ≠ name →
      Advances (Same fun registry => registry.store.sources)
        (onStore (setAttribute entry name value)) :=
    fun entry _ value other =>
      ⟨fun registry => (setAttribute_sources entry value other).follows registry.store⟩
  refine .bind (find_advances id) fun symbol => ?_
  split
  · exact .throw _
  · next entry _ =>
    iterate 4
      refine .bind ?_ fun _ => ?_
      · dsimp only
        split
        · exact plain entry _ (by decide)
        · exact .pure ()
    refine .bind (plain entry _ (by decide)) fun _ => .bind (plain entry _ (by decide)) fun _ =>
      .bind (plain entry _ (by decide)) fun _ => ?_
    dsimp only
    split
    · exact .bind (plain entry _ (by decide)) fun _ => .pure entry
    · exact .pure entry

end Registry

namespace CallGraph

instance (document : Document) (scope : NodeId) :
    Advances (Same Store.sources) (dependants document scope) := .composed

def SymbolAnalysis.IsLocal (analysis : SymbolAnalysis) : Prop :=
  analysis.kind.isModuleSymbol = false ∧ isGiven analysis.sourceModule = false

namespace Analysing

structure Unsourced (analysing : Analysing) : Prop where
  store : ∀ node, SymbolAnalysis.isGiven (analysing.store.sources node) = false
  objects : ∀ id, (analysing.object id).IsLocal

variable {analysing : Analysing}

theorem ofEntry_isLocal {store : Store} {entry : NodeId}
    (unsourced : SymbolAnalysis.isGiven (store.sources entry) = false) {routine : String}
    {arguments : List String} {analysis : SymbolAnalysis}
    (read : ofEntry store routine arguments entry = .ok analysis) : analysis.IsLocal := by
  obtain ⟨name, _, read⟩ := parts_of_bind_eq_ok read
  rw [Store.sources] at unsourced
  cases read
  refine ⟨?_, unsourced⟩
  simp only [unsourced]
  split <;> rfl

def AllLocal (table : Table String SymbolAnalysis) : Prop :=
  ∀ name analysis, table.get? name = some analysis → analysis.IsLocal

theorem AllLocal.set {table : Table String SymbolAnalysis} (all : AllLocal table) (name : String)
    {given : SymbolAnalysis} (isLocal : given.IsLocal) : AllLocal (table.set name given) := by
  intro key analysis found
  rw [Table.get?_set] at found
  split at found
  · cases found
    exact isLocal
  · exact all key analysis found

theorem localAnalyses_allLocal {store : Store}
    (unsourced : ∀ node, SymbolAnalysis.isGiven (store.sources node) = false) {routine : String}
    {arguments : List String} {entries : List NodeId} {own : Table String SymbolAnalysis}
    (read : localAnalyses store routine arguments entries = .ok own) : AllLocal own := by
  obtain ⟨listed, entered, done⟩ := parts_of_bind_eq_ok read
  cases done
  clear read
  have first : AllLocal listed := by
    have start : AllLocal .empty := fun _ _ found => nomatch found
    generalize Table.empty = table at start entered
    induction entries generalizing table with
    | nil =>
      cases entered
      exact start
    | cons entry entries ih =>
      obtain ⟨next, step, entered⟩ := parts_of_bind_eq_ok entered
      obtain ⟨analysis, found, step⟩ := parts_of_bind_eq_ok step
      cases step
      exact ih _ (start.set _ (ofEntry_isLocal (unsourced entry) found)) entered
  refine List.foldlRecOn _ _ first fun table all ⟨argument, position⟩ _ => ?_
  dsimp only
  split
  · exact all
  · exact all.set _ ⟨rfl, rfl⟩

section

variable (unsourced : analysing.Unsourced) {analysis : SymbolAnalysis} (isLocal : analysis.IsLocal)

include unsourced isLocal

theorem addObject_unsourced :
    Ensures (addObject analysis) analysing fun _ after => after.Unsourced := by
  intro _ _ run
  cases run
  refine ⟨unsourced.store, fun id => ?_⟩
  rw [object, Array.getElem?_push]
  split
  · exact isLocal
  · exact unsourced.objects id

theorem joined_unsourced (routine : String) (known : AnalysisId) :
    Unsourced { analysing with objects := analysing.objects.modify known.index fun _ =>
      ((analysing.object known).addDownstream analysis routine).1 } := by
  refine ⟨unsourced.store, fun id => ?_⟩
  have old := unsourced.objects id
  rw [object, Array.getElem?_modify]
  split
  · next same =>
    cases present : analysing.objects[id.index]? with
    | none => simpa [object, present] using old
    | some found =>
      have kept := unsourced.objects known
      refine ⟨?_, kept.2⟩
      simp only [SymbolAnalysis.addDownstream]
      split
      · exact isLocal.1
      · exact kept.1
  · exact old

theorem enter_unsourced (routine : String) (call : Option (String × List String)) (name : String) :
    Ensures (enter routine call name analysis) analysing fun _ after => after.Unsourced := by
  refine .bind (addObject_unsourced unsourced isLocal) fun current state unsourced => ?_
  refine .step (run_get _) ?_
  dsimp only
  split
  · split
    · exact .modified ⟨unsourced.store, unsourced.objects⟩
    · exact .pure ⟨unsourced.store, unsourced.objects⟩
  · refine .bind (.loop Unsourced (fun known _ _ state unsourced => ?_) unsourced)
      fun _ state unsourced => .modified ⟨unsourced.store, unsourced.objects⟩
    have joined := joined_unsourced unsourced isLocal routine known
    exact .step (run_modify _ _) (.pure ⟨joined.store, joined.objects⟩)

end

theorem onStore_unsourced {α : Type} {action : StoreM α} [keeps : Advances (Same Store.sources) action]
    (unsourced : analysing.Unsourced) :
    Ensures (onStore action) analysing fun _ after => after.Unsourced := by
  have same := keeps.follows analysing.store
  intro value after run
  rw [onStore, run_bind, run_get] at run
  dsimp only at run
  cases inner : action.run analysing.store with
  | mk result store =>
    rw [inner] at run same
    cases result with
    | error => cases run
    | ok =>
      cases run
      exact ⟨fun node => (congrArg SymbolAnalysis.isGiven (congrFun same node)).trans
        (unsourced.store node), unsourced.objects⟩

theorem putAside_unsourced (unsourced : analysing.Unsourced) (routine : String)
    (arguments : List String) :
    Ensures (putAside routine arguments) analysing fun _ after => after.Unsourced := by
  refine .fold (fun _ => Unsourced) (fun aside argument _ state unsourced => ?_) unsourced
  refine .step (run_get _) ?_
  split
  · exact .pure unsourced
  · intro _ _ run
    cases run
    exact ⟨unsourced.store, unsourced.objects⟩

theorem analyseRoutine_unsourced (index : CallIndex) (fuel : Nat) (routine : String)
    (call : Option NodeId) (unsourced : analysing.Unsourced) :
    Ensures (analyseRoutine index fuel routine call) analysing fun _ after => after.Unsourced := by
  induction fuel generalizing routine call analysing with
  | zero => exact .throw
  | succ fuel ih =>
    refine .step (run_get _) ?_
    dsimp only
    split
    · exact .pure unsourced
    · split
      · exact .thrown
      · split
        on_goal 1 => split
        on_goal 1 => exact .step (run_modify _ _) (.pure ⟨unsourced.store, unsourced.objects⟩)
        all_goals
          refine .bind (onStore_unsourced unsourced) fun listed _ unsourced => ?_
          split
          on_goal 1 => refine .bind (putAside_unsourced unsourced _ _) fun aside _ unsourced => ?_
          on_goal 2 => refine .step (run_pure _ _) ?_
          all_goals
            refine .step (run_get _) (.known fun own read => ?_)
            have isLocal := localAnalyses_allLocal unsourced.store read
            refine .bind (.loop Unsourced (fun entry member _ _ unsourced => ?_) unsourced)
              fun _ _ unsourced => .bind (.loop Unsourced (fun call _ _ _ unsourced => ?_) unsourced)
              fun _ _ unsourced => .bind (.loop Unsourced (fun entry _ _ _ unsourced => ?_) unsourced)
              fun _ _ unsourced => .pure unsourced
            · exact .bind (enter_unsourced unsourced (isLocal _ _
                ((Table.get?_eq_some_iff ..).mpr member)) _ _ _) fun _ _ unsourced => .pure unsourced
            · exact .bind (ih _ _ unsourced) fun _ _ unsourced => .pure unsourced
            · exact .step (run_modify _ _) (.pure ⟨unsourced.store, unsourced.objects⟩)

theorem analyseAll_unsourced (index : CallIndex) (unsourced : analysing.Unsourced) :
    Ensures (analyseAll index) analysing fun _ after => after.Unsourced := by
  refine .bind (.loop Unsourced (fun root _ _ state unsourced => ?_) unsourced)
    fun _ _ unsourced => .modified ⟨unsourced.store, unsourced.objects⟩
  refine .step (run_modify _ _) ?_
  exact .bind (analyseRoutine_unsourced index _ root none ⟨unsourced.store, unsourced.objects⟩)
    fun _ _ unsourced => .pure unsourced

end Analysing

/-- All that the table lists are analyses made on the way. -/
def AnalysisTable.Lists (table : AnalysisTable) (analysing : Analysing) : Prop :=
  ∀ routine symbols, Table.get? table routine = some symbols →
    ∀ symbol analyses, symbols.get? symbol = some analyses → ∃ ids, analyses = analysing.resolved ids

theorem AnalysisTable.ofFound_lists (analysing : Analysing) : (ofFound analysing).Lists analysing := by
  refine List.foldlRecOn (motive := (Lists · analysing)) _ _ (fun _ _ => nofun) ?_
  rintro table lists ⟨⟨routine, symbol⟩, ids⟩ _ name symbols found key analyses listed
  rw [Table.get?_set] at found
  split at found
  · cases found
    rw [Table.get?_set] at listed
    split at listed
    · cases listed
      exact ⟨ids, rfl⟩
    · cases known : Table.get? table routine with
      | none =>
        rw [known] at listed
        cases listed
      | some symbols =>
        rw [known] at listed
        exact lists _ _ known _ _ listed
  · exact lists _ _ found _ _ listed

theorem AnalysisTable.first?_ofFound {analysing : Analysing} {routine symbol : String}
    {analysis : SymbolAnalysis} (found : (ofFound analysing).first? routine symbol = some analysis) :
    ∃ id, analysis = analysing.object id := by
  obtain ⟨symbols, known, found⟩ := Option.bind_eq_some_iff.mp found
  obtain ⟨analyses, listed, found⟩ := Option.bind_eq_some_iff.mp found
  obtain ⟨ids, rfl⟩ := ofFound_lists analysing _ _ known _ _ listed
  obtain ⟨id, _, same⟩ := List.mem_map.mp (List.mem_of_mem_head? found)
  exact ⟨id, same.symm⟩

end CallGraph

/-- Storing what is known of symbols leaves the modules that the analysis finds as they are. So no
symbol of a document becomes module data by it, whatever module it has been imported from. -/
theorem analysis_of_stored (registry after : Registry) (storings : List (SymbolId × Option NodeId))
    (outcome : Except Fault Unit)
    (stored : ExceptT.run (storings.forM fun storing => discard (Registry.storeEntry storing.1 storing.2))
      registry = (outcome, after)) :
    after.store.sources = registry.store.sources ∧
      ((∀ node, SymbolAnalysis.isGiven (registry.store.sources node) = false) →
        ∀ index table routine symbol analysis, (AnalysisTable.ofIndex index after.store).1 = .ok table →
          table.first? routine symbol = some analysis →
          analysis.kind.isModuleSymbol = false ∧ SymbolAnalysis.isGiven analysis.sourceModule = false) := by
  have storing : Advances (Same fun registry => registry.store.sources)
      (storings.forM fun storing => discard (Registry.storeEntry storing.1 storing.2)) :=
    .each fun storing => .bind (Registry.storeEntry_sources storing.1 storing.2) fun _ => .pure ()
  have same := storing.follows registry
  rw [stored] at same
  refine ⟨same, fun unsourced index table routine symbol analysis analysed found => ?_⟩
  have start : Analysing.Unsourced { store := after.store } := by
    refine ⟨fun node => ?_, fun id => ⟨rfl, rfl⟩⟩
    rw [show after.store.sources = registry.store.sources from same]
    exact unsourced node
  rw [ofIndex] at analysed
  cases run : (Analysing.analyseAll index).run { store := after.store } with
  | mk result analysing =>
    rw [run] at analysed
    cases result with
    | error => cases analysed
    | ok =>
      cases analysed
      obtain ⟨id, rfl⟩ := first?_ofFound found
      exact (Analysing.analyseAll_unsourced index start _ _ run).objects id

/-- A routine that names the array `a` of the module `fields` in a directive. -/
def importedRegistry : Registry where
  store := ((addDocument [.element "callGraph" [] [
    .element "routine" [("name", some "step")] [.element "domainDependants" [] [
      .element "templateRelation" [("id", some "T")] [.element "entry" [] [.text "a"]]]],
    .element "domainDependantTemplate" [("id", some "T")] []]]).run {}).2
  symbols := #[{ name := "a", entry := some ⟨5⟩, sourceModuleName := some "fields" }]

def storedRegistry : Registry :=
  (([(⟨0⟩, none)].forM fun storing =>
    discard (Registry.storeEntry storing.1 storing.2)).run importedRegistry).2

def stepIndex : CallIndex :=
  ⟨⟨⟨0⟩, 0⟩, Table.ofList [("step", ⟨2⟩)], .empty, .empty, .empty⟩

theorem analysis_of_stored_imported :
    storedRegistry.store.value ⟨5⟩ "_sourceModuleIdentifier" = "fields" ∧
      ∃ table analysis, (AnalysisTable.ofIndex stepIndex storedRegistry.store).1 = .ok table ∧
        table.first? "step" "a" = some analysis ∧ analysis.kind.isModuleSymbol = false ∧
        SymbolAnalysis.isGiven analysis.sourceModule = false := by
  have unsourced : ∀ node, SymbolAnalysis.isGiven (importedRegistry.store.sources node) = false := by
    have known : ∀ index < importedRegistry.store.nodes.size,
        SymbolAnalysis.isGiven (importedRegistry.store.sources ⟨index⟩) = false := by decide +kernel
    intro node
    by_cases inside : node.index < importedRegistry.store.nodes.size
    · exact known node.index inside
    · rw [Store.sources, Store.value?, Store.attributes, Store.label,
        Store.node?_beyond (Nat.le_of_not_lt inside)]
      rfl
  have found : (((ofIndex stepIndex storedRegistry.store).1.toOption.bind
      (first? · "step" "a")).isSome = true) := by decide +kernel
  obtain ⟨analysis, found⟩ := Option.isSome_iff_exists.mp found
  obtain ⟨table, analysed, found⟩ := Option.bind_eq_some_iff.mp found
  have analysed : (ofIndex stepIndex storedRegistry.store).1 = .ok table := by
    generalize (ofIndex stepIndex storedRegistry.store).1 = result at analysed
    cases result <;> cases analysed
    rfl
  exact ⟨by decide +kernel, table, analysis, analysed, found,
    (analysis_of_stored importedRegistry storedRegistry _ _ rfl).2 unsourced _ _ _ _ _ analysed found⟩

end ParallelFortran
