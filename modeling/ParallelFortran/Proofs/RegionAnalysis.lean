import ParallelFortran.Proofs.RegionPositions

/-! The analysis of a whole document: its outcome tells for each routine how it lies to the kernels. -/

namespace ParallelFortran.CallGraph

open Xml Xml.Store RegionAnalysis Relation

theorem kernelNames_eq (store : Store) (architecture : String) (nodes : List NodeId)
    (owner : NodeId → NodeId)
    (owned : ∀ node ∈ nodes, store.parent? node = some (owner node) ∧ (store.tag? (owner node)).isSome)
    (distinct : (nodes.map fun node => store.value (owner node) "name").Nodup) :
    kernelNames store architecture nodes =
      .ok (nodes.map fun node => store.value (owner node) "name") := by
  have general : ∀ rest names, rest ⊆ nodes →
      (names ++ rest.map fun node => store.value (owner node) "name").Nodup →
      rest.foldlM (addKernelName store architecture) names =
        .ok (names ++ rest.map fun node => store.value (owner node) "name") := by
    intro rest
    induction rest with
    | nil =>
      simp [pure, Except.pure]
    | cons node rest ih =>
      intro names inside fresh
      obtain ⟨linked, tagged⟩ := owned node (inside (by simp))
      have new : store.value (owner node) "name" ∉ names := not_mem_of_nodup rfl fresh
      have next := ih (names ++ [store.value (owner node) "name"])
        (fun other member => inside (by simp [member])) (by simpa using fresh)
      simpa [bind, Except.bind, addKernelName, linked, Option.filter, tagged, new] using next
  exact general nodes [] (List.Subset.refl _) (by simpa using distinct)

variable (analysis : RegionAnalysis)

theorem warnMixedCaller_yields
    (callsByCaller : Table String (List NodeId)) (kernels : List String) (kernel : String)
    (warned : List String) (call : NodeId) :
    Yields (warnMixedCaller callsByCaller kernels kernel warned call) analysis
      fun _ after => after.store = analysis.store := by
  refine Yields.step (run_get analysis) ?_
  dsimp only
  split
  · exact .pure rfl
  · split
    · exact .step rfl (.pure rfl)
    · split
      · exact .pure rfl
      · exact .step rfl (.pure rfl)

theorem warnMixedCallers_yields
    (callsByCaller callsByCallee : Table String (List NodeId)) (kernels : List String)
    (kernel : String) (warned : List String) :
    Yields (warnMixedCallers callsByCaller callsByCallee kernels kernel warned) analysis
      fun _ after => after.store = analysis.store := by
  refine Yields.fold (fun _ (now : RegionAnalysis) => now.store = analysis.store) ?_ rfl
  intro warned call now same
  exact (warnMixedCaller_yields now callsByCaller kernels kernel warned call).weaken
    fun _ after kept => kept.trans same

/-! Kernel after kernel -/

section

variable {store filtered : Store} {document : Document} {architecture : String}
  {kernel regions : NodeId}

def Net.kernels (net : Net) (kernel : NodeId) : Prop :=
  net.kernel kernel ∧ net.routine kernel

def Owns (filtered : Store) (elements : List NodeId) (kernel : NodeId) : Prop :=
  ∃ regions ∈ elements, filtered.parent? regions = some kernel

theorem owns_concat (done : List NodeId) (linked : filtered.parent? regions = some kernel) :
    Owns filtered (done ++ [regions]) = fun other => Owns filtered done other ∨ other = kernel := by
  funext other
  simp [Owns, linked, eq_comm]

theorem HasRegions.parent (arranged : Arranged filtered)
    (has : HasRegions filtered kernel regions) : filtered.parent? regions = some kernel :=
  (arranged.linked _ _).mp has.member

variable (selected : Selected store filtered document architecture (routineNodes store document))

include selected

theorem Selected.kernel_of_regions (graph : CallGraphDocument store document)
    (member : regions ∈ filtered.descendants document.root "parallelRegions") :
    ∃ kernel ∈ routineNodes store document, IsKernel store document architecture kernel ∧
      HasRegions filtered kernel regions := by
  obtain ⟨place, tag⟩ := (mem_descendants selected.arranged (by decide)).mp member
  have tagBefore : store.tag? regions = some "parallelRegions" := by
    rw [← tag, tag?_congr (selected.label regions)]
  have listed :=
    (mem_descendants graph.arranged (by decide)).mpr ⟨selected.old _ _ place, tagBefore⟩
  obtain ⟨kernel, known, child⟩ := graph.regions regions listed
  have linked : filtered.parent? regions = some kernel := by
    obtain ⟨parent, found, _⟩ := place.parent selected.arranged
    rcases selected.parent regions (bound_of_tag (by simp [tagBefore])) with same | gone
    · rw [same]
      exact (graph.arranged.linked _ _).mp child
    · rw [gone] at found
      simp at found
  have below : Below filtered kernel regions :=
    .child ((selected.arranged.linked _ _).mpr linked) place.tagged
  have isKernel : IsKernel store document architecture kernel := by
    by_contra other
    exact (descendants_eq_nil selected.arranged (by decide)).mp
      ((selected.settled kernel known).other other) regions below tag
  obtain ⟨only, has, _⟩ := (selected.settled kernel known).kernel isKernel
  have same := (has.mem_iff selected.arranged regions).mp ⟨below, tag⟩
  exact ⟨kernel, known, isKernel, same ▸ has⟩

theorem Selected.regions_of_kernel (known : kernel ∈ routineNodes store document)
    (isKernel : IsKernel store document architecture kernel) :
    ∃ regions ∈ filtered.descendants document.root "parallelRegions",
      filtered.parent? regions = some kernel := by
  obtain ⟨regions, has, _⟩ := (selected.settled kernel known).kernel isKernel
  obtain ⟨below, tag⟩ := (has.mem_iff selected.arranged regions).mpr rfl
  refine ⟨regions, (mem_descendants selected.arranged (by decide)).mpr ⟨?_, tag⟩, ?_⟩
  · exact (selected.placed kernel known).trans below
  · exact (selected.arranged.linked _ _).mp has.member

section

variable (analysable : Analysable store document architecture)

include analysable

theorem Selected.underway :
    Underway (net store document architecture) filtered filtered fun _ => False := by
  have tagged := fun routine known => (selected.placed routine known).tagged
  have unplaced : ∀ routine ∈ routineNodes store document, positionOf filtered routine = "" := by
    intro routine known
    rw [positionOf, selected.value]
    exact analysable.unplaced routine known
  have inactive : ∀ routine ∈ routineNodes store document, activeIds filtered routine = [] := by
    intro routine known
    rw [activeIds, selected.inactive analysable.graph known]
  refine ⟨⟨fun _ none => none.elim, fun _ _ _ _ none => none.elim, fun routine known _ _ =>
    unplaced routine known, ?_⟩, ⟨Nat.le_refl _, selected.arranged, fun _ _ _ _ => rfl,
    fun routine known => bound_of_tag (tagged routine known), tagged, ?_, ?_, ?_, ?_⟩,
    fun _ none => none.elim, fun kernel _ _ _ => .refl selected.arranged kernel⟩
  · intro routine known _ id
    simp [inactive routine known, Net.owed]
  · intro left leftKnown right rightKnown different
    exact selected.apart (analysable.graph.apart leftKnown rightKnown different)
  · intro routine known free
    exact ⟨(selected.settled routine known).other free, .inl (selected.inactive analysable.graph known)⟩
  · intro routine known _ id held
    simp [inactive routine known] at held
  · intro routine known within
    simp [unplaced routine known] at within

theorem Selected.kernelNames_eq : ∃ names, kernelNames filtered architecture
      (filtered.descendants document.root "parallelRegions") = .ok names := by
  have owned := fun regions (member : regions ∈ filtered.descendants document.root "parallelRegions") =>
    selected.kernel_of_regions analysable.graph member
  let owner (regions : NodeId) : NodeId := (filtered.parent? regions).getD regions
  refine ⟨_, CallGraph.kernelNames_eq filtered architecture _ owner ?_ ?_⟩
  · intro regions member
    obtain ⟨kernel, known, _, has⟩ := owned regions member
    simp only [owner, has.parent selected.arranged, Option.getD_some, true_and]
    exact (selected.placed kernel known).tagged
  · refine List.Nodup.map_on ?_ (descendants_nodup selected.arranged _ (by decide))
    intro left leftMember right rightMember same
    obtain ⟨kernel, known, _, has⟩ := owned left leftMember
    obtain ⟨other, otherKnown, _, otherHas⟩ := owned right rightMember
    simp only [owner, has.parent selected.arranged, otherHas.parent selected.arranged] at same
    obtain rfl := selected.name_injective analysable kernel known other otherKnown same
    simpa using has.only.symm.trans otherHas.only

end

theorem owns_iff (graph : CallGraphDocument store document) :
    Owns filtered (filtered.descendants document.root "parallelRegions") =
      (net store document architecture).kernels := by
  funext kernel
  refine propext ⟨?_, fun ⟨isKernel, known⟩ => selected.regions_of_kernel known isKernel⟩
  rintro ⟨regions, member, linked⟩
  obtain ⟨owner, known, isKernel, has⟩ := selected.kernel_of_regions graph member
  rw [has.parent selected.arranged] at linked
  cases linked
  exact ⟨isKernel, known⟩

end

theorem analyse_yields {analysis : RegionAnalysis} {architecture : String}
    (analysable : Analysable analysis.store analysis.document architecture) :
    Yields (analyse architecture) analysis fun _ after =>
      Located (net analysis.store analysis.document architecture) after.store
        (net analysis.store analysis.document architecture).kernels := by
  refine Yields.step (run_get analysis) ?_
  refine (filterRoutines_yields architecture analysable.graph).bind fun _ filtering selected => ?_
  refine Yields.step (run_get filtering) ?_
  obtain ⟨names, named⟩ := selected.kernelNames_eq analysable
  refine Yields.step (run_outcome named filtering) ?_
  have none : Owns filtering.store [] = fun _ => False := by
    funext kernel
    simp [Owns]
  refine (Yields.loop (fun done now =>
    Underway (net analysis.store analysis.document architecture) filtering.store now.store
      (Owns filtering.store done)) ?_ _ (none ▸ selected.underway analysable)).bind ?_
  · intro done regions rest warned now all underway
    have nodup : (filtering.store.descendants analysis.document.root "parallelRegions").Nodup :=
      descendants_nodup selected.arranged _ (by decide)
    have owner := fun element (member : element ∈ done ++ regions :: rest) =>
      selected.kernel_of_regions analysable.graph (all ▸ member)
    obtain ⟨kernel, known, isKernel, has⟩ := owner regions (by simp)
    have linked := has.parent selected.arranged
    have tag : filtering.store.tag? kernel = some "routine" := by
      rw [tag?_congr (selected.label kernel)]
      exact ((mem_routineNodes analysable.graph.arranged).mp known).2
    have new : ¬ Owns filtering.store done kernel := by
      rintro ⟨element, member, owned⟩
      obtain ⟨_, _, _, otherHas⟩ := owner element (by simp [member])
      rw [otherHas.parent selected.arranged] at owned
      cases owned
      have same : regions = element := by simpa using has.only.symm.trans otherHas.only
      exact not_mem_of_nodup all nodup (same ▸ member)
    simp only [linked, tag]
    refine (announce_yields analysable selected (Nat.lt_add_of_pos_right (by decide)) underway known
      isKernel new has).bind fun _ announcing next => ?_
    rw [← owns_concat done linked] at next
    split
    · refine (warnMixedCallers_yields announcing _ _ _ _ _).bind fun warnedNow after same => ?_
      refine .pure ⟨warnedNow, rfl, ?_⟩
      rw [same]
      exact next
    · exact .pure ⟨warned, rfl, next⟩
  · intro _ after underway
    refine .pure ?_
    rw [← owns_iff selected analysable.graph]
    exact underway.toLocated

/-- A routine has the position that the kernels of its call graph give it, and refers to their
templates. -/
structure Classified (store : Store) (document : Document) (architecture : String) (result : Store)
    (routine : NodeId) : Prop where
  within : positionOf result routine = "within" ↔ IsKernel store document architecture routine
  inside : positionOf result routine = "inside" ↔ ¬ IsKernel store document architecture routine ∧
    ∃ kernel, IsKernel store document architecture kernel ∧ Reaches store document routine kernel
  outside : positionOf result routine = "outside" ↔ ¬ IsKernel store document architecture routine ∧
    (∀ kernel, IsKernel store document architecture kernel → ¬ Reaches store document routine kernel) ∧
    ∃ kernel, IsKernel store document architecture kernel ∧
      ReachesFromRegion store document kernel routine
  elsewhere : positionOf result routine = "" ↔ ¬ IsKernel store document architecture routine ∧
    ∀ kernel, IsKernel store document architecture kernel →
      ¬ Reaches store document routine kernel ∧ ¬ ReachesFromRegion store document kernel routine
  ownIds : positionOf result routine = "within" →
    ∀ id, id ∈ activeIds result routine ↔ Keeps store document architecture routine id
  insideIds : positionOf result routine = "inside" → ∀ id, id ∈ activeIds result routine ↔
    ∃ kernel, IsKernel store document architecture kernel ∧ Reaches store document routine kernel ∧
      Keeps store document architecture kernel id
  outsideIds : positionOf result routine = "outside" → ∀ id, id ∈ activeIds result routine ↔
    ∃ kernel, IsKernel store document architecture kernel ∧
      ReachesFromRegion store document kernel routine ∧ Keeps store document architecture kernel id

namespace Located

variable {store now : Store} {document : Document} {architecture : String}
  {routine kernel : NodeId}

section

variable (located : Located (net store document architecture) now
    (net store document architecture).kernels) (known : routine ∈ routineNodes store document)
  (free : ¬ IsKernel store document architecture routine)

include located known free

theorem classified_inside (analysable : Analysable store document architecture)
    (isKernel : IsKernel store document architecture kernel)
    (path : Reaches store document routine kernel) :
    Classified store document architecture now routine := by
  have layered := analysable.layered
  have ends := fun {other} (path : Reaches store document routine other) =>
    (layered.reaches_known path).2
  have position : positionOf now routine = "inside" :=
    located.position routine known free kernel ⟨isKernel, ends path⟩ .inside path
  refine ⟨by simp [position, free], ?_, ?_, ?_, by simp [position], ?_, by simp [position]⟩
  · exact ⟨fun _ => ⟨free, kernel, isKernel, path⟩, fun _ => position⟩
  · refine ⟨by simp [position], ?_⟩
    rintro ⟨_, none, _⟩
    exact (none kernel isKernel path).elim
  · refine ⟨by simp [position], ?_⟩
    rintro ⟨_, none⟩
    exact ((none kernel isKernel).1 path).elim
  · intro _ id
    rw [located.ids routine known free]
    constructor
    · rintro ⟨other, ⟨otherKernel, _⟩, concerned, kept⟩
      have up : (net store document architecture).Lies routine kernel .inside := path
      exact ⟨other, otherKernel, layered.same_side isKernel otherKernel up concerned, kept⟩
    · rintro ⟨other, otherKernel, up, kept⟩
      exact ⟨other, ⟨otherKernel, ends up⟩, ⟨.inside, up⟩, kept⟩

theorem classified_outside (analysable : Analysable store document architecture)
    (notReaching : ∀ other, IsKernel store document architecture other →
      ¬ Reaches store document routine other) (isKernel : IsKernel store document architecture kernel)
    (path : ReachesFromRegion store document kernel routine) :
    Classified store document architecture now routine := by
  have layered := analysable.layered
  have starts := fun {other} (path : ReachesFromRegion store document other routine) =>
    (layered.reaches_known (layered.reaches_of_region path)).1
  have position : positionOf now routine = "outside" :=
    located.position routine known free kernel ⟨isKernel, starts path⟩ .outside path
  refine ⟨by simp [position, free], ?_, ?_, ?_, by simp [position], by simp [position], ?_⟩
  · refine ⟨by simp [position], ?_⟩
    rintro ⟨_, other, otherKernel, up⟩
    exact (notReaching other otherKernel up).elim
  · exact ⟨fun _ => ⟨free, notReaching, kernel, isKernel, path⟩, fun _ => position⟩
  · refine ⟨by simp [position], ?_⟩
    rintro ⟨_, none⟩
    exact ((none kernel isKernel).2 path).elim
  · intro _ id
    rw [located.ids routine known free]
    constructor
    · rintro ⟨other, ⟨otherKernel, _⟩, ⟨_ | _, path⟩, kept⟩
      · exact (notReaching other otherKernel path).elim
      · exact ⟨other, otherKernel, path, kept⟩
    · rintro ⟨other, otherKernel, down, kept⟩
      exact ⟨other, ⟨otherKernel, starts down⟩, ⟨.outside, down⟩, kept⟩

theorem classified_elsewhere (unconcerned : ∀ kernel, IsKernel store document architecture kernel →
      ¬ (net store document architecture).concerned routine kernel) :
    Classified store document architecture now routine := by
  have position : positionOf now routine = "" :=
    located.elsewhere routine known free fun kernel given => unconcerned kernel given.1
  refine ⟨by simp [position, free], ?_, ?_, ?_, by simp [position], by simp [position],
    by simp [position]⟩
  · refine ⟨by simp [position], ?_⟩
    rintro ⟨_, kernel, isKernel, up⟩
    exact (unconcerned kernel isKernel ⟨.inside, up⟩).elim
  · refine ⟨by simp [position], ?_⟩
    rintro ⟨_, _, kernel, isKernel, down⟩
    exact (unconcerned kernel isKernel ⟨.outside, down⟩).elim
  · refine ⟨fun _ => ⟨free, fun kernel isKernel => ?_⟩, fun _ => position⟩
    exact ⟨fun up => unconcerned kernel isKernel ⟨.inside, up⟩, fun down =>
      unconcerned kernel isKernel ⟨.outside, down⟩⟩

end

theorem classified (analysable : Analysable store document architecture)
    (located : Located (net store document architecture) now
      (net store document architecture).kernels) (known : routine ∈ routineNodes store document) :
    Classified store document architecture now routine := by
  by_cases isKernel : IsKernel store document architecture routine
  · obtain ⟨position, own⟩ := located.finished routine ⟨isKernel, known⟩
    refine ⟨?_, ?_, ?_, ?_, fun _ => own, ?_, ?_⟩ <;> simp [position, isKernel]
  · by_cases reaches : ∃ kernel, IsKernel store document architecture kernel ∧
        Reaches store document routine kernel
    · obtain ⟨kernel, kernelIs, path⟩ := reaches
      exact located.classified_inside known isKernel analysable kernelIs path
    · have notReaching := fun kernel kernelIs path => reaches ⟨kernel, kernelIs, path⟩
      by_cases reached : ∃ kernel, IsKernel store document architecture kernel ∧
          ReachesFromRegion store document kernel routine
      · obtain ⟨kernel, kernelIs, path⟩ := reached
        exact located.classified_outside known isKernel analysable notReaching kernelIs path
      · refine located.classified_elsewhere known isKernel ?_
        rintro kernel kernelIs ⟨_ | _, path⟩
        · exact notReaching kernel kernelIs path
        · exact reached ⟨kernel, kernelIs, path⟩

end Located

/-- In a call graph without cycles, where no kernel reaches another one, the analysis comes to an end
and puts every routine where it belongs. -/
theorem analyse_classifies (store : Store) (document : Document) (architecture : String)
    (graph : CallGraphDocument store document)
    (unique : ((routineNodes store document).map (store.value · "name")).Nodup)
    (unplaced : ∀ routine ∈ routineNodes store document, positionOf store routine = "")
    (acyclic : ∀ routine, ¬ Reaches store document routine routine)
    (separate : ∀ kernel other, IsKernel store document architecture kernel →
      IsKernel store document architecture other → ¬ Reaches store document kernel other) :
    ∃ result, ExceptT.run (analyse architecture) { store, document } = (.ok (), result) ∧
      ∀ routine ∈ routineNodes store document,
        Classified store document architecture result.store routine := by
  have analysable : Analysable store document architecture :=
    ⟨graph, unique, unplaced, acyclic, separate⟩
  have yields : Yields (analyse architecture) { store, document } _ := analyse_yields analysable
  obtain ⟨_, result, run, located⟩ := yields
  exact ⟨result, run, fun routine known => located.classified analysable known⟩

/-! A program with two kernels -/

/-- The routine `step` calls both kernels, one of which calls `mean` from its region. The region of
`trace` is not for accelerators. -/
def smallProgram : List Tree :=
  let routine (name : String) (ids : List String) : Tree :=
    .element "routine" [("name", some name)]
      (if ids.isEmpty then []
      else [.element "parallelRegions" []
        (ids.map fun id => .element "templateRelation" [("id", some id)] [])])
  let call (caller callee position : String) : Tree :=
    .element "call" [("caller", some caller), ("callee", some callee),
      ("parallelRegionPosition", some position)] []
  let template (id : String) (architectures : List String) : Tree :=
    .element "parallelRegionTemplate" [("id", some id)] (architectures.map fun name =>
      .element "appliesTo" [] [.element "entry" [] [.text name]])
  [.element "callGraph" [] [
    .element "routines" [] [routine "step" [], routine "smooth" ["1", "3"], routine "relax" ["2"],
      routine "mean" [], routine "trace" ["3"]],
    .element "calls" [] [call "step" "smooth" "", call "step" "relax" "",
      call "smooth" "mean" "surround"],
    .element "parallelRegionTemplates" [] [template "1" ["GPU"], template "2" [],
      template "3" ["CPU"]]]]

def smallStore : Store := ((addDocument smallProgram).run {}).2

def smallDocument : Document := ⟨⟨0⟩, 0⟩

theorem smallStore_graph : CallGraphDocument smallStore smallDocument := by
  obtain ⟨_, _, run, _, arranged, _⟩ := addDocument_yields smallProgram
  refine ⟨by rwa [smallStore, run], ?_, ?_, ?_, ?_, ?_, ?_, ?_, ?_⟩ <;> decide +kernel

theorem smallStore_acyclic (routine : NodeId) : ¬ Reaches smallStore smallDocument routine routine := by
  have step : ∀ caller ∈ routineNodes smallStore smallDocument,
      ∀ callee ∈ routineNodes smallStore smallDocument,
        Calls smallStore smallDocument caller callee → caller.index < callee.index := by
    decide +kernel
  have forward : ∀ callee, Reaches smallStore smallDocument routine callee →
      routine.index < callee.index := by
    intro callee path
    induction path with
    | single calls => exact step _ calls.1 _ calls.2.1 calls
    | tail _ calls ih => exact Nat.lt_trans ih (step _ calls.1 _ calls.2.1 calls)
  exact fun loop => Nat.lt_irrefl _ (forward routine loop)

/-- Only `mean` is called by a routine with regions, and it calls nothing. -/
theorem smallStore_separate (kernel other : NodeId)
    (isKernel : IsKernel smallStore smallDocument "GPU" kernel)
    (isOther : IsKernel smallStore smallDocument "GPU" other) :
    ¬ Reaches smallStore smallDocument kernel other := by
  have step : ∀ caller ∈ routineNodes smallStore smallDocument,
      ∀ callee ∈ routineNodes smallStore smallDocument,
        Calls smallStore smallDocument caller callee →
        smallStore.descendants caller "parallelRegions" ≠ [] →
        callee = ⟨11⟩ := by
    decide +kernel
  have last : ∀ callee ∈ routineNodes smallStore smallDocument,
      ¬ Calls smallStore smallDocument ⟨11⟩ callee := by
    decide +kernel
  have hasRegions : ∀ routine, IsKernel smallStore smallDocument "GPU" routine →
      smallStore.descendants routine "parallelRegions" ≠ [] := by
    rintro routine ⟨_, regions, member, _⟩ none
    simp [none] at member
  intro path
  obtain ⟨first, calls, rest⟩ := TransGen.head'_iff.mp path
  obtain rfl := step kernel calls.1 first calls.2.1 calls (hasRegions kernel isKernel)
  rcases ReflTransGen.cases_head rest with rfl | ⟨next, more, _⟩
  · exact hasRegions _ isOther (by decide +kernel)
  · exact last next more.2.1 more

theorem analyse_classifies_smallProgram :
    ∃ result, ExceptT.run (analyse "GPU") { store := smallStore, document := smallDocument } =
        (.ok (), result) ∧
      ∀ routine ∈ routineNodes smallStore smallDocument,
        Classified smallStore smallDocument "GPU" result.store routine :=
  analyse_classifies smallStore smallDocument "GPU" smallStore_graph (by decide +kernel)
    (by decide +kernel) smallStore_acyclic smallStore_separate

end ParallelFortran.CallGraph
