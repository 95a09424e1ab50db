import ParallelFortran.Module.Code
import ParallelFortran.Proofs.GeneratedRoutines
import ParallelFortran.Proofs.Queries

/-! Preparation of the routines of a module: whatever it finds out about symbols, the calls in the
regions stay where they are. -/

namespace ParallelFortran.Work

open Xml

def SameCalls (before after : Session) : Prop :=
  ∀ id, regionCallees (after.routine id) = regionCallees (before.routine id)

instance : IsPreorder Session SameCalls where
  refl _ _ := rfl
  trans _ _ _ first second id := (second id).trans (first id)

variable {α : Type}

instance onRegistry_sameCalls (action : RegistryM α) : Advances SameCalls (onRegistry action) :=
  ⟨fun _ _ => rfl⟩

instance (action : RegistryM α) : Advances SameCalls (liftM action : Work α) :=
  onRegistry_sameCalls action

instance (action : StoreM α) : Advances SameCalls (liftM action : Work α) :=
  ⟨fun _ _ => rfl⟩

theorem changeBody_framed {id : RoutineId} {update : RoutineBody → RoutineBody}
    (same : ∀ body, (update body).regions = body.regions) :
    Advances SameCalls (changeBody id update) := by
  refine .modified fun session other => ?_
  rw [Session.routine, Arena.getD_modify]
  split
  · simp [Session.routine, regionCallees, Function.comp_def, same]
  · rfl

theorem changeBody_sameCalls {session : Session} {id : RoutineId} {given : RoutineBody}
    (found : (session.routine id).body = some given) {update : RoutineBody → RoutineBody}
    (same : (update given).regions.flatMap Region.callees = given.regions.flatMap Region.callees) :
    ParallelFortran.Follows SameCalls session (changeBody id update) := by
  rw [ParallelFortran.Follows, run_changeBody found]
  intro other
  by_cases changed : other = id
  · rw [changed, Session.routine_setBody (Session.knows_of_body found), regionCallees,
      regionCallees, found]
    exact same
  · rw [Session.setBody, Session.routine_changed_of_ne session changed]

variable (routine : Routine) (id : SymbolId)

instance (userNames : List String) (symbols : Table String SymbolId)
    (name : String) : Advances SameCalls (isUserSize userNames symbols name) := by
  unfold isUserSize
  exact .composed

instance deduplicateSymbols_sameCalls (id : RoutineId) :
    Advances SameCalls (deduplicateSymbols id) := by
  unfold deduplicateSymbols symbolsByScope symbolInScope renameIn adoptTypeParameters
  exact .composed

instance prepareRegion_reads (body : RoutineBody) (region : Region) :
    Advances Eq (prepareRegion body region) := by
  unfold prepareRegion prepareCall?
  exact .composed

theorem body_sameCalls {id : RoutineId} {next : RoutineBody → Work α}
    (rest : ∀ session body, (session.routine id).body = some body →
      ParallelFortran.Follows SameCalls session (next body)) :
    Advances SameCalls (body id >>= next) := by
  constructor
  intro session
  have whole := (body_advances id).telling (body_ensures session id) (rest session)
  exact whole

instance prepareCalls_sameCalls (id : RoutineId) : Advances SameCalls (prepareCalls id) := by
  refine body_sameCalls fun session body found => ?_
  refine Advances.telling (.map (prepareRegion_reads body))
    (prepareRegions_attains session body).1 ?_
  rintro prepared ⟨same, -⟩
  exact changeBody_sameCalls found (Region.flatMap_callees_congr same)

instance (others : List SymbolId) : Advances SameCalls (isAmong id others) := by
  induction others with
  | nil => exact .pure _
  | cons other others ih =>
    unfold isAmong
    exact .composed

instance firstAccessInLines_advances (lines : List RegionLine) :
    Advances SameCalls (firstAccessInLines id lines) := by
  induction lines with
  | nil => exact .pure _
  | cons line lines ih =>
    exact .composed

mutual

theorem firstAccessIn_advances (id : SymbolId) (region : Region) :
    Advances SameCalls (firstAccessIn id region) := by
  match region with
  | .specification _ _ _ _ => exact .pure _
  | .plain lines | .earlyExit lines | .call lines _ _ => exact firstAccessInLines_advances id lines
  | .parallel _ regions =>
    exact firstAccessInAll_advances id regions

theorem firstAccessInAll_advances (id : SymbolId) (regions : List Region) :
    Advances SameCalls (firstAccessInAll id regions) := by
  match regions with
  | [] => exact .pure _
  | region :: regions =>
    refine .bind (firstAccessIn_advances id region) fun access => ?_
    split
    · exact .pure _
    · exact firstAccessInAll_advances id regions

end

attribute [instance] firstAccessInAll_advances

variable (symbols : Table String SymbolId) (session : Session) (id : RoutineId)
    (ids : List SymbolId) (region : Region)

instance (backend : Backend) (caller callee : RoutineId) :
    Advances SameCalls (kernelParameters backend caller callee) := by
  unfold kernelParameters kernelCall indexByName mergeNamed
  exact .composed

instance : Advances SameCalls (positionSymbols id) := .composed

instance : Advances SameCalls (uniqueKeys ids) := by
  unfold uniqueKeys
  exact .composed

instance : Advances SameCalls (ownParameters id) := .composed

variable (parameters : CalleeParameters)

instance : Advances SameCalls (importsFor id parameters) := .composed

instance (body : RoutineBody) (parameters : CalleeParameters)
    (callee : RoutineId) : Advances SameCalls (addCalleeParameters id body parameters callee) :=
  .composed

instance (declarations : Table String (Option String)) (callee : RoutineId) :
    Advances SameCalls (shareWithCallee id parameters declarations callee) := .composed

theorem setContext_callees {context : SpecificationContext} {regions changed : List Region}
    (set : setContext context regions = .ok changed) :
    changed.flatMap Region.callees = regions.flatMap Region.callees := by
  unfold setContext at set
  split at set
  · cases set
    rfl
  · cases set

theorem setRegions_sameCalls {change : RoutineBody → Outcome (List Region)}
    (same : ∀ body regions, change body = .ok regions →
      regions.flatMap Region.callees = body.regions.flatMap Region.callees) :
    Advances SameCalls (do
      let body ← body id
      let regions ← (change body)
      changeBody id fun body => { body with regions }) := by
  refine body_sameCalls fun session body found => ?_
  refine Advances.telling (.outcome _) (.outcome fun regions changed => ⟨rfl, changed⟩) ?_
  exact fun regions changed => changeBody_sameCalls found (same body regions changed)

instance (context : RoutineBody → SpecificationContext) : Advances SameCalls (do
      let body ← body id
      let regions ← (setContext (context body) body.regions : Outcome _)
      changeBody id fun body => { body with regions }) :=
  setRegions_sameCalls id fun _ _ set => setContext_callees set

instance loadContext_sameCalls : Advances SameCalls (loadContext id) := by
  unfold loadContext analysedCallees
  exact .composed

instance prepareContext_sameCalls : Advances SameCalls (prepareContext id) := by
  refine .bind .current fun _ => .bind (body_advances id) fun _ => ?_
  dsimp only
  split
  · exact .refused _ _
  · exact .rethrown (loadContext_sameCalls id)

instance currentAll_advances : Advances Eq (currentAll symbols ids) := by
  unfold currentAll
  exact .composed

instance currentPart_advances : Advances Eq (currentPart symbols region) := by
  unfold currentPart currentLines
  exact .composed

instance currentRegion_advances : Advances Eq (currentRegion symbols region) := by
  unfold currentRegion
  exact .composed

theorem currentPart_callee (session : Session) :
    Ensures (currentPart symbols region) session fun result _ =>
      result.callee? = region.callee? := by
  cases region with
  | parallel template parts => exact .pure rfl
  | _ => exact .skip fun _ _ => .pure rfl

theorem currentRegion_callees (session : Session) :
    Ensures (currentRegion symbols region) session fun result _ =>
      result.callees = region.callees := by
  cases region with
  | parallel template parts =>
    refine .reading (.gather (fun part result => result.callee? = part.callee?) fun part =>
      (currentPart_advances symbols part).reading (currentPart_callee symbols part session)) ?_
    intro results related
    refine .pure ?_
    change results.filterMap Region.callee? = parts.filterMap Region.callee?
    induction related with
    | nil => rfl
    | cons first _ ih => rw [List.filterMap_cons, List.filterMap_cons, first, ih]
  | _ => exact .skip fun _ _ => .pure rfl

theorem flatMap_callees_of_forall₂ {regions results : List Region}
    (related : List.Forall₂ (fun region result => result.callees = region.callees) regions results) :
    results.flatMap Region.callees = regions.flatMap Region.callees := by
  induction related with
  | nil => rfl
  | cons first _ ih => rw [List.flatMap_cons, List.flatMap_cons, first, ih]

theorem changeAdded_advances {change : List SymbolId → Work (List SymbolId)}
    (reads : ∀ ids, Advances Eq (change ids)) (regions : List Region) :
    Advances Eq (changeAdded change regions) := by
  unfold changeAdded
  exact .composed

theorem changeAdded_callees (change : List SymbolId → Work (List SymbolId)) (regions : List Region)
    (session : Session) : Ensures (changeAdded change regions) session fun result _ =>
      result.flatMap Region.callees = regions.flatMap Region.callees := by
  unfold changeAdded
  split
  · exact .skip fun _ _ => .pure rfl
  · exact .pure rfl

instance currentPassed_advances : Advances Eq (currentPassed symbols region) := by
  unfold currentPassed
  exact .composed

theorem currentPassed_callees (session : Session) :
    Ensures (currentPassed symbols region) session fun result _ =>
      result.callees = region.callees := by
  unfold currentPassed
  split
  · split
    · exact .throw
    · exact .skip fun _ _ => .pure rfl
  · exact .pure rfl

instance updateReferences_sameCalls : Advances SameCalls (updateReferences id) := by
  refine .bind (symbolsOf_advances id) fun symbols => body_sameCalls fun session body found => ?_
  refine Advances.telling (.map (currentRegion_advances symbols))
    (.gather _ fun region => (currentRegion_advances symbols region).reading
      (currentRegion_callees symbols region session)) fun regions related => ?_
  refine (loaded_advances _).seeing fun _ => (currentAll_advances symbols _).seeing fun _ => ?_
  refine (loaded_advances _).seeing fun _ => (currentAll_advances symbols _).seeing fun _ => ?_
  refine (loaded_advances _).seeing fun _ => (currentAll_advances symbols _).seeing fun _ => ?_
  refine Advances.telling ?reads (Advances.reading ?reads (changeAdded_callees _ regions session))
    fun added same => ?_
  · refine changeAdded_advances (fun ids => ?_) regions
    exact .bind (currentAll_advances symbols ids) fun _ => .bind .current fun _ => .pure _
  refine Advances.telling (.map (currentPassed_advances symbols))
    (.gather _ fun region => (currentPassed_advances symbols region).reading
      (currentPassed_callees symbols region session)) fun passed kept => ?_
  refine changeBody_sameCalls found ?_
  calc passed.flatMap Region.callees
      = added.flatMap Region.callees := flatMap_callees_of_forall₂ kept
    _ = regions.flatMap Region.callees := same
    _ = body.regions.flatMap Region.callees := flatMap_callees_of_forall₂ related

instance enterAdded_sameCalls : Advances SameCalls (enterAdded id) := .composed

theorem setTypeParameters_callees {parameters : Table String SymbolId}
    {regions changed : List Region} (set : setTypeParameters parameters regions = .ok changed) :
    changed.flatMap Region.callees = regions.flatMap Region.callees := by
  unfold setTypeParameters at set
  split at set
  · cases set
    rfl
  · cases set

instance mergeSymbols_sameCalls : Advances SameCalls (mergeSymbols id) := by
  refine .bind (enterAdded_sameCalls id) fun _ => .bind (deduplicateSymbols_sameCalls id) fun _ => ?_
  refine .bind (updateReferences_sameCalls id) fun _ => .bind (symbolsOf_advances id) fun _ => ?_
  refine .bind (.each fun _ => onRegistry_sameCalls _) fun _ => ?_
  refine .bind (.bind .current fun _ => .bind (symbolsOf_advances id) fun _ => .pure _) fun _ => ?_
  exact setRegions_sameCalls id fun _ _ set => setTypeParameters_callees set

instance analyseUsage_sameCalls : Advances SameCalls (analyseUsage id) := .composed

instance checkRegions_advances : Advances SameCalls (checkRegions id) := .composed

theorem scopedName_known (id : SymbolId) :
    Ensures (scopedName id) session fun _ _ => id.index < session.registry.symbols.size := by
  intro name after run
  by_contra unknown
  have absent : session.symbol id = default := by
    rw [Session.symbol, Registry.symbol, Array.getElem?_eq_none (Nat.le_of_not_lt unknown)]
    rfl
  change (onRegistry (Registry.ask id _)).run session = _ at run
  rw [run_ask, absent] at run
  cases run

theorem checkReferences_known : Ensures (checkReferences id ids) session fun _ _ =>
      ∀ symbol ∈ ids, symbol.index < session.registry.symbols.size := by
  refine (symbolsOf_advances id).looked fun symbols => ?_
  refine (Advances.confirmed (fun symbol => ?_) fun symbol _ => ?_).weaken fun _ _ checked => checked.2
  · refine .bind (scopedName_advances symbol) fun name => ?_
    split
    · exact .throw _
    · split
      · exact .bind (symbol_advances symbol) fun _ => .bind (routine_advances id) fun _ => .throw _
      · exact .pure _
  · exact .bind (scopedName_known session symbol) fun _ _ known _ _ _ => known

def KnowsArguments (session : Session) (id : RoutineId) : Prop :=
  ∃ body ids, (session.routine id).body = some body ∧ body.additionalArguments = some ids ∧
    ∀ symbol ∈ ids, symbol.index < session.registry.symbols.size

theorem checkSymbols_knowsArguments :
    Ensures (checkSymbols id) session fun _ _ => KnowsArguments session id := by
  refine .reading (body_ensures session id) fun body found => ?_
  cases arguments : body.additionalArguments with
  | none => exact .thrown
  | some ids =>
    refine .step (run_pure ids session) ?_
    refine .bind (checkReferences_known session id ids) fun _ _ known _ _ _ => ?_
    exact ⟨body, ids, found, arguments, known⟩

def IsSpecified (session : Session) (id : RoutineId) : Prop :=
  ∃ body lines dataLines context parameters rest, (session.routine id).body = some body ∧
    body.regions = .specification lines dataLines (some context) parameters :: rest

theorem addedBy_ensures (regions : List Region) :
    Ensures (addedBy regions) session fun _ _ => ∃ lines dataLines context parameters rest,
      regions = .specification lines dataLines (some context) parameters :: rest := by
  unfold addedBy
  split
  · exact .pure ⟨_, _, _, _, _, rfl⟩
  · exact .throw
  · exact .throw

theorem checkSymbols_isSpecified :
    Ensures (checkSymbols id) session fun _ _ => IsSpecified session id := by
  refine .reading (body_ensures session id) fun body found => ?_
  refine .skip fun _ _ => .skip fun _ _ => .skip fun _ _ => .skip fun _ _ => ?_
  refine .skip fun _ _ => .skip fun _ between => ?_
  refine .bind (addedBy_ensures between body.regions) ?_
  rintro _ _ ⟨lines, dataLines, context, parameters, rest, regions⟩ _ _ _
  exact ⟨body, lines, dataLines, context, parameters, rest, found, regions⟩

theorem prepareRoutines_ensures (routines : List RoutineId) :
    Ensures (prepareRoutines routines) session fun _ after => SameCalls session after ∧
      ∀ id ∈ routines, KnowsArguments after id ∧ IsSpecified after id := by
  refine Advances.onward (.each checkRegions_advances) (refl_of SameCalls session)
    fun _ checked follows => ?_
  refine Advances.onward (.each fun id => .bind (deduplicateSymbols_sameCalls id) fun _ =>
    prepareCalls_sameCalls id) follows fun _ called follows => ?_
  refine Advances.onward (.each prepareContext_sameCalls) follows fun _ loaded follows => ?_
  refine Advances.onward (.each fun id => .bind (mergeSymbols_sameCalls id) fun _ =>
    analyseUsage_sameCalls id) follows fun _ merged follows => ?_
  have checked : ∀ id ∈ routines, Ensures (checkSymbols id) merged fun _ _ =>
      KnowsArguments merged id ∧ IsSpecified merged id := fun id _ value after run =>
    ⟨checkSymbols_knowsArguments merged id value after run,
      checkSymbols_isSpecified merged id value after run⟩
  refine (Advances.confirmed checkSymbols_advances checked).weaken ?_
  rintro _ _ ⟨rfl, known⟩
  exact ⟨follows, known⟩

end ParallelFortran.Work
