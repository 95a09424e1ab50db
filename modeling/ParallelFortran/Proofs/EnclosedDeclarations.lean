import ParallelFortran.Proofs.Enclosure

/-! The pass over declarations comes to the same whether a block of a source is in a branch or not. -/

namespace ParallelFortran.Source

def Place.beginsModule (place : Place) (line : String) : Bool :=
  match place.read line with
  | .ok (.moduleBegin _ _) => true
  | _ => false

theorem read_ne_branch {place : Place} {line : String} {event : Event}
    (unbranched : Event.branch? line = none) (read : place.read line = .ok event)
    (settings : String) : event ≠ .branch settings := by
  rintro rfl
  cases readAt_of_read read with
  | found listed found =>
    have plain : ∀ reader ∈ place.readers, reader ∈ Event.branch? :: plainReaders := by
      cases place <;> simp [Place.readers, plainReaders]
    rcases List.mem_cons.mp (plain _ listed) with rfl | other
    · rw [unbranched] at found
      cases found
    · cases isPlain_of_reader other line _ found

namespace Declarations

open Xml CallGraph Scope

variable {foreign : ForeignSymbols} {scope : Scope} {line architecture : String}

/-! Symbols of other modules, and symbols that are stored -/

instance specifyImport_blind (parent : Option NodeId) (moduleName name source : String) :
    Blind (specifyImport parent moduleName name source) := .composed

instance renameImported_blind (id : SymbolId) (moduleName name source : String) :
    Blind (renameImported id moduleName name source) := by
  unfold renameImported
  exact .composed

instance joinImported_blind (id foreign : SymbolId) (keyHere keySource : String) :
    Blind (joinImported id foreign keyHere keySource) := .composed

instance (foreign : ForeignSymbols) (item : ImportItem) : Blind (readForeign foreign item) := by
  refine .bind (noteImport_blind item) fun _ => ?_
  split
  · exact .pure _
  · dsimp only
    split
    · exact .pure _
    · split
      · exact .pure _
      · refine .standing (fun _ _ _ => rfl) fun context => .bind (.outcome _) fun keyHere => ?_
        refine .reading (fun _ _ _ => rfl) fun scope => ?_
        have joined : ∀ id foreign source,
            Blind (some <$> joinImported id foreign keyHere source) := fun id foreign source =>
          .bind (joinImported_blind id foreign keyHere source) fun _ => .pure _
        split
        · exact .bind (renameImported_blind _ _ _ _) fun _ => joined _ _ _
        · exact .bind (specifyImport_blind _ _ _ _) fun id => joined id _ _

instance endModule_blind : Blind endModule := .composed

instance endRoutine_blind : Blind endRoutine := .composed

variable {view : View} {place : Place}

theorem perform_tracks {event : Event} (plain : place.isPlain = true)
    (unbranched : ∀ settings, event ≠ .branch settings)
    (stays : view = .inside → ∀ text name, event ≠ .moduleBegin text name) :
    Tracks (SeenAt view place) (Seen view) (perform place event) (perform place event) := by
  have plainBehind := Model.isPlain_after plain event
  cases event with
  | branch settings => exact absurd rfl (unbranched settings)
  | scheme settings => exact (enterScheme_blind settings).tracksFrom plain
  | schemeEnd =>
    have left : Blind (changeContext fun context => { context with schemeName := none }) :=
      changeContext_blind fun _ _ _ => rfl
    exact left.tracksFrom plain
  | moduleBegin text name =>
    cases view with
    | inside => exact absurd rfl (stays rfl text name)
    | outside around =>
      exact (enterModule_tracks around name).weaken fun _ _ seen => seen.seen rfl
  | moduleEnd text =>
    exact .bind endModule_blind.tracks fun _ =>
      .bind (changeContext_blind fun _ _ _ => rfl).tracks fun _ =>
        moveTo_tracksFrom plain plainBehind
  | routineBegin text name =>
    exact .bind (enterRoutine_blind text name).tracks fun _ => moveTo_tracksFrom plain plainBehind
  | routineEnd text =>
    exact .bind endRoutine_blind.tracks fun _ => moveTo_tracksFrom plain plainBehind
  | call call =>
    exact .bind (enterCall_blind call).tracks fun _ =>
      Blind.tracksFrom (changeContext_blind fun _ _ _ => rfl) plain
  | _ => exact moveTo_tracksFrom plain plainBehind

theorem remainsAt_tracks (plain : place.isPlain = true) (origin : Place) :
    Tracks (SeenAt view place) (SeenAt view place) (remainsAt origin) (remainsAt origin) := by
  refine standing_tracks fun context stands => ?_
  change Tracks _ _ (pure _) (pure _)
  rw [Context.remains_seen (stands ▸ plain)]
  exact .pure _

section

variable (foreign : ForeignSymbols)

def finishAt (place : Place) (line : String) : ScopeM Unit := do
  if ← remainsAt place then
    match place with
    | .module => analyseLine (readForeign foreign) .moduleSpecification line
    | .declarations => analyseLine (readForeign foreign) .declaration line
    | .dependants => matchListed line
    | _ => pure ()

theorem readAt_tracks (plain : place.isPlain = true) (unbranched : Event.branch? line = none)
    (stays : view = .inside → place.beginsModule line = false) :
    Tracks (SeenAt view place) (Seen view) (readAt foreign place line)
      (readAt foreign place line) := by
  have analysed : ∀ kind, Blind (Scope.analyseLine (readForeign foreign) kind line) := fun kind =>
    analyseLine_blind kind line
  have settled : Tracks (Seen view) (Seen view) (finishAt foreign place line)
      (finishAt foreign place line) := by
    refine tracks_of_places fun reached plainBehind => ?_
    refine .bind (remainsAt_tracks plainBehind place) fun remains => ?_
    split
    · split
      · exact (analysed _).tracksFrom plainBehind
      · exact (analysed _).tracksFrom plainBehind
      · exact (matchListed_blind line).tracksFrom plainBehind
      · exact (Blind.pure ()).tracksFrom plainBehind
    · exact (Blind.pure ()).tracksFrom plainBehind
  refine .known fun event read => .bind (perform_tracks plain (read_ne_branch unbranched read) ?_) ?_
  · rintro inside text name rfl
    have begins : place.beginsModule line = true := by
      rw [Place.beginsModule, read]
    rw [stays inside] at begins
    cases begins
  · intro _
    dsimp only
    split
    · refine .bind (tracks_of_places fun reached plainBehind => ?_) fun _ => settled
      exact (leaveDeclarations_tracks plainBehind).weaken fun _ _ seen => seen.seen plainBehind
    · exact settled

theorem readLine_tracks (plain : place.isPlain = true) (unbranched : isUnbranched line = true)
    (stays : view = .inside → place.beginsModule line = false) :
    Tracks (SeenAt view place) (Seen view) (readLine foreign line) (readLine foreign line) := by
  have read : Tracks (SeenAt view place) (Seen view)
      (readAt foreign place line >>= fun _ => forgetLine)
      (readAt foreign place line >>= fun _ => forgetLine) := by
    refine .bind (readAt_tracks foreign plain (branch?_of_unbranched unbranched) stays) fun _ => ?_
    exact tracks_of_places fun reached plainBehind => forgetLine_blind.tracksFrom plainBehind
  refine standing_tracks fun context stands => ?_
  refine .bind (changeContext_blind fun _ _ _ => rfl).tracks fun _ => ?_
  refine .bind (Blind.outcome _).tracks fun _ => standing_tracks fun context stands => ?_
  rw [branchEnd_of_unbranched unbranched, stands]
  cases view with
  | inside =>
    have around : (context.seen .inside).around = some place := congrArg some stands
    rw [around]
    cases place with
    | branch | ignored => cases plain
    | _ => exact read
  | outside around =>
    have same : (context.seen (.outside around)).place = place := stands
    rw [same]
    cases place with
    | branch | ignored => cases plain
    | _ => exact read

/-! A block between directives -/

theorem forgets (line : String) (scope : Scope) :
    Ensures (readLine foreign line) scope fun _ after =>
      after.lineSymbols = [] ∧ after.lineImports = [] := by
  have forgotten : ∀ {α : Type} {action : ScopeM α} {before : Scope},
      Ensures (action >>= fun _ => forgetLine) before fun _ after =>
        after.lineSymbols = [] ∧ after.lineImports = [] :=
    .skip fun _ _ => .modified ⟨rfl, rfl⟩
  refine .skip fun context _ => .skip fun _ _ => .skip fun _ _ => .skip fun context _ => ?_
  dsimp only
  split
  · split
    · exact forgotten
    · exact .modified ⟨rfl, rfl⟩
  · split
    · exact forgotten
    · split
      · exact forgotten
      · exact forgotten
  · exact forgotten

end

theorem readLine_rests {after : Scope} (rests : scope.Rests) (unbranched : isUnbranched line = true)
    (run : (readLine foreign line).run scope = (.ok (), after)) : after.Rests := by
  have tracked : Tracks (SeenAt (.outside none) scope.context.place) (Seen (.outside none))
      (readLine foreign line) (readLine foreign line) :=
    readLine_tracks foreign rests.plain unbranched nofun
  obtain ⟨later, again, plain, same⟩ :=
    tracked scope scope ⟨rfl, (seen_outside rests.around).symm⟩ () after run
  obtain ⟨symbols, imports⟩ := forgets foreign line scope () after run
  rw [run] at again
  cases again
  exact ⟨plain, congrArg (fun scope : Scope => scope.context.around) same, symbols, imports⟩

theorem perform_branch (place : Place) (settings : String) :
    perform place (.branch settings) = enterBranch settings :=
  rfl

section

variable (foreign : ForeignSymbols)

theorem readAt_opens (opens : scope.Opens architecture) :
    Yields (readAt foreign scope.context.place (branchLine architecture)) scope fun _ after =>
      after = scope.seen .inside := by
  have plain := Place.isPlain_of_takes opens.takes
  have mute := (isBranchLine opens.listed).mute
  have meaning := read_branch opens.takes (isBranchLine opens.listed).branch
  have performed : (perform scope.context.place (.branch (branchSettings architecture))).run
      scope = (.ok (), scope.seen .inside) := by
    rw [perform_branch, enterBranch_run opens]
  have remains : (remainsAt scope.context.place).run (scope.seen .inside) =
      (.ok true, scope.seen .inside) := by
    change (Except.ok (true && scope.context.place == scope.context.place), _) = _
    rw [beq_self_eq_true]
    rfl
  have settled : Yields (finishAt foreign scope.context.place (branchLine architecture))
      (scope.seen .inside) fun _ after => after = scope.seen .inside := by
    refine .step remains ?_
    rw [if_pos rfl]
    split
    · next stands => exact ⟨(), _, analyseLine_mute mute rfl (opens.owned (.inl stands)), rfl⟩
    · next stands => exact ⟨(), _, analyseLine_mute mute rfl (opens.owned (.inr stands)), rfl⟩
    · next stands =>
      have takes := opens.takes
      rw [stands] at takes
      cases takes
    · exact .pure rfl
  refine .step (run_outcome meaning scope) (.step performed ?_)
  dsimp only
  split
  · next declares =>
    -- the declarations are not left: the branch is among them
    have stays : (scope.context.seen .inside).leaveDeclarations = scope.context.seen .inside := by
      rw [Context.leaveDeclarations, Context.effective_seen plain, Model.effective_eq plain,
        if_pos declares]
    have left : (changeContext Context.leaveDeclarations).run (scope.seen .inside) =
        (.ok (), scope.seen .inside) := by
      change (Except.ok (), { scope with context := (scope.context.seen .inside).leaveDeclarations }) =
        (_, scope.seen .inside)
      rw [stays]
      rfl
    exact .step left settled
  · exact settled

theorem readLine_opens (rests : scope.Rests) (opens : scope.Opens architecture) :
    (readLine foreign (branchLine architecture)).run scope =
      (.ok (), scope.seen .inside) := by
  have counted := (isBranchLine opens.listed).mute.counted scope.context.branches
  have standing : here.run scope = (.ok scope.context, scope) := rfl
  have read : Yields (readAt foreign scope.context.place (branchLine architecture) >>= fun _ =>
      forgetLine) scope fun _ after => after = scope.seen .inside := by
    refine .bind (readAt_opens foreign opens) ?_
    rintro _ _ rfl
    exact .modified (rests.forgotten .inside)
  refine (Yields.step standing ?_).run_eq
  rw [counted]
  refine .step (run_modify _ scope) (.step (run_outcome rfl scope) (.step standing ?_))
  have takes := opens.takes
  split
  · next stands =>
    rw [stands] at takes
    cases takes
  · next stands =>
    rw [stands] at takes
    cases takes
  · exact read

theorem readLine_closes (rests : scope.Rests) :
    (readLine foreign branchEndLine).run (scope.seen .inside) = (.ok (), scope) := by
  have standing : here.run (scope.seen .inside) =
      (.ok (scope.seen .inside).context, scope.seen .inside) := rfl
  have forgotten := rests.forgotten (.outside none)
  rw [seen_outside rests.around] at forgotten
  refine (Yields.step standing ?_).run_eq
  refine .step (run_modify _ _) (.step (run_outcome rfl _) (.step standing ?_))
  exact .step (leaveBranch_run rests.around) (.modified forgotten)

end

theorem readLines_rests {lines : List String} (rests : scope.Rests)
    (unbranched : ∀ line ∈ lines, isUnbranched line = true)
    (accepted : ((pass foreign).readLines lines scope).2 = none) :
    ((pass foreign).readLines lines scope).1.Rests := by
  induction lines generalizing scope with
  | nil => exact rests
  | cons line lines ih =>
    rw [List.forall_mem_cons] at unbranched
    obtain ⟨after, run, rest⟩ := Pass.step_of_accepted accepted
    rw [rest] at accepted ⊢
    exact ih (readLine_rests rests unbranched.1 run).next unbranched.2 accepted

theorem transparent {source : Excerpt} (rests : scope.Rests)
    (accepted : ((pass foreign).readSpaced source scope).2 = none)
    (opens : ((pass foreign).opening source scope).Opens architecture)
    (stays : ∀ station ∈ (pass foreign).stations source.block (nextLine ((pass foreign).opening
      source scope)), station.1.beginsModule station.2 = false) :
    (pass foreign).Transparent Eq architecture source scope := by
  obtain ⟨before, block, _⟩ := Pass.parts_of_spaced accepted
  have opening := readLines_rests rests source.before_unbranched (congrArg Prod.snd before)
  have closing := readLines_rests opening.next source.block_unbranched (congrArg Prod.snd block)
  have within : (pass foreign).Carries Encloses (fun place line => place.beginsModule line = false)
      source.block := by
    rintro line listed state _ after ⟨rests, rfl⟩ inside run
    have unbranched := source.block_unbranched line listed
    obtain ⟨later, tracked, _, rfl⟩ :=
      readLine_tracks foreign rests.plain unbranched (fun _ => inside) state _ ⟨rfl, rfl⟩ () after run
    exact ⟨_, tracked, (readLine_rests rests unbranched run).next, rfl⟩
  refine Pass.transparent accepted (readLine_opens foreign opening opens) ⟨opening.next, rfl⟩ within
    stays ?_ ?_
  · rintro _ ⟨_, rfl⟩
    exact ⟨_, readLine_closes foreign closing, rfl⟩
  · rintro line _ state _ after rfl _ run
    exact ⟨after, run, rfl⟩

end Declarations

end ParallelFortran.Source
