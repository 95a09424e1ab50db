import ParallelFortran.Proofs.Enclosure

/-! The pass over code comes to the same whether a block of a source is in a branch or not, as long as no
line of the block leads out of the branch. -/

namespace ParallelFortran.Source

/-- The events for which a branch around a line is not transparent: some lead out of the branch, others
are not prepared there. -/
def Event.disturbs (place : Place) : Event → Bool
  | moduleBegin _ _ => true
  | regionEnd => place == .parallelRegion
  | other => place == .dependants || place == .moduleDependants
  | _ => false

/-- Whether a line at a place would be read otherwise if it stood in a branch. -/
def Place.isDisturbed (place : Place) (line : String) : Bool :=
  match place.readCode line with
  | .ok event => event.disturbs place
  | .error _ => false

namespace Model

open Xml

variable {α β : Type}

/-- The model as it is if the line is seen otherwise; what prepared the last line does not matter. -/
def seen (view : View) (mark : String) (model : Model) : Model :=
  { model with scope := model.scope.seen view, preparedBy := mark }

def SeenAt (view : View) (place : Place) (model other : Model) : Prop :=
  model.scope.context.place = place ∧ ∃ mark, other = model.seen view mark

def Seen (view : View) (model other : Model) : Prop :=
  model.scope.context.place.isPlain = true ∧ ∃ mark, other = model.seen view mark

variable {view : View} {place : Place} {model other : Model}

theorem SeenAt.seen (seen : SeenAt view place model other) (plain : place.isPlain = true) :
    Seen view model other :=
  ⟨seen.1 ▸ plain, seen.2⟩

theorem tracks_of_places {reached : Model → Model → Prop} {first second : ModelM α}
    (each : ∀ place, place.isPlain = true → Tracks (SeenAt view place) reached first second) :
    Tracks (Seen view) reached first second :=
  fun before other ⟨plain, seen⟩ => each before.scope.context.place plain before other ⟨rfl, seen⟩

theorem onScope_tracks {target : Place} {action : ScopeM α}
    (tracks : Tracks (Scope.SeenAt view place) (Scope.SeenAt view target) action action) :
    Tracks (SeenAt view place) (SeenAt view target) (onScope action) (onScope action) := by
  rintro before _ ⟨stands, mark, rfl⟩
  refine ensures_scope fun value scope run => ?_
  obtain ⟨_, along, stands, rfl⟩ :=
    tracks before.scope (before.scope.seen view) ⟨stands, rfl⟩ value scope run
  exact ⟨_, run_onScope (before.seen view mark) along, stands, mark, rfl⟩

/-- The action does the same however the line is seen, and does not move it. -/
class Blind (action : ModelM α) : Prop where
  tracks : ∀ view place, Tracks (SeenAt view place) (SeenAt view place) action action

namespace Blind

instance pure (value : α) : Blind (Pure.pure value) :=
  ⟨fun _ _ => .pure value⟩

variable (fault : LineFault)

instance throw : Blind (MonadExcept.throw fault : ModelM α) :=
  ⟨fun _ _ => .throw⟩

instance refused (next : α → ModelM β) : Blind (MonadExcept.throw fault >>= next) :=
  ⟨fun _ _ => .refused⟩

instance outcome (result : Outcome α) : Blind (liftM result) := by
  constructor
  rintro view place before _ ⟨stands, mark, rfl⟩ value after run
  cases result with
  | error fault => cases run
  | ok given =>
    cases run
    exact ⟨_, rfl, stands, mark, rfl⟩

instance scope {action : ScopeM α} [blind : Scope.Blind action] : Blind (onScope action) :=
  ⟨fun _ _ => onScope_tracks blind.tracks⟩

instance session (work : Work α) : Blind (onScope (Scope.onSession work)) :=
  ⟨fun _ _ => onScope_tracks (Scope.onSession_tracks work)⟩

instance liftedScope {action : ScopeM α} [Scope.Blind action] : Blind (liftM action) :=
  scope

instance (work : Work α) : Blind (liftM work) := session work

theorem modified {change : Model → Model}
    (same : ∀ view mark model, (change model).scope.context.place = model.scope.context.place ∧
      ∃ later, change (model.seen view mark) = (change model).seen view later) :
    Blind (modify change) := by
  refine ⟨fun view place => .modified ?_⟩
  rintro before _ ⟨stands, mark, rfl⟩
  exact ⟨(same view mark before).1.trans stands, (same view mark before).2⟩

theorem bind {action : ModelM α} {next : α → ModelM β} (first : Blind action)
    (second : ∀ value, Blind (next value)) : Blind (action >>= next) :=
  ⟨fun view place => .bind (first.tracks view place) fun value => (second value).tracks view place⟩

theorem reading {next : Model → ModelM β}
    (same : ∀ view mark model, next (model.seen view mark) = next model)
    (each : ∀ model, Blind (next model)) : Blind (get >>= next) := by
  refine ⟨fun view place => .reading ?_⟩
  rintro model _ ⟨_, mark, rfl⟩
  rw [same]
  exact (each model).tracks view place

theorem standing {next : Context → ModelM β}
    (same : ∀ view context, next (context.seen view) = next context)
    (each : ∀ context, Blind (next context)) : Blind (here >>= next) :=
  reading (fun view _ model => same view model.scope.context) fun model =>
    each model.scope.context

theorem composed {action : ModelM α} (parts : Blind action := by repeat' first
      | infer_instance
      | (with_reducible refine Blind.reading ?_ fun _ => ?_); exact fun _ _ _ => rfl
      | (with_reducible refine Blind.standing ?_ fun _ => ?_); exact fun _ _ => rfl
      | with_reducible refine Blind.bind ?_ fun _ => ?_
      | split
      | dsimp only
      | (with_reducible refine @Blind.scope _ _ (Scope.changeContext_blind ?_))
        exact fun _ _ _ => rfl
      | (with_reducible refine @Blind.liftedScope _ _ (Scope.changeContext_blind ?_))
        exact fun _ _ _ => rfl
      | (with_reducible refine Blind.modified ?_); exact fun _ _ _ => ⟨rfl, _, rfl⟩
      | (refine Blind.reading ?_ fun _ => ?_); exact fun _ _ _ => rfl
      | refine Blind.bind ?_ fun _ => ?_) :
    Blind action :=
  parts

theorem tracksFrom {action : ModelM α} (blind : Blind action) {view : View} {place : Place}
    (plain : place.isPlain = true) : Tracks (SeenAt view place) (Seen view) action action :=
  (blind.tracks view place).weaken fun _ _ seen => seen.seen plain

end Blind

instance store_blind : Blind store := .composed

instance : Blind currentRoutine := .composed

instance : Blind currentModule := .composed

instance loadLine_blind (line : String) : Blind (loadLine line) := by
  unfold loadLine
  exact .composed

variable (step : Preparation)

instance prepareAs_blind (line : String) : Blind (prepareAs step line) := by
  refine ⟨fun view place => .reading ?_⟩
  rintro model _ ⟨_, mark, rfl⟩
  change Tracks _ _ (if model.isPrepared then _ else _) (if model.isPrepared then _ else _)
  split
  · exact .refused
  · refine .bind (.modified ?_) fun _ => (loadLine_blind line).tracks view place
    rintro before _ ⟨stands, mark, rfl⟩
    exact ⟨stands, _, rfl⟩

instance prepare_blind (line : String) : Blind (prepare line) :=
  prepareAs_blind .other line

instance analyseLine_blind (kind : Scope.LineKind) (line : String) : Blind (analyseLine kind line) := by
  unfold analyseLine
  exact .composed

instance switchTo_blind (kind : RegionKind) : Blind (switchTo kind) := .composed

instance beginParallel_blind : Blind beginParallel := .composed

instance endParallel_blind : Blind endParallel := .composed

instance callRegion_blind (place : Place) (call : CallLine) : Blind (callRegion place call) :=
  .composed

variable (text : String)

instance endModule_blind : Blind (endModule text) := .composed

instance beginRoutine_blind (text name : String) : Blind (beginRoutine text name) := .composed

instance endRoutine_blind : Blind endRoutine := .composed

instance addData_blind : Blind (addData text) := .composed

/-! What a line means -/

instance finishModuleLine_blind (line : String) : Blind (finishModuleLine line) := .composed

instance plainLine_blind (place : Place) (line : String) : Blind (plainLine place line) := by
  unfold plainLine loopLine
  exact .composed

section

variable {view : View} {place : Place}

theorem standing_tracks {reached : Model → Model → Prop} {next rest : Context → ModelM β}
    (goesOn : ∀ context, context.place = place →
      Tracks (SeenAt view place) reached (next context) (rest (context.seen view))) :
    Tracks (SeenAt view place) reached (here >>= next) (here >>= rest) := by
  rintro before _ ⟨rfl, mark, rfl⟩ value after run
  exact goesOn before.scope.context rfl before _ ⟨rfl, mark, rfl⟩ value after run

theorem moveTo_tracks (plain : place.isPlain = true) (target : Place) :
    Tracks (SeenAt view place) (SeenAt view target) (onScope (Scope.moveTo target))
      (onScope (Scope.moveTo target)) :=
  onScope_tracks (Scope.moveTo_tracks plain target)

theorem moveTo_tracksFrom (plain : place.isPlain = true) {target : Place}
    (plainBehind : target.isPlain = true) :
    Tracks (SeenAt view place) (Seen view) (onScope (Scope.moveTo target))
      (onScope (Scope.moveTo target)) :=
  (moveTo_tracks plain target).weaken fun _ _ seen => seen.seen plainBehind

variable (around : Option Place)

theorem beginModule_tracks (text name : String) :
    Tracks (SeenAt (.outside around) place) (SeenAt (.outside around) .module)
      (beginModule text name) (beginModule text name) := by
  refine .bind (onScope_tracks (Scope.enterModule_tracks around name)) fun _ => ?_
  have begun : Blind (do
      let backend ← Scope.backend
      Work.noteModule backend (some name)
      let node ← (Scope.moduleNode (some name))
      let module ← Work.addModule { name, node := some node }
      modify fun model => { model with module := some module, modules := model.modules ++ [module] }
      prepareAs .moduleBegin text) := .composed
  exact begun.tracks _ _

theorem setPlace_tracks (target : Place) :
    Tracks (SeenAt (.outside around) place) (SeenAt (.outside around) target)
      (onScope (Scope.changeContext fun context => { context with place := target }))
      (onScope (Scope.changeContext fun context => { context with place := target })) := by
  refine onScope_tracks (.modified ?_)
  rintro before _ ⟨rfl, rfl⟩
  exact ⟨rfl, rfl⟩

variable {event : Event}

/-- What a line means comes to the same in a branch, unless it leads out of it. -/
theorem perform_tracks (plain : place.isPlain = true) (line : String)
    (plainEvent : event.isPlain = true) (stays : view = .inside → event.disturbs place = false) :
    Tracks (SeenAt view place) (Seen view) (perform place line event) (perform place line event) := by
  have plainBehind := isPlain_after plain event
  cases event with
  | branch settings | firstStatement => cases plainEvent
  | branchEnd => exact (prepare_blind "").tracksFrom plain
  | scheme settings =>
    have entered : Blind (onScope (Scope.enterScheme settings) >>= fun _ => prepare "") := .composed
    exact entered.tracksFrom plain
  | schemeEnd =>
    have left : Blind (onScope (Scope.changeContext fun context =>
        { context with schemeName := none }) >>= fun _ => prepare "") := .composed
    exact left.tracksFrom plain
  | moduleBegin text name =>
    cases view with
    | inside => cases stays rfl
    | outside around =>
      exact (beginModule_tracks around text name).weaken fun _ _ seen => seen.seen rfl
  | moduleEnd text =>
    exact .bind ((endModule_blind text).tracks view place) fun _ => moveTo_tracksFrom plain plainBehind
  | routineBegin text name =>
    exact .bind ((beginRoutine_blind text name).tracks view place) fun _ =>
      moveTo_tracksFrom plain plainBehind
  | routineEnd text =>
    exact .bind (endRoutine_blind.tracks view place) fun _ => moveTo_tracksFrom plain plainBehind
  | call call => exact (callRegion_blind place call).tracksFrom plain
  | earlyReturn =>
    have returned : Blind (do switchTo .earlyExit; prepare line; switchTo .plain) := .composed
    exact returned.tracksFrom plain
  | region settings =>
    refine .bind (beginParallel_blind.tracks view place) fun _ => .reading ?_
    rintro model _ ⟨_, mark, rfl⟩
    change Tracks _ _ (if !model.iterators.isEmpty then _ else _)
      (if !model.iterators.isEmpty then _ else _)
    split
    · exact moveTo_tracksFrom plain plainBehind
    · exact (Blind.pure ()).tracksFrom plain
  | regionEnd =>
    refine .bind (endParallel_blind.tracks view place) fun _ => ?_
    split
    · next within =>
      cases view with
      | inside =>
        have left : (place == .parallelRegion) = false := stays rfl
        rw [left] at within
        cases within
      | outside around =>
        exact (setPlace_tracks around .routineBody).weaken fun _ _ seen => seen.seen rfl
    · exact (Blind.pure ()).tracksFrom plain
  | dependants settings =>
    refine .bind (moveTo_tracks plain _) fun _ => ?_
    split
    · exact .bind ((switchTo_blind .plain).tracks view _) fun _ => (prepare_blind "").tracksFrom plainBehind
    · exact (prepare_blind "").tracksFrom plainBehind
  | dependantsEnd =>
    exact .bind ((prepare_blind "").tracks view place) fun _ => moveTo_tracksFrom plain plainBehind
  | dataStatement text => exact (addData_blind text).tracksFrom plain
  | other => exact (plainLine_blind place line).tracksFrom plain
  | interfaceBegin text | interfaceEnd text | typeBegin text | typeEnd text | containsLine text =>
    exact .bind ((prepare_blind text).tracks view place) fun _ => moveTo_tracksFrom plain plainBehind

theorem known_bind (value : α) (next : α → ModelM β) :
    (liftM (Except.ok value : Outcome α) >>= next) = next value :=
  rfl

variable {line : String}

theorem performAt_of_read (read : place.readCode line = .ok event)
    (plainEvent : event.isPlain = true) : performAt place line = perform place line event := by
  rw [performAt, read, known_bind]
  cases event with
  | branch settings | firstStatement => cases plainEvent
  | _ => rfl

theorem performAt_refused {fault : Fault} (read : place.readCode line = .error fault) :
    performAt place line = throw (.fault fault) := by
  rw [performAt, read]
  rfl

section

variable (plain : place.isPlain = true)

include plain

theorem performAt_tracks (unbranched : Event.branch? line = none)
    (stays : view = .inside → place.isDisturbed line = false) :
    Tracks (SeenAt view place) (Seen view) (performAt place line) (performAt place line) := by
  cases read : place.readCode line with
  | error fault =>
    rw [performAt_refused read]
    exact .throw
  | ok event =>
    rw [Place.isDisturbed, read] at stays
    rcases readCode_isPlain unbranched read with plainEvent | ⟨rfl, rfl⟩
    · rw [performAt_of_read read plainEvent]
      exact perform_tracks plain line plainEvent stays
    · -- the first statement is read again in the body of the routine
      rw [performAt, read, known_bind]
      refine .bind (moveTo_tracks rfl .routineBody) fun _ => ?_
      refine .bind ((switchTo_blind .plain).tracks view _) fun _ => ?_
      cases again : Place.readCode .routineBody line with
      | error fault => exact .refused
      | ok event =>
        have belongs := readCode_belongsAt again
        refine perform_tracks rfl line (readStatementCode_isPlain unbranched again) fun _ => ?_
        cases event <;> first | rfl | cases belongs

theorem remainsAt_tracks (origin : Place) :
    Tracks (SeenAt view place) (SeenAt view place) (remainsAt origin) (remainsAt origin) := by
  refine standing_tracks fun context stands => ?_
  change Tracks _ _ (pure _) (pure _)
  rw [Context.remains_seen (stands ▸ plain)]
  exact .pure _

theorem matchListed_tracks (line : String) :
    Tracks (SeenAt view place) (SeenAt view place) (matchListed line) (matchListed line) := by
  refine .bind (remainsAt_tracks plain .dependants) fun remains => ?_
  split
  · exact Blind.scope.tracks view place
  · exact .pure _

end

variable {origin : Place}

theorem prepareListed_tracks (plain : origin.isPlain = true)
    (left : view = .inside → place ≠ origin) :
    Tracks (SeenAt view place) (SeenAt view place) (prepareListed origin) (prepareListed origin) := by
  refine .reading ?_
  rintro model _ ⟨rfl, mark, rfl⟩
  cases view with
  | inside =>
    have stands : ¬(model.scope.context.place == origin) = true := by
      rw [beq_iff_eq]
      exact left rfl
    have enclosed : ¬((model.seen .inside mark).scope.context.place == origin) = true := by
      rw [beq_iff_eq]
      exact (Place.isPlain_iff.mp plain).1.symm
    rw [if_neg stands, if_neg enclosed]
    exact .pure _
  | outside around =>
    change Tracks _ _ (if (model.scope.context.place == origin) = true then _ else _)
      (if (model.scope.context.place == origin) = true then _ else _)
    split
    · exact (prepare_blind "").tracks _ _
    · exact .pure _

section

variable (plain : place.isPlain = true)

include plain

theorem finishAt_tracks (line : String)
    (left : view = .inside → origin = .dependants ∨ origin = .moduleDependants → place ≠ origin) :
    Tracks (SeenAt view place) (Seen view) (finishAt origin line) (finishAt origin line) := by
  have stands : ∀ model other, SeenAt view place model other → Seen view model other :=
    fun _ _ seen => seen.seen plain
  cases origin with
  | module =>
    refine .bind (remainsAt_tracks plain .module) fun remains => ?_
    split
    · exact (finishModuleLine_blind line).tracksFrom plain
    · exact (Blind.pure ()).tracksFrom plain
  | dependants =>
    refine .bind (matchListed_tracks plain line) fun _ => ?_
    exact (prepareListed_tracks rfl fun inside => left inside (.inl rfl)).weaken stands
  | moduleDependants =>
    exact (prepareListed_tracks rfl fun inside => left inside (.inr rfl)).weaken stands
  | _ => exact (Blind.pure ()).tracksFrom plain

theorem readAt_tracks (unbranched : Event.branch? line = none)
    (stays : view = .inside → place.isDisturbed line = false) :
    Tracks (SeenAt view place) (Seen view) (readAt place line) (readAt place line) := by
  by_cases settled : view = .inside ∧ (place = .dependants ∨ place = .moduleDependants)
  · -- the list of symbols ends here
    obtain ⟨rfl, lists⟩ := settled
    have reading : place.readCode line = readInDependants line := by
      rcases lists with rfl | rfl <;> rfl
    cases read : readInDependants line with
    | error fault =>
      rw [readAt, performAt_refused (reading.trans read)]
      exact .refused
    | ok event =>
      have undisturbed := stays rfl
      rw [Place.isDisturbed, reading, read] at undisturbed
      rcases readInDependants_cases unbranched read with rfl | rfl
      · have plainBehind := isPlain_after plain .dependantsEnd
        rw [readAt, performAt_of_read (reading.trans read) rfl]
        refine .bind (.bind ((prepare_blind "").tracks _ _) fun _ => moveTo_tracks plain _) fun _ => ?_
        refine finishAt_tracks plainBehind line fun _ _ => ?_
        rcases lists with rfl | rfl <;> nofun
      · rcases lists with rfl | rfl <;> cases undisturbed
  · refine .bind (performAt_tracks plain unbranched stays) fun _ => ?_
    refine tracks_of_places fun reached plainBehind => finishAt_tracks plainBehind line ?_
    exact fun inside lists => absurd ⟨inside, lists⟩ settled

theorem readHere_tracks (unbranched : isUnbranched line = true)
    (stays : view = .inside → place.isDisturbed line = false) :
    Tracks (SeenAt view place) (Seen view) (readHere line) (readHere line) := by
  have read := readAt_tracks plain (branch?_of_unbranched unbranched) stays
  refine standing_tracks fun context stands => ?_
  rw [stands]
  cases view with
  | inside =>
    have enclosed : readInBranch (context.seen .inside) line = (do
        readAt place line
        if (← here).place != .branch then prepare "") := by
      have around : (context.seen .inside).around = some place := congrArg some stands
      rw [readInBranch, branchEnd_of_unbranched unbranched, around]
      rfl
    have settled : Tracks (Seen .inside) (Seen .inside) (pure ()) (do
        if (← here).place != .branch then prepare "") := by
      rintro before _ ⟨plain, mark, rfl⟩ value after run
      cases run
      exact ⟨_, rfl, plain, mark, rfl⟩
    have tracked : Tracks (SeenAt .inside place) (Seen .inside) (readAt place line)
        (readInBranch (context.seen .inside) line) := by
      have followed := Tracks.bind read fun _ => settled
      rw [bind_pure] at followed
      rw [enclosed]
      exact followed
    cases place with
    | branch | ignored => cases plain
    | _ => exact tracked
  | outside around =>
    have same : (context.seen (.outside around)).place = place := stands
    rw [same]
    cases place with
    | branch | ignored => cases plain
    | _ => exact read

end

theorem checkPrepared_blind : Blind checkPrepared := by
  refine ⟨fun view place => .reading ?_⟩
  rintro model _ ⟨_, mark, rfl⟩
  change Tracks _ _ (if !model.isPrepared then _ else _) (if !model.isPrepared then _ else _)
  split
  · intro before other _ value after run
    cases run
  · exact .pure _

def AbreastAt (view : View) (place : Place) (model other : Model) : Prop :=
  model.scope.context.place = place ∧ ∃ prepared mark,
    other = { model with
      scope := model.scope.seen view, isPrepared := prepared, preparedBy := mark }

theorem prepareLine_tracks (plain : place.isPlain = true) (unbranched : isUnbranched line = true)
    (stays : view = .inside → place.isDisturbed line = false) :
    Tracks (AbreastAt view place) (Seen view) (prepareLine line) (prepareLine line) := by
  have begun : Tracks (AbreastAt view place) (SeenAt view place)
      (modify fun model => { model with isPrepared := false } : ModelM Unit)
      (modify fun model => { model with isPrepared := false }) := by
    refine .modified ?_
    rintro before _ ⟨stands, prepared, mark, rfl⟩
    exact ⟨stands, mark, rfl⟩
  refine .bind begun fun _ => standing_tracks fun context stands => ?_
  refine .bind ((@Blind.scope _ _ (Scope.changeContext_blind fun _ _ _ => rfl)).tracks view place) fun _ => ?_
  refine .bind ((Blind.outcome _).tracks view place) fun _ => ?_
  refine .bind (readHere_tracks plain unbranched stays) fun _ => ?_
  refine tracks_of_places fun reached plainBehind => ?_
  refine .bind (Blind.scope.tracks view reached) fun _ => ?_
  exact checkPrepared_blind.tracksFrom plainBehind

end

/-! A block between directives -/

def Abreast (view : View) (model other : Model) : Prop :=
  model.scope.Rests ∧ AbreastAt view model.scope.context.place model other

theorem Abreast.next (abreast : Abreast view model other) :
    Abreast view model.nextLine other.nextLine := by
  obtain ⟨rests, _, prepared, mark, rfl⟩ := abreast
  exact ⟨rests.next, rfl, prepared, mark, rfl⟩

theorem abreast_self (rests : model.scope.Rests) : Abreast (.outside none) model model := by
  refine ⟨rests, rfl, model.isPrepared, model.preparedBy, ?_⟩
  rw [Scope.seen_outside rests.around]

theorem checkPrepared_run (prepared : model.isPrepared = true) :
    checkPrepared.run model = (.ok (), model) := by
  have checked : ¬(!model.isPrepared) = true := by
    rw [prepared]
    exact nofun
  rw [checkPrepared, run_bind, run_get]
  dsimp only
  rw [if_neg checked]
  rfl

theorem prepareLine_forgets (line : String) (model : Model) :
    Ensures (prepareLine line) model fun _ after =>
      after.scope.lineSymbols = [] ∧ after.scope.lineImports = [] := by
  refine .skip fun _ _ => .skip fun _ _ => .skip fun _ _ => .skip fun _ _ => .skip fun _ between => ?_
  have forgotten : (onScope Scope.forgetLine).run between =
    (.ok (), { between with scope := { between.scope with lineSymbols := [], lineImports := [] } }) := rfl
  refine .step forgotten (.step (run_get _) ?_)
  split
  · intro value after run
    cases run
  · exact .pure ⟨rfl, rfl⟩

variable {line : String}

variable {after : Model}

theorem prepareLine_abreast (abreast : Abreast view model other)
    (unbranched : isUnbranched line = true)
    (stays : view = .inside → model.scope.context.place.isDisturbed line = false)
    (run : (prepareLine line).run model = (.ok (), after)) :
    ∃ later, (prepareLine line).run other = (.ok (), later) ∧ Abreast view after later := by
  obtain ⟨rests, abreast⟩ := abreast
  obtain ⟨later, tracked, plain, mark, rfl⟩ :=
    prepareLine_tracks rests.plain unbranched stays model other abreast () after run
  -- the line leaves no branch behind: it is tracked by itself
  have own : Tracks (AbreastAt (.outside none) model.scope.context.place) (Seen (.outside none))
      (prepareLine line) (prepareLine line) :=
    prepareLine_tracks rests.plain unbranched nofun
  obtain ⟨_, again, _, _, same⟩ := own model model (abreast_self rests).2 () after run
  rw [run] at again
  cases again
  have around : after.scope.context.around = none :=
    congrArg (fun model : Model => model.scope.context.around) same
  obtain ⟨symbols, imports⟩ := prepareLine_forgets line model () after run
  exact ⟨_, tracked, ⟨plain, around, symbols, imports⟩, rfl, after.isPrepared, mark, rfl⟩

def opened (mark : String) (model : Model) : Model :=
  { model with scope := model.scope.seen .inside, isPrepared := true, preparedBy := mark }

theorem run_prepare_nothing (unprepared : model.isPrepared = false) :
    ∃ mark, (prepare "").run model =
      (.ok (), { model with isPrepared := true, preparedBy := mark }) := by
  refine ⟨if model.session.marksRegions then Preparation.other.name else "", ?_⟩
  rw [prepare, prepareAs, run_bind, run_get]
  dsimp only
  rw [unprepared]
  rfl

variable {architecture : String}

theorem finishAt_opens {mark : String} (opens : model.scope.Opens architecture) :
    (finishAt model.scope.context.place (branchLine architecture)).run (model.opened mark) =
      (.ok (), model.opened mark) := by
  have mute := (isBranchLine opens.listed).mute
  have takes := opens.takes
  cases stands : model.scope.context.place with
  | module =>
    have remains : (remainsAt .module).run (model.opened mark) =
        (.ok true, model.opened mark) := by
      change (Except.ok (true && model.scope.context.place == .module), _) = _
      rw [stands]
      rfl
    have analysed : (analyseLine .moduleSpecification (branchLine architecture)).run
        (model.opened mark) = (.ok (), model.opened mark) :=
      run_onScope _ (Scope.analyseLine_mute mute rfl (opens.owned (.inl stands)))
    have adjusted : adjustModuleStatement (branchLine architecture) =
        pure (branchLine architecture) := by
      rw [adjustModuleStatement, mute.specifies]
    refine (Yields.step remains ?_).run_eq
    rw [finishModuleLine, adjusted]
    exact .step analysed (.step (run_pure _ _) (.step (run_get _) (.pure rfl)))
  | dependants | moduleDependants =>
    rw [stands] at takes
    cases takes
  | _ => rfl

theorem perform_branch (place : Place) (line settings : String) :
    perform place line (.branch settings) =
      onScope (Scope.enterBranch settings) >>= fun _ => prepare "" :=
  rfl

theorem readAt_opens (unprepared : model.isPrepared = false) (opens : model.scope.Opens architecture) :
    Yields (readAt model.scope.context.place (branchLine architecture)) model fun _ after =>
      ∃ mark, after = model.opened mark := by
  have meaning := readCode_branch opens.takes (isBranchLine opens.listed).branch
    (isBranchLine opens.listed).unassigned
  have entered := run_onScope model (Scope.enterBranch_run opens)
  obtain ⟨mark, prepared⟩ : ∃ mark, (prepare "").run
      { model with scope := model.scope.seen .inside } = (.ok (), model.opened mark) :=
    run_prepare_nothing unprepared
  have performed : (performAt model.scope.context.place (branchLine architecture)).run model =
      (.ok (), model.opened mark) := by
    rw [performAt, meaning, known_bind]
    dsimp only
    rw [perform_branch, run_bind, entered]
    exact prepared
  exact .step performed ⟨(), _, finishAt_opens opens, mark, rfl⟩

theorem prepareLine_run (counted : ∀ brackets, countConditionals line brackets = (.ok (), brackets))
    (read : (readHere line).run { model with isPrepared := false } = (.ok (), after))
    (forgotten : { after.scope with lineSymbols := [], lineImports := [] } = after.scope)
    (prepared : after.isPrepared = true) : (prepareLine line).run model = (.ok (), after) := by
  let begun : Model := { model with isPrepared := false }
  have forgets : (onScope Scope.forgetLine).run after = (.ok (), after) :=
    run_onScope _ (congrArg (Prod.mk (Except.ok ())) forgotten)
  refine Yields.run_eq (.step (run_modify _ model) (.step rfl ?_))
  rw [counted]
  refine .step (run_onScope begun (run_modify _ _)) (.step rfl (.step read ?_))
  exact .step forgets ⟨(), after, checkPrepared_run prepared, rfl⟩

theorem prepareLine_opens (rests : model.scope.Rests) (opens : model.scope.Opens architecture) :
    ∃ after, (prepareLine (branchLine architecture)).run model = (.ok (), after) ∧
      Abreast .inside model after := by
  let begun : Model := { model with isPrepared := false }
  have opened : Yields (readAt begun.scope.context.place (branchLine architecture)) begun
      fun _ after => ∃ mark, after = begun.opened mark := readAt_opens rfl opens
  have read : Yields (readHere (branchLine architecture)) begun fun _ after =>
      ∃ mark, after = begun.opened mark := by
    have takes := opens.takes
    refine .step rfl ?_
    split
    · next stands =>
      rw [stands] at takes
      cases takes
    · next stands =>
      rw [stands] at takes
      cases takes
    · exact opened
  obtain ⟨_, _, run, mark, rfl⟩ := read
  have counted := (isBranchLine opens.listed).mute.counted
  exact ⟨_, prepareLine_run counted run (rests.forgotten .inside) rfl, rests, rfl, true, mark, rfl⟩

theorem prepareLine_closes (abreast : Abreast .inside model other) :
    ∃ after, (prepareLine branchEndLine).run other = (.ok (), after) ∧
      Abreast (.outside none) model after := by
  obtain ⟨rests, _, prepared, mark, rfl⟩ := abreast
  let begun : Model :=
    { model with scope := model.scope.seen .inside, isPrepared := false, preparedBy := mark }
  let left : Model := { model with isPrepared := false, preparedBy := mark }
  have leaves := run_onScope begun (Scope.leaveBranch_run rests.around)
  have stands : (left.scope.context.place != .branch) = true :=
    bne_iff_ne.mpr (Place.isPlain_iff.mp rests.plain).1
  obtain ⟨marked, nothing⟩ : ∃ marked, (prepare "").run left =
      (.ok (), { model with isPrepared := true, preparedBy := marked }) := run_prepare_nothing rfl
  have read : (readHere branchEndLine).run begun =
      (.ok (), { model with isPrepared := true, preparedBy := marked }) := by
    refine (Yields.step rfl ?_).run_eq
    refine .step leaves (.step rfl ?_)
    rw [if_pos stands]
    exact ⟨(), _, nothing, rfl⟩
  have forgotten := rests.forgotten (.outside none)
  rw [Scope.seen_outside rests.around] at forgotten
  refine ⟨_, prepareLine_run (fun _ => rfl) read forgotten rfl, rests, rfl, true, marked, ?_⟩
  rw [Scope.seen_outside rests.around]

/-! Lines for which a branch is not transparent -/

theorem Quiet.ensures {action : ModelM α} (quiet : Quiet action) (before : Model) :
    Ensures action before fun _ after => after.status = before.status := by
  intro value after run
  have same := (quiet.preserves before).1
  rw [run] at same
  exact same

theorem prepareAs_isPrepared (line : String) (before : Model) :
    Ensures (prepareAs step line) before fun _ after =>
      after.status = (before.scope.context.place, true) := by
  refine .step (run_get before) ?_
  dsimp only
  split
  · exact .thrown
  · exact .step (run_modify _ before) ((loadLine_quiet line).ensures _)

theorem endParallel_isPrepared (before : Model) :
    Ensures endParallel before fun _ after => after.isPrepared = true := by
  refine .bind (prepareAs_isPrepared .regionEnd "" before) fun _ between prepared => ?_
  refine .step (run_get between) (.bind ((beginRegion_quiet _ _).ensures between) fun _ behind same => .modified ?_)
  exact congrArg Prod.snd (same.trans prepared)

theorem outcome_ensures (result : Outcome α) (before : Model) :
    Ensures (liftM result : ModelM α) before fun _ after => after = before := by
  intro value after run
  exact (congrArg Prod.snd run).symm

/-- The line has left the branch if it has been prepared, and only then. -/
def IsTorn (model : Model) : Prop :=
  model.scope.context.place = .branch ↔ model.isPrepared = false

theorem torn_of_left (reached : model.status = (place, true)) (left : place ≠ .branch) :
    model.IsTorn := by
  have stands : model.scope.context.place = place := congrArg Prod.fst reached
  have prepared : model.isPrepared = true := congrArg Prod.snd reached
  rw [IsTorn, stands, prepared]
  exact ⟨fun enclosed => absurd enclosed left, nofun⟩

variable {before : Model}

theorem prepareListed_torn {origin : Place} (plain : origin.isPlain = true)
    (stands : before.status = (.branch, false)) :
    Ensures (prepareListed origin) before fun _ after => after.IsTorn := by
  have place : before.scope.context.place = .branch := congrArg Prod.fst stands
  have unprepared : before.isPrepared = false := congrArg Prod.snd stands
  have enclosed : ¬(before.scope.context.place == origin) = true := by
    rw [place, beq_iff_eq]
    exact (Place.isPlain_iff.mp plain).1.symm
  refine .step rfl ?_
  rw [if_neg enclosed]
  exact .pure ⟨fun _ => unprepared, fun _ => place⟩

theorem readAt_torn (stands : before.status = (.branch, false))
    (disturbed : place.isDisturbed line = true) :
    Ensures (readAt place line) before fun _ after => after.IsTorn := by
  rw [Place.isDisturbed] at disturbed
  cases read : place.readCode line with
  | error fault =>
    rw [read] at disturbed
    cases disturbed
  | ok event =>
    rw [read] at disturbed
    cases event with
    | moduleBegin text name =>
      have outside : place = .outside := eq_of_beq (readCode_belongsAt read)
      rw [readAt, performAt_of_read read rfl, outside]
      have begun : Ensures (beginModule text name) before fun _ after =>
          after.status = (.module, true) := by
        intro value after run
        have reached := beginModule_prepares .branch text name before stands
        rw [run] at reached
        exact reached
      exact .bind begun fun _ after reached => .pure (torn_of_left reached nofun)
    | regionEnd =>
      have within : place = .parallelRegion := eq_of_beq disturbed
      rw [readAt, performAt_of_read read rfl, within]
      have ended : Ensures (perform .parallelRegion line .regionEnd) before fun _ after =>
          after.status = (.routineBody, true) := by
        refine .bind (endParallel_isPrepared before) fun _ between prepared => ?_
        rintro value after ⟨⟩
        exact congrArg (Prod.mk Place.routineBody) prepared
      exact .bind ended fun _ after reached => .pure (torn_of_left reached nofun)
    | other =>
      rw [readAt, performAt_of_read read rfl]
      have lists : (place == .dependants || place == .moduleDependants) = true := disturbed
      rw [Bool.or_eq_true, beq_iff_eq, beq_iff_eq] at lists
      rcases lists with rfl | rfl
      · refine .step (run_pure () before) ?_
        refine .bind (Quiet.ensures inferInstance before) fun _ between same => ?_
        exact prepareListed_torn rfl (same.trans stands)
      · exact .step (run_pure () before) (prepareListed_torn rfl stands)
    | _ => cases disturbed

theorem prepare_refuses (prepared : model.isPrepared = true) {condition : Unit → Model → Prop} :
    Ensures (prepare line) model condition := by
  refine .step (run_get model) ?_
  rw [if_pos prepared]
  exact .thrown

theorem checkPrepared_refuses (unprepared : model.isPrepared = false) {condition : Unit → Model → Prop}
    : Ensures checkPrepared model condition := by
  refine .step (run_get model) ?_
  rw [unprepared]
  exact fun value after run => nomatch run

theorem readHere_torn (unbranched : isUnbranched line = true)
    (disturbed : place.isDisturbed line = true) (stands : before.status = (.branch, false))
    (around : before.scope.context.around = some place) :
    Ensures (readHere line) before fun _ after => after.isPrepared = false := by
  have enclosed : before.scope.context.place = .branch := congrArg Prod.fst stands
  refine .step rfl ?_
  rw [enclosed]
  rw [readInBranch, branchEnd_of_unbranched unbranched, around]
  refine .bind (readAt_torn stands disturbed) fun _ between torn => ?_
  refine .step rfl ?_
  by_cases stays : between.scope.context.place = .branch
  · rw [stays]
    exact .pure (torn.mp stays)
  · rw [if_pos (bne_iff_ne.mpr stays)]
    refine prepare_refuses ?_
    rw [← Bool.not_eq_false]
    exact fun unprepared => stays (torn.mpr unprepared)

theorem prepareLine_refuses (abreast : Abreast .inside model other)
    (unbranched : isUnbranched line = true)
    (disturbed : model.scope.context.place.isDisturbed line = true) :
    Ensures (prepareLine line) other fun _ _ => False := by
  obtain ⟨rests, _, prepared, mark, rfl⟩ := abreast
  let begun : Model :=
    { model with scope := model.scope.seen .inside, isPrepared := false, preparedBy := mark }
  refine .step (run_modify _ _) (.step rfl ?_)
  rcases countConditionals line begun.scope.context.branches with ⟨counted, branches⟩
  refine .step (run_onScope begun (run_modify _ _)) (.bind (outcome_ensures counted _) ?_)
  rintro _ _ rfl
  refine .bind (readHere_torn unbranched disturbed rfl rfl) fun _ between unprepared => ?_
  refine .step (run_onScope between (run_modify _ _)) (checkPrepared_refuses ?_)
  exact unprepared

/-! Sources -/

def Alike (model other : Model) : Prop :=
  ∃ prepared mark, other = { model with isPrepared := prepared, preparedBy := mark }

theorem Abreast.alike (abreast : Abreast (.outside none) model other) : Alike model other := by
  obtain ⟨rests, _, prepared, mark, rfl⟩ := abreast
  refine ⟨prepared, mark, ?_⟩
  rw [Scope.seen_outside rests.around]

variable {lines : List String}

theorem carries_abreast {allowed : Place → String → Prop}
    (unbranched : ∀ line ∈ lines, isUnbranched line = true) (stays : ∀ place line,
      allowed place line → view = .inside → place.isDisturbed line = false) :
    pass.Carries (Abreast view) allowed lines := by
  intro line listed before along after abreast permitted run
  obtain ⟨later, tracked, reached⟩ :=
    prepareLine_abreast abreast (unbranched line listed) (stays _ _ permitted) run
  exact ⟨later, tracked, reached.next⟩

theorem block_carries {source : Excerpt} : pass.Carries (Abreast .inside)
    (fun place line => place.isDisturbed line = false) source.block :=
  carries_abreast source.block_unbranched fun _ _ undisturbed _ => undisturbed

section

variable {architecture : String} {source : Excerpt} {model : Model} (rests : model.scope.Rests)
  (accepted : (pass.readSpaced source model).2 = none)
  (opens : (pass.opening source model).scope.Opens architecture)

include rests accepted opens

theorem opening_abreast : ∃ opened,
    (pass.read (branchLine architecture)).run (pass.opening source model) = (.ok (), opened) ∧
      Abreast .inside (pass.opening source model) opened := by
  obtain ⟨before, _⟩ := Pass.parts_of_spaced accepted
  have carries : pass.Carries (Abreast (.outside none)) (fun _ _ => True) source.before :=
    carries_abreast source.before_unbranched fun _ _ _ => nofun
  obtain ⟨_, _, reached⟩ :=
    carries.readLines (abreast_self rests) (congrArg Prod.snd before) fun _ _ => trivial
  exact prepareLine_opens reached.1 opens

theorem transparent
    (undisturbed : ∀ station ∈ pass.stations source.block (pass.opening source model).nextLine,
      station.1.isDisturbed station.2 = false) :
    pass.Transparent Alike architecture source model := by
  obtain ⟨opened, run, entered⟩ := opening_abreast rests accepted opens
  have spaced : pass.Transparent (Abreast (.outside none)) architecture source model := by
    refine Pass.transparent accepted run entered.next block_carries undisturbed ?_
      (carries_abreast source.behind_unbranched fun _ _ _ => nofun)
    intro within closing
    obtain ⟨left, closed, reached⟩ := prepareLine_closes closing
    exact ⟨left, closed, reached.next⟩
  obtain ⟨final, read, reached⟩ := spaced
  exact ⟨final, read, reached.alike⟩

theorem undisturbed_of_accepted
    (read : (pass.readLines (source.enclosed architecture) model).2 = none) :
    ∀ station ∈ pass.stations source.block (pass.opening source model).nextLine,
      station.1.isDisturbed station.2 = false := by
  obtain ⟨before, block, _⟩ := Pass.parts_of_spaced accepted
  obtain ⟨opened, run, entered⟩ := opening_abreast rests accepted opens
  have within : (pass.readLines source.block (pass.next opened)).2 = none := by
    rw [Pass.readLines_enclosed before run] at read
    rcases inner : pass.readLines source.block (pass.next opened) with ⟨reached, _ | refused⟩
    · rfl
    · rw [inner] at read
      cases read
  have refuses : ∀ line ∈ source.block, ∀ before along, Abreast .inside before along →
      ¬before.scope.context.place.isDisturbed line = false →
      Ensures (prepareLine line) along fun _ _ => False := by
    intro line listed before along abreast disturbed
    rw [Bool.not_eq_false] at disturbed
    exact prepareLine_refuses abreast (source.block_unbranched line listed) disturbed
  exact block_carries.permitted refuses entered.next (congrArg Prod.snd block) within

end

end Model

end ParallelFortran.Source
