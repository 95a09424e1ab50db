import ParallelFortran.Conversion
import ParallelFortran.Proofs.Event
import ParallelFortran.Proofs.LineStatus

/-! Outside of branches every line is prepared exactly once. -/

namespace ParallelFortran.Source

namespace Pass

variable {ε σ : Type} {pass : Pass ε σ}

theorem readLines_cons {line : String} {state after : σ} (lines : List String)
    (run : (pass.read line).run state = (.ok (), after)) :
    pass.readLines (line :: lines) state = pass.readLines lines (pass.next after) := by
  rw [readLines, run]

theorem step_of_accepted {line : String} {lines : List String} {state : σ}
    (accepted : (pass.readLines (line :: lines) state).2 = none) :
    ∃ after, (pass.read line).run state = (.ok (), after) ∧
      pass.readLines (line :: lines) state = pass.readLines lines (pass.next after) := by
  rcases run : (pass.read line).run state with ⟨fault | _, after⟩
  · rw [readLines, run] at accepted
    cases accepted
  · exact ⟨after, rfl, readLines_cons lines run⟩

theorem parts_of_accepted {path text : String} {start : σ}
    (accepted : (pass.readFile path text start).2 = none) :
    (pass.readLines (Text.linesKeepingEnds text) start).2 = none ∧
      (pass.readFile path text start).1 = (pass.readLines (Text.linesKeepingEnds text) start).1 ∧
      (pass.context (pass.readFile path text start).1).place = .outside := by
  rw [Pass.readFile] at accepted ⊢
  generalize pass.readLines (Text.linesKeepingEnds text) start = reading at accepted ⊢
  obtain ⟨final, _ | ⟨line, fault⟩⟩ := reading
  · dsimp only at accepted ⊢
    split at accepted
    · next outside =>
      rw [if_pos outside]
      exact ⟨rfl, rfl, eq_of_beq outside⟩
    · cases accepted
  · cases accepted

end Pass

theorem Context.moveTo_of_plain {context : Context} (plain : context.place.isPlain = true)
    (target : Place) : context.moveTo target = { context with place := target } := by
  rw [moveTo, if_neg]
  simpa using (Place.isPlain_iff.mp plain).1

namespace Model

variable {α : Type}

theorem createRoutine_quiet (module : ModuleId) (name : String) :
    Quiet (createRoutine module name) := by
  refine .bind .current fun model => .bind inferInstance fun backend => ?_
  dsimp only
  split
  · exact .refused _ _
  · split
    · exact .throw _
    · exact .bind (.session _) fun _ => .bind (.session _) fun _ => .pure _

variable {context : Context}

theorem place_moveTo (plain : context.place.isPlain = true) (target : Place) :
    (context.moveTo target).place = target := by
  rw [Context.moveTo_of_plain plain]

variable {place : Place}

theorem moveTo_reads {prepared : Bool} (plain : place.isPlain = true) (target : Place) :
    Reads (onScope (Scope.moveTo target)) (place, prepared) fun _ status =>
      status = (target, prepared) := by
  intro before atOrigin
  cases atOrigin
  exact congrArg (fun place => (place, before.isPrepared)) (place_moveTo plain target)

variable {origin : Place × Bool}

theorem enterModule_reads (name : String) :
    Reads (onScope (Scope.enterModule name)) origin fun _ status =>
      status = (.module, origin.2) := by
  refine .moved rfl ?_ fun before fault failed => ordinary_of_mapError failed
  rintro before rfl
  exact congrArg (fun place => (place, before.isPrepared))
    ((Scope.loadModule_blind name).place_eq _)

theorem beginModule_prepares (place : Place) (text name : String) :
    Prepares (beginModule text name) place .module := by
  refine .bind (enterModule_reads name) ?_
  rintro _ status rfl
  exact @Readies.prepares _ _ .composed _ rfl

section

variable (plain : place.isPlain = true)

include plain

theorem beginRoutine_prepares (text name : String) :
    Prepares (beginRoutine text name) place place := by
  refine .step plain inferInstance fun _ => ?_
  refine .step plain inferInstance fun module => ?_
  refine .step plain (createRoutine_quiet module name) fun routine => ?_
  exact .step plain (.modified fun _ => rfl) fun _ => prepare_prepares plain ""

theorem endRoutine_prepares : Prepares endRoutine place place := by
  refine .step plain inferInstance fun routine => .step plain .current fun _ => ?_
  refine .step plain (.session _) fun _ => .step plain (.modified fun _ => rfl) fun _ => ?_
  refine .followed plain (prepare_prepares plain "") fun _ => .bind .current fun _ => ?_
  refine .bind (.session _) fun _ => .bind (.modified fun _ => rfl) fun _ => ?_
  exact inferInstance

/-- The places at which a line need not mean anything by itself. -/
def isSilent : Place → Bool
  | .module | .moduleDependants | .dependants => true
  | _ => false

theorem plainLine_prepares (speaks : isSilent place = false)
    (line : String) : Prepares (plainLine place line) place place := by
  unfold plainLine
  split
  · exact (analysed_readies .declaration line line).prepares rfl
  · exact (analysed_readies .statement line line).prepares rfl
  · refine .step rfl inferInstance fun adjusted => ?_
    exact (analysed_readies .statement line adjusted).prepares rfl
  · cases speaks
  · cases speaks
  · cases speaks
  · exact prepare_prepares plain line

end

def IsPrepared (status : Place × Bool) : Prop :=
  status.1.isPlain = true ∧ status.2 = true

theorem Prepares.isPrepared {action : ModelM α} {origin target : Place}
    (prepares : Prepares action origin target) (plain : target.isPlain = true) :
    Reads action (origin, false) fun _ status => IsPrepared status := by
  refine Reads.weaken prepares ?_
  rintro _ status rfl
  exact ⟨plain, rfl⟩

theorem isPlain_after (plain : place.isPlain = true) (event : Event) :
    (place.after event).isPlain = true := by
  cases place with
  | branch | ignored => cases plain
  | _ => cases event <;> rfl

theorem Prepares.thenMove {action : ModelM α} {origin : Place} (prepares : Prepares action origin place)
    (plain : place.isPlain = true) (target : Place) :
    Prepares (action >>= fun _ => onScope (Scope.moveTo target)) origin target := by
  refine Reads.bind prepares ?_
  rintro _ status rfl
  exact moveTo_reads plain target

section

variable (plain : place.isPlain = true)

include plain

theorem perform_dependantsEnd (line : String) :
    Prepares (perform place line .dependantsEnd) place (place.after .dependantsEnd) :=
  (prepare_prepares plain "").thenMove plain _

theorem perform_region (line settings : String) :
    Reads (perform place line (.region settings)) (place, false) fun _ status =>
      IsPrepared status := by
  refine .bind (beginParallel_readies.prepares plain) ?_
  rintro _ status rfl
  refine .step plain .current fun model => ?_
  split
  · refine (moveTo_reads plain _).weaken ?_
    rintro _ status rfl
    exact ⟨isPlain_after plain _, rfl⟩
  · exact .done ⟨plain, rfl⟩

theorem perform_regionEnd (line : String) :
    Reads (perform place line .regionEnd) (place, false) fun _ status => IsPrepared status := by
  refine .bind (endParallel_readies.prepares plain) ?_
  rintro _ status rfl
  split
  · exact fun before stands => ⟨rfl, congrArg Prod.snd stands⟩
  · exact .done ⟨plain, rfl⟩

theorem perform_dependants (line settings : String) :
    Reads (perform place line (.dependants settings)) (place, false) fun _ status =>
      IsPrepared status := by
  have plainBehind := isPlain_after plain (.dependants settings)
  refine .bind (moveTo_reads plain _) ?_
  rintro _ status rfl
  split
  · exact .step plainBehind inferInstance fun _ =>
      (prepare_prepares plainBehind "").isPrepared plainBehind
  · exact (prepare_prepares plainBehind "").isPrepared plainBehind

end

variable {line : String}

theorem perform_prepares {event : Event} (plain : place.isPlain = true)
    (plainEvent : event.isPlain = true) (speaks : event = .other → isSilent place = false) :
    Reads (perform place line event) (place, false) fun _ status => IsPrepared status := by
  have plainBehind := isPlain_after plain event
  cases event with
  | branch settings | firstStatement => cases plainEvent
  | scheme settings =>
    exact .step plain inferInstance fun _ =>
      (prepare_prepares plain "").isPrepared plain
  | schemeEnd =>
    exact .step plain (.context fun _ _ _ => rfl) fun _ =>
      (prepare_prepares plain "").isPrepared plain
  | moduleBegin text name => exact (beginModule_prepares place text name).isPrepared rfl
  | moduleEnd text =>
    exact (((endModule_readies text).prepares plain).thenMove plain _).isPrepared plainBehind
  | interfaceBegin text | interfaceEnd text | typeBegin text | typeEnd text | containsLine text =>
    exact ((prepare_prepares plain text).thenMove plain _).isPrepared plainBehind
  | routineBegin text name =>
    exact ((beginRoutine_prepares plain text name).thenMove plain _).isPrepared plainBehind
  | routineEnd text =>
    exact ((endRoutine_prepares plain).thenMove plain _).isPrepared plainBehind
  | call call => exact ((callRegion_readies place call).prepares plain).isPrepared plain
  | dependants settings => exact perform_dependants plain line settings
  | dependantsEnd => exact (perform_dependantsEnd plain line).isPrepared plainBehind
  | region settings => exact perform_region plain line settings
  | regionEnd => exact perform_regionEnd plain line
  | dataStatement text => exact ((addData_readies text).prepares plain).isPrepared plain
  | earlyReturn => exact ((earlyReturn_readies line).prepares plain).isPrepared plain
  | branchEnd => exact (prepare_prepares plain "").isPrepared plain
  | other => exact (plainLine_prepares plain (speaks rfl) line).isPrepared plain

theorem performAt_prepares (plain : place.isPlain = true) (unbranched : Event.branch? line = none)
    (speaks : isSilent place = false) :
    Reads (performAt place line) (place, false) fun _ status => IsPrepared status := by
  refine .bind (.outcome plain) ?_
  rintro event status ⟨read, rfl⟩
  rcases readCode_isPlain unbranched read with plainEvent | ⟨rfl, rfl⟩
  · split
    · cases plainEvent
    · exact perform_prepares plain plainEvent fun _ => speaks
  · -- the first statement is read again in the body of the routine
    refine .bind (moveTo_reads rfl .routineBody) ?_
    rintro _ status rfl
    refine .step rfl inferInstance fun _ => .bind (.outcome rfl) ?_
    rintro event status ⟨read, rfl⟩
    exact perform_prepares rfl (readStatementCode_isPlain unbranched read) fun _ => rfl

theorem performAt_module (unbranched : Event.branch? line = none) :
    Reads (performAt .module line) (.module, false) fun _ status =>
      status = (.module, false) ∨ IsPrepared status := by
  refine .bind (.outcome rfl) ?_
  rintro event status ⟨read, rfl⟩
  rcases readCode_isPlain unbranched read with plainEvent | ⟨rfl, otherPlace⟩
  · split
    · cases plainEvent
    · by_cases other : event = .other
      · subst other
        exact .done (.inl rfl)
      · refine (perform_prepares rfl plainEvent fun same => absurd same other).weaken ?_
        exact fun _ status prepared => .inr prepared
  · cases otherPlace

theorem performAt_dependants (lists : place = .dependants ∨ place = .moduleDependants)
    (unbranched : Event.branch? line = none) :
    Reads (performAt place line) (place, false) fun _ status =>
      status = (place, false) ∨ status = (place.after .dependantsEnd, true) := by
  rcases lists with rfl | rfl
  all_goals
    refine .bind (.outcome rfl) ?_
    rintro event status ⟨read, rfl⟩
    rcases readInDependants_cases unbranched read with rfl | rfl
    · refine (perform_dependantsEnd rfl line).weaken ?_
      exact fun _ status moved => .inr moved
    · exact .done (.inl rfl)

theorem here_reads :
    Reads here origin fun context status => context.place = origin.1 ∧ status = origin := by
  rintro before rfl
  exact ⟨rfl, rfl⟩

theorem effective_eq (plain : context.place.isPlain = true) :
    context.effective = context.place := by
  rw [Context.effective, if_neg]
  simpa using (Place.isPlain_iff.mp plain).1

theorem remainsAt_reads (plain : origin.1.isPlain = true) (place : Place) :
    Reads (remainsAt place) origin fun remains status =>
      remains = (origin.1 == place) ∧ status = origin := by
  refine .bind here_reads ?_
  rintro context status ⟨standing, rfl⟩
  rw [← standing] at plain
  have kept : (context.place != .ignored) = true :=
    bne_iff_ne.mpr (Place.isPlain_iff.mp plain).2
  refine .done ⟨?_, rfl⟩
  rw [effective_eq plain, kept, Bool.true_and, standing]

theorem finishModuleLine_reads (line : String) (prepared : Bool) :
    Reads (finishModuleLine line) (.module, prepared) fun _ status => IsPrepared status := by
  refine .step rfl inferInstance fun _ => ?_
  refine .step rfl inferInstance fun adjusted => .bind .current ?_
  rintro model status ⟨atOrigin, rfl⟩
  have flag : model.isPrepared = prepared := congrArg Prod.snd atOrigin
  rw [flag]
  cases prepared with
  | true => exact .done ⟨rfl, rfl⟩
  | false =>
    refine .step rfl inferInstance fun line => ?_
    exact (prepare_prepares rfl line).isPrepared rfl

variable {reached : Place × Bool}

theorem finishAt_module (performed : reached = (.module, false) ∨ IsPrepared reached) :
    Reads (finishAt .module line) reached fun _ status => IsPrepared status := by
  obtain ⟨place, flag⟩ := reached
  have plain : place.isPlain = true := by
    rcases performed with same | prepared
    · cases same
      rfl
    · exact prepared.1
  refine .bind (remainsAt_reads plain .module) ?_
  rintro remains status ⟨rfl, rfl⟩
  by_cases inModule : place = .module
  · subst inModule
    exact finishModuleLine_reads line flag
  · rw [if_neg (by simpa using inModule)]
    refine .done (performed.resolve_left ?_)
    intro same
    exact inModule (congrArg Prod.fst same)

theorem prepareListed_reads (lists : place = .dependants ∨ place = .moduleDependants)
    (performed : reached = (place, false) ∨ reached = (place.after .dependantsEnd, true)) :
    Reads (prepareListed place) reached fun _ status => IsPrepared status := by
  refine .bind here_reads ?_
  rintro context status ⟨standing, rfl⟩
  rw [standing]
  rcases lists with rfl | rfl
  all_goals
    rcases performed with rfl | rfl
    · exact (prepare_prepares rfl "").isPrepared rfl
    · exact .done ⟨rfl, rfl⟩

theorem readAt_prepares (plain : place.isPlain = true) (unbranched : Event.branch? line = none) :
    Reads (readAt place line) (place, false) fun _ status => IsPrepared status := by
  by_cases speaks : isSilent place = false
  · refine .bind (performAt_prepares plain unbranched speaks) ?_
    intro _ status prepared
    unfold finishAt
    split
    · cases speaks
    · cases speaks
    · cases speaks
    · exact .done prepared
  · cases place with
    | module => exact .bind (performAt_module unbranched) fun _ _ => finishAt_module
    | dependants =>
      refine .bind (performAt_dependants (.inl rfl) unbranched) ?_
      intro _ status performed
      have plainBehind : status.1.isPlain = true := by
        rcases performed with rfl | rfl
        · rfl
        · rfl
      exact .step plainBehind inferInstance fun _ =>
        prepareListed_reads (.inl rfl) performed
    | moduleDependants =>
      refine .bind (performAt_dependants (.inr rfl) unbranched) ?_
      exact fun _ _ => prepareListed_reads (.inr rfl)
    | _ => exact absurd rfl speaks

theorem readHere_prepares (plain : place.isPlain = true) (unbranched : Event.branch? line = none) :
    Reads (readHere line) (place, false) fun _ status => IsPrepared status := by
  refine .bind here_reads ?_
  rintro context status ⟨standing, rfl⟩
  rw [standing]
  dsimp only
  split
  · cases plain
  · cases plain
  · exact readAt_prepares plain unbranched

theorem checkPrepared_reads (prepared : IsPrepared reached) :
    Reads checkPrepared reached fun _ status => IsPrepared status := by
  refine .bind .current ?_
  rintro model status ⟨atOrigin, rfl⟩
  have flag : model.isPrepared = true := (congrArg Prod.snd atOrigin).trans prepared.2
  rw [flag]
  exact .done prepared

/-- A line outside of branches is prepared exactly once, unless what it says is at fault. -/
theorem prepareLine_prepares (plain : origin.1.isPlain = true)
    (unbranched : Event.branch? line = none) :
    Reads (prepareLine line) origin fun _ status => IsPrepared status := by
  obtain ⟨place, flag⟩ := origin
  have unprepared : Reads (modify fun model => { model with isPrepared := false }) (place, flag)
      fun _ status => status = (place, false) := by
    intro model atOrigin
    exact congrArg (fun status => (status.1, false)) atOrigin
  refine .bind unprepared ?_
  rintro _ status rfl
  refine .step plain inferInstance fun context => ?_
  refine .step plain (.context fun _ _ _ => rfl) fun _ => ?_
  refine .step plain (.outcome _) fun _ => .bind (readHere_prepares plain unbranched) ?_
  intro _ status prepared
  refine .step prepared.1 inferInstance fun _ => ?_
  exact checkPrepared_reads prepared

def readings : List String → Model → List (Except LineFault Unit × Model)
  | [], _ => []
  | line :: lines, model =>
    let reading := (prepareLine line).run model
    reading :: readings lines (nextLine reading.2)

theorem Reads.prepared {action : ModelM Unit} {before : Model}
    (reads : Reads action before.status fun _ status => IsPrepared status) :
    (∀ fault, (action.run before).1 = .error fault → fault.IsOrdinary) ∧
      ((action.run before).1 = .ok () → (action.run before).2.isPrepared = true) ∧
      (action.run before).2.scope.context.place.isPlain = true := by
  have reached := reads before rfl
  generalize action.run before = reading at reached ⊢
  obtain ⟨fault | value, after⟩ := reading
  · refine ⟨?_, nofun, reached.2⟩
    intro other failed
    cases failed
    exact reached.1
  · exact ⟨nofun, fun _ => reached.2, reached.1⟩

variable {lines : List String} {model : Model}

theorem readings_prepared (plain : model.status.1.isPlain = true)
    (unbranched : ∀ line ∈ lines, Event.branch? line = none) : ∀ reading ∈ readings lines model,
      (∀ fault, reading.1 = .error fault → fault.IsOrdinary) ∧
        (reading.1 = .ok () → reading.2.isPrepared = true) := by
  induction lines generalizing model with
  | nil => simp [readings]
  | cons line lines ih =>
    rw [List.forall_mem_cons] at unbranched
    obtain ⟨ordinary, prepared, plainBehind⟩ := (prepareLine_prepares plain unbranched.1).prepared
    rw [readings, List.forall_mem_cons]
    exact ⟨⟨ordinary, prepared⟩, ih plainBehind unbranched.2⟩

theorem readLines_mem_readings {fault : LineFault}
    (refused : (pass.readLines lines model).2 = some (line, fault)) :
    ∃ reading ∈ readings lines model, reading.1 = .error fault := by
  induction lines generalizing model with
  | nil => cases refused
  | cons first lines ih =>
    have head : (prepareLine first).run model ∈ readings (first :: lines) model :=
      List.mem_cons_self
    rw [Pass.readLines] at refused
    split at refused
    · next accepted after run =>
      obtain ⟨reading, member, failed⟩ := ih refused
      refine ⟨reading, List.mem_cons_of_mem _ ?_, failed⟩
      have reached : ((prepareLine first).run model).2 = after := congrArg Prod.snd run
      rw [reached]
      exact member
    · next cause after run =>
      cases refused
      exact ⟨_, head, congrArg Prod.fst run⟩

theorem branch?_eq_none (unbranched : Pattern.Fortran.branchBegin.accepts line = false) :
    Event.branch? line = none := by
  rw [Pattern.accepts, Option.isSome_eq_false_iff, Option.isNone_iff_eq_none] at unbranched
  rw [Event.branch?, unbranched, Option.map_none]

/-- If no line enters a branch, then every line that is accepted has been prepared, and no line is
refused for having been prepared twice or never, whatever else it is refused for. -/
theorem lines_prepared_once (start : Model) (lines : List String)
    (plain : start.scope.context.place.isPlain = true)
    (unbranched : ∀ line ∈ lines, Pattern.Fortran.branchBegin.accepts line = false) :
    (∀ reading ∈ readings lines start,
      (∀ cause, reading.1 ≠ .error (.preparation cause)) ∧
        (reading.1 = .ok () → reading.2.isPrepared = true)) ∧
      ∀ line cause, (pass.readLines lines start).2 ≠ some (line, .preparation cause) := by
  have prepared := readings_prepared plain fun line member =>
    branch?_eq_none (unbranched line member)
  have never : ∀ reading ∈ readings lines start, ∀ cause,
      reading.1 ≠ .error (.preparation cause) := by
    intro reading member cause failed
    obtain ⟨_, same⟩ := (prepared reading member).1 _ failed
    cases same
  refine ⟨fun reading member => ⟨never reading member, (prepared reading member).2⟩, ?_⟩
  intro line cause refused
  obtain ⟨reading, member, failed⟩ := readLines_mem_readings refused
  exact never reading member cause failed

def oneRoutine : List Xml.Tree :=
  [.element "callGraph" [] [
    .element "routines" [] [.element "routine" [("name", some "k"), ("module", some "m")]
      [.element "arguments" [] []]],
    .element "calls" [] [], .element "symbols" [] [],
    .element "modules" [] [.element "module" [("name", some "m")] []]]]

def oneRoutineStart : Model :=
  let opened : Work Model := do
    let document ← (Xml.addDocument oneRoutine : Xml.StoreM _)
    Work.openModel document (← Work.addBackends [("default", "OpenMPFortranImplementation")] [])
  (opened.run {}).1.toOption.getD default

def oneRoutineLines : List String :=
  ["module m\n", "contains\n", "subroutine k()\n", "y = 1\n", "end subroutine\n",
    "subroutine q()\n"]

theorem lines_prepared_once_oneRoutine :
    (readings oneRoutineLines oneRoutineStart).map (fun reading => reading.1.toOption.isSome) =
        [true, true, true, true, true, false] ∧
      (∀ reading ∈ readings oneRoutineLines oneRoutineStart,
        (∀ cause, reading.1 ≠ .error (.preparation cause)) ∧
          (reading.1 = .ok () → reading.2.isPrepared = true)) ∧
      ∀ line cause, (pass.readLines oneRoutineLines oneRoutineStart).2 ≠
        some (line, .preparation cause) := by
  refine ⟨by decide +kernel, ?_⟩
  exact lines_prepared_once oneRoutineStart oneRoutineLines (by decide +kernel) (by decide +kernel)

end Model

end ParallelFortran.Source
