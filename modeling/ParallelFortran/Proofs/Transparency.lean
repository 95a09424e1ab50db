import ParallelFortran.Proofs.EnclosedDeclarations
import ParallelFortran.Proofs.EnclosedModel

/-! What the passes over a source come to if a block of it is put into a branch. -/

namespace ParallelFortran.Source

variable {source : Excerpt}

theorem readInRoutineBody_of_declarations {line : String} {event : Event}
    (unbranched : Event.branch? line = none) (read : readInDeclarations line = .ok event) :
    Place.read .routineBody line = .ok .other ∧ (event = .other ∨ event = .firstStatement) ∨
      Place.read .routineBody line = .ok event ∧
        ((∃ settings, event = .dependants settings) ∨ (∃ call, event = .call call) ∨
          (∃ text, event = .routineEnd text) ∨ ∃ settings, event = .region settings) := by
  unfold readInDeclarations at read
  dsimp only [Place.read, readInRoutineBody]
  generalize first : firstOf _ line = found at read ⊢
  rcases firstOf_cases first with rfl | ⟨reader, member, same⟩
  · obtain ⟨declared, _, rest⟩ := parts_of_bind_eq_ok read
    cases declared
    all_goals cases rest
    · exact .inl ⟨rfl, .inr rfl⟩
    · exact .inl ⟨rfl, .inl rfl⟩
  · simp only [List.mem_cons, List.not_mem_nil, or_false] at member
    rcases member with rfl | rfl | rfl | rfl | rfl | rfl | rfl | rfl
    · rw [unbranched] at same
      cases same
    all_goals
      obtain ⟨_, _, rfl⟩ := Option.map_eq_some_iff.mp same
      cases read
    · exact .inr ⟨rfl, .inl ⟨_, rfl⟩⟩
    · exact .inr ⟨rfl, .inr (.inl ⟨_, rfl⟩)⟩
    · exact .inr ⟨rfl, .inr (.inr (.inl ⟨_, rfl⟩))⟩
    · exact .inr ⟨rfl, .inr (.inr (.inr ⟨_, rfl⟩))⟩

variable (context : Context)

def Context.enterStatements : Context :=
  { context with place := .routineBody, arguments := none, argumentList := none }

def Context.amongStatements : Context :=
  { context with place := .routineBody }

def Context.dropArguments : Context :=
  { context with arguments := none, argumentList := none }

theorem Chain.isPlain {origin target : Place} {steps : List Step} (chain : Chain origin steps target)
    (plain : origin.isPlain = true) : target.isPlain = true := by
  induction chain with
  | done place => exact plain
  | step _ _ _ ih => exact ih (Model.isPlain_after plain _)

namespace Outline

open Xml CallGraph Context

variable {outline : Outline} {line : String} {α : Type} {place : Place}
    {change : Context → Context}

def Apart (place : Place) (change : Context → Context) (outline other : Outline) : Prop :=
  outline.context.place = place ∧ other = { outline with context := change outline.context }

/-- The outlines are the same, but that the declarations of a routine can have ended in the other one
already. -/
def Alike (outline other : Outline) : Prop :=
  other = outline ∨ Apart .declarations enterStatements outline other

section

variable (stands : outline.context.place = .declarations)

include stands

theorem plain_of_declarations : outline.context.place.isPlain = true := by
  rw [stands]
  rfl

theorem effective_of_declarations : outline.context.effective = .declarations := by
  rw [Model.effective_eq (plain_of_declarations stands), stands]

end

theorem onStore_tracks (action : StoreM α) :
    Tracks (Apart place change) (Apart place change) (onStore action) (onStore action) := by
  rintro before _ ⟨stands, rfl⟩ value after run
  rw [onStore, run_bind, run_get] at run ⊢
  dsimp only at run ⊢
  generalize action.run before.store = result at run ⊢
  obtain ⟨fault | found, store⟩ := result
  · cases run
  · cases run
    exact ⟨_, rfl, stands, rfl⟩

theorem create_tracks (tag : String) :
    Tracks (Apart place change) (Apart place change) (create tag) (create tag) := by
  refine .reading ?_
  rintro outline _ ⟨_, rfl⟩
  exact onStore_tracks _

theorem modified_tracks {update : Outline → Outline}
    (same : ∀ outline context, update { outline with context } = { update outline with context })
    (kept : ∀ outline, (update outline).context = outline.context) :
    Tracks (Apart place change) (Apart place change) (modify update : OutlineM Unit)
      (modify update) := by
  refine .modified ?_
  rintro before _ ⟨stands, rfl⟩
  refine ⟨by rw [kept, stands], ?_⟩
  rw [same, kept]

theorem changeContext_tracks {update : Context → Context} (later : Context → Context)
    (kept : ∀ context, (update context).place = context.place)
    (same : ∀ context, update (change context) = later (update context)) :
    Tracks (Apart place change) (Apart place later) (changeContext update)
      (changeContext update) := by
  refine .modified ?_
  rintro before _ ⟨stands, rfl⟩
  exact ⟨(kept _).trans stands, congrArg (fun context => { before with context }) (same _)⟩

theorem addArguments_tracks (node : NodeId)
    (same : ∀ context, (change context).arguments = context.arguments) :
    Tracks (Apart place change) (Apart place change) (addArguments node) (addArguments node) := by
  refine .reading ?_
  rintro outline _ ⟨_, rfl⟩
  rw [same]
  split
  · exact .throw
  · refine .bind (create_tracks _) fun arguments => ?_
    refine .bind (.loop (fun name _ => ?_) _) fun _ => onStore_tracks _
    refine .bind (create_tracks _) fun argument => ?_
    exact .bind (onStore_tracks _) fun _ => .bind (onStore_tracks _) fun _ => .pure _

/-! Lines behind a branch that ended among declarations -/

theorem moveTo_tracks {target : Place} :
    Tracks (Apart .declarations enterStatements) (Apart target dropArguments)
      (moveTo target) (moveTo target) := by
  refine .modified ?_
  rintro before _ ⟨stands, rfl⟩
  rw [moveTo_of_plain (plain_of_declarations stands)]
  exact ⟨rfl, rfl⟩

theorem firstStatement_tracks :
    Tracks (Apart .declarations enterStatements) (Apart .routineBody dropArguments)
      (moveTo .routineBody) (pure ()) := by
  rintro before _ ⟨stands, rfl⟩ value after run
  cases run
  have plain := plain_of_declarations stands
  refine ⟨_, rfl, Model.place_moveTo plain _, ?_⟩
  change _ = { before with context := (before.context.moveTo .routineBody).dropArguments }
  rw [moveTo_of_plain plain]
  rfl

theorem left_tracks (plain : place.isPlain = true) (left : place ≠ .declarations) :
    Tracks (Apart place dropArguments) Alike (changeContext leaveDeclarations)
      (pure ()) := by
  rintro before _ ⟨rfl, rfl⟩ value after run
  cases run
  have outside : ¬(before.context.effective == .declarations) = true := by
    rw [Model.effective_eq plain, beq_iff_eq]
    exact left
  have dropped : before.context.leaveDeclarations = before.context.dropArguments := by
    rw [leaveDeclarations, if_neg outside]
    rfl
  exact ⟨_, rfl, .inl (congrArg (fun context => { before with context }) dropped.symm)⟩

theorem stays_tracks : Tracks (Apart .declarations enterStatements) Alike
      (changeContext leaveDeclarations) (pure ()) := by
  rintro before _ ⟨stands, rfl⟩ value after run
  cases run
  have inside : (before.context.effective == .declarations) = true := by
    rw [effective_of_declarations stands]
    rfl
  have same : before.context.leaveDeclarations = before.context := by
    rw [leaveDeclarations, if_pos inside]
  refine ⟨_, rfl, .inr ?_⟩
  change Apart _ _ { before with context := before.context.leaveDeclarations } _
  rw [same]
  exact ⟨stands, rfl⟩

theorem beginCall_tracks (line : CallLine) : Tracks (Apart .declarations enterStatements)
      (Apart .declarations amongStatements) (beginCall line) (beginCall line) := by
  refine .bind (create_tracks _) fun call => .reading ?_
  rintro outline _ ⟨stands, rfl⟩
  have outside : ¬(outline.context.effective == .parallelRegion) = true := by
    rw [effective_of_declarations stands]
    exact nofun
  refine .bind (onStore_tracks _) fun _ => .bind (onStore_tracks _) fun _ => ?_
  rw [if_neg outside]
  refine .reading ?_
  rintro outline _ ⟨_, rfl⟩
  refine .known fun found _ => ?_
  -- the call is listed unless it has been listed before
  cases found
  on_goal 1 => refine .bind (onStore_tracks _) fun _ => ?_
  all_goals
    refine .bind (modified_tracks (fun _ _ => rfl) fun _ => rfl) fun _ => ?_
    split
    · exact .refused
    · exact .known fun _ _ => changeContext_tracks _ (fun _ => rfl) fun _ => rfl

theorem known_tracks (node : Option NodeId) :
    Tracks (Apart place change) (Apart place change) (known node) (known node) := by
  cases node with
  | none => exact .throw
  | some node => exact .pure node

theorem endCall_tracks : Tracks (Apart .declarations amongStatements)
      (Apart .declarations enterStatements) endCall endCall := by
  refine .reading ?_
  rintro outline _ ⟨_, rfl⟩
  refine .bind (known_tracks _) fun node => .bind (addArguments_tracks node fun _ => rfl) fun _ => ?_
  refine .bind (modified_tracks (fun _ _ => rfl) fun _ => rfl) fun _ => ?_
  exact changeContext_tracks _ (fun _ => rfl) fun _ => rfl

theorem endRoutine_tracks :
    Tracks (Apart .declarations enterStatements) (Apart .moduleBody dropArguments)
      endRoutine endRoutine :=
  .bind (changeContext_tracks enterStatements (fun _ => rfl) fun _ => rfl) fun _ =>
    .bind (modified_tracks (fun _ _ => rfl) fun _ => rfl) fun _ => moveTo_tracks

theorem beginRegion_tracks (settings : String) :
    Tracks (Apart .declarations enterStatements) (Apart .parallelRegion dropArguments)
      (beginRegion settings) (beginRegion settings) := by
  refine .reading ?_
  rintro outline _ ⟨_, rfl⟩
  exact .bind (onStore_tracks _) fun _ =>
    .bind (modified_tracks (fun _ _ => rfl) fun _ => rfl) fun _ => moveTo_tracks

theorem beginDependants_tracks (target : Place) (settings : String) :
    Tracks (Apart .declarations enterStatements) (Apart target dropArguments)
      (beginDependants target settings) (beginDependants target settings) := by
  refine .bind moveTo_tracks fun _ => .reading ?_
  rintro outline _ ⟨_, rfl⟩
  exact .bind (onStore_tracks _) fun _ => modified_tracks (fun _ _ => rfl) fun _ => rfl

theorem readLine_tracks (unbranched : isUnbranched line = true) :
    Tracks (Apart .declarations enterStatements) Alike (readLine line) (readLine line) := by
  refine .reading ?_
  rintro outline _ ⟨stands, rfl⟩
  have alongside : outline.context.enterStatements.effective = .routineBody := rfl
  have branches : outline.context.enterStatements.branches = outline.context.branches := rfl
  rw [effective_of_declarations stands, alongside, branches]
  rcases countConditionals line outline.context.branches with ⟨result, branches⟩
  refine .bind (changeContext_tracks enterStatements (fun _ => rfl) fun _ => rfl) fun _ => ?_
  refine .known fun _ _ => ?_
  dsimp only
  cases read : Place.read .declarations line with
  | error fault =>
    intro before other _ value after run
    cases run
  | ok event =>
    rcases readInRoutineBody_of_declarations (branch?_of_unbranched unbranched) read with
      ⟨other, rfl | rfl⟩ | ⟨same, events⟩
    · rw [other, ok_bind]
      exact .bind (.pure ()) fun _ => stays_tracks
    · rw [other, ok_bind]
      exact .bind firstStatement_tracks fun _ => left_tracks rfl nofun
    · rw [same, ok_bind]
      rcases events with ⟨settings, rfl⟩ | ⟨call, rfl⟩ | ⟨text, rfl⟩ | ⟨settings, rfl⟩
      · exact .bind (beginDependants_tracks .dependants settings) fun _ => left_tracks rfl nofun
      · exact .bind (.bind (beginCall_tracks call) fun _ => endCall_tracks) fun _ => stays_tracks
      · exact .bind endRoutine_tracks fun _ => left_tracks rfl nofun
      · exact .bind (beginRegion_tracks settings) fun _ => left_tracks rfl nofun

theorem Alike.next {other : Outline} (alike : Alike outline other) :
    Alike outline.nextLine other.nextLine := by
  rcases alike with rfl | ⟨stands, rfl⟩
  · exact .inl rfl
  · exact .inr ⟨stands, rfl⟩

theorem readLine_alike {other after : Outline} (alike : Alike outline other)
    (unbranched : isUnbranched line = true) (run : (readLine line).run outline = (.ok (), after)) :
    ∃ later, (readLine line).run other = (.ok (), later) ∧
      Alike after.nextLine later.nextLine := by
  rcases alike with rfl | apart
  · exact ⟨after, run, .inl rfl⟩
  · obtain ⟨later, tracked, reached⟩ := readLine_tracks unbranched outline other apart () after run
    exact ⟨later, tracked, reached.next⟩

/-! A block between directives -/

theorem readLine_run {event : Event} {reached : Outline}
    (counted : ∀ brackets, countConditionals line brackets = (.ok (), brackets))
    (plain : outline.context.place.isPlain = true)
    (read : outline.context.place.read line = .ok event) (performed : (perform
      outline.context.place line event).run outline = (.ok (), reached)) :
    (readLine line).run outline = (.ok (), if outline.context.place == .declarations then
        { reached with context := reached.context.leaveDeclarations }
      else reached) := by
  refine (Yields.step (run_get outline) ?_).run_eq
  rw [counted, Model.effective_eq plain]
  refine .step (run_modify _ outline) (.step (run_outcome rfl outline) ?_)
  refine .step (run_outcome read outline) (.step performed ?_)
  split
  · exact .modified rfl
  · exact .pure rfl

theorem readLine_opens {architecture : String} (listed : architecture ∈ architectures)
    (takes : outline.context.place.takesDirectives = true) :
    (readLine (branchLine architecture)).run outline = (.ok (), outline) := by
  have plain := Place.isPlain_of_takes takes
  have performed : (perform outline.context.place (branchLine architecture)
      (.branch (branchSettings architecture))).run outline = (.ok (), outline) := by
    cases stands : outline.context.place with
    | moduleDependants | dependants =>
      rw [stands] at takes
      cases takes
    | _ => rfl
  rw [readLine_run (isBranchLine listed).mute.counted plain
    (read_branch takes (isBranchLine listed).branch) performed]
  split
  · next inside =>
    have same : outline.context.leaveDeclarations = outline.context := by
      rw [leaveDeclarations, Model.effective_eq plain, if_pos inside]
    rw [same]
  · rfl

theorem readLine_closes (plain : outline.context.place.isPlain = true)
    (aside : outline.context.place ≠ .dependants ∧ outline.context.place ≠ .moduleDependants) :
    ∃ after, (readLine branchEndLine).run outline = (.ok (), after) ∧
      Alike outline after := by
  have counted : ∀ brackets, countConditionals branchEndLine brackets = (.ok (), brackets) :=
    fun _ => rfl
  by_cases inside : outline.context.place = .declarations
  · have read : outline.context.place.read branchEndLine = .ok .firstStatement := by
      rw [inside]
      rfl
    have moved : (perform outline.context.place branchEndLine .firstStatement).run outline =
        (.ok (), { outline with context := { outline.context with place := .routineBody } }) := by
      rw [inside, ← moveTo_of_plain plain]
      rfl
    refine ⟨_, readLine_run counted plain read moved, .inr ⟨inside, ?_⟩⟩
    rw [inside]
    rfl
  · have unchanged : outline.context.place.read branchEndLine = .ok .other ∧
        (perform outline.context.place branchEndLine .other).run outline =
          (.ok (), outline) := by
      cases stands : outline.context.place with
      | declarations => exact absurd stands inside
      | dependants => exact absurd stands aside.1
      | moduleDependants => exact absurd stands aside.2
      | branch | ignored =>
        rw [stands] at plain
        cases plain
      | _ => exact ⟨rfl, rfl⟩
    refine ⟨_, readLine_run counted plain unchanged.1 unchanged.2, .inl ?_⟩
    rw [if_neg]
    exact fun same => inside (eq_of_beq same)

theorem transparent {architecture : String} (listed : architecture ∈ architectures)
    (accepted : (pass.readSpaced source outline).2 = none)
    (takes : (pass.opening source outline).context.place.takesDirectives = true)
    (aside : (pass.closing source outline).context.place ≠ .dependants ∧ (pass.closing source
      outline).context.place ≠ .moduleDependants) :
    pass.Transparent Alike architecture source outline := by
  obtain ⟨_, block, _⟩ := Pass.parts_of_spaced accepted
  have plain : (pass.next (pass.opening source outline)).context.place.isPlain = true :=
    Place.isPlain_of_takes takes
  have closing : (pass.closing source outline).context.place.isPlain = true :=
    (chain_of_readLines plain (congrArg Prod.snd block)).1.isPlain plain
  have within : pass.Carries Eq (fun _ _ => True) source.block := by
    rintro line _ state _ after rfl _ run
    exact ⟨after, run, rfl⟩
  refine Pass.transparent accepted (readLine_opens listed takes) rfl within (fun _ _ => trivial) ?_
    fun line listed state along after alike _ run =>
      readLine_alike alike (source.behind_unbranched line listed) run
  rintro _ rfl
  obtain ⟨after, closed, alike⟩ := readLine_closes closing aside
  exact ⟨after, closed, alike.next⟩

/-- The source is accepted, and directives can stand around its block. -/
structure TakesBranch (source : Excerpt) (outline : Outline) : Prop where
  accepted : (pass.readSpaced source outline).2 = none
  opening : (pass.opening source outline).context.place.takesDirectives = true
  closing : (pass.closing source outline).context.place ≠ .dependants ∧
    (pass.closing source outline).context.place ≠ .moduleDependants

end Outline

namespace Declarations

structure TakesBranch (foreign : ForeignSymbols) (architecture : String) (source : Excerpt)
    (scope : Scope) : Prop where
  rests : scope.Rests
  accepted : ((pass foreign).readSpaced source scope).2 = none
  opens : ((pass foreign).opening source scope).Opens architecture

def KeepsModule (foreign : ForeignSymbols) (source : Excerpt) (scope : Scope) : Prop :=
  ∀ station ∈ (pass foreign).stations source.block
    (Scope.nextLine ((pass foreign).opening source scope)), station.1.beginsModule station.2 = false

end Declarations

namespace Model

structure TakesBranch (architecture : String) (source : Excerpt) (model : Model) : Prop where
  rests : model.scope.Rests
  accepted : (pass.readSpaced source model).2 = none
  opens : (pass.opening source model).scope.Opens architecture

/-- No line of the block begins a module, ends a parallel region that applies, or lists symbols. -/
def IsUndisturbed (source : Excerpt) (model : Model) : Prop :=
  ∀ station ∈ pass.stations source.block (pass.opening source model).nextLine,
    station.1.isDisturbed station.2 = false

end Model

/-- If a block of an accepted source is put into a branch for an architecture of the active backend, then
the call graph stays the same, and so do the symbols unless the block begins a module. The source is
accepted for the last time exactly if no line of the block is disturbed, and then the same modules,
routines, regions and lines come of it. -/
theorem branch_transparency {architecture : String} {source : Excerpt} {foreign : ForeignSymbols}
    {outline : Outline} {scope : Scope} {model : Model} (graph : outline.TakesBranch source)
    (symbols : Declarations.TakesBranch foreign architecture source scope)
    (code : model.TakesBranch architecture source) :
    Outline.pass.Transparent Outline.Alike architecture source outline ∧
      (Declarations.KeepsModule foreign source scope →
        (Declarations.pass foreign).Transparent Eq architecture source scope) ∧
      ((Model.pass.readLines (source.enclosed architecture) model).2 = none ↔
        model.IsUndisturbed source) ∧
      (model.IsUndisturbed source →
        Model.pass.Transparent Model.Alike architecture source model) := by
  have alike : model.IsUndisturbed source →
      Model.pass.Transparent Model.Alike architecture source model :=
    Model.transparent code.rests code.accepted code.opens
  refine ⟨Outline.transparent code.opens.listed graph.accepted graph.opening graph.closing,
    Declarations.transparent symbols.rests symbols.accepted symbols.opens, ⟨?_, ?_⟩, alike⟩
  · exact Model.undisturbed_of_accepted code.rests code.accepted code.opens
  · intro undisturbed
    obtain ⟨final, read, _⟩ := alike undisturbed
    rw [read]

/-! A routine with a parallel region -/

def regionProgram : List Xml.Tree :=
  [.element "callGraph" [] [
    .element "routines" [] [
      .element "routine" [("name", some "k"), ("module", some "m"),
          ("parallelRegionPosition", some "within")] [
        .element "arguments" [] [],
        .element "activeParallelRegions" []
          [.element "templateRelation" [("id", some "P"), ("startLine", some "6")] []]]],
    .element "calls" [] [], .element "symbols" [] [],
    .element "modules" [] [.element "module" [("name", some "m")] []],
    .element "parallelRegionTemplates" [] [.element "parallelRegionTemplate" [("id", some "P")] [
      .element "domName" [] [.element "entry" [] [.text "i"]],
      .element "domSize" [] [.element "entry" [] [.text "N"]]]]]]

def regionBackends : List (String × String) := [("default", "OpenMPFortranImplementation")]

def regionOutline : Outline :=
  match (Outline.begin Outline.emptyGraph.1 "k.h90").run Outline.emptyGraph.2 with
  | (.ok outline, store) => { outline with store }
  | (.error _, store) =>
    { store, document := Outline.emptyGraph.1, routines := default, calls := default
      modules := default, schemes := default, sourceName := "k" }

def regionScope : Scope :=
  let opened : Work Scope := do
    let document ← (Xml.addDocument regionProgram : Xml.StoreM _)
    Scope.begin document (← Work.addBackends regionBackends [])
  (opened.run {}).1.toOption.getD default

def regionModel : Model :=
  let opened : Work Model := do
    let document ← (Xml.addDocument regionProgram : Xml.StoreM _)
    Work.openModel document (← Work.addBackends regionBackends [])
  (opened.run {}).1.toOption.getD default

def insideRegion : Excerpt where
  before := ["module m\n", "contains\n", "subroutine k()\n", "n = 1\n", "n = 2\n",
    "@parallelRegion\x7bdomName(i), domSize(N)\x7d\n"]
  block := ["n = 3\n", "do j = 1, 3\n", "end do\n"]
  behind := ["@end parallelRegion\n", "end subroutine\n", "end module\n"]
  unbranched := by decide +kernel

def aroundRegion : Excerpt where
  before := ["module m\n", "contains\n", "subroutine k()\n", "n = 1\n"]
  block := ["@parallelRegion\x7bdomName(i), domSize(N)\x7d\n", "n = 3\n", "@end parallelRegion\n"]
  behind := ["end subroutine\n", "end module\n"]
  unbranched := by decide +kernel

def regionExcerpts : List Excerpt := [insideRegion, aroundRegion]

section

variable (listed : source ∈ regionExcerpts)

include listed

theorem regionOutline_takesBranch : regionOutline.TakesBranch source := by
  have facts : ∀ source ∈ regionExcerpts,
      (Outline.pass.readSpaced source regionOutline).2.isNone = true ∧
      (Outline.pass.opening source regionOutline).context.place.takesDirectives = true ∧
      (Outline.pass.closing source regionOutline).context.place ≠ .dependants ∧
      (Outline.pass.closing source regionOutline).context.place ≠ .moduleDependants := by
    decide +kernel
  obtain ⟨accepted, opening, closing⟩ := facts source listed
  exact ⟨Option.isNone_iff_eq_none.mp accepted, opening, closing⟩

theorem regionScope_takesBranch : Declarations.TakesBranch none "cpu" source regionScope := by
  have rests : regionScope.Rests := by
    constructor <;> decide +kernel
  have facts : ∀ source ∈ regionExcerpts,
      ((Declarations.pass none).readSpaced source regionScope).2.isNone = true ∧
      (((Declarations.pass none).opening source regionScope).context.place = .routineBody ∨
        ((Declarations.pass none).opening source regionScope).context.place = .parallelRegion) ∧
      (Scope.backend.run ((Declarations.pass none).opening source regionScope)).1.toOption =
        some ⟨0⟩ ∧
      "cpu" ∈
        (((Declarations.pass none).opening source regionScope).session.backend ⟨0⟩).kind.architecture := by
    decide +kernel
  obtain ⟨accepted, stands, active, host⟩ := facts source listed
  exact ⟨rests, Option.isNone_iff_eq_none.mp accepted, Scope.opens_among_statements stands active host⟩

theorem regionModel_takesBranch : regionModel.TakesBranch "cpu" source := by
  have rests : regionModel.scope.Rests := by
    constructor <;> decide +kernel
  have facts : ∀ source ∈ regionExcerpts,
      (Model.pass.readSpaced source regionModel).2.isNone = true ∧
      ((Model.pass.opening source regionModel).scope.context.place = .routineBody ∨
        (Model.pass.opening source regionModel).scope.context.place = .parallelRegion) ∧
      (Scope.backend.run (Model.pass.opening source regionModel).scope).1.toOption =
        some ⟨0⟩ ∧
      "cpu" ∈ ((Model.pass.opening source regionModel).session.backend ⟨0⟩).kind.architecture := by
    decide +kernel
  obtain ⟨accepted, stands, active, host⟩ := facts source listed
  exact ⟨rests, Option.isNone_iff_eq_none.mp accepted, Scope.opens_among_statements stands active host⟩

end

/-- A block of statements can be put into a branch, but not a block with a region that applies. -/
theorem branch_transparency_region :
    regionOutline.TakesBranch insideRegion ∧
      Declarations.TakesBranch none "cpu" insideRegion regionScope ∧
      regionModel.TakesBranch "cpu" insideRegion ∧
      Outline.pass.Transparent Outline.Alike "cpu" insideRegion regionOutline ∧
      (Declarations.pass none).Transparent Eq "cpu" insideRegion regionScope ∧
      Model.pass.Transparent Model.Alike "cpu" insideRegion regionModel ∧
      regionModel.TakesBranch "cpu" aroundRegion ∧
      (Model.pass.readLines (aroundRegion.enclosed "cpu") regionModel).2 ≠ none := by
  have inside : insideRegion ∈ regionExcerpts := List.mem_cons_self
  have around : aroundRegion ∈ regionExcerpts := List.mem_cons_of_mem _ List.mem_cons_self
  obtain ⟨outlined, declared, _, modelled⟩ := branch_transparency
    (regionOutline_takesBranch inside) (regionScope_takesBranch inside) (regionModel_takesBranch inside)
  obtain ⟨_, _, ⟨accepted, _⟩, _⟩ := branch_transparency
    (regionOutline_takesBranch around) (regionScope_takesBranch around) (regionModel_takesBranch around)
  have facts : Declarations.KeepsModule none insideRegion regionScope ∧
      regionModel.IsUndisturbed insideRegion ∧ ¬regionModel.IsUndisturbed aroundRegion := by
    unfold Declarations.KeepsModule Model.IsUndisturbed
    decide +kernel
  obtain ⟨keeps, undisturbed, disturbed⟩ := facts
  exact ⟨regionOutline_takesBranch inside, regionScope_takesBranch inside,
    regionModel_takesBranch inside, outlined, declared keeps, modelled undisturbed,
    regionModel_takesBranch around, fun read => disturbed (accepted read)⟩

end ParallelFortran.Source
