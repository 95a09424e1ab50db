import ParallelFortran.Proofs.Nesting

/-! Blocks of a source that are put into a branch: how their lines are seen there, and what the
directives around them do. -/

namespace ParallelFortran.Source

open List

/-- How a line is seen: in a branch, or outside of branches with a place that is noted for one. -/
inductive View where
  | inside
  | outside (around : Option Place)

namespace View

def place : View → Place → Place
  | inside, _ => .branch
  | outside _, place => place

def around : View → Place → Option Place
  | inside, place => some place
  | outside around, _ => around

end View

namespace Context

def seen (view : View) (context : Context) : Context :=
  { context with
    place := view.place context.place, around := view.around context.place }

variable {context : Context}

variable (plain : context.place.isPlain = true)

include plain

variable (view : View)

theorem moveTo_seen (target : Place) :
    (context.seen view).moveTo target = (context.moveTo target).seen view := by
  rw [moveTo_of_plain plain]
  cases view with
  | inside => rfl
  | outside around =>
    have stands : (context.seen (.outside around)).place.isPlain = true := plain
    rw [moveTo_of_plain stands]
    rfl

theorem effective_seen : (context.seen view).effective = context.effective := by
  rw [Model.effective_eq plain]
  cases view with
  | inside => rfl
  | outside around =>
    have stands := plain
    exact Model.effective_eq stands

theorem leaveDeclarations_seen :
    (context.seen view).leaveDeclarations = context.leaveDeclarations.seen view := by
  rw [leaveDeclarations, leaveDeclarations, effective_seen plain]
  split
  · rfl
  · rfl

theorem remains_seen (origin : Place) :
    ((context.seen view).place != .ignored && (context.seen view).effective == origin) =
      (context.place != .ignored && context.effective == origin) := by
  rw [effective_seen plain]
  cases view with
  | inside =>
    have kept : (context.place != .ignored) = true :=
      bne_iff_ne.mpr (Place.isPlain_iff.mp plain).2
    rw [kept]
    rfl
  | outside around => rfl

end Context

namespace Scope

variable {α β : Type}

def seen (view : View) (scope : Scope) : Scope :=
  { scope with context := scope.context.seen view }

theorem seen_outside {scope : Scope} (unbranched : scope.context.around = none) :
    scope.seen (.outside none) = scope := by
  have same : scope.context.seen (.outside none) = scope.context := by
    rw [← unbranched]
    rfl
  rw [seen, same]

def SeenAt (view : View) (place : Place) (scope other : Scope) : Prop :=
  scope.context.place = place ∧ other = scope.seen view

def Seen (view : View) (scope other : Scope) : Prop :=
  scope.context.place.isPlain = true ∧ other = scope.seen view

variable {view : View} {place : Place}

theorem SeenAt.seen {scope other : Scope} (seen : SeenAt view place scope other)
    (plain : place.isPlain = true) : Seen view scope other :=
  ⟨seen.1 ▸ plain, seen.2⟩

theorem Blind.tracks {action : ScopeM α} (blind : Blind action) :
    Tracks (SeenAt view place) (SeenAt view place) action action := by
  rintro before _ ⟨rfl, rfl⟩ value after run
  have kept := blind.placed_eq before
  have same := blind.alike (view.place before.context.place) (view.around before.context.place) before
  rw [run] at kept same
  have stands := (congrArg (fun scope : Scope => scope.context.place) kept).symm
  have image : after.seen view =
      after.placed (view.place before.context.place) (view.around before.context.place) := by
    rw [seen, Context.seen, stands]
    rfl
  refine ⟨after.seen view, ?_, stands, rfl⟩
  rw [image]
  exact same

theorem onSession_tracks (work : Work α) :
    Tracks (SeenAt view place) (SeenAt view place) (onSession work) (onSession work) := by
  rintro before _ ⟨rfl, rfl⟩ value after run
  refine ⟨after.seen view, ?_, congrArg (fun result => result.2.context.place) run.symm, rfl⟩
  exact congrArg (fun result : Outcome α × Scope => (result.1, result.2.seen view)) run

theorem tracks_of_places {reached : Scope → Scope → Prop} {first second : ScopeM α}
    (each : ∀ place, place.isPlain = true → Tracks (SeenAt view place) reached first second) :
    Tracks (Seen view) reached first second :=
  fun before other ⟨plain, seen⟩ => each before.context.place plain before other ⟨rfl, seen⟩

theorem standing_tracks {reached : Scope → Scope → Prop} {next rest : Context → ScopeM β}
    (goesOn : ∀ context, context.place = place →
      Tracks (SeenAt view place) reached (next context) (rest (context.seen view))) :
    Tracks (SeenAt view place) reached (here >>= next) (here >>= rest) := by
  rintro before _ ⟨rfl, rfl⟩ value after run
  exact goesOn before.context rfl before _ ⟨rfl, rfl⟩ value after run

theorem moveTo_tracks (plain : place.isPlain = true) (target : Place) :
    Tracks (SeenAt view place) (SeenAt view target) (moveTo target) (moveTo target) := by
  refine .modified ?_
  rintro before _ ⟨rfl, rfl⟩
  refine ⟨Model.place_moveTo plain target, ?_⟩
  exact congrArg (fun context => { before with context }) (Context.moveTo_seen plain view target)

theorem enterModule_tracks (around : Option Place) (name : String) :
    Tracks (SeenAt (.outside around) place) (SeenAt (.outside around) .module) (enterModule name)
      (enterModule name) := by
  have entered : Tracks (SeenAt (.outside around) place) (SeenAt (.outside around) .module)
      (changeContext fun context => { context with moduleName := some name, place := .module })
      (changeContext fun context => { context with moduleName := some name, place := .module }) := by
    refine .modified ?_
    rintro before _ ⟨rfl, rfl⟩
    exact ⟨rfl, rfl⟩
  exact .bind entered fun _ => (loadModule_blind name).tracks

theorem leaveDeclarations_tracks (plain : place.isPlain = true) :
    Tracks (SeenAt view place) (SeenAt view place) (changeContext Context.leaveDeclarations)
      (changeContext Context.leaveDeclarations) := by
  refine .modified ?_
  rintro before _ ⟨rfl, rfl⟩
  refine ⟨?_, congrArg (fun context => { before with context })
    (Context.leaveDeclarations_seen plain view)⟩
  unfold Context.leaveDeclarations
  split
  · rfl
  · rfl

theorem Blind.tracksFrom {action : ScopeM α} (blind : Blind action)
    (plain : place.isPlain = true) : Tracks (SeenAt view place) (Seen view) action action :=
  blind.tracks.weaken fun _ _ seen => seen.seen plain

theorem moveTo_tracksFrom (plain : place.isPlain = true) {target : Place}
    (plainBehind : target.isPlain = true) :
    Tracks (SeenAt view place) (Seen view) (moveTo target) (moveTo target) :=
  (moveTo_tracks plain target).weaken fun _ _ seen => seen.seen plainBehind

end Scope

/-! The directives around a block -/

def branchSettings (architecture : String) : String := "architecture(" ++ architecture ++ ")"

def branchLine (architecture : String) : String := "@if\x7b" ++ branchSettings architecture ++ "\x7d\n"

def branchEndLine : String := "@end if\n"

def architectures : List String := ["openacc", "gpu", "nvd", "nvidia", "cuda", "cpu", "host"]

theorem mem_architectures {kind : BackendKind} {architecture : String}
    (listed : architecture ∈ kind.architecture) : architecture ∈ architectures := by
  have all : ∀ kind, kind ∈ BackendKind.all →
      ∀ architecture ∈ kind.architecture, architecture ∈ architectures := by
    decide
  exact all kind (by cases kind <;> decide) architecture listed

structure IsMute (line : String) : Prop where
  counted : ∀ brackets, countConditionals line brackets = (.ok (), brackets)
  importsNames : Pattern.Fortran.importNames.match? line = none
  importsAll : Pattern.Fortran.importAll.match? line = none
  declares : Specification.read? line = .ok none
  specifies : Pattern.Fortran.specificationStatement.match? line = none
  imports : ∀ symbol : Symbol, symbol.importLine.accepts line = false

structure IsBranchLine (line architecture : String) : Prop where
  mute : IsMute line
  branch : Event.branch? line = some (.branch (branchSettings architecture))
  unassigned : Event.dataStatement? line = none
  setting : ∃ setting found, Text.split "," (Text.strip (branchSettings architecture)) = [setting] ∧
    Pattern.Fortran.branchSetting.match? (Text.strip setting) = some found ∧
    found.group 1 = "architecture" ∧ Text.lower (found.group 2) = architecture

theorem isBranchLine {architecture : String} (listed : architecture ∈ architectures) :
    IsBranchLine (branchLine architecture) architecture := by
  simp only [architectures, mem_cons, not_mem_nil, or_false] at listed
  rcases listed with rfl | rfl | rfl | rfl | rfl | rfl | rfl
  all_goals
    exact ⟨⟨fun _ => rfl, rfl, rfl, rfl, rfl, fun _ => rfl⟩, rfl, rfl, _, _, rfl, rfl, rfl, rfl⟩

def Place.takesDirectives : Place → Bool
  | outside | module | moduleBody | declarations | parallelRegion | routineBody => true
  | _ => false

variable {place : Place}

theorem Place.isPlain_of_takes (takes : place.takesDirectives = true) : place.isPlain = true := by
  cases place <;> first | rfl | cases takes

variable {line settings : String}

theorem firstOf_branch (found : Event.branch? line = some (.branch settings))
    (readers : List (String → Option Event)) :
    firstOf (Event.branch? :: readers) line = .branch settings := by
  rw [firstOf, findSome?_cons, found]
  rfl

section

variable (takes : place.takesDirectives = true)
    (found : Event.branch? line = some (.branch settings))

include takes found

theorem read_branch : place.read line = .ok (.branch settings) := by
  cases place with
  | outside | module | moduleBody | declarations | routineBody | parallelRegion =>
    simp only [Place.read, readOutside, readInModule, readInModuleBody, readInDeclarations,
      readInRoutineBody, readInRegion, firstOf_branch found]
  | _ => cases takes

theorem readCode_branch (unassigned : Event.dataStatement? line = none) :
    place.readCode line = .ok (.branch settings) := by
  cases place with
  | declarations =>
    have first : ∀ readers,
        firstOf (Event.dataStatement? :: Event.branch? :: readers) line = .branch settings := by
      intro readers
      rw [firstOf, findSome?_cons, unassigned, findSome?_cons, found]
      rfl
    change readDeclarationCode line = _
    rw [readDeclarationCode, first]
  | routineBody | parallelRegion =>
    simp only [Place.readCode, readStatementCode, readRegionCode, firstOf_branch found]
  | _ => exact read_branch takes found

end

namespace Scope

open Xml

/-- Between two lines outside of branches nothing is kept of the last line. -/
structure Rests (scope : Scope) : Prop where
  plain : scope.context.place.isPlain = true
  around : scope.context.around = none
  lineSymbols : scope.lineSymbols = []
  lineImports : scope.lineImports = []

variable {scope : Scope}

theorem Rests.next (rests : scope.Rests) : scope.nextLine.Rests :=
  ⟨rests.plain, rests.around, rests.lineSymbols, rests.lineImports⟩

def Encloses (scope other : Scope) : Prop :=
  scope.Rests ∧ other = scope.seen .inside

theorem Rests.forgotten (rests : scope.Rests) (view : View) :
    { scope.seen view with lineSymbols := [], lineImports := [] } = scope.seen view := by
  obtain ⟨_, _, symbols, imports⟩ := rests
  cases scope
  cases symbols
  cases imports
  rfl

def OwnsSymbols (scope : Scope) : Prop :=
  ∀ id ∈ scope.symbols.values, ∃ name,
    (scope.session.symbol id).scopeName scope.session.store = .ok name ∧
      (some name = scope.context.routineName ∨ some name = scope.context.moduleName)

/-- A branch for an architecture of the active backend can begin here. -/
structure Opens (architecture : String) (scope : Scope) : Prop where
  takes : scope.context.place.takesDirectives = true
  active : ∃ id, (backend.run scope).1 = .ok id ∧
    architecture ∈ (scope.session.backend id).kind.architecture
  owned : scope.context.place = .module ∨ scope.context.place = .declarations → scope.OwnsSymbols

variable {architecture : String}

theorem Opens.listed (opens : scope.Opens architecture) : architecture ∈ architectures := by
  obtain ⟨id, _, listed⟩ := opens.active
  exact mem_architectures listed

theorem opens_among_statements {id : BackendId}
    (stands : scope.context.place = .routineBody ∨ scope.context.place = .parallelRegion)
    (active : (backend.run scope).1.toOption = some id)
    (listed : architecture ∈ (scope.session.backend id).kind.architecture) :
    scope.Opens architecture := by
  refine ⟨?_, ⟨id, congrArg Prod.fst (run_of_toOption active), listed⟩, ?_⟩
  · rcases stands with stands | stands
    · rw [stands]
      rfl
    · rw [stands]
      rfl
  · rcases stands with stands | stands
    · rw [stands]
      exact nofun
    · rw [stands]
      exact nofun

variable {kind : LineKind} {line : String}

section

variable (mute : IsMute line) (speaks : (kind == .statement) = false)

include mute speaks

theorem roleIn_mute (symbol : Symbol) : roleIn kind line symbol = .ok none := by
  have undeclared : symbol.specification? line = .ok none := by
    rw [Symbol.specification?, mute.declares]
    rfl
  rw [roleIn, speaks, undeclared]
  rw [mute.imports]
  rfl

theorem addRole_mute {name : String} {context : Context} {store : Store} {symbol : Symbol}
    (found : symbol.scopeName store = .ok name)
    (owned : some name = context.routineName ∨ some name = context.moduleName)
    (scope : Option String) (number : Nat) (roles : Table String (Table String (SymbolId × Role)))
    (id : SymbolId) : addRole kind line context scope number store roles id symbol = .ok roles := by
  rw [addRole, found, roleIn_mute mute speaks]
  have belongs : (some name != context.routineName && some name != context.moduleName) = false := by
    rcases owned with same | same
    · simp [same]
    · simp [same]
  change (if (some name != context.routineName && some name != context.moduleName) = true then _
    else _) = _
  rw [belongs, if_neg Bool.false_ne_true]
  split
  · rfl
  · rfl

theorem analyseLine_mute {read : ImportItem → ScopeM (Option SymbolId)}
    (owned : scope.OwnsSymbols) :
    (analyseLine read kind line).run scope = (.ok (), scope) := by
  have none : ∀ name, candidates read kind line name = pure [] := by
    intro name
    rw [candidates, speaks, mute.importsNames, mute.importsAll, mute.declares]
    rfl
  have roles : ∀ name (ids : List SymbolId), (∀ id ∈ ids, id ∈ scope.symbols.values) →
      ids.foldlM (fun roles id => addRole kind line scope.context name scope.lineNumber
        scope.session.store roles id (scope.session.symbol id)) .empty = .ok .empty := by
    intro name ids
    induction ids with
    | nil => exact fun _ => rfl
    | cons id rest ih =>
      intro known
      obtain ⟨first, others⟩ := forall_mem_cons.mp known
      obtain ⟨owner, found, belongs⟩ := owned id first
      rw [foldlM_cons, addRole_mute mute speaks found belongs]
      exact ih others
  have standing : here.run scope = (.ok scope.context, scope) := rfl
  refine (Yields.step standing ?_).run_eq
  dsimp only
  rw [none]
  refine .step (run_pure [] scope) (.step (run_get scope) ?_)
  exact .step (run_outcome (roles _ _ fun _ listed => listed) scope) (.pure rfl)

end

theorem isKept_architecture (value : String) :
    isKept "architecture" value = (do
      let id ← backend
      return ((← get).session.backend id).kind.architecture.contains (Text.lower value)) :=
  rfl

theorem backend_reads : Advances Eq backend := by
  refine .bind (.bind .current fun _ => .pure _) fun context => .bind .current fun scope => ?_
  dsimp only
  split
  · exact .pure _
  · exact .throw _

theorem enterBranch_run (opens : scope.Opens architecture) :
    (enterBranch (branchSettings architecture)).run scope = (.ok (), scope.seen .inside) := by
  obtain ⟨setting, found, parts, matched, key, value⟩ := (isBranchLine opens.listed).setting
  obtain ⟨id, active, listed⟩ := opens.active
  have standing : here.run scope = (.ok scope.context, scope) := rfl
  have outside : ¬(scope.context.place == .branch) = true := by
    intro branch
    have takes := opens.takes
    rw [eq_of_beq branch] at takes
    cases takes
  let noted := scope.placed scope.context.place (some scope.context.place)
  have chosen : backend.run noted = (.ok id, noted) := by
    have same := backend_blind.alike scope.context.place (some scope.context.place) scope
    rw [active, ← backend_reads.follows scope] at same
    exact same
  have kept : (do
      let id ← backend
      return ((← get).session.backend id).kind.architecture.contains architecture).run noted =
        (.ok true, noted) := by
    rw [run_bind, chosen]
    change (Except.ok ((scope.session.backend id).kind.architecture.contains architecture), noted) = _
    rw [contains_iff_mem.mpr listed]
  rw [enterBranch, parts]
  dsimp only
  rw [matched]
  refine (Yields.step standing ?_).run_eq
  rw [if_neg outside, key, isKept_architecture, value]
  exact .step (run_modify _ scope) (.step kept (.modified rfl))

theorem leaveBranch_run (unbranched : scope.context.around = none) :
    leaveBranch.run (scope.seen .inside) = (.ok (), scope) := by
  have same : { scope.context with around := none } = scope.context := by
    rw [← unbranched]
  exact congrArg (fun context => (Except.ok (), { scope with context })) same

end Scope

/-! Sources with a block -/

def isUnbranched (line : String) : Bool :=
  !Pattern.Fortran.branchBegin.accepts line && !Pattern.Fortran.branchEnd.accepts line

theorem branch?_of_unbranched (unbranched : isUnbranched line = true) : Event.branch? line = none := by
  rw [isUnbranched, Bool.and_eq_true, Bool.not_eq_true'] at unbranched
  exact Model.branch?_eq_none unbranched.1

theorem branchEnd_of_unbranched (unbranched : isUnbranched line = true) :
    Pattern.Fortran.branchEnd.accepts line = false := by
  rw [isUnbranched, Bool.and_eq_true, Bool.not_eq_true', Bool.not_eq_true'] at unbranched
  exact unbranched.2

/-- A source without branches: a block of its lines, and what stands before and behind it. -/
structure Excerpt where
  before : List String
  block : List String
  behind : List String
  unbranched : ∀ line ∈ before ++ block ++ behind, isUnbranched line = true

namespace Excerpt

variable (source : Excerpt)

theorem before_unbranched : ∀ line ∈ source.before, isUnbranched line = true :=
  fun line listed => source.unbranched line (by simp [listed])

theorem block_unbranched : ∀ line ∈ source.block, isUnbranched line = true :=
  fun line listed => source.unbranched line (by simp [listed])

theorem behind_unbranched : ∀ line ∈ source.behind, isUnbranched line = true :=
  fun line listed => source.unbranched line (by simp [listed])

def enclosed (architecture : String) : List String :=
  source.before ++ branchLine architecture :: (source.block ++ branchEndLine :: source.behind)

end Excerpt

namespace Pass

variable {ε σ : Type} (pass : Pass ε σ)

variable (source : Excerpt) (state : σ)

def opening : σ :=
  (pass.readLines source.before state).1

def closing : σ :=
  (pass.readLines source.block (pass.next (pass.opening source state))).1

/-- Reads a source so that its lines have the numbers that they have if the block is in a branch: one
number is left out before the block, and one behind it. -/
def readSpaced : σ × Option (String × ε) :=
  match pass.readLines source.before state with
  | (opening, none) =>
    match pass.readLines source.block (pass.next opening) with
    | (closing, none) => pass.readLines source.behind (pass.next closing)
    | refused => refused
  | refused => refused

def stations : List String → σ → List (Place × String)
  | [], _ => []
  | line :: lines, state =>
    ((pass.context state).place, line) ::
      stations lines (pass.next ((pass.read line).run state).2)

/-- The source with its block in a branch is accepted, and comes to the same as without it. -/
def Transparent (same : σ → σ → Prop) (architecture : String) (source : Excerpt) (state : σ) :
    Prop :=
  ∃ final, pass.readLines (source.enclosed architecture) state = (final, none) ∧
    same (pass.readSpaced source state).1 final

variable {pass}

theorem readLines_append (lines more : List String) (state : σ) :
    pass.readLines (lines ++ more) state =
      match pass.readLines lines state with
      | (between, none) => pass.readLines more between
      | refused => refused := by
  induction lines generalizing state with
  | nil => rfl
  | cons line lines ih =>
    rw [cons_append, readLines, readLines]
    rcases (pass.read line).run state with ⟨fault | _, after⟩
    · rfl
    · exact ih (pass.next after)

variable {state : σ} {lines : List String} {source : Excerpt}

theorem parts_of_spaced (accepted : (pass.readSpaced source state).2 = none) :
    pass.readLines source.before state = (pass.opening source state, none) ∧
      pass.readLines source.block (pass.next (pass.opening source state)) =
        (pass.closing source state, none) ∧
      pass.readSpaced source state =
        pass.readLines source.behind (pass.next (pass.closing source state)) := by
  unfold closing opening
  unfold readSpaced at accepted ⊢
  rcases first : pass.readLines source.before state with ⟨opening, _ | refused⟩
  · rw [first] at accepted
    dsimp only at accepted ⊢
    rcases second : pass.readLines source.block (pass.next opening) with ⟨closing, _ | refused⟩
    · exact ⟨rfl, rfl, rfl⟩
    · rw [second] at accepted
      cases accepted
  · rw [first] at accepted
    cases accepted

theorem readLines_enclosed {architecture : String} {opened : σ}
    (before : pass.readLines source.before state = (pass.opening source state, none))
    (opens : (pass.read (branchLine architecture)).run (pass.opening source state) =
      (.ok (), opened)) :
    pass.readLines (source.enclosed architecture) state =
      match pass.readLines source.block (pass.next opened) with
      | (within, none) => pass.readLines (branchEndLine :: source.behind) within
      | refused => refused := by
  rw [Excerpt.enclosed, readLines_append, before]
  dsimp only
  rw [readLines_cons _ opens, readLines_append]

/-- Two states that are related stay so with every allowed line that the first of them accepts. -/
def Carries (pass : Pass ε σ) (related : σ → σ → Prop) (allowed : Place → String → Prop)
    (lines : List String) : Prop :=
  ∀ line ∈ lines, ∀ before other after, related before other →
    allowed (pass.context before).place line → (pass.read line).run before = (.ok (), after) →
    ∃ later, (pass.read line).run other = (.ok (), later) ∧
      related (pass.next after) (pass.next later)

section

variable {related : σ → σ → Prop} {allowed : Place → String → Prop} {along : σ}

theorem Carries.readLines (carries : pass.Carries related allowed lines)
    (starts : related state along) (accepted : (pass.readLines lines state).2 = none)
    (permitted : ∀ station ∈ pass.stations lines state, allowed station.1 station.2) :
    ∃ final, pass.readLines lines along = (final, none) ∧
      related (pass.readLines lines state).1 final := by
  induction lines generalizing state along with
  | nil => exact ⟨along, rfl, starts⟩
  | cons line lines ih =>
    obtain ⟨first, others⟩ := forall_mem_cons.mp carries
    obtain ⟨after, run, rest⟩ := step_of_accepted accepted
    rw [stations, forall_mem_cons, run] at permitted
    obtain ⟨later, tracked, kept⟩ := first state along after starts permitted.1 run
    rw [rest] at accepted ⊢
    rw [readLines_cons lines tracked]
    exact ih others kept accepted permitted.2

theorem Carries.permitted (carries : pass.Carries related allowed lines)
    (refuses : ∀ line ∈ lines, ∀ before other, related before other →
      ¬allowed (pass.context before).place line → Ensures (pass.read line) other fun _ _ => False)
    (starts : related state along) (accepted : (pass.readLines lines state).2 = none)
    (read : (pass.readLines lines along).2 = none) :
    ∀ station ∈ pass.stations lines state, allowed station.1 station.2 := by
  induction lines generalizing state along with
  | nil => exact nofun
  | cons line lines ih =>
    rw [forall_mem_cons] at refuses
    obtain ⟨first, others⟩ := forall_mem_cons.mp carries
    obtain ⟨after, run, rest⟩ := step_of_accepted accepted
    obtain ⟨reached, tracked, goesOn⟩ := step_of_accepted read
    have permitted : allowed (pass.context state).place line := by
      by_contra forbidden
      exact refuses.1 state along starts forbidden () reached tracked
    obtain ⟨later, same, kept⟩ := first state along after starts permitted run
    rw [tracked] at same
    cases same
    rw [rest] at accepted
    rw [goesOn] at read
    rw [stations, forall_mem_cons, run]
    exact ⟨permitted, ih others refuses.2 kept accepted read⟩

end

/-- A branch around the block is transparent if both directives are accepted, and if the lines in the
branch and behind it are read alike. -/
theorem transparent {inner outer : σ → σ → Prop} {allowed : Place → String → Prop}
    {architecture : String} {opened : σ} (accepted : (pass.readSpaced source state).2 = none)
    (opens : (pass.read (branchLine architecture)).run (pass.opening source state) =
      (.ok (), opened)) (entered : inner (pass.next (pass.opening source state)) (pass.next opened))
    (within : pass.Carries inner allowed source.block)
    (permitted : ∀ station ∈ pass.stations source.block (pass.next (pass.opening source state)),
      allowed station.1 station.2)
    (closes : ∀ other, inner (pass.closing source state) other →
      ∃ left, (pass.read branchEndLine).run other = (.ok (), left) ∧
        outer (pass.next (pass.closing source state)) (pass.next left))
    (beyond : pass.Carries outer (fun _ _ => True) source.behind) :
    pass.Transparent outer architecture source state := by
  obtain ⟨before, block, behind⟩ := parts_of_spaced accepted
  obtain ⟨reached, tracked, enclosed⟩ := within.readLines entered (congrArg Prod.snd block) permitted
  obtain ⟨left, closed, starts⟩ := closes reached enclosed
  rw [behind] at accepted
  obtain ⟨final, read, same⟩ := beyond.readLines starts accepted fun _ _ => trivial
  refine ⟨final, ?_, by rw [behind]; exact same⟩
  calc
    pass.readLines (source.enclosed architecture) state =
        pass.readLines (branchEndLine :: source.behind) reached := by
      rw [readLines_enclosed before opens, tracked]
    _ = pass.readLines source.behind (pass.next left) := readLines_cons source.behind closed
    _ = (final, none) := read

end Pass

end ParallelFortran.Source
