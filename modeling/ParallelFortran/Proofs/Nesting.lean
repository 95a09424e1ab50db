import ParallelFortran.Proofs.EndLines
import ParallelFortran.Proofs.Preparation
import ParallelFortran.Source.Outline

/-! A file that is accepted is properly nested: the lines that open and close modules, routines and
directives match each other. -/

namespace ParallelFortran.Source

open Xml CallGraph List

inductive Bracket where
  | module
  | interface
  | typeDefinition
  | routine
  | region
  | dependants
  deriving DecidableEq

namespace Bracket

open Pattern.Fortran

def beginning : Bracket → Pattern
  | module => moduleBegin
  | interface => interfaceBegin
  | typeDefinition => typeBegin
  | routine => routineBegin
  | region => parallelRegionBegin
  | dependants => domainDependantBegin

def ending : Bracket → Pattern
  | module => moduleEnd
  | interface => interfaceEnd
  | typeDefinition => typeEnd
  | routine => routineEnd
  | region => parallelRegionEnd
  | dependants => domainDependantEnd

def fits : Bracket → List Bracket → Bool
  | module, opened => opened == []
  | interface, opened | typeDefinition, opened | routine, opened => opened == [module]
  | region, opened => opened == [routine, module]
  | dependants, opened => opened == [module] || opened == [routine, module]

end Bracket

namespace Event

def opened? : Event → Option Bracket
  | moduleBegin _ _ => some .module
  | interfaceBegin _ => some .interface
  | typeBegin _ => some .typeDefinition
  | routineBegin _ _ => some .routine
  | region _ => some .region
  | dependants _ => some .dependants
  | _ => none

def closed? : Event → Option Bracket
  | moduleEnd _ => some .module
  | interfaceEnd _ => some .interface
  | typeEnd _ => some .typeDefinition
  | routineEnd _ => some .routine
  | regionEnd => some .region
  | dependantsEnd => some .dependants
  | _ => none

end Event

/-- What is open behind an event, the innermost first. There is no answer if the event opens
something where it does not fit, or closes something else than was opened last. -/
def settle (opened : List Bracket) (event : Event) : Option (List Bracket) :=
  match event.opened?, event.closed? with
  | some bracket, _ => if bracket.fits opened then some (bracket :: opened) else none
  | none, some bracket => if opened.head? = some bracket then some opened.tail else none
  | none, none => some opened

namespace Place

def opened : Place → List Bracket
  | outside | branch | ignored => []
  | module | moduleBody => [.module]
  | interface => [.interface, .module]
  | typeDefinition => [.typeDefinition, .module]
  | moduleDependants => [.dependants, .module]
  | declarations | routineBody => [.routine, .module]
  | parallelRegion => [.region, .routine, .module]
  | dependants => [.dependants, .routine, .module]

end Place

def Event.target (place : Place) : Event → Place
  | moduleBegin _ _ => .module
  | moduleEnd _ => .outside
  | routineBegin _ _ => .declarations
  | routineEnd _ => .moduleBody
  | region _ => .parallelRegion
  | regionEnd => .routineBody
  | event => place.after event

/-- An event that changes what is open as it changes the place, and that came from lines which open
and close what it stands for. -/
structure Event.Regular (place : Place) (line : String) (event : Event) : Prop where
  settled : settle place.opened event = some (place.after event).opened
  reached : event.target place = place.after event
  begun : ∀ bracket ∈ event.opened?, bracket.beginning.accepts line = true
  ended : ∀ bracket ∈ event.closed?, bracket.ending.accepts line = true

variable {line : String}

theorem accepts_of_match {pattern : Pattern} {found : Pattern.Found}
    (matched : pattern.match? line = some found) : pattern.accepts line = true := by
  rw [Pattern.accepts, matched]
  rfl

theorem regular_of_read {place : Place} {event : Event}
    (read : place.read line = .ok event) : event.Regular place line := by
  cases readAt_of_read read with
  | other => exact ⟨by cases place <;> rfl, rfl, by rintro _ ⟨⟩, by rintro _ ⟨⟩⟩
  | firstStatement first =>
    subst first
    exact ⟨rfl, rfl, by rintro _ ⟨⟩, by rintro _ ⟨⟩⟩
  | found listed found =>
    cases place
    all_goals
      simp only [Place.readers, mem_cons, not_mem_nil, or_false] at listed
    all_goals rcases listed with rfl | rfl | rfl | rfl | rfl | rfl | rfl | rfl
    all_goals
      obtain ⟨_, matched, rfl⟩ := Option.map_eq_some_iff.mp found
      exact ⟨rfl, rfl, by rintro _ ⟨⟩ <;> exact accepts_of_match matched,
        by rintro _ ⟨⟩ <;> exact accepts_of_match matched⟩

namespace Outline

variable {α β : Type}

abbrev Stays (action : OutlineM α) : Prop :=
  Advances (Same fun outline : Outline => outline.context.place) action

instance onStore_stays (action : StoreM α) : Stays (onStore action) := by
  refine ⟨fun before => ?_⟩
  unfold onStore
  rw [run_bind, run_get]
  dsimp only
  generalize action.run before.store = result
  obtain ⟨fault | value, store⟩ := result
  · rfl
  · rfl

instance (action : StoreM α) : Stays (liftM action) :=
  onStore_stays action

instance (node : Option NodeId) : Stays (known node) := by
  unfold known
  exact .composed

instance (tag : String) : Stays (create tag) := .composed

instance (node : NodeId) : Stays (addArguments node) := .composed

instance beginCall_stays (line : CallLine) : Stays (beginCall line) := .composed

instance endCall_stays : Stays endCall := .composed

instance addScheme_stays (settings : String) : Stays (addScheme settings) := .composed

instance addDependants_stays (line : String) : Stays (addDependants line) := .composed

class Moves (target : Place) (action : OutlineM α) : Prop where
  reaches : ∀ before : Outline, before.context.place.isPlain = true →
    Ensures action before fun _ after => after.context.place = target

namespace Moves

variable {target : Place} {action : OutlineM α} {next : α → OutlineM β}

theorem before (stays : Stays action) (rest : ∀ value, Moves target (next value)) :
    Moves target (action >>= next) where
  reaches before plain := .bind (stays.ensures before) fun value between same =>
    (rest value).reaches between (Eq.trans (congrArg Place.isPlain same) plain)

theorem behind (moves : Moves target action) (rest : ∀ value, Stays (next value)) :
    Moves target (action >>= next) where
  reaches before plain := .bind (moves.reaches before plain) fun value between reached =>
    ((rest value).ensures between).weaken fun _ _ same => Eq.trans same reached

end Moves

variable (target : Place)

instance moveTo_moves : Moves target (moveTo target) where
  reaches _ plain := .modified (Model.place_moveTo plain target)

/-- Among the parts of the action one moves the line, and the others do not. -/
theorem Moves.composed {target : Place} {action : OutlineM α} (parts : Moves target action := by
    repeat' first
      | with_reducible exact moveTo_moves _
      | with_reducible refine Moves.behind (moveTo_moves _) fun _ => ?_
      | exact Advances.composed
      | refine Moves.before ?_ fun _ => ?_) :
    Moves target action :=
  parts

instance beginModule_moves (name : String) : Moves .module (beginModule name) := .composed

instance endModule_moves : Moves .outside endModule := .composed

instance beginRoutine_moves (text name : String) : Moves .declarations (beginRoutine text name) :=
  .composed

instance endRoutine_moves : Moves .moduleBody endRoutine := .composed

variable (settings : String)

instance beginRegion_moves : Moves .parallelRegion (beginRegion settings) := .composed

instance endRegion_moves : Moves .routineBody endRegion := .composed

instance beginDependants_moves : Moves target (beginDependants target settings) := by
  unfold beginDependants
  exact .composed

instance endDependants_moves : Moves target (endDependants target) := .composed

section

variable {place : Place} (plain : place.isPlain = true)
  {before : Outline} (stands : before.context.place = place)

include plain stands

variable (line : String)

theorem perform_ensures (event : Event) : Ensures (perform place line event) before fun _ after =>
      after.context.place = event.target place := by
  have unmoved : ∀ {action : OutlineM Unit}, Stays action → place.after event = place →
      Ensures action before fun _ after => after.context.place = place.after event := by
    intro action stays same
    refine (stays.ensures before).weaken fun _ _ kept => ?_
    rw [same, ← stands]
    exact kept
  have moved {target} {action : OutlineM Unit} (moves : Moves target action) :=
    moves.reaches before (stands ▸ plain)
  have looked : Stays (if place == .moduleDependants || place == .dependants then addDependants line
      else pure ()) := by
    split
    · exact addDependants_stays line
    · exact .pure _
  cases event with
  | scheme settings => exact unmoved (addScheme_stays settings) (by cases place <;> rfl)
  | schemeEnd => exact unmoved ⟨fun _ => rfl⟩ (by cases place <;> rfl)
  | moduleBegin text name => exact moved (beginModule_moves name)
  | moduleEnd text => exact moved endModule_moves
  | routineBegin text name => exact moved (beginRoutine_moves text name)
  | routineEnd text => exact moved endRoutine_moves
  | call call =>
    exact unmoved (.bind (beginCall_stays call) fun _ => endCall_stays) (by cases place <;> rfl)
  | region settings => exact moved (beginRegion_moves settings)
  | regionEnd => exact moved endRegion_moves
  | dependants settings => exact moved (beginDependants_moves _ settings)
  | dependantsEnd => exact moved (endDependants_moves _)
  | branch settings | other => exact unmoved looked (by cases place <;> rfl)
  | _ => exact moved (moveTo_moves _)

theorem readLine_ensures : Ensures (readLine line) before fun _ after =>
      ∃ event, place.read line = .ok event ∧ after.context.place = place.after event := by
  have here : before.context.effective = place := by
    rw [Model.effective_eq (stands ▸ plain), stands]
  refine .step (run_get before) ?_
  rw [here]
  refine .step rfl (.known fun _ _ => .known fun event read => ?_)
  refine .bind (perform_ensures plain (by exact stands) line event) fun _ performed reached => ?_
  rw [(regular_of_read read).reached] at reached
  have left : ∀ context : Context, context.leaveDeclarations.place = context.place := by
    intro context
    unfold Context.leaveDeclarations
    split <;> rfl
  split
  · exact .modified ⟨event, read, (left _).trans reached⟩
  · exact .pure ⟨event, read, reached⟩

end

/-! The lines of a file -/

end Outline

/-- A line that has been read: where it stood, and what it was taken for. -/
structure Step where
  place : Place
  line : String
  event : Event

def openBehind (steps : List Step) : Option (List Bracket) :=
  (steps.map Step.event).foldlM settle []

namespace Outline

def steps : List String → Outline → List Step
  | [], _ => []
  | line :: lines, outline =>
    let place := outline.context.effective
    match place.read line, (readLine line).run outline with
    | .ok event, (.ok _, after) => ⟨place, line, event⟩ :: steps lines (nextLine after)
    | _, _ => []

end Outline

inductive Chain : Place → List Step → Place → Prop
  | done (place : Place) : Chain place [] place
  | step {place target : Place} {line : String} {event : Event} {steps : List Step}
      (plain : place.isPlain = true) (read : place.read line = .ok event)
      (rest : Chain (place.after event) steps target) : Chain place (⟨place, line, event⟩ :: steps) target

namespace Chain

variable {origin target : Place}

theorem settled {steps : List Step} (chain : Chain origin steps target) :
    (steps.map Step.event).foldlM settle origin.opened = some target.opened := by
  induction chain with
  | done place => rfl
  | step plain read rest ih =>
    rw [map_cons, foldlM_cons, (regular_of_read read).settled]
    exact ih

theorem parts {before rest : List Step} {step : Step}
    (chain : Chain origin (before ++ step :: rest) target) :
    Chain origin before step.place ∧ step.place.isPlain = true ∧
      step.place.read step.line = .ok step.event := by
  induction before generalizing origin with
  | nil =>
    cases chain with
    | step plain read rest => exact ⟨.done _, plain, read⟩
  | cons first before ih =>
    cases chain with
    | step plain read rest =>
      obtain ⟨others, known⟩ := ih rest
      exact ⟨.step plain read others, known⟩

end Chain

namespace Outline

theorem chain_of_readLines {lines : List String} {outline : Outline}
    (plain : outline.context.place.isPlain = true)
    (accepted : (pass.readLines lines outline).2 = none) :
    Chain outline.context.place (steps lines outline)
        (pass.readLines lines outline).1.context.place ∧
      (steps lines outline).map Step.line = lines := by
  induction lines generalizing outline with
  | nil => exact ⟨.done _, rfl⟩
  | cons line lines ih =>
    obtain ⟨after, run, rest⟩ := Pass.step_of_accepted accepted
    rw [rest] at accepted ⊢
    change (readLine line).run outline = _ at run
    obtain ⟨event, read, reached⟩ := readLine_ensures plain rfl line () after run
    have plainBehind : (nextLine after).context.place.isPlain = true := by
      change after.context.place.isPlain = true
      rw [reached]
      exact Model.isPlain_after plain event
    obtain ⟨chain, same⟩ := ih plainBehind accepted
    rw [steps, run, Model.effective_eq plain, read]
    refine ⟨.step plain read ?_, congrArg (line :: ·) same⟩
    rw [← reached]
    exact chain

def fileSteps (document : Document) (path text : String) (store : Store) : List Step :=
  match (begin document path).run store with
  | (.ok outline, store) => steps (Text.linesKeepingEnds text) { outline with store }
  | (.error _, _) => []

theorem begin_ensures (document : Document) (path : String) (store : Store) :
    Ensures (begin document path) store fun outline _ => outline.context.place = .outside := by
  have anything : ∀ tag store,
      Ensures (firstNode document tag) store fun _ _ => True := fun _ _ _ _ _ => trivial
  refine .bind (anything _ _) fun routines _ _ => .bind (anything _ _) fun calls _ _ => ?_
  refine .bind (anything _ _) fun modules _ _ => .bind (anything _ _) fun schemes between _ => ?_
  exact .step (run_get between) (.pure rfl)

theorem chain_of_accepted {document : Document} {path text : String} {store : Store}
    (accepted : (readFile document path text store).2 = .ok ()) :
    Chain .outside (fileSteps document path text store) .outside ∧
      (fileSteps document path text store).map Step.line = Text.linesKeepingEnds text := by
  unfold readFile at accepted
  unfold fileSteps
  rcases begun : (begin document path).run store with ⟨fault | outline, after⟩
  · rw [begun] at accepted
    cases accepted
  · rw [begun] at accepted
    dsimp only at accepted ⊢
    have stands := begin_ensures document path store outline after begun
    have kept : (pass.readFile path text { outline with store := after }).2 = none := by
      rcases read : pass.readFile path text { outline with store := after } with ⟨_, _ | entry⟩
      · rfl
      · rw [read] at accepted
        cases accepted
    obtain ⟨whole, last, ended⟩ := Pass.parts_of_accepted kept
    obtain ⟨chain, same⟩ := chain_of_readLines (by rw [stands]; rfl) whole
    refine ⟨?_, same⟩
    rw [stands] at chain
    rw [last] at ended
    exact ended ▸ chain

theorem nested_of_accepted {document : Document} {path text : String} {store : Store}
    (accepted : (readFile document path text store).2 = .ok ()) :
    (fileSteps document path text store).map Step.line = Text.linesKeepingEnds text ∧
    openBehind (fileSteps document path text store) = some [] ∧
    ∀ before step rest, fileSteps document path text store = before ++ step :: rest →
      ∃ opened, openBehind before = some opened ∧
        (∀ bracket ∈ step.event.opened?, bracket.beginning.accepts step.line = true) ∧
        (∀ bracket ∈ step.event.closed?, bracket.ending.accepts step.line = true) ∧
        (Pattern.Fortran.routineEnd.accepts step.line = true →
          step.place ∉ [.module, .interface, .typeDefinition] →
          ¬ (step.place = .moduleBody ∧ carriesName step.line = true) →
          .routine ∈ opened ∧ ∃ closing, step.event = .routineEnd closing) := by
  obtain ⟨chain, lines⟩ := chain_of_accepted accepted
  refine ⟨lines, chain.settled, ?_⟩
  intro before step rest whole
  rw [whole] at chain
  obtain ⟨front, plain, read⟩ := chain.parts
  have regular := regular_of_read read
  refine ⟨step.place.opened, front.settled, regular.begun, regular.ended, ?_⟩
  obtain ⟨place, line, event⟩ := step
  intro ends looked unnamed
  cases endTaken_of_read (Place.isPlain_iff.mp plain) ends read with
  | unseen event specification => exact absurd specification looked
  | closing closing inside =>
    refine ⟨?_, closing, rfl⟩
    simp only [mem_cons, not_mem_nil, or_false] at inside
    rcases inside with rfl | rfl <;> simp [Place.opened]
  | opening event named => exact absurd ⟨rfl, named⟩ unnamed

def emptyGraph : Document × Store :=
  match (Xml.addDocument [.element "callGraph" [] []]).run {} with
  | (.ok document, store) => (document, store)
  | (.error _, store) => (default, store)

def bracketedSource : String :=
  "module m\ncontains\nsubroutine k(a)\n@domainDependant\x7bdomName(i)\x7d\na\n" ++
  "@end domainDependant\n@parallelRegion\x7bdomName(i)\x7d\n@end parallelRegion\n" ++
  "end subroutine\nend module\n"

theorem eq_ok_of_isSome {ε : Type} {result : Except ε Unit}
    (succeeded : result.toOption.isSome = true) : result = .ok () := by
  cases result with
  | ok _ => rfl
  | error _ => cases succeeded

theorem nested_of_accepted_bracketedSource :
    (readFile emptyGraph.1 "k.h90" bracketedSource emptyGraph.2).2 = .ok () ∧
    openBehind (fileSteps emptyGraph.1 "k.h90" bracketedSource emptyGraph.2) = some [] ∧
    (fileSteps emptyGraph.1 "k.h90" bracketedSource emptyGraph.2).filterMap
      (fun step => step.event.closed?) = [.dependants, .region, .routine, .module] := by
  have facts :
      (readFile emptyGraph.1 "k.h90" bracketedSource emptyGraph.2).2.toOption.isSome = true ∧
      (fileSteps emptyGraph.1 "k.h90" bracketedSource emptyGraph.2).filterMap
        (fun step => step.event.closed?) = [.dependants, .region, .routine, .module] := by
    decide +kernel
  have accepted := eq_ok_of_isSome facts.1
  exact ⟨accepted, (nested_of_accepted accepted).2.1, facts.2⟩

def looseSource : String :=
  "module m\ninterface\nsubroutine q(b)\nend subroutine\nend interface\ncontains\n" ++
  "end subroutine step\nend subroutine\nend module\n"

/-- No routine is open at the end line of an interface, nor at an end line with a name that stands
between routines. -/
theorem unopened_end_accepted :
    (readFile emptyGraph.1 "k.h90" looseSource emptyGraph.2).2 = .ok () ∧
    (∃ step, (fileSteps emptyGraph.1 "k.h90" looseSource emptyGraph.2)[3]? = some step ∧
      Pattern.Fortran.routineEnd.accepts step.line = true) ∧
    openBehind ((fileSteps emptyGraph.1 "k.h90" looseSource emptyGraph.2).take 3) =
      some [.interface, .module] ∧
    (∃ step, (fileSteps emptyGraph.1 "k.h90" looseSource emptyGraph.2)[6]? = some step ∧
      Pattern.Fortran.routineEnd.accepts step.line = true) ∧
    openBehind ((fileSteps emptyGraph.1 "k.h90" looseSource emptyGraph.2).take 6) =
      some [.module] := by
  refine And.imp eq_ok_of_isSome (And.imp (Option.any_eq_true ..).mp
    (And.imp_right (And.imp_left (Option.any_eq_true ..).mp))) ?_
  decide +kernel

end Outline

end ParallelFortran.Source
