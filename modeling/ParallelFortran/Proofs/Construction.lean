import ParallelFortran.Proofs.DeviceTransfers
import ParallelFortran.Symbol.Merge

/-! Symbols begin with lists that they have in common. One of these lists grows while symbols are
constructed, but a constructed symbol has none of them any more, and what is in them was not looked at
on the way: a new symbol does not depend on what was done with other symbols before. -/

namespace ParallelFortran

open Xml

namespace Symbol

/-- The way of a symbol from common lists to its own ones. -/
inductive Phase where
  | early
  | sized
  | own

abbrev Phase.withDomains : Phase → Phase
  | .early => early
  | .sized | .own => own

variable (symbol : Symbol)

/-- What is to be seen of a symbol: its lists without their marks, and the sizes that are not parallel
only when they are its own. -/
def seen (phase : Phase) : Symbol :=
  { symbol with
    domains := ⟨0, symbol.domains.value⟩
    inactiveSizes := ⟨0, match phase with
      | .early => []
      | .sized | .own => symbol.inactiveSizes.value⟩
    typeParameters := ⟨0, symbol.typeParameters.value⟩ }

def Stands (phase : Phase) : Prop :=
  symbol.form = .plain ∧ symbol.entry.isSome ∧ match phase with
    | .early => symbol.stage.number < LoadStage.scope.number
    | .sized => True
    | .own => symbol.domains.mark ≠ 0

variable {symbol}

theorem seen_seen (phase : Phase) : symbol.seen phase = (symbol.seen phase).seen phase := by
  cases phase <;> rfl

theorem checkDomains_seen {phase : Phase} (stands : symbol.Stands phase) :
    symbol.checkDomains = (symbol.seen phase).checkDomains := by
  cases phase with
  | sized | own => rfl
  | early =>
    have late : ¬ symbol.stage.number ≥ LoadStage.scope.number := Nat.not_le.mpr stands.2.2
    simp only [checkDomains, seen, late, if_false]
    rfl

end Symbol

namespace Registry

open ParallelFortran.Symbol (Phase)

variable {α β : Type} {phase reached : Phase} {left right : SymbolId} {before other : Registry}

/-- A symbol of each of two registries that look the same. -/
structure Alike (phase : Phase) (left right : SymbolId) (before other : Registry) : Prop where
  store : before.store = other.store
  known : left.index < before.symbols.size ∧ right.index < other.symbols.size
  same : (before.symbol left).seen phase = (other.symbol right).seen phase
  stands : (before.symbol left).Stands phase ∧ (other.symbol right).Stands phase

/-- The action does the same with a symbol as with another one that looks the same. -/
class Unaware (phase : Phase) (reached : outParam Phase) (action : SymbolId → RegistryM α) : Prop where
  tracks : ∀ left right,
    Tracks (Alike phase left right) (Alike reached left right) (action left) (action right)

namespace Unaware

variable {middle : Phase} {action other : SymbolId → RegistryM α} {next : SymbolId → α → RegistryM β}
  {members : List β}

instance pure (value : α) : Unaware phase phase fun _ => Pure.pure value :=
  ⟨fun _ _ => .pure value⟩

theorem throw (fault : Fault) : Unaware phase reached fun _ => (MonadExcept.throw fault : RegistryM α) :=
  ⟨fun _ _ => .throw⟩

theorem refused (fault : Fault) : Unaware phase reached fun id => MonadExcept.throw fault >>= next id :=
  ⟨fun _ _ => .refused⟩

theorem bind (first : Unaware phase middle action)
    (second : ∀ value, Unaware middle reached fun id => next id value) :
    Unaware phase reached fun id => action id >>= next id :=
  ⟨fun left right => .bind (first.tracks left right) fun value => (second value).tracks left right⟩

theorem chosen {condition : Prop} [Decidable condition] (first : Unaware phase reached action)
    (second : Unaware phase reached other) :
    Unaware phase reached fun id => if condition then action id else other id := by
  split
  · exact first
  · exact second

theorem reading {next : SymbolId → Registry → RegistryM β}
    (stored : ∀ id registry, next id registry = next id { store := registry.store })
    (rest : ∀ registry, Unaware phase reached fun id => next id registry) :
    Unaware phase reached fun id => get >>= next id := by
  refine ⟨fun left right => .reading fun before other alike => ?_⟩
  rw [stored, alike.store, ← stored left, stored right, ← stored right]
  exact (rest other).tracks left right

theorem finding {next : SymbolId → Symbol → RegistryM β}
    (blind : ∀ id symbol, next id symbol = next id (symbol.seen phase))
    (rest : ∀ symbol, Unaware phase reached fun id => next id symbol) :
    Unaware phase reached fun id => find id >>= next id := by
  refine ⟨fun left right before other alike value after run => ?_⟩
  have begins : (next left (before.symbol left)).run before = (.ok value, after) := run
  rw [blind, alike.same, ← blind] at begins
  exact (rest _).tracks left right before other alike value after begins

theorem symbol_changed {id : SymbolId} {registry : Registry} (known : id.index < registry.symbols.size)
    (update : Symbol → Symbol) (marks : Nat) :
    Registry.symbol { registry with symbols := registry.symbols.modify id.index update, marks } id =
      update (registry.symbol id) :=
  (Backend.symbol_changed registry id id update).trans (if_pos ⟨rfl, known⟩)

/-- The action asks and changes nothing but the symbol, as far as can be seen. -/
theorem own (value : Store → Symbol → Outcome α) (update : Nat → Symbol → Symbol)
    (runs : ∀ id (registry : Registry), id.index < registry.symbols.size → ∃ mark after,
      (action id).run registry = (value registry.store (registry.symbol id), after) ∧
        after.store = registry.store ∧ after.symbols.size = registry.symbols.size ∧
        after.symbol id = update (mark + 1) (registry.symbol id))
    (asks : ∀ store symbol, symbol.Stands phase → value store symbol = value store (symbol.seen phase))
    (blind : ∀ mark symbol,
      (update mark symbol).seen reached = (update 0 (symbol.seen phase)).seen reached)
    (stands : ∀ mark symbol, symbol.Stands phase → (update (mark + 1) symbol).Stands reached) :
    Unaware phase reached action := by
  refine ⟨fun left right before other alike result after run => ?_⟩
  obtain ⟨mine, _, first, store, size, symbol⟩ := runs left before alike.known.1
  obtain ⟨theirs, later, second, otherStore, otherSize, otherSymbol⟩ := runs right other alike.known.2
  rw [first, asks _ _ alike.stands.1, alike.store, alike.same, ← asks _ _ alike.stands.2] at run
  obtain ⟨given, rfl⟩ := Prod.mk.inj run
  refine ⟨later, second.trans (by rw [given]), ?_, ?_, ?_, ?_⟩
  · rw [store, otherStore, alike.store]
  · rw [size, otherSize]
    exact alike.known
  · rw [symbol, otherSymbol, blind, alike.same]
    exact (blind _ _).symm
  · rw [symbol, otherSymbol]
    exact alike.stands.imp (stands _ _) (stands _ _)

instance outcome (result : Outcome α) : Unaware phase phase fun _ => (liftM result : RegistryM α) := by
  refine own (fun _ _ => result) (fun _ symbol => symbol) (fun _ registry _ => ⟨0, registry, ?_⟩)
    (fun _ _ _ => rfl) (fun _ _ => Symbol.seen_seen phase) fun _ _ stands => stands
  cases result <;> exact ⟨rfl, rfl, rfl, rfl⟩

theorem asked {query : Store → Symbol → Outcome α} (blind : ∀ store symbol, symbol.Stands phase →
      query store symbol = query store (symbol.seen phase)) :
    Unaware phase phase fun id => ask id query :=
  own query (fun _ symbol => symbol) (fun _ registry _ => ⟨0, registry, run_ask .., rfl, rfl, rfl⟩)
    blind (fun _ _ => Symbol.seen_seen phase) fun _ _ stands => stands

theorem changed {update : Symbol → Symbol}
    (blind : ∀ symbol, (update symbol).seen phase = (update (symbol.seen phase)).seen phase)
    (stands : ∀ symbol, symbol.Stands phase → (update symbol).Stands phase) :
    Unaware phase phase fun id => change id update :=
  own (fun _ _ => .ok ()) _
    (fun _ _ known => ⟨0, _, rfl, rfl, Array.size_modify, symbol_changed known update _⟩)
    (fun _ _ _ => rfl) (fun _ => blind) fun _ => stands

theorem renewed {value : α} {update : Shared α → Symbol → Symbol}
    (blind : ∀ mark symbol, (update ⟨mark, value⟩ symbol).seen reached =
      (update ⟨0, value⟩ (symbol.seen phase)).seen reached)
    (stands : ∀ mark symbol, symbol.Stands phase → (update ⟨mark + 1, value⟩ symbol).Stands reached) :
    Unaware phase reached fun id => fresh value >>= fun shared => change id (update shared) :=
  own (fun _ _ => .ok ()) _
    (fun _ _ known => ⟨_, _, rfl, rfl, Array.size_modify, symbol_changed known _ _⟩)
    (fun _ _ _ => rfl) blind stands

theorem each {body : SymbolId → β → RegistryM PUnit}
    (step : ∀ member, Unaware phase phase fun id => body id member) :
    Unaware phase phase fun id => members.forM (body id) := by
  induction members with
  | nil => exact pure _
  | cons member rest ih => exact bind (step member) fun _ => ih

theorem fold {update : SymbolId → α → β → RegistryM α}
    (step : ∀ value member, Unaware phase phase fun id => update id value member) (value : α) :
    Unaware phase phase fun id => members.foldlM (update id) value := by
  induction members generalizing value with
  | nil => exact pure value
  | cons member rest ih => exact bind (step value member) fun next => ih next

theorem composed (parts : Unaware phase reached action := by
    repeat' first
      | infer_instance
      | (with_reducible apply Unaware.finding); exact fun _ _ => rfl
      | (with_reducible apply Unaware.reading); exact fun _ _ => rfl
      | (with_reducible apply Unaware.asked); exact fun _ _ _ => rfl
      | (with_reducible apply Unaware.changed); exact fun _ => rfl; exact fun _ stands => stands
      | with_reducible apply Unaware.throw
      | with_reducible apply Unaware.refused
      | with_reducible apply Unaware.bind
      | with_reducible apply Unaware.chosen
      | with_reducible apply Unaware.fold
      | with_reducible apply Unaware.each
      | intro _
      | dsimp only) :
    Unaware phase reached action :=
  parts

end Unaware

instance (domains : List Domain) :
    Unaware phase phase.withDomains fun id => setDomains id domains := by
  cases phase with
  | early => exact .renewed (fun _ _ => rfl) fun _ _ stands => stands
  | sized | own =>
    exact .renewed (fun _ _ => rfl) fun _ _ stands => ⟨stands.1, stands.2.1, Nat.succ_ne_zero _⟩

instance (sizes : List String) : Unaware .early .sized fun id => setInactiveSizes id sizes :=
  .renewed (fun _ _ => rfl) fun _ _ stands => ⟨stands.1, stands.2.1, trivial⟩

instance (sizes : List String) : Unaware .own .own fun id => setInactiveSizes id sizes :=
  .renewed (fun _ _ => rfl) fun _ _ stands => stands

instance (size : String) : Unaware .early .early fun id => addInactiveSize id size := by
  let grown (symbol : Symbol) : Symbol :=
    { symbol with inactiveSizes := ⟨symbol.inactiveSizes.mark, symbol.inactiveSizes.value ++ [size]⟩ }
  refine .own (fun _ _ => .ok ()) (fun _ => grown) (fun id registry known => ?_) (fun _ _ _ => rfl)
    (fun _ _ => rfl) fun _ _ stands => stands
  exact ⟨0, _, rfl, rfl, Array.size_map, by simp [symbol, grown, known]⟩

instance : Unaware .own .own fun id => raiseStage id .scope :=
  .changed (fun _ => rfl) fun _ stands => stands

theorem raiseStage_unaware_early (stage : LoadStage) (early : stage.number < LoadStage.scope.number) :
    Unaware .early .early fun id => raiseStage id stage := by
  refine .changed (fun _ => rfl) fun symbol stands => ⟨stands.1, stands.2.1, ?_⟩
  change (if _ then _ else _ : LoadStage).number < _
  split
  · exact early
  · exact stands.2.2

instance : Unaware phase phase checkDomains := .asked fun _ _ => Symbol.checkDomains_seen

instance (template : Option (List Domain)) (regions : List NodeId) :
    Unaware .early .own fun id => loadDomains id template regions := by
  unfold loadDomains loadRegionDomains
  refine .finding (fun _ _ => rfl) fun symbol => ?_
  cases symbol.tentativeDomains? template <;> exact .composed

instance (text : Option String) : Unaware .early .early fun id => loadDeclarationText id text := by
  unfold loadDeclarationText
  cases text.filter (! Text.isBlankText ·) <;> exact .composed

instance (regions : List NodeId) :
    Unaware .early .own fun id => loadTemplateAttributes id regions none := by
  simp only [loadTemplateAttributes, adjustDomains, Option.any_none, Bool.false_eq_true, if_false]
  refine .finding (fun _ _ => rfl) fun symbol => ?_
  cases symbol.template <;> exact .composed

instance (template : NodeId) : Unaware .early .early fun id => loadTemplate id template := by
  have raised := raiseStage_unaware_early .template (by decide)
  unfold loadTemplate setOptions
  exact .composed

instance (origin : Origin) (regions : List NodeId) :
    Unaware .early .own fun id => loadOrigin id origin regions := by
  have raised := raiseStage_unaware_early .entry (by decide)
  unfold loadOrigin loadEntry loadModule loadRoutine requireEntry updateNameInScope
  cases origin.scope <;> exact .composed

/-! Construction -/

structure Construction where
  name : String
  template : Option NodeId
  origin : Origin
  analysis : Option CallGraph.SymbolAnalysis
  regions : List NodeId
  globalDomains : List String

namespace Construction

variable (given : Construction)

def symbol : RegistryM SymbolId :=
  newSymbol given.name given.template (some given.origin) given.analysis given.regions
    given.globalDomains

def result (registry : Registry) : Option Symbol :=
  match given.symbol.run registry with
  | (.ok id, after) => some ((after.symbol id).seen .own)
  | (.error _, _) => none

def fill (id : SymbolId) : RegistryM Unit := do
  match given.template with
  | some template => loadTemplate id template
  | none => pure ()
  loadOrigin id given.origin given.regions

instance fill_unaware : Unaware .early .own given.fill := by
  unfold fill
  cases given.template <;> exact .composed

def begun (registry : Registry) : Registry :=
  let symbol : Symbol :=
    { name := given.name
      typeParameters := ⟨registry.marks + 1, []⟩
      domains := ⟨0, registry.initialDomains⟩
      inactiveSizes := ⟨0, registry.initialSizes⟩ }
  { registry with
    symbols := (registry.symbols.push symbol).modify registry.symbols.size fun symbol =>
      { symbol with
        analysis := given.analysis
        globalDomains := given.globalDomains
        entry := some given.origin.entry }
    marks := registry.marks + 1 }

variable {given} {registry after : Registry} {id : SymbolId}

theorem begun_alike (store : registry.store = other.store)
    (initial : registry.initialDomains = other.initialDomains) :
    Alike .early ⟨registry.symbols.size⟩ ⟨other.symbols.size⟩ (given.begun registry)
      (given.begun other) := by
  refine ⟨store, ?_, ?_, ?_⟩
  · simp [begun]
  · simp [begun, Registry.symbol, Array.getElem_modify, Symbol.seen, initial]
  · simp [begun, Registry.symbol, Array.getElem_modify, Symbol.Stands]
    decide

theorem run_symbol (named : given.name.isEmpty = false) (registry : Registry) :
    given.symbol.run registry = (given.fill ⟨registry.symbols.size⟩ >>= fun _ =>
      pure ⟨registry.symbols.size⟩).run (given.begun registry) := by
  unfold symbol newSymbol blank fill
  rw [named]
  cases given.template <;> simp only [bind_assoc] <;> rfl

theorem symbol_tracks (store : registry.store = other.store)
    (initial : registry.initialDomains = other.initialDomains)
    (run : given.symbol.run registry = (.ok id, after)) :
    ∃ another later, given.symbol.run other = (.ok another, later) ∧
      Alike .own id another after later := by
  cases named : given.name.isEmpty with
  | true =>
    rw [symbol, newSymbol, blank, named] at run
    cases run
  | false =>
    rw [run_symbol named, run_bind] at run
    rcases filled : (given.fill _).run _ with ⟨fault | _, reached⟩
    · rw [filled] at run
      cases run
    · rw [filled] at run
      cases run
      obtain ⟨later, run, alike⟩ :=
        given.fill_unaware.tracks _ _ _ _ (begun_alike store initial) _ _ filled
      refine ⟨⟨other.symbols.size⟩, later, ?_, alike⟩
      rw [run_symbol named, run_bind, run]
      rfl

theorem result_eq (store : registry.store = other.store)
    (initial : registry.initialDomains = other.initialDomains) :
    given.result registry = given.result other := by
  rcases mine : given.symbol.run registry with ⟨fault | id, after⟩
  · rcases theirs : given.symbol.run other with ⟨fault | id, after⟩
    · rw [result, result, mine, theirs]
    · obtain ⟨_, _, run, _⟩ := symbol_tracks store.symm initial.symm theirs
      rw [run] at mine
      cases mine
  · obtain ⟨another, reached, theirs, alike⟩ := symbol_tracks store initial mine
    rw [result, result, mine, theirs]
    exact congrArg some alike.same

end Construction

/-! Operations on symbols -/

/-- The symbols that new ones begin with stay as they are, and no symbol comes to share its domains
with them. -/
structure Kept (before after : Registry) : Prop where
  store : after.store = before.store
  initial : after.initialDomains = before.initialDomains
  stands : ∀ id, (before.symbol id).Stands .own → (after.symbol id).Stands .own

def Owns (registry : Registry) (subjects : List SymbolId) : Prop :=
  ∀ id ∈ subjects, (registry.symbol id).Stands .own

def Separate (subjects : List SymbolId) (before after : Registry) : Prop :=
  before.Owns subjects → Kept before after

def Reached (start : Registry) (subjects : List SymbolId) (registry : Registry) : Prop :=
  Separate [] start registry ∧ registry.Owns subjects

variable {subjects : List SymbolId} {registry after : Registry}

instance : IsPreorder Registry (Separate subjects) where
  refl _ _ := ⟨rfl, rfl, fun _ stands => stands⟩
  trans _ _ _ first second owns := by
    have kept := first owns
    have later := second fun id inside => kept.stands id (owns id inside)
    exact ⟨later.store.trans kept.store, later.initial.trans kept.initial, fun id stands =>
      later.stands id (kept.stands id stands)⟩

theorem Kept.of_mapped {update : Symbol → Symbol}
    (same : ∀ symbol, (update symbol).Stands .own = symbol.Stands .own)
    (symbols : after.symbols = registry.symbols.map update) (store : after.store = registry.store)
    (initial : after.initialDomains = registry.initialDomains) : Kept registry after := by
  refine ⟨store, initial, fun id => ?_⟩
  rw [symbol, symbol, symbols, Array.getElem?_map]
  cases registry.symbols[id.index]? with
  | none => exact fun stands => stands
  | some symbol => exact (same symbol).mpr

namespace Separate

variable {id : SymbolId}

theorem change_separate {update : Symbol → Symbol}
    (stands : ∀ symbol, symbol.Stands .own → (update symbol).Stands .own) :
    Advances (Separate subjects) (change id update) := by
  refine .modified fun registry _ => ⟨rfl, rfl, fun other before => ?_⟩
  change ((Backend.changed registry id update).symbol other).Stands .own
  rw [Backend.symbol_changed]
  split
  · exact stands _ before
  · exact before

theorem change_framed {update : Symbol → Symbol}
    (same : ∀ symbol, (update symbol).Stands .own = symbol.Stands .own) :
    Advances (Separate subjects) (change id update) :=
  change_separate fun symbol => (same symbol).mpr

instance fresh_separate (value : α) : Advances (Separate subjects) (fresh value) :=
  .bind (.modified fun _ _ => ⟨rfl, rfl, fun _ stands => stands⟩) fun _ => .bind .current fun _ => .pure _

instance (sizes : List String) : Advances (Separate subjects) (setInactiveSizes id sizes) :=
  .composed

instance (domains : List Domain) : Advances (Separate subjects) (setDomains id domains) := by
  have marked : ∀ registry, Ensures (fresh domains) registry fun shared _ => shared.mark ≠ 0 := by
    rintro registry _ _ ⟨⟩
    exact Nat.succ_ne_zero _
  exact .knowing (fresh_separate domains) marked fun _ own =>
    change_separate fun _ stands => ⟨stands.1, stands.2.1, own⟩

instance (size : String) : Advances (Separate subjects) (addInactiveSize id size) := by
  refine .bind (find_advances id) fun _ => .modified fun _ _ => .of_mapped (fun _ => ?_) rfl rfl rfl
  split <;> rfl

theorem addDomain_separate (inside : id ∈ subjects) (domain : Domain) :
    Advances (Separate subjects) (addDomain id domain) := by
  refine ⟨fun registry owns => .of_mapped (fun symbol => ?_) rfl rfl ?_⟩
  · split
    · simp [Symbol.Stands, *]
    · rfl
  · exact if_neg (owns id inside).2.2

instance (template : Option (List Domain)) (regions : List NodeId) :
    Advances (Separate subjects) (loadDomains id template regions) := by
  unfold loadDomains loadRegionDomains
  exact .composed

instance (routine : Option RoutineView) :
    Advances (Separate subjects) (adjustDomains id routine) := by
  unfold adjustDomains dropUndeclaredDomains
  exact .composed

theorem loadDeclaration_separate (inside : id ∈ subjects) (specification : Option Specification)
    (arguments : List String) (scopeName : String) :
    Advances (Separate subjects) (loadDeclaration id specification arguments scopeName) := by
  have added := addDomain_separate inside
  unfold loadDeclaration loadDeclaredSizes addDeclaredDomains checkDeclaredSizes raiseStage
  exact .composed

instance (given : Symbol) : Advances (Separate subjects) (add given) := by
  refine .bind .current fun _ => .bind (.modified fun registry _ => ⟨rfl, rfl, fun id stands => ?_⟩) fun _ =>
    .pure _
  by_cases known : id.index < registry.symbols.size
  · simpa [symbol, known, Array.getElem?_push_lt known] using stands
  · rw [symbol, Array.getElem?_eq_none (Nat.not_lt.mp known)] at stands
    cases stands.2.1

instance construct_separate (given : Construction) : Advances (Separate subjects) given.symbol := by
  unfold Construction.symbol newSymbol blank loadTemplate loadOrigin loadEntry loadModule loadRoutine
    loadTemplateAttributes loadDeclarationText updateNameInScope setOptions raiseStage requireEntry
  refine .bind .composed fun id => .bind (change_separate fun symbol stands => ?_) fun _ => .composed
  exact ⟨stands.1, rfl, stands.2.2⟩

theorem finding {next : Symbol → RegistryM α}
    (rest : Follows (Separate subjects) registry (next (registry.symbol id))) :
    Follows (Separate subjects) registry (find id >>= next) :=
  rest

theorem merge_separate (id : SymbolId) {another : SymbolId} (inside : another ∈ subjects) :
    Advances (Separate subjects) (merge id another) := by
  refine ⟨fun registry owns => ?_⟩
  have merged : Advances (Separate subjects)
      (change id fun symbol => symbol.mergeFields (registry.symbol another)) := by
    refine change_separate fun symbol stands => ⟨stands.1, stands.2.1, ?_⟩
    change (if _ then _ else _ : Shared _).mark ≠ 0
    split
    · exact (owns another inside).2.2
    · exact stands.2.2
  have whole : Follows (Separate subjects) registry (merge id another) := by
    unfold merge setOptions raiseStage
    exact finding (finding (@Advances.follows _ _ _ _ _ .composed registry))
  exact whole owns

variable {start : Registry}

theorem leads {action : RegistryM α} {fewer : List SymbolId} (within : fewer ⊆ subjects)
    (advances : Advances (Separate subjects) action) (reached : Reached start subjects registry) :
    Leads action registry (fun _ => Reached start subjects) (Reached start fewer) := by
  have kept := advances.follows registry reached.2
  have started := trans_of (Separate []) reached.1 fun _ => kept
  have owns := fun id inside => kept.stands id (reached.2 id inside)
  constructor
  all_goals
    intro _ after run
    rw [run] at started owns
  · exact ⟨started, owns⟩
  · exact ⟨started, fun id inside => owns id (within inside)⟩

theorem construct_leads (given : Construction) (reached : Reached start subjects registry) :
    Leads given.symbol registry (fun id => Reached start (id :: subjects)) (Reached start subjects) := by
  obtain ⟨returned, failed⟩ := leads (List.Subset.refl _) (construct_separate given) reached
  refine ⟨fun id after run => ?_, failed⟩
  obtain ⟨_, _, _, alike⟩ := Construction.symbol_tracks rfl rfl run
  obtain ⟨started, owns⟩ := returned id after run
  exact ⟨started, List.forall_mem_cons.mpr ⟨alike.stands.1, owns⟩⟩

theorem clone_leads (inside : id ∈ subjects) (reached : Reached start subjects registry) :
    Leads (clone id) registry (fun copy => Reached start (copy :: subjects)) (Reached start subjects) := by
  obtain ⟨plain, entry, _⟩ := reached.2 id inside
  obtain ⟨entry, given⟩ := Option.isSome_iff_exists.mp entry
  refine .step rfl ?_
  rw [plain]
  refine .step rfl ?_
  rw [given]
  refine .bind (construct_leads ⟨_, _, ⟨_, _⟩, _, _, _⟩ reached) fun copy between reached => ?_
  have merged := merge_separate copy (List.mem_cons_of_mem copy inside)
  refine .bind (leads (List.subset_cons_self ..) merged reached) fun _ between reached => .step rfl ?_
  refine .bind (leads (List.subset_cons_self ..) (change_framed fun _ => rfl) reached) ?_
  exact fun _ _ reached => .pure reached

end Separate

/-! Histories -/

inductive Operation where
  | construct (given : Construction)
  | declare (id : SymbolId) (specification : Option Specification) (arguments : List String)
    (scopeName : String)
  | merge (id other : SymbolId)
  | clone (id : SymbolId)

namespace Operation

def operands : Operation → List SymbolId
  | construct _ => []
  | declare id .. | clone id => [id]
  | merge id other => [id, other]

def perform : Operation → RegistryM (List SymbolId)
  | construct given => do return [← given.symbol]
  | declare id specification arguments scopeName => do
    loadDeclaration id specification arguments scopeName
    return []
  | merge id other => do
    Registry.merge id other
    return []
  | clone id => do return [← Registry.clone id]

open Separate

theorem perform_leads {start : Registry} (operation : Operation) (inside : operation.operands ⊆ subjects)
    (reached : Reached start subjects registry) :
    Leads operation.perform registry (fun added => Reached start (added ++ subjects))
      (Reached start subjects) := by
  cases operation with
  | construct given => exact (construct_leads given reached).bind fun _ _ reached => .pure reached
  | declare id =>
    have advances := loadDeclaration_separate (inside List.mem_cons_self)
    exact (leads (List.Subset.refl _) (advances ..) reached).bind fun _ _ reached => .pure reached
  | merge id other =>
    have advances := merge_separate id (inside (List.mem_cons_of_mem id List.mem_cons_self))
    exact (leads (List.Subset.refl _) advances reached).bind fun _ _ reached => .pure reached
  | clone id =>
    exact (clone_leads (inside List.mem_cons_self) reached).bind fun _ _ reached => .pure reached

end Operation

structure History where
  registry : Registry
  symbols : List SymbolId

namespace History

/-- The history goes on with an operation on symbols that there are. One that fails leaves what it
has changed. -/
def next (history : History) (operation : Operation) : History :=
  if operation.operands ⊆ history.symbols then
    match operation.perform.run history.registry with
    | (.ok added, registry) => ⟨registry, added ++ history.symbols⟩
    | (.error _, registry) => ⟨registry, history.symbols⟩
  else history

theorem next_reached {start : Registry} {history : History} (operation : Operation)
    (reached : Reached start history.symbols history.registry) :
    Reached start (history.next operation).symbols (history.next operation).registry := by
  unfold next
  split
  · next inside =>
    obtain ⟨returned, failed⟩ := operation.perform_leads inside reached
    rcases run : operation.perform.run history.registry with ⟨fault | added, registry⟩
    · exact failed fault registry run
    · exact returned added registry run
  · exact reached

/-- What was done with other symbols does not show in a new one. -/
theorem construction_unaffected (store : Store) (operations : List Operation) (given : Construction) :
    given.result (operations.foldl next ⟨{ store }, []⟩).registry = given.result { store } := by
  let start : Registry := { store }
  have reached : ∀ history : History, Reached start history.symbols history.registry →
      Reached start (operations.foldl next history).symbols (operations.foldl next history).registry := by
    induction operations with
    | nil => exact fun _ reached => reached
    | cons operation _ ih => exact fun history reached => ih _ (next_reached operation reached)
  obtain ⟨separate, _⟩ := reached ⟨start, []⟩ ⟨refl_of (Separate []) start, nofun⟩
  have kept := separate nofun
  exact Construction.result_eq kept.store kept.initial

end History

end Registry

end ParallelFortran
