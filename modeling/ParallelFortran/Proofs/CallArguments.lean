import ParallelFortran.Proofs.ArgumentText
import ParallelFortran.Proofs.CodeText
import ParallelFortran.Proofs.PreparedCalls

/-! The arguments of a call and those of the header of the routine that is called: the symbols that
the routine needs in addition come first, and behind them stand the arguments of the source. -/

namespace ParallelFortran

open Xml List
open Text (Shows)
open Text.Letters (Tight Whole argumentsIn)

variable {callee : RoutineId}

theorem Region.call_of_callee? {region : Region} (called : region.callee? = some callee) :
    ∃ lines passed, region = .call lines (some callee) passed := by
  cases region with
  | call lines known passed =>
    cases called
    exact ⟨lines, passed, rfl⟩
  | _ => cases called

theorem mem_regionCallees {routine : Routine} :
    callee ∈ Work.regionCallees routine ↔ ∃ body, routine.body = some body ∧
      ∃ region ∈ body.regions, ∃ part ∈ region.parts, part.callee? = some callee := by
  cases found : routine.body with
  | none => simp [Work.regionCallees, found]
  | some body => simp [Work.regionCallees, found, Region.callees]

namespace Session

def requiredArguments (session : Session) (id : RoutineId) : List SymbolId :=
  match (session.routine id).body with
  | none => []
  | some body => (body.additionalArguments.getD []).filter fun symbol =>
    Work.isPassed body (session.symbol symbol)

variable {id : RoutineId} {body : RoutineBody}

theorem requiredArguments_eq {session : Session} (found : (session.routine id).body = some body) :
    session.requiredArguments id = (body.additionalArguments.getD []).filter fun symbol =>
      Work.isPassed body (session.symbol symbol) := by
  rw [requiredArguments, found]

variable {prepared state : Session}

section

variable (follows : Steady prepared state)

include follows

theorem Steady.requiredArguments (known : Work.KnowsArguments prepared id) :
    state.requiredArguments id = prepared.requiredArguments id := by
  obtain ⟨body, ids, found, arguments, inside⟩ := known
  obtain ⟨symbols, current⟩ := follows.body found
  rw [requiredArguments_eq found, requiredArguments_eq current, arguments]
  refine filter_congr fun symbol member => ?_
  have same := follows.registry.identity symbol (inside symbol member)
  simp only [Symbol.identity, Symbol.Identity.mk.injEq] at same
  simp [Work.isPassed, RoutineBody.uses, Session.symbol, same]

theorem Steady.arguments (id : RoutineId) :
    (state.routine id).arguments = (prepared.routine id).arguments := by
  have same := congrArg Routine.arguments (follows.routine id)
  exact same

theorem Steady.name (id : RoutineId) : (state.routine id).name = (prepared.routine id).name := by
  have same := congrArg Routine.name (follows.routine id)
  exact same

end

end Session

variable (registry : Registry) (symbol : SymbolId)

def Registry.NamedAs (name : String) : Prop :=
  (registry.symbol symbol).nameInScope registry.store = .ok name

theorem Registry.nameInScope_named : Ensures (nameInScope symbol) registry fun name after =>
      after = registry ∧ registry.NamedAs symbol name := by
  intro name after run
  obtain ⟨named, same⟩ := Prod.mk.inj run
  exact ⟨same.symm, named⟩

namespace Work

open Session (Steady)

variable {prepared : Session} {id : RoutineId}

theorem nameInScope_ensures (state : Session) (symbol : SymbolId) :
    Ensures (onRegistry (Registry.nameInScope symbol)) state fun name after =>
      after = state ∧ state.registry.NamedAs symbol name :=
  query_ensures (Registry.nameInScope_named state.registry symbol)

theorem newline_not_mem_digits (number : Nat) : '\n' ∉ Nat.toDigits 10 number := by
  intro inside
  exact absurd (Nat.isDigit_of_mem_toDigits (by decide) (by decide) inside) (by decide)

theorem additionalParameterCode_ensures (state : Session) (ids : List SymbolId) :
    Ensures (additionalParameterCode ids) state fun text after => after = state ∧
      ∃ items : List (String × String), (∀ item ∈ items, '\n' ∉ item.2.toList) ∧
        Forall₂ (fun symbol item => state.registry.NamedAs symbol item.1) ids items ∧
        text = if items.isEmpty then "" else
          "&\n&" ++ Text.join "&, " (items.map fun item => item.1 ++ " &" ++ item.2 ++ "\n") := by
  refine .reading (.gather (fun symbol text => ∃ item : String × String,
    ('\n' ∉ item.2.toList ∧ state.registry.NamedAs symbol item.1) ∧
      text = item.1 ++ " &" ++ item.2 ++ "\n") fun symbol => ?_) fun texts written => .pure ⟨rfl, ?_⟩
  · refine .reading (nameInScope_ensures state symbol) fun name named => ?_
    refine (kindNumber_advances symbol).looked fun number => .pure ⟨rfl, ?_⟩
    refine ⟨(name, " !additional type " ++ toString number ++ " symbol inserted by framework "),
      ⟨?_, named⟩, ?_⟩
    · simp [newline_not_mem_digits]
    · apply String.toList_inj.mp
      simp
  · obtain ⟨items, related, rfl⟩ := Ensures.written_of_related written
    have both := (forall₂_and_left items ids).mp related.flip
    exact ⟨items, both.1, both.2.flip, by simp⟩

theorem isEmpty_of_length {α β : Type} {first : List α} {second : List β}
    (same : first.length = second.length) : first.isEmpty = second.isEmpty := by
  cases first <;> cases second <;> simp_all

/-- The arguments of a header that is written in a state: the names that the required symbols have in
that state, and those of the source. -/
structure IsHeader (state : Session) (id : RoutineId) (list : ArgumentText) : Prop where
  additional : Forall₂ state.registry.NamedAs (state.requiredArguments id) list.additional
  given : list.given.length = ((state.routine id).arguments.getD []).length

theorem parameterList_ensures (state : Session) : Ensures (parameterList id) state fun text _ =>
      ∃ list, list.text = text ∧ IsHeader state id list := by
  refine .step (run_get state) (.reading (body_ensures state id) fun body found => ?_)
  rw [← Session.requiredArguments_eq found]
  refine .reading (additionalParameterCode_ensures state _) fun text additional => ?_
  obtain ⟨items, single, named, rfl⟩ := additional
  refine .bind (.map (fun _ => True) (fun _ _ => True) (fun _ _ _ _ _ _ _ => ⟨trivial, trivial⟩)
    trivial) fun names _ ⟨_, counted⟩ => .pure ?_
  refine ⟨.ofHeader items single names, ?_, ?_, counted.length_eq.symm⟩
  · rw [isEmpty_of_length named.length_eq, isEmpty_of_length counted.length_eq]
    rfl
  · exact forall₂_map_right_iff.mpr named

theorem tight_closed {text : String} (some : text.toList ≠ [])
    (begins : ∀ letter ∈ text.toList.head?, Text.isBlank letter = false) :
    Tight (text ++ ")").toList := by
  rw [String.toList_append, show ")".toList = [')'] from rfl]
  refine ⟨fun letter first => ?_, fun letter last => ?_⟩
  · rw [head?_append_of_ne_nil _ some] at first
    exact begins letter first
  · rw [getLast?_concat] at last
    cases last
    decide

variable {state : Session}

theorem headerCode_ensures (follows : Steady prepared state) :
    Ensures (headerCode id) state fun text _ => ∃ list, IsHeader state id list ∧
      Shows text ("subroutine " ++ (prepared.routine id).name ++ "(" ++ list.text ++ ")") := by
  have reads : Advances Eq (parameterList id) := parameterList_advances id
  refine .reading (reads.reading (parameterList_ensures state)) ?_
  rintro _ ⟨list, rfl, header⟩
  refine (body_advances id).looked fun body => ?_
  refine (routineAttributes_firm _ _).steady.onward follows fun attributes between follows => ?_
  refine .step (run_pure _ between) (.pure ⟨list, header, (attributes ++ " ").toList, ['\n'], ?_⟩)
  rw [follows.name id]
  simp

variable {callee : RoutineId}

/-- The name of the symbol that a caller has for another one: the one that is known there by the name
in the scope, or else by the name. -/
def HandedIn (state : Session) (caller : RoutineId) (symbol : SymbolId) (name : String) : Prop :=
  ∃ body symbols key found, (state.routine caller).body = some body ∧ body.symbols = some symbols ∧
    (state.symbol symbol).nameInScopeFor state.store false = .ok key ∧
    (symbols.get? key).or (symbols.get? (state.symbol symbol).name) = some found ∧
    state.registry.NamedAs found name

/-- The arguments of a call that is written in a state: what the caller has for the required symbols in
that state, and those of the source. -/
structure IsCall (state : Session) (caller callee : RoutineId) (list : ArgumentText) : Prop where
  additional : Forall₂ (HandedIn state caller) (state.requiredArguments callee) list.additional
  given : list.given.length = ((state.routine callee).arguments.getD []).length

theorem scopedName_ensures (state : Session) (symbol : SymbolId) :
    Ensures (scopedName symbol) state fun name after =>
      after = state ∧ (state.symbol symbol).nameInScopeFor state.store false = .ok name := by
  intro name after run
  obtain ⟨named, same⟩ := Prod.mk.inj run
  exact ⟨same.symm, named⟩

theorem additionalArgument_ensures {body : RoutineBody} {symbols : Table String SymbolId}
    (known : (state.routine id).body = some body) (filed : body.symbols = some symbols)
    (symbol : SymbolId) : Ensures (additionalArgument symbols symbol) state fun name after =>
      after = state ∧ HandedIn state id symbol name := by
  refine .reading (scopedName_ensures state symbol) fun key named => ?_
  refine .step (run_pure _ state) ?_
  split
  · next found given =>
    refine (nameInScope_ensures state found).weaken ?_
    rintro name _ ⟨same, shown⟩
    exact ⟨same, body, symbols, key, found, known, filed, named, given, shown⟩
  · exact .skip fun _ _ => .throw

theorem symbolsOf_ensures (state : Session) (id : RoutineId) :
    Ensures (symbolsOf id) state fun symbols after => after = state ∧
      ∃ body, (state.routine id).body = some body ∧ body.symbols = some symbols := by
  refine .reading (body_ensures state id) fun body found => ?_
  split
  · next symbols given => exact .pure ⟨rfl, body, found, given⟩
  · exact .throw

theorem sourceArguments_ensures (state : Session) (callee : RoutineId) :
    Ensures (liftM (Session.sourceArguments (state.routine callee)) : Work (List String)) state
      fun arguments after => after = state ∧
        arguments = (state.routine callee).arguments.getD [] := by
  refine .outcome fun arguments loaded => ⟨rfl, ?_⟩
  unfold Session.sourceArguments at loaded
  split at loaded
  · next given same =>
    cases loaded
    rw [same, Option.getD_some]
  · cases loaded

variable {body : RoutineBody}

theorem additionalArguments_ensures (found : (state.routine callee).body = some body) :
    Ensures (additionalArguments callee) state fun ids after =>
      after = state ∧ body.additionalArguments = some ids := by
  refine .step (run_body found) ?_
  split
  · next ids given => exact .pure ⟨rfl, given⟩
  · exact .skip fun _ _ => .throw

theorem additionalArgumentList_ensures (state : Session) (id callee : RoutineId) :
    Ensures (additionalArgumentList id callee) state fun text _ =>
      ∃ names, Forall₂ (HandedIn state id) (state.requiredArguments callee) names ∧
        text = if names.isEmpty then "" else " &\n" ++ Text.join ", &\n&" names ++
          (if ((state.routine callee).arguments.getD []).isEmpty then "" else ", &\n&") := by
  refine .step (run_get state) (.reading (body_ensures state callee) fun body found => ?_)
  refine .reading (additionalArguments_ensures found) fun ids same => ?_
  have required : (ids.filter fun symbol => isPassed body (state.symbol symbol)) =
      state.requiredArguments callee := by
    rw [Session.requiredArguments_eq found, same]
    rfl
  rw [required]
  refine .reading (sourceArguments_ensures state callee) fun arguments loaded => ?_
  split
  · next none =>
    refine .pure ⟨[], ?_, rfl⟩
    rw [isEmpty_iff.mp none]
    exact .nil
  · next some =>
    refine .reading (symbolsOf_ensures state id) fun symbols ⟨own, ownFound, filed⟩ => ?_
    refine .reading (.gather (HandedIn state id) (additionalArgument_ensures ownFound filed))
      fun names handed => .pure ⟨names, handed, ?_⟩
    rw [isEmpty_of_length handed.length_eq] at some
    simp [some, loaded]

theorem argumentCode_ensures (state : Session) (id callee : RoutineId) (template : Option NodeId) :
    Ensures (argumentCode id callee template) state fun arguments _ =>
      arguments.length = ((state.routine callee).arguments.getD []).length := by
  refine .step (run_get state) (.reading (sourceArguments_ensures state callee) fun arguments loaded => ?_)
  split
  · exact .pure (congrArg length loaded)
  · split <;>
      exact .skip fun _ _ => .skip fun _ _ => .skip fun _ _ => .outcome fun texts written =>
        (mapM_eq_ok_iff.mp written).length_eq.symm.trans (congrArg length loaded)

def CalledAs (prepared : Session) (caller callee : RoutineId) (name : String) : Prop :=
  ∃ body names, (prepared.routine caller).body = some body ∧ body.calleeNames = some names ∧
    names.get? (prepared.routine callee).name = some name

theorem calledName_ensures (found : (prepared.routine id).body = some body)
    (follows : Steady prepared state) : Ensures (calledName id callee) state fun name after =>
      after = state ∧ CalledAs prepared id callee name := by
  obtain ⟨symbols, current⟩ := follows.body found
  refine .step (run_body current) ?_
  split
  · exact .throw
  · next names given =>
    refine .step (run_pure _ state) ?_
    rw [follows.name callee]
    split
    · exact .throw
    · next name filed => exact .pure ⟨rfl, body, names, found, given, filed⟩

/-- What can stand between the name and the arguments in a call. -/
def launches : List String :=
  ["", " ", " <<< cugrid, cublock >>>"]

/-- Only the backends change where a call begins, so the symbols have their names from before. -/
theorem callBegin_ensures (state : Session) (calleeName : String) :
    Ensures (callBegin id callee calleeName) state fun text after =>
      (∃ backends, after = { state with backends }) ∧
        ∃ front, ∃ launch ∈ launches, text = front ++ ("call " ++ calleeName ++ launch) := by
  have plain : Ensures (pure ("call " ++ calleeName) : Work String) state fun text after =>
      (∃ backends, after = { state with backends }) ∧
        ∃ front, ∃ launch ∈ launches, text = front ++ ("call " ++ calleeName ++ launch) :=
    .pure ⟨⟨state.backends, rfl⟩, "", "", by simp [launches], by simp⟩
  refine .step (run_get state) ?_
  split
  · exact plain
  · next calleeBody _ =>
    refine (isForeign_advances id callee).looked fun _ => ?_
    split
    · exact plain
    · split
      · exact .throw
      · have prepares : ∀ template kernel, Ensures (prepareCall calleeBody.backend template kernel)
            state fun _ after => ∃ backends, after = { state with backends } := by
          intro template kernel
          refine .step (run_backend state _) (.step (run_modify _ state) ?_)
          exact .step (run_pure _ _) (.outcome fun _ _ => ⟨_, rfl⟩)
        refine .bind (prepares _ _) fun preparation after changed => .pure ⟨changed, preparation ++ " ",
          " " ++ (state.backend calleeBody.backend).kernelCallConfig, ?_, ?_⟩
        · simp only [Backend.kernelCallConfig, launches]
          split <;> simp
        · apply String.toList_inj.mp
          simp

theorem callCode_ensures (found : (prepared.routine id).body = some body)
    (known : KnowsArguments prepared callee) (follows : Steady prepared state)
    (template : Option NodeId) (isMarked : Bool) (passed : Option (Table String SymbolId)) :
    Ensures (callCode id template isMarked (some callee) passed) state fun text _ =>
      ∃ list, ∃ name, ∃ launch ∈ launches, IsCall state id callee list ∧
        CalledAs prepared id callee name ∧
        Shows text ("call " ++ name ++ launch ++ "(" ++ list.text ++ ")") := by
  refine .reading (calledName_ensures found follows) fun calleeName called => ?_
  refine (packing_advances id callee calleeName).looked fun packed => ?_
  refine .bind (callBegin_ensures state calleeName) ?_
  rintro _ _ ⟨⟨backends, rfl⟩, front, launch, chosen, rfl⟩
  have analysed : (Session.routine { state with backends } callee).body.isSome = true := by
    obtain ⟨body, _, found, _⟩ := known
    obtain ⟨symbols, current⟩ := follows.body found
    exact congrArg Option.isSome current
  refine .step (run_pure _ _) ?_
  rw [if_pos analysed]
  have lists : Advances Eq (additionalArgumentList id callee) := additionalArgumentList_advances id callee
  have writes : Advances Eq (argumentCode id callee template) := argumentCode_advances id callee template
  refine .reading (lists.reading (additionalArgumentList_ensures _ id callee)) ?_
  rintro _ ⟨names, handed, rfl⟩
  refine .reading (writes.reading (argumentCode_ensures _ id callee template)) fun arguments counted => ?_
  refine .skip fun behind _ => .pure ⟨.ofCall names arguments, calleeName, launch, chosen,
    ⟨handed, counted⟩, called, Text.Shows.framed ?_ (tight_closed ?_ ?_) isMarked .call⟩
  · refine ⟨(packed ++ front).toList, '\n' :: behind.toList, ?_⟩
    rw [← isEmpty_of_length counted]
    simp [ArgumentText.ofCall]
  · simp
  · simp
    decide

/-- The arguments of a header and those of a call are as many, and both are read as they were given:
first what the routine requires in addition, and then the arguments of the source. -/
structure Agreement (heading calling : Session) (caller callee : RoutineId)
    (header call : ArgumentText) : Prop where
  parameters : IsHeader heading callee header
  handed : IsCall calling caller callee call
  required : calling.requiredArguments callee = heading.requiredArguments callee
  additional : call.additional.length = header.additional.length
  given : call.given.length = header.given.length
  arguments : call.arguments.length = header.arguments.length
  headerRead : (∀ argument ∈ header.arguments, Whole argument.toList) →
    argumentsIn header.text.toList = header.arguments.map String.toList
  callRead : (∀ argument ∈ call.arguments, Whole argument.toList) →
    argumentsIn call.text.toList = call.arguments.map String.toList

theorem agreement_of_parts {heading calling : Session} {caller : RoutineId} {header call : ArgumentText}
    (known : KnowsArguments prepared callee) (headed : Steady prepared heading)
    (called : Steady prepared calling) (parameters : IsHeader heading callee header)
    (handed : IsCall calling caller callee call) :
    Agreement heading calling caller callee header call := by
  have required : calling.requiredArguments callee = heading.requiredArguments callee := by
    rw [called.requiredArguments known, headed.requiredArguments known]
  have additional := handed.additional.length_eq.symm.trans
    ((congrArg length required).trans parameters.additional.length_eq)
  have given : call.given.length = header.given.length := by
    rw [handed.given, parameters.given, called.arguments, headed.arguments]
  refine ⟨parameters, handed, required, additional, given, ?_, header.read, call.read⟩
  rw [ArgumentText.arguments, ArgumentText.arguments, length_append, length_append,
    additional, given]

def relayStore : Store where
  nodes := #[
    ⟨.document, ⟨0⟩, none, #[⟨1⟩]⟩,
    ⟨.element "callGraph" [], ⟨0⟩, none, #[⟨2⟩, ⟨3⟩, ⟨4⟩, ⟨5⟩, ⟨6⟩, ⟨7⟩]⟩,
    ⟨.element "domainDependantTemplate" [("id", "S")], ⟨0⟩, none, #[]⟩,
    ⟨.element "domainDependantTemplate" [("id", "R")], ⟨0⟩, none, #[⟨15⟩, ⟨18⟩, ⟨24⟩]⟩,
    ⟨.element "parallelRegionTemplate" [], ⟨0⟩, none, #[⟨21⟩, ⟨18⟩]⟩,
    ⟨.element "module" [("name", "m")], ⟨0⟩, none, #[]⟩,
    ⟨.element "routine" [("name", "relay"), ("parallelRegionPosition", "inside"), ("module", "m")],
      ⟨0⟩, none, #[⟨8⟩]⟩,
    ⟨.element "routine" [("name", "hfk0_relay"), ("parallelRegionPosition", "within"),
      ("module", "m")], ⟨0⟩, none, #[⟨8⟩]⟩,
    ⟨.element "domainDependants" [], ⟨0⟩, none, #[⟨9⟩, ⟨12⟩]⟩,
    ⟨.element "templateRelation" [("id", "S")], ⟨0⟩, none, #[⟨10⟩]⟩,
    ⟨.element "entry" [("declarationPrefix", "real(8)")], ⟨0⟩, none, #[⟨11⟩]⟩,
    ⟨.text "s", ⟨0⟩, none, #[]⟩,
    ⟨.element "templateRelation" [("id", "R")], ⟨0⟩, none, #[⟨13⟩]⟩,
    ⟨.element "entry" [("declarationPrefix", "real(8)")], ⟨0⟩, none, #[⟨14⟩]⟩,
    ⟨.text "r", ⟨0⟩, none, #[]⟩,
    ⟨.element "domName" [], ⟨0⟩, none, #[⟨16⟩]⟩,
    ⟨.element "entry" [], ⟨0⟩, none, #[⟨17⟩]⟩,
    ⟨.text "x", ⟨0⟩, none, #[]⟩,
    ⟨.element "domSize" [], ⟨0⟩, none, #[⟨19⟩]⟩,
    ⟨.element "entry" [], ⟨0⟩, none, #[⟨20⟩]⟩,
    ⟨.text "n", ⟨0⟩, none, #[]⟩,
    ⟨.element "domName" [], ⟨0⟩, none, #[⟨22⟩]⟩,
    ⟨.element "entry" [], ⟨0⟩, none, #[⟨23⟩]⟩,
    ⟨.text "i", ⟨0⟩, none, #[]⟩,
    ⟨.element "attribute" [], ⟨0⟩, none, #[⟨25⟩]⟩,
    ⟨.element "entry" [], ⟨0⟩, none, #[⟨26⟩]⟩,
    ⟨.text "autoDom", ⟨0⟩, none, #[]⟩]

def relaySymbol (name : String) (template entry scope : NodeId) (isAutoDom : Bool) : Symbol where
  name
  stage := .scope
  template := some template
  entry := some entry
  scope := some scope
  declaration := some "real(8)"
  scopedName := some name
  isAutoDom

def relayCaller : RoutineBody where
  backend := ⟨0⟩
  node := ⟨6⟩
  symbols := some (.ofList [("r", ⟨0⟩), ("s", ⟨1⟩)])
  callees := [⟨1⟩]
  knowsProgram := true
  userNames := some ["r", "s"]
  regions := [
    .specification [⟨"real(8) :: r", [⟨0⟩]⟩, ⟨"real(8) :: s", [⟨1⟩]⟩] [] none none,
    .plain [⟨"s = 1", [⟨1⟩]⟩],
    .call [] (some ⟨1⟩) none]

def relayKernel : RoutineBody where
  backend := ⟨0⟩
  node := ⟨7⟩
  symbols := some (.ofList [("r", ⟨2⟩), ("s", ⟨3⟩)])
  knowsProgram := true
  regionTemplates := some [⟨4⟩]
  userNames := some ["r", "s"]
  usedNames := ["r", "s"]
  regions := [
    .specification [⟨"real(8) :: r", [⟨2⟩]⟩, ⟨"real(8) :: s", [⟨3⟩]⟩] [] none none,
    .parallel (some ⟨4⟩) [.plain [⟨"a(i) = r", [⟨2⟩]⟩, ⟨"a(i) = a(i) + s", [⟨3⟩]⟩]]]

def relay : Session where
  registry := {
    store := relayStore
    symbols := #[relaySymbol "r" ⟨3⟩ ⟨13⟩ ⟨6⟩ true, relaySymbol "s" ⟨2⟩ ⟨10⟩ ⟨6⟩ false,
      relaySymbol "r" ⟨3⟩ ⟨13⟩ ⟨7⟩ true, relaySymbol "s" ⟨2⟩ ⟨10⟩ ⟨7⟩ false]
    marks := 1 }
  routines := #[
    { name := "relay", moduleName := some "m", arguments := some ["a"], body := some relayCaller },
    { name := "hfk0_relay", moduleName := some "m", arguments := some ["a"]
      body := some relayKernel }]
  modules := #[{ (default : Module) with generated := [⟨0⟩, ⟨1⟩] }]
  backends := #[.new .cuda []]
  moduleNodes := .ofList [("m", ⟨5⟩)]
  analysis := .ofList [("relay", .empty)]
  moduleSymbols := .ofList [("m", .empty)]

theorem relay_written : ((moduleCode ⟨0⟩).run relay).1.toOption.isSome = true := by
  decide +kernel

end Work

end ParallelFortran
