import ParallelFortran.Proofs.SymbolFrame

/-! What a routine allocates on the device where its declarations end, it releases at each of its
exits. The code at both places is generated from the same states of the symbols: where names are
switched to the device and back, the state comes to what it was. -/

namespace ParallelFortran

open Xml

inductive DeviceStatement where
  | allocate
  | copyIn
  | clear
  | copyBack
  | deallocate
  deriving DecidableEq

namespace Symbol

def onHost (symbol : Symbol) : Symbol :=
  { symbol with usesDeviceName := false }

/-- Where data of an array comes to the device and is not there already, its name on the device is in
use, unless it is a local one. -/
def Ready (store : Store) (symbol : Symbol) : Prop :=
  Backend.needsCopy symbol = true → symbol.usesDeviceName = true ∨
    symbol.isLocal = true ∧ symbol.declarationKind store ≠ .ok .moduleArray

end Symbol

namespace DeviceStatement

def text (store : Store) (symbol : Symbol) : DeviceStatement → Outcome String
  | allocate => do
    return (← Backend.arrayCheck symbol none) ++ "\nallocate(" ++ (← symbol.allocationText store) ++
      ")\nend if\n"
  | copyIn => do
    return (← Backend.arrayCheck symbol none) ++ "\n" ++ (← symbol.selectionText store) ++ " = " ++
      (← symbol.onHost.selectionText store) ++ "\nend if\n"
  | clear => do return (← symbol.selectionText store) ++ " = 0\n"
  | copyBack => do
    return (← Backend.arrayCheck symbol none) ++ "\n" ++ (← symbol.onHost.selectionText store) ++
      " = " ++ (← symbol.selectionText store) ++ "\nend if\n"
  | deallocate => do
    return (← Backend.arrayCheck symbol none) ++ "\ndeallocate(" ++ (← symbol.nameInScope store) ++
      ")\nend if\n"

def code (store : Store) (symbol : Symbol) : List DeviceStatement → Outcome String
  | [] => .ok ""
  | statement :: rest => do return (← statement.text store symbol) ++ (← code store symbol rest)

variable {store : Store} {symbol : Symbol}

theorem code_append {first second : List DeviceStatement}
    {text rest : String} (written : code store symbol first = .ok text)
    (behind : code store symbol second = .ok rest) :
    code store symbol (first ++ second) = .ok (text ++ rest) := by
  induction first generalizing text with
  | nil =>
    cases written
    exact behind
  | cons statement statements ih =>
    obtain ⟨head, given, written⟩ := parts_of_bind_eq_ok written
    obtain ⟨tail, others, written⟩ := parts_of_bind_eq_ok written
    cases written
    rw [List.cons_append, code, given, ih others, String.append_assoc]
    rfl

theorem code_single {statement : DeviceStatement} {text : String}
    (written : statement.text store symbol = .ok text) :
    code store symbol [statement] = .ok text := by
  rw [code, written]
  exact congrArg Except.ok String.append_empty

section

variable {check host device : String}

theorem code_clear (selected : symbol.selectionText store = .ok device) :
    code store symbol [.clear] = .ok (device ++ " = 0\n") := by
  apply code_single
  rw [text, selected]
  rfl

variable (checked : Backend.arrayCheck symbol none = .ok check)
  (onHost : symbol.onHost.selectionText store = .ok host)
  (onDevice : symbol.selectionText store = .ok device)

include checked onHost onDevice

theorem code_copyIn : code store symbol [.copyIn] =
    .ok (check ++ "\n" ++ device ++ " = " ++ host ++ "\nend if\n") := by
  apply code_single
  rw [text, checked, onHost, onDevice]
  rfl

theorem code_copyBack : code store symbol [.copyBack] =
    .ok (check ++ "\n" ++ host ++ " = " ++ device ++ "\nend if\n") := by
  apply code_single
  rw [text, checked, onHost, onDevice]
  rfl

end

/-- The code for an array where the declarations end, and the code at an exit. -/
structure Balanced (store : Store) (symbol : Symbol) (entry exit : List DeviceStatement) : Prop where
  released : exit.count .deallocate = entry.count .allocate
  once : entry.count .allocate ≤ 1
  named : .allocate ∈ entry → ∃ name sizes, symbol.nameInScope store = .ok name ∧
    symbol.allocationText store = .ok (name ++ "(" ++ sizes ++ ")")
  filled : .allocate ∈ entry → entry = [.allocate, .copyIn] ∨ entry = [.allocate, .clear]
  returned : .copyIn ∈ entry →
    symbol.intent = some "inout" ∨ symbol.declarationKind store = .ok .moduleArray →
    exit = [.copyBack] ∨ exit = [.copyBack, .deallocate]

end DeviceStatement

namespace Backend

open Registry DeviceStatement

variable {context : DeviceContext} {ids : List SymbolId} {registry : Registry} {store : Store}
    {symbol : Symbol} {id : SymbolId} {isCallingKernel : Bool} {routine : String}

/-! Which statements there are -/

section

variable (isCallingKernel : Bool) (symbol : Symbol)

def isNeeded : Bool :=
  isCallingKernel || symbol.isTransferred

def isReserved : Bool :=
  isNeeded isCallingKernel symbol && symbol.hasUndecidedSizes && hasKnownSizes symbol

def reserving (statement : DeviceStatement) : List DeviceStatement :=
  if isReserved isCallingKernel symbol then [statement] else []

end

def exchanges (store : Store) (symbol : Symbol) (intents : List String) : Bool :=
  (isExchanged store intents symbol).toOption == some true

section

variable (isCallingKernel : Bool) (store : Store) (symbol : Symbol)

def fillingOf : List DeviceStatement :=
  if !isNeeded isCallingKernel symbol then []
  else if !exchanges store symbol ["in", "inout"] then [.clear]
  else if hasKnownSizes symbol then [.copyIn] else []

def returnOf : List DeviceStatement :=
  if exchanges store symbol ["out", "inout"] && isNeeded isCallingKernel symbol &&
    hasKnownSizes symbol then [.copyBack] else []

def entryCode : List DeviceStatement :=
  if !needsCopy symbol then []
  else reserving isCallingKernel symbol .allocate ++ fillingOf isCallingKernel store symbol

def exitCode : List DeviceStatement :=
  if !needsCopy symbol then []
  else returnOf isCallingKernel store symbol ++ reserving isCallingKernel symbol .deallocate

end

theorem exchanges_eq {intents : List String} {result : Bool}
    (given : isExchanged store intents symbol = .ok result) :
    exchanges store symbol intents = result := by
  rw [exchanges, given]
  cases result <;> rfl

theorem exchanges_back
    (goes : symbol.intent = some "inout" ∨ symbol.declarationKind store = .ok .moduleArray) :
    exchanges store symbol ["out", "inout"] = true := by
  apply exchanges_eq
  unfold isExchanged
  split
  · rfl
  · next lacks =>
    rcases goes with intent | kind
    · exact absurd (by simp [Symbol.hasIntent, intent]) lacks
    · rw [kind]
      rfl

variable {text : String}

theorem allocationText_named (filled : symbol.domains.value.isEmpty = false)
    (written : symbol.allocationText store = .ok text) :
    ∃ name sizes, symbol.nameInScope store = .ok name ∧ text = name ++ "(" ++ sizes ++ ")" := by
  unfold Symbol.allocationText at written
  split at written
  · cases written
  · obtain ⟨name, given, written⟩ := parts_of_bind_eq_ok written
    dsimp only at written
    rw [if_neg (by simp [filled])] at written
    obtain ⟨ordering, _, written⟩ := parts_of_bind_eq_ok written
    refine ⟨name, ?_⟩
    split at written
    · cases written
    · split at written
      · cases written
        refine ⟨ordering.name ++ "(" ++ Text.join "," (symbol.domains.value.map Domain.size) ++ ")",
          given, ?_⟩
        simp only [String.append_assoc]
        rfl
      · exact ⟨_, given, (Except.ok.inj written).symm⟩

theorem balanced_of_code
    (written : code store symbol (entryCode isCallingKernel store symbol) = .ok text) :
    Balanced store symbol (entryCode isCallingKernel store symbol)
      (exitCode isCallingKernel store symbol) := by
  rw [entryCode, exitCode] at *
  cases copied : needsCopy symbol with
  | false => constructor <;> simp
  | true =>
  have filled : symbol.domains.value.isEmpty = false := by
    simp [needsCopy] at copied
    simpa using copied.1.1
  rw [copied] at written
  have goes := @exchanges_back store symbol
  have named : isReserved isCallingKernel symbol = true → ∃ name sizes,
      symbol.nameInScope store = .ok name ∧
        symbol.allocationText store = .ok (name ++ "(" ++ sizes ++ ")") := by
    intro reserved
    rw [reserving, if_pos reserved] at written
    obtain ⟨_, written, _⟩ := parts_of_bind_eq_ok written
    obtain ⟨_, _, written⟩ := parts_of_bind_eq_ok written
    obtain ⟨_, allocated, _⟩ := parts_of_bind_eq_ok written
    obtain ⟨name, sizes, given, rfl⟩ := allocationText_named filled allocated
    exact ⟨name, sizes, given, allocated⟩
  unfold reserving fillingOf returnOf
  rw [isReserved] at named ⊢
  generalize isNeeded isCallingKernel symbol = needed, hasKnownSizes symbol = known,
    symbol.hasUndecidedSizes = undecided, exchanges store symbol ["in", "inout"] = isExchangedIn,
    exchanges store symbol ["out", "inout"] = isExchangedOut at named goes ⊢
  constructor
  · cases needed <;> cases known <;> cases undecided <;> cases isExchangedIn <;>
      cases isExchangedOut <;> rfl
  · cases needed <;> cases known <;> cases undecided <;> cases isExchangedIn <;> decide
  · intro member
    apply named
    revert member
    cases needed <;> cases known <;> cases undecided <;> cases isExchangedIn <;> decide
  · cases needed <;> cases known <;> cases undecided <;> cases isExchangedIn <;> decide
  · intro member exchanged
    rw [goes exchanged]
    revert member
    cases needed <;> cases known <;> cases undecided <;> cases isExchangedIn <;> decide

def SameData (before after : Registry) : Prop :=
  ∃ log, after = { before with log }

def changed (registry : Registry) (id : SymbolId) (update : Symbol → Symbol) : Registry :=
  { registry with symbols := registry.symbols.modify id.index update }

theorem symbol_changed (registry : Registry) (id other : SymbolId) (update : Symbol → Symbol) :
    (changed registry id update).symbol other =
      if id.index = other.index ∧ other.index < registry.symbols.size then
        update (registry.symbol other)
      else registry.symbol other :=
  Arena.getD_modify registry.symbols id.index other.index update default

theorem changed_changed (registry : Registry) (id : SymbolId) {first second : Symbol → Symbol}
    (back : second (first (registry.symbol id)) = registry.symbol id) :
    changed (changed registry id first) id second = registry := by
  have same : registry.symbols.modify id.index (fun symbol => second (first symbol)) =
      registry.symbols := Arena.modify_eq_self back
  rw [changed, changed, Arena.modify_modify, same]

theorem known_of_needsCopy (copied : needsCopy (registry.symbol id) = true) :
    id.index < registry.symbols.size := by
  by_contra beyond
  rw [Registry.symbol, Array.getElem?_eq_none (Nat.le_of_not_lt beyond)] at copied
  cases copied

theorem ready_usesDeviceName (intents : List String) (ready : symbol.Ready store)
    (copied : needsCopy symbol = true) (exchanging : "local" ∉ intents ∧ "" ∉ intents)
    (exchanged : isExchanged store intents symbol = .ok true) : symbol.usesDeviceName = true := by
  rcases ready copied with uses | ⟨isLocal, kind⟩
  · exact uses
  · exfalso
    unfold isExchanged at exchanged
    split at exchanged
    · next has =>
      obtain ⟨intent, member, same⟩ := List.any_eq_true.mp has
      rw [beq_iff_eq] at same
      rw [Symbol.isLocal, same] at isLocal
      rcases (Bool.or_eq_true _ _).mp isLocal with empty | same
      · have blank : intent = "" := by simpa [isGiven] using empty
        exact exchanging.2 (blank ▸ member)
      · exact exchanging.1 (Option.some.inj (beq_iff_eq.mp same) ▸ member)
    · obtain ⟨found, given, exchanged⟩ := parts_of_bind_eq_ok exchanged
      exact kind (given.trans (congrArg _ (beq_iff_eq.mp (Except.ok.inj exchanged))))

/-! The code at the two places -/

def WritesFor (action : SymbolId → RegistryM String)
    (statements : Store → Symbol → List DeviceStatement) : Prop :=
  ∀ (registry : Registry) (id : SymbolId), needsCopy (registry.symbol id) = true →
    (registry.symbol id).Ready registry.store → Ensures (action id) registry fun text after =>
      SameData registry after ∧ code registry.store (registry.symbol id)
        (statements registry.store (registry.symbol id)) = .ok text

theorem skips_iff {first second third : Bool} :
    (!first || !second || !third) = true ↔ (first && second && third) = false := by
  cases first <;> cases second <;> simp

variable {statement : DeviceStatement}

theorem reserving_ensures {action : RegistryM String}
    (written : Ensures action registry fun text after =>
      SameData registry after ∧ statement.text store symbol = .ok text) :
    Ensures (if (!(isCallingKernel || symbol.isTransferred) || !symbol.hasUndecidedSizes ||
      !hasKnownSizes symbol) = true then pure "" else action) registry fun text after =>
      SameData registry after ∧
        code store symbol (reserving isCallingKernel symbol statement) = .ok text := by
  rw [reserving, isReserved, isNeeded]
  split
  · next skipped =>
    rw [skips_iff.mp skipped]
    exact .pure ⟨⟨_, rfl⟩, rfl⟩
  · next needed =>
    rw [skips_iff, Bool.not_eq_false] at needed
    rw [needed]
    exact written.weaken fun _ _ ⟨same, text⟩ => ⟨same, code_single text⟩

theorem allocation_writes : WritesFor (allocation isCallingKernel routine)
    fun _ symbol => reserving isCallingKernel symbol .allocate := by
  intro registry id _ _
  refine .step rfl (reserving_ensures ?_)
  split
  on_goal 1 => refine .step rfl ?_
  all_goals refine .known fun check checked => .step (run_get _) ?_
  all_goals
    cases given : (registry.symbol id).allocationText registry.store with
    | error fault => exact .throw
    | ok text =>
      refine .pure ⟨⟨_, rfl⟩, ?_⟩
      rw [DeviceStatement.text, checked, given]
      rfl

theorem deallocation_writes : WritesFor (deallocation isCallingKernel)
    fun _ symbol => reserving isCallingKernel symbol .deallocate := by
  intro registry id _ _
  refine .step rfl (reserving_ensures ?_)
  refine .known fun check checked => .step (run_get registry) (.known fun name named => ?_)
  refine .pure ⟨⟨_, rfl⟩, ?_⟩
  rw [DeviceStatement.text, checked, named]
  rfl

theorem ask_reading {α : Type} (query : Store → Symbol → Outcome α) :
    Ensures (ask id query) registry fun value after =>
      after = registry ∧ query registry.store (registry.symbol id) = .ok value := by
  intro value after run
  exact ⟨(Prod.mk.inj run).2.symm, (Prod.mk.inj run).1⟩

theorem bothSelections_ensures (copied : needsCopy (registry.symbol id) = true)
    (uses : (registry.symbol id).usesDeviceName = true) :
    Ensures (bothSelections id) registry fun selections after => after = registry ∧
      (registry.symbol id).onHost.selectionText registry.store = .ok selections.1 ∧
      (registry.symbol id).selectionText registry.store = .ok selections.2 := by
  have known := known_of_needsCopy copied
  refine .step rfl (.bind (ask_reading _) ?_)
  rintro host _ ⟨rfl, onHost⟩
  change Symbol.selectionText _ ((changed registry id Symbol.onHost).symbol id) = _ at onHost
  rw [symbol_changed, if_pos ⟨rfl, known⟩] at onHost
  refine .step rfl (.bind (ask_reading _) ?_)
  rintro device _ ⟨rfl, onDevice⟩
  have back : changed (changed registry id Symbol.onHost) id
      (fun symbol => { symbol with usesDeviceName := true }) = registry :=
    changed_changed registry id (by rw [← uses]; rfl)
  change Symbol.selectionText _ (Registry.symbol (changed (changed registry id Symbol.onHost) id
      (fun symbol => { symbol with usesDeviceName := true })) id) = _ at onDevice
  rw [back] at onDevice
  exact .pure ⟨back, onHost, onDevice⟩

theorem filling_writes :
    WritesFor (filling isCallingKernel routine) (fillingOf isCallingKernel) := by
  intro registry id copied ready
  refine .step rfl (.step (run_get registry) (.known fun isExchangedIn exchanged => ?_))
  rw [fillingOf, isNeeded, exchanges_eq exchanged]
  split
  · next goesIn =>
    obtain ⟨rfl, needed⟩ := (Bool.and_eq_true _ _).mp goesIn
    have uses := ready_usesDeviceName _ ready copied (by decide) exchanged
    split
    · next unknown =>
      rw [needed, show hasKnownSizes (registry.symbol id) = false by simpa using unknown]
      exact .pure ⟨⟨_, rfl⟩, rfl⟩
    · next known =>
      refine .step rfl (.known fun check checked => .bind (bothSelections_ensures copied uses) ?_)
      rintro ⟨host, device⟩ _ ⟨rfl, onHost, onDevice⟩
      rw [needed, show hasKnownSizes (registry.symbol id) = true by simpa using known]
      exact .pure ⟨⟨_, rfl⟩, code_copyIn checked onHost onDevice⟩
  · next stays =>
    split
    · next needed =>
      have absent : isExchangedIn = false := by simpa [needed] using stays
      rw [needed, absent]
      refine .step rfl (.step rfl (.known fun device selected => ?_))
      exact .pure ⟨⟨_, rfl⟩, code_clear selected⟩
    · next needless =>
      rw [Bool.eq_false_iff.mpr needless]
      exact .pure ⟨⟨_, rfl⟩, rfl⟩

theorem copyBack_writes : WritesFor (copyBack isCallingKernel) (returnOf isCallingKernel) := by
  intro registry id copied ready
  refine .step rfl (.step (run_get registry) (.known fun isExchangedOut exchanged => ?_))
  rw [returnOf, isNeeded, exchanges_eq exchanged]
  split
  · next skipped =>
    rw [skips_iff.mp skipped]
    exact .pure ⟨⟨_, rfl⟩, rfl⟩
  · next goesOut =>
    rw [skips_iff, Bool.not_eq_false] at goesOut
    have uses := ready_usesDeviceName ["out", "inout"] ready copied (by decide) (by
      rw [exchanged, ((Bool.and_eq_true _ _).mp ((Bool.and_eq_true _ _).mp goesOut).1).1])
    refine .known fun check checked => .bind (bothSelections_ensures copied uses) ?_
    rintro ⟨host, device⟩ _ ⟨rfl, onHost, onDevice⟩
    rw [goesOut]
    exact .pure ⟨⟨_, rfl⟩, code_copyBack checked onHost onDevice⟩

theorem enterKernel_ready (ready : symbol.Ready store) :
    (symbol.enterKernel context).Ready store := by
  unfold Symbol.enterKernel
  split
  · exact ready
  · intro copied
    simp only [needsCopy, Symbol.isPresent] at copied
    cases empty : symbol.domains.value.isEmpty <;> simp [empty] at copied

variable {placed : Symbol}

section

variable (behind : context.isAfterTransfer = true)

include behind

theorem placeArray_ready
    (ready : symbol.Ready store) (result : symbol.placeArray store context = .ok placed) :
    placed.Ready store := by
  have off : ∀ uses, (symbol.onDevice uses false).Ready store := by
    intro uses copied
    simp [needsCopy, Symbol.onDevice] at copied
  unfold Symbol.placeArray at result
  split at result
  · split at result
    · cases result
      exact off true
    · cases result
      cases context.kernelNames.all fun names => names.contains symbol.name with
      | true => exact fun _ => .inl rfl
      | false => exact off false
    · cases result
      exact off false
  · obtain ⟨kind, given, result⟩ := parts_of_bind_eq_ok result
    split at result
    · cases result
      exact fun _ => .inl rfl
    · next other =>
      split at result
      · next present =>
        cases result
        intro copied
        rcases (Bool.or_eq_true _ _).mp present with isPresent | isLocal
        · have absent := ((Bool.and_eq_true _ _).mp copied).2
          rw [show (symbol.onDevice false true).isPresent = true from isPresent] at absent
          cases absent
        · refine .inr ⟨((Bool.and_eq_true _ _).mp isLocal).1, fun kindOf => other ?_⟩
          rw [Except.ok.inj (given.symm.trans kindOf)]
          rfl
      · split at result
        · cases result
          exact fun _ => .inl behind
        · cases result
          exact ready

theorem placeData_ready
    (ready : symbol.Ready store) (result : symbol.placeData store context = .ok placed) :
    placed.Ready store := by
  unfold Symbol.placeData at result
  split at result
  · exact placeArray_ready behind ready result
  · next scalar =>
    have empty : symbol.domains.value.isEmpty = true := by simpa using scalar
    split at result
    · cases result
      intro copied
      simp only [needsCopy, empty] at copied
      cases copied
    · cases result
      exact ready

theorem updateDeviceState_ensures {backend : BackendKind} :
    Ensures (updateDeviceState backend context id) registry fun _ after =>
      after.store = registry.store ∧ ∀ other, (registry.symbol other).Ready registry.store →
        (after.symbol other).Ready registry.store := by
  unfold updateDeviceState
  split
  · refine .modified ⟨rfl, fun other ready => ?_⟩
    change (Registry.symbol (changed registry id _) other).Ready _
    rw [symbol_changed]
    split
    · intro copied
      simp [needsCopy, Symbol.onDevice] at copied
    · exact ready
  · refine .step rfl ?_
    split
    · refine .step rfl (.bind (ask_reading _) ?_)
      rintro placed _ ⟨rfl, result⟩
      refine .modified ⟨rfl, fun other ready => ?_⟩
      change (Registry.symbol (changed (changed registry id _) id _) other).Ready _
      change Symbol.placeData _ _ (Registry.symbol (changed registry id _) id) = _ at result
      have size : (changed registry id (Symbol.enterKernel context)).symbols.size =
          registry.symbols.size := Array.size_modify
      rw [symbol_changed] at result
      rw [symbol_changed, size]
      split
      · next same =>
        obtain rfl : id = other := congrArg SymbolId.mk same.1
        rw [if_pos same] at result
        exact placeData_ready behind (enterKernel_ready ready) result
      · next different =>
        rw [symbol_changed, if_neg different]
        exact ready
    · exact .pure ⟨rfl, fun _ ready => ready⟩

end

def Emits (registry : Registry) (ids : List SymbolId) (statements : SymbolId → List DeviceStatement)
    (text : String) : Prop :=
  ∃ texts, List.Forall₂ (fun id piece =>
      code registry.store (registry.symbol id) (statements id) = .ok piece) ids texts ∧
    text = Text.join "" texts

theorem transfer_ensures {first second : SymbolId → RegistryM String}
    {before behind : Store → Symbol → List DeviceStatement} (writes : WritesFor first before)
    (writesNext : WritesFor second behind)
    (ready : ∀ id ∈ ids, (registry.symbol id).Ready registry.store) :
    Ensures (do
      let texts ← ids.mapM fun id => do
        if !needsCopy (← find id) then return ""
        let text ← first id
        return text ++ (← second id)
      return Text.join "" texts) registry fun text after => SameData registry after ∧
        Emits registry ids (fun id =>
          if !needsCopy (registry.symbol id) then []
          else before registry.store (registry.symbol id) ++
            behind registry.store (registry.symbol id)) text := by
  refine .bind (.map (SameData registry) (fun id piece => code registry.store (registry.symbol id)
    (if !needsCopy (registry.symbol id) then [] else before registry.store (registry.symbol id) ++
      behind registry.store (registry.symbol id)) = .ok piece) ?_ ⟨_, rfl⟩)
    fun texts after ⟨same, pieces⟩ => .pure ⟨same, texts, pieces, rfl⟩
  rintro id member _ ⟨log, rfl⟩
  refine .step rfl ?_
  change Ensures (if (!needsCopy (registry.symbol id)) = true then _ else _) _ _
  split
  · exact .pure ⟨⟨log, rfl⟩, rfl⟩
  · next copied =>
    rw [Bool.not_eq_true', Bool.not_eq_false] at copied
    refine .bind (writes _ id copied (ready id member)) ?_
    rintro text _ ⟨⟨_, rfl⟩, written⟩
    refine .bind (writesNext _ id copied (ready id member)) ?_
    rintro rest _ ⟨⟨_, rfl⟩, writtenNext⟩
    exact .pure ⟨⟨_, rfl⟩, code_append written writtenNext⟩

section

variable (ready : ∀ id ∈ ids, (registry.symbol id).Ready registry.store)

include ready

theorem transferIn_ensures :
    Ensures (transferIn isCallingKernel routine ids) registry fun text after =>
      SameData registry after ∧ Emits registry ids
        (fun id => entryCode isCallingKernel registry.store (registry.symbol id)) text :=
  transfer_ensures allocation_writes filling_writes ready

theorem transferOut_ensures :
    Ensures (transferOut isCallingKernel ids) registry fun text after =>
      SameData registry after ∧ Emits registry ids
        (fun id => exitCode isCallingKernel registry.store (registry.symbol id)) text :=
  transfer_ensures copyBack_writes deallocation_writes ready

end

def deviceCode (backend : BackendKind) (context : DeviceContext) (isCallingKernel : Bool)
    (routine : String) (ids : List SymbolId) (exits : Nat) : RegistryM (String × List String) := do
  ids.forM (updateDeviceState backend context)
  let entry ← transferIn isCallingKernel routine ids
  let left ← (List.replicate exits ()).mapM fun _ => transferOut isCallingKernel ids
  return (entry, left)

def heldArray (name : String) (intent : Option String) : Symbol where
  name
  intent
  stage := .declaration
  scopedName := some name
  hasUndecidedSizes := true
  declaration := some "real, allocatable"
  kindOverride := some .otherArray
  domains := ⟨1, [⟨"x", "nx"⟩]⟩

def heldArrays : Registry :=
  { symbols := #[heldArray "a" (some "inout"), heldArray "b" none] }

def kernelCall : DeviceContext where
  kernelNames := none
  place := .kernelCaller
  position := "inside"
  isAfterTransfer := true

theorem heldArrays_written :
    ((deviceCode .cuda kernelCall true "s" [⟨0⟩, ⟨1⟩] 2).run heldArrays).1.toOption.isSome := by
  decide +kernel

end Backend

end ParallelFortran
