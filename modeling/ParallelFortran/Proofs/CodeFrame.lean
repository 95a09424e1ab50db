import ParallelFortran.Module.Code
import ParallelFortran.Proofs.SymbolFrame

/-! What stays the same of a program while the code of its routines is generated: routines only bring
the tables of their symbols up to date, and symbols stay what they are. -/

namespace ParallelFortran

open Xml

def Routine.lasting (routine : Routine) : Routine :=
  { routine with body := routine.body.map fun body => { body with symbols := none } }

structure Session.Steady (before after : Session) : Prop where
  registry : before.registry.Steady after.registry
  routine : ∀ id, (after.routine id).lasting = (before.routine id).lasting

namespace Session

instance : IsPreorder Session Steady where
  refl session := ⟨refl_of Registry.Steady session.registry, fun _ => rfl⟩
  trans _ _ _ first second :=
    ⟨trans_of Registry.Steady first.registry second.registry, fun id =>
      (second.routine id).trans (first.routine id)⟩

theorem Steady.body {before after : Session} (follows : Steady before after) {id : RoutineId}
    {body : RoutineBody} (found : (before.routine id).body = some body) :
    ∃ symbols, (after.routine id).body = some { body with symbols } := by
  have same := congrArg Routine.body (follows.routine id)
  simp only [Routine.lasting, found] at same
  obtain ⟨current, known, lasting⟩ := Option.map_eq_some_iff.mp same
  refine ⟨current.symbols, known.trans ?_⟩
  exact congrArg (fun kept : RoutineBody => some { kept with symbols := current.symbols }) lasting

/-- All symbols and routines are still there, the document and the kinds of the backends are as they
were, and the number of the next kernel is related to the number before. -/
structure Firm (number : Option Nat → Option Nat → Prop) (before after : Session) : Prop
    extends Steady before after where
  store : after.store = before.store
  size : after.backends.size = before.backends.size
  kind : ∀ id, (after.backend id).kind = (before.backend id).kind
  number : ∀ id, number (before.backend id).kernelNumber (after.backend id).kernelNumber

variable {number : Option Nat → Option Nat → Prop} [IsPreorder (Option Nat) number]

instance : IsPreorder Session (Firm number) where
  refl session := ⟨refl_of Steady session, rfl, rfl, fun _ => rfl, fun _ => refl_of number _⟩
  trans _ _ _ first second :=
    ⟨trans_of Steady first.toSteady second.toSteady, second.store.trans first.store,
      second.size.trans first.size, fun id => (second.kind id).trans (first.kind id),
      fun id => trans_of number (first.number id) (second.number id)⟩

def Numbered (before after : Option Nat) : Prop := before.isSome → after.isSome

instance : IsPreorder (Option Nat) Numbered where
  refl _ := id
  trans _ _ _ first second := second ∘ first

def withBackend (session : Session) (id : BackendId) (backend : Backend) : Session :=
  { session with backends := session.backends.modify id.index fun _ => backend }

theorem backend_withBackend (session : Session) (id other : BackendId) (backend : Backend) :
    (session.withBackend id backend).backend other =
      if id.index = other.index ∧ other.index < session.backends.size then backend
      else session.backend other :=
  Arena.getD_modify session.backends id.index other.index _ default

theorem Firm.replaced {session : Session} {id : BackendId} {backend : Backend}
    (kind : backend.kind = (session.backend id).kind)
    (counted : number (session.backend id).kernelNumber backend.kernelNumber) :
    Firm number session (session.withBackend id backend) := by
  refine ⟨⟨refl_of Registry.Steady session.registry, fun _ => rfl⟩, rfl, Array.size_modify,
    fun other => ?_, fun other => ?_⟩
  · rw [backend_withBackend]
    split
    · next here => rwa [Session.backend, ← here.1]
    · rfl
  · rw [backend_withBackend]
    split
    · next here => rwa [Session.backend, ← here.1]
    · exact refl_of number _

end Session

theorem Advances.steady {α : Type} {action : Work α}
    (firm : Advances (Session.Firm Session.Numbered) action) : Advances Session.Steady action :=
  ⟨fun before => (firm.follows before).toSteady⟩

namespace Work

open Session (Firm)
open Advances (seeing)

variable {number : Option Nat → Option Nat → Prop} [IsPreorder (Option Nat) number]

variable {α : Type}

instance onRegistry_firm {action : RegistryM α} [firm : Advances Registry.Firm action] :
    Advances (Firm number) (onRegistry action) := by
  refine ⟨fun session => ?_⟩
  have follows := firm.follows session.registry
  exact ⟨⟨follows.toSteady, fun _ => rfl⟩, follows.store, rfl, fun _ => rfl,
    fun _ => refl_of number _⟩

instance {action : RegistryM α} [Advances Registry.Firm action] :
    Advances (Firm number) (liftM action : Work α) :=
  onRegistry_firm

instance changeModule_firm (id : ModuleId) (update : Module → Module) :
    Advances (Firm number) (changeModule id update) :=
  .modified fun session =>
    ⟨⟨refl_of Registry.Steady session.registry, fun _ => rfl⟩, rfl, rfl, fun _ => rfl,
      fun _ => refl_of number _⟩

instance report_firm (level : LogLevel) (content : String) :
    Advances (Firm number) (report level content) :=
  onRegistry_firm

omit [IsPreorder (Option Nat) number] in
theorem onBackend {id : BackendId} {next : Backend → Work α}
    (rest : ∀ session, Follows (Firm number) session (next (session.backend id))) :
    Advances (Firm number) (backend id >>= next) :=
  ⟨rest⟩

theorem setBackend_firm {session : Session} {id : BackendId} {backend : Backend}
    (kind : backend.kind = (session.backend id).kind := by rfl)
    (counted : number (session.backend id).kernelNumber backend.kernelNumber := by
      exact refl_of _ _) :
    Follows (Firm number) session (setBackend id backend) :=
  Firm.replaced kind counted

variable (site : SpecificationSite) (id : RoutineId) (parameters : Table String SymbolId)

instance (symbols : Table String SymbolId) :
    Advances (Firm number) (changeBody id fun body => { body with symbols := some symbols }) := by
  refine .modified fun session => ⟨⟨refl_of Registry.Steady session.registry, fun other => ?_⟩, rfl,
    rfl, fun _ => rfl, fun _ => refl_of number _⟩
  rw [Session.routine, Arena.getD_modify]
  split
  · simp [Session.routine, Routine.lasting, Function.comp_def]
  · rfl

theorem change_framed {id : SymbolId} {update : Symbol → Symbol}
    (same : ∀ symbol, (update symbol).identity = symbol.identity) :
    Advances (Firm number) (liftM (Registry.change id update) : Work Unit) :=
  have : Advances Registry.Firm (Registry.change id update) := Registry.change_framed same
  onRegistry_firm

instance updateSymbols_firm : Advances (Firm number) (updateSymbols id) := .composed

instance routineAttributes_firm (id : BackendId) (node : NodeId) :
    Advances (Firm number) (routineAttributes id node) := by
  refine onBackend fun session => .optional setBackend_firm fun _ => ?_
  exact .bind (position_advances node) fun _ => .outcome _

instance headerCode_firm : Advances (Firm number) (headerCode id) := .composed

instance additionalImportCode_firm : Advances (Firm number) (additionalImportCode id) := .composed

instance exitRoutine_firm (id : BackendId) (ids : List SymbolId) (isCallingKernel isEnd : Bool) :
    Advances (Firm number) (exitRoutine id ids isCallingKernel isEnd) := by
  have finish : ∀ session, Follows (Firm number) session (do
      let start := session.backend id
      if start.kind.isOnDevice && isEnd then setBackend id { start with routineNode := none }
      let transfer ←
        if start.kind.handlesDeviceData then onRegistry (Backend.transferOut isCallingKernel ids)
        else pure ""
      let backend ← backend id
      let counts := (← backend.printsDebug) && backend.declaresDebugIterator
      if isEnd then
        setBackend id { backend with routineNode := none, declaresDebugIterator := false }
      return transfer ++
        (if counts then
          "#ifndef GPU\nhf_debug_print_iterator = hf_debug_print_iterator + 1\n#endif\n"
         else "")) := by
    intro session
    refine .optional setBackend_firm fun _ => ?_
    refine .chosen onRegistry_firm fun _ => ?_
    refine onBackend fun session => seeing (.outcome _) fun _ => ?_
    exact .optional setBackend_firm fun _ => .pure _
  refine onBackend fun session => ?_
  dsimp only
  split
  · split
    · exact (Advances.refused _ _).follows session
    · exact trans_of (Firm number) ((report_firm _ _).follows session) (finish _)
  · exact finish session

variable (template : Option NodeId) (isMarked : Bool) (lines : List RegionLine)

instance earlyExitCode_firm :
    Advances (Firm number) (earlyExitCode id template isMarked lines) := .composed

instance (id : BackendId) (template : Option NodeId) (kernel : Option String) :
    Advances (Firm number) (prepareCall id template kernel) := by
  refine onBackend fun session => .bind setBackend_firm fun _ => ?_
  exact .bind store_advances fun _ => .outcome _

instance (id : BackendId) (symbols : List Symbol) (callee : NodeId) :
    Advances (Firm number) (followUpCall id symbols callee) := by
  refine .bind (position_advances callee) fun position => ?_
  split
  · exact .pure _
  · refine onBackend fun session => seeing store_advances fun _ => ?_
    refine seeing store_advances fun _ => seeing (.outcome _) fun _ => ?_
    exact .bind setBackend_firm fun _ => .pure _

instance (callee : RoutineId) (calleeName : String) :
    Advances (Firm number) (callBegin id callee calleeName) := .composed

instance callCode_firm (callee : Option RoutineId) (passed : Option (Table String SymbolId)) :
    Advances (Firm number) (callCode id template isMarked callee passed) := by
  unfold callCode callEnd calledName
  exact .composed

instance endRegion_firm (id : BackendId) (template : NodeId) (routine : Option RoutineId)
    (skipsPrints : Bool) :
    Advances (Firm Session.Numbered) (endRegion id template routine skipsPrints) := by
  refine onBackend fun session => ?_
  have prints : Advances Eq (do
      if skipsPrints then return ""
      if !(← (session.backend id).printsDebug) then return ""
      match routine with
      | some routine => regionPrints routine (session.backend id) template
      | none => throw (.defect .missingPart) : Work String) := by
    split
    · exact .pure _
    · refine .bind (.outcome _) fun _ => ?_
      split
      · exact .pure _
      · split
        · exact regionPrints_advances _ _ template
        · exact .throw _
  have finish : ∀ text, Follows (Firm Session.Numbered) session (do
      let _ ← (Backend.known (session.backend id).kernelNumber)
      setBackend id (session.backend id).nextKernel
      return text : Work String) := by
    refine fun text => seeing (.outcome _) fun _ => ?_
    refine .bind (setBackend_firm rfl ?_) fun _ => .pure _
    simp [Session.Numbered, Backend.nextKernel]
  dsimp only
  split
  · exact (Advances.pure _).follows session
  · split
    · refine seeing (.pure _) fun _ => seeing store_advances fun _ => ?_
      refine seeing (.outcome _) fun _ => seeing (.outcome _) fun _ => ?_
      exact seeing prints fun _ => finish _
    · refine seeing prints fun _ => seeing store_advances fun _ => ?_
      refine seeing (.outcome _) fun _ => seeing (.outcome _) fun _ => ?_
      exact seeing (.pure _) fun _ => finish _

instance endStub_firm (id : BackendId) : Advances (Firm Session.Numbered) (endStub id) := by
  refine onBackend fun session => seeing (.outcome _) fun _ => ?_
  refine .bind (setBackend_firm rfl ?_) fun _ => .pure _
  simp [Session.Numbered, Backend.nextKernel]

theorem surround_behind (region : Region) (template : Option NodeId) (session : Session) :
    Ensures (surround id region template) session fun around _ =>
      Advances (Firm Session.Numbered) around.behind := by
  refine .skip fun known _ => .skip fun body _ => ?_
  split
  · refine .skip fun _ _ => .skip fun _ _ => .skip fun _ _ => .skip fun _ _ => .pure ?_
    exact .bind (endRegion_firm _ _ _ _) fun _ => .pure _
  · split
    · exact .pure (.pure _)
    · exact .skip fun _ _ => .pure (endStub_firm _)

instance kindImports_firm : Advances (Firm number) (kindImports site parameters) := .composed

instance importCode_firm (imports : Option Imports) :
    Advances (Firm number) (importCode site parameters imports) := by
  unfold importCode importedName
  exact .composed

variable (added : List SymbolId)

instance readSpecification_firm (lines : List RegionLine) :
    Advances (Firm number) (readSpecification site added lines) := .composed

instance (backend : BackendId) (id : SymbolId) (purged : Option (List String))
    (isStripped : Bool) : Advances (Firm number) (declarationCode site backend id purged isStripped) :=
  .composed

instance declaredCode_firm (declared : Table String SymbolId) :
    Advances (Firm number) (declaredCode site declared) := by
  unfold declaredCode
  exact .composed

instance addedCode_firm : Advances (Firm number) (addedCode site added) := by
  unfold addedCode reduceArray reduceArray.loadedSymbols
  exact .composed

instance calleeCode_firm (context : SpecificationContext) (declared : Table String SymbolId) :
    Advances (Firm number) (calleeCode site context declared) := .composed

section

variable (id : BackendId) (routine : RoutineId)

instance endHostDeclarations_firm :
    Advances (Firm Session.Numbered) (endHostDeclarations id routine) := by
  refine .bind (body_advances routine) fun body => onBackend fun session => ?_
  refine .bind (setBackend_firm rfl fun _ => rfl) fun _ => onBackend fun session => ?_
  refine seeing (.outcome _) fun printsDebug => .optional setBackend_firm fun _ => ?_
  refine .bind (.outcome _) fun target => .bind store_advances fun _ => ?_
  exact .bind (routine_advances routine) fun _ => .bind (.outcome _) fun _ => .pure _

instance endDeviceDeclarations_firm (ids : List SymbolId) :
    Advances (Firm Session.Numbered) (endDeviceDeclarations id routine ids) := by
  have reset : Advances (Firm Session.Numbered)
      (do setBackend id { (← backend id) with kernelNumber := some 0 }) :=
    onBackend fun session => Firm.replaced rfl fun _ => rfl
  refine .bind (body_advances routine) fun body => .bind (backend_advances id) fun _ => ?_
  refine .optional reset fun _ => onBackend fun session => .bind setBackend_firm fun _ => ?_
  refine .bind (backend_advances id) fun backend => ?_
  refine .bind (.outcome _) fun printsDebug => .bind .current fun session => ?_
  refine .bind (.outcome _) fun iterators => .bind reset fun _ => ?_
  exact .bind onRegistry_firm fun _ => .pure _

instance (ids : List SymbolId) :
    Advances (Firm Session.Numbered) (endDeclarations id routine ids) := by
  refine .bind (backend_advances id) fun backend => ?_
  split
  · exact endHostDeclarations_firm id routine
  · exact endHostDeclarations_firm id routine
  · exact endHostDeclarations_firm id routine
  · refine onBackend fun session => .bind (setBackend_firm rfl fun _ => rfl) fun _ => ?_
    refine .bind .current fun _ => .bind (body_advances routine) fun _ => ?_
    exact onRegistry_firm
  · exact .bind (endDeviceDeclarations_firm id routine ids) fun _ => .throw _
  · exact endDeviceDeclarations_firm id routine ids

end

instance declarationEnd_firm : Advances (Firm Session.Numbered) (declarationEnd site) := by
  unfold declarationEnd
  exact .composed

instance specificationCode_firm (dataLines : List String)
    (context : Option SpecificationContext) (typeParameters : Option (Table String SymbolId)) :
    Advances (Firm Session.Numbered) (specificationCode id isMarked lines dataLines context typeParameters) :=
  .composed

mutual

theorem regionCode_firm (id : RoutineId) (isMarked : Bool) (template : Option NodeId)
    (region : Region) : Advances (Firm Session.Numbered) (regionCode id isMarked template region) := by
  match region with
  | .plain lines => exact plainCode_advances id template isMarked .plain lines
  | .earlyExit lines => exact earlyExitCode_firm id template isMarked lines
  | .call _ callee passed => exact callCode_firm id template isMarked callee passed
  | .specification lines dataLines context typeParameters =>
    exact specificationCode_firm id isMarked lines dataLines context typeParameters
  | .parallel own parts =>
    refine .knowing (surround_advances id _ own) (surround_behind id _ own) fun around behind => ?_
    refine .bind (regionCodes_firm id isMarked own parts) fun _ => ?_
    exact .bind behind fun _ => .pure _

theorem regionCodes_firm (id : RoutineId) (isMarked : Bool) (template : Option NodeId)
    (regions : List Region) : Advances (Firm Session.Numbered) (regionCodes id isMarked template regions) := by
  match regions with
  | [] => exact .pure _
  | region :: regions =>
    refine .bind (regionCode_firm id isMarked template region) fun _ => ?_
    exact .bind (regionCodes_firm id isMarked template regions) fun _ => .pure _

end

attribute [instance] regionCodes_firm

variable (id : RoutineId)

instance routineParts_firm : Advances (Firm Session.Numbered) (routineParts id) := .composed

instance routineCode_firm : Advances (Firm Session.Numbered) (routineCode id) := by
  refine .bind (routine_advances id) fun routine => ?_
  exact .bind (.rethrown (routineParts_firm id)) fun _ => .pure _

end Work

end ParallelFortran
