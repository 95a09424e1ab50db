import ParallelFortran.Backend.Kernel
import ParallelFortran.Region.Specification

/-! The code of regions. -/

namespace ParallelFortran

open Xml

def Replacement.quoting (replacement : Replacement) : Replacement :=
  { replacement with
    replace := fun text behind =>
      match replacement.replace text behind with
      | .ok result => .ok result
      | .error fault =>
        if fault.refusal? == some .usage then
          .error (.routine (.accessInLine fault.message text))
        else .error fault }

namespace Work

def usedOrTransferred (body : RoutineBody) (session : Session) (ids : List SymbolId) :
    List SymbolId :=
  ids.filter fun id =>
    let symbol := session.symbol id
    symbol.isTransferred || body.uses symbol

def lineCode (body : RoutineBody) (context : AccessContext) (line : RegionLine) : Work String := do
  let session ← get
  let text ← ((session.backend body.backend).replaceExits line.text : Outcome _)
  (substitute text (line.symbols.map fun id =>
    ((session.symbol id).accessReplacement session.store context).quoting) : Outcome _)

def accessIn (body : RoutineBody) (template : Option NodeId) : Work AccessContext := do
  let session ← get
  let backend := session.backend body.backend
  let iterators ← match template with
    | none => pure []
    | some template => (backend.iterators session.store template : Outcome _)
  return { iterators, region := template, prefersDevice := backend.kind.isOnDevice }

variable (id : RoutineId) (template : Option NodeId)

def linesCode (lines : List RegionLine) : Work String := do
  let body ← body id
  let context ← accessIn body template
  let lines ← lines.mapM (lineCode body context)
  return Text.join "\n" lines

def plainCode (isMarked : Bool) (kind : RegionKind) (lines : List RegionLine) : Work String := do
  let text ← linesCode id template lines
  return if text.isEmpty then "" else Region.framed isMarked kind text

def earlyExitCode (isMarked : Bool) (lines : List RegionLine) : Work String := do
  let session ← get
  let body ← body id
  let ids := usedOrTransferred body session (← symbolsOf id).values
  let exit ← exitRoutine body.backend ids (session.isCallingKernel body) false
  let code ← plainCode id template false .earlyExit lines
  return Region.framed isMarked .earlyExit (exit ++ code)

def packing (callee : RoutineId) (calleeName : String) : Work String := do
  let packed := ((← body id).packed.get? calleeName).getD []
  let sorted ← onRegistry (Registry.sorted packed)
  if sorted.isEmpty then return ""
  let calleeBody ← body callee
  let session ← get
  let used := sorted.filter fun id => calleeBody.uses (session.symbol id)
  let lines ← used.zipIdx.mapM fun (id, index) => do
    let symbol := session.symbol id
    let name ← (symbol.nameInScope session.store : Outcome _)
    let kind ← (symbol.declarationKind session.store : Outcome _)
    return Naming.limited (Naming.frameworkArray calleeName) ++ "(" ++ toString (index + 1) ++
      ") = " ++ name ++ " ! type " ++ toString kind.number ++ " symbol compaction for callee " ++
      calleeName ++ "\n"
  return Text.join "" lines

def isPassed (body : RoutineBody) (symbol : Symbol) : Bool :=
  body.uses symbol && (!symbol.isTypeParameter || symbol.isDimensionParameter)

def additionalArguments (callee : RoutineId) : Work (List SymbolId) := do
  match (← body callee).additionalArguments with
  | some ids => return ids
  | none => throw (.routine (.additionalArgumentsNotLoaded (← routine callee).name))

def additionalArgument (symbols : Table String SymbolId) (id : SymbolId) : Work String := do
  let name ← scopedName id
  match (symbols.get? name).or (symbols.get? (← symbol id).name) with
  | some found => onRegistry (Registry.nameInScope found)
  | none => do
    let names ← symbols.values.mapM scopedName
    throw (.routine (.argumentNotInContext name symbols.keys names))

variable (id callee : RoutineId)

def additionalArgumentList : Work String := do
  let session ← get
  let calleeBody ← body callee
  let required := (← additionalArguments callee).filter fun id =>
    isPassed calleeBody (session.symbol id)
  let isFollowed := !(← (Session.sourceArguments (session.routine callee) : Outcome _)).isEmpty
  if required.isEmpty then return ""
  let symbols ← symbolsOf id
  let names ← required.mapM (additionalArgument symbols)
  let separator := ", &\n&"
  return " &\n" ++ Text.join separator names ++ (if isFollowed then separator else "")

def argumentCode (template : Option NodeId) : Work (List String) := do
  let session ← get
  let routine := session.routine callee
  let arguments ← (Session.sourceArguments routine : Outcome _)
  match routine.body with
  | none => return arguments
  | some calleeBody => do
    let iterators ← match template with
      | none => pure []
      | some template =>
        ((session.backend calleeBody.backend).iterators session.store template : Outcome _)
    let context : AccessContext :=
      { iterators, region := template
        callee := some ⟨some calleeBody.node, true⟩
        prefersDevice := (session.backend (← body id).backend).kind.isOnDevice }
    let symbols ← symbolsOf id
    let replacements := symbols.values.map fun symbol =>
      ((session.symbol symbol).accessReplacement session.store context).quoting
    (arguments.mapM fun argument => substitute argument replacements : Outcome _)

def isForeign : Work Bool := do
  return (← routine id).moduleName != (← routine callee).moduleName

def callBegin (calleeName : String) : Work String := do
  let session ← get
  match (session.routine callee).body with
  | none => return "call " ++ calleeName
  | some calleeBody => do
    if session.position calleeBody != "within" || (← isForeign id callee) then
      return "call " ++ calleeName
    match calleeBody.regionTemplates.getD [] with
    | [] => throw (.routine (.noCalleeTemplates (session.routine callee).name))
    | template :: _ => do
      let name := session.store.value calleeBody.node "name"
      let preparation ← prepareCall calleeBody.backend (some template) (some name)
      return preparation ++ " call " ++ calleeName ++ " " ++
        (session.backend calleeBody.backend).kernelCallConfig

def callEnd (passed : Option (Table String SymbolId)) : Work String := do
  let session ← get
  match (session.routine callee).body with
  | none => return ""
  | some calleeBody => do
    if (session.backend calleeBody.backend).kind.allowsMixedCode then return ""
    if ← isForeign id callee then return ""
    let additional ← additionalArguments callee
    match passed with
    | none => throw (.defect .missingPart)
    | some passed => do
      let symbols := ((additional ++ passed.values).map session.symbol).filter
        calleeBody.usesInKernels
      let active := Table.ofList (symbols.map fun symbol => (symbol.name, symbol))
      followUpCall calleeBody.backend active.values calleeBody.node

def calledName : Work String := do
  match (← body id).calleeNames with
  | none => throw (.defect .wrongKind)
  | some names =>
    match names.get? (← routine callee).name with
    | none => throw (.defect .missingKey)
    | some name => return name

def callCode (id : RoutineId) (template : Option NodeId) (isMarked : Bool)
    (callee : Option RoutineId) (passed : Option (Table String SymbolId)) : Work String := do
  match callee with
  | none => throw (.defect .missingPart)
  | some callee => do
    let calleeName ← calledName id callee
    let packed ← packing id callee calleeName
    let start ← callBegin id callee calleeName
    let additional ←
      if (← routine callee).body.isSome then additionalArgumentList id callee
      else pure ""
    let arguments ← argumentCode id callee template
    let behind ← callEnd id callee passed
    return Region.framed isMarked .call
      (packed ++ start ++ "(" ++ additional ++ Text.join ", " arguments ++ ")\n" ++ behind)

/-- Code around a parallel region: the loops or the kernel of the backend if the region is generated
here, and otherwise at most a loop that can be left. -/
structure Surround where
  before : String
  behind : Work String

def surround (id : RoutineId) (region : Region) (template : Option NodeId) : Work Surround := do
  let session ← get
  let body ← body id
  match template, session.position body == "within" with
  | some template, true => do
    let names ← (session.regionNames region : Outcome _)
    let symbols := ((← symbolsOf id).values.map session.symbol).filter fun symbol =>
      names.contains symbol.name
    let view ← viewOf id
    let before ← ((session.backend body.backend).regionBegin session.store (some view) symbols
      template : Outcome _)
    return ⟨Text.strip before ++ "\n", do
      return Text.strip (← endRegion body.backend template (some id) false) ++ "\n"⟩
  | _, _ => do
    if !region.mentions "@exit" then return ⟨"", return ""⟩
    return ⟨← beginStub body.backend, endStub body.backend⟩

mutual

def regionCode (id : RoutineId) (isMarked : Bool) (template : Option NodeId) :
    Region → Work String
  | .plain lines => plainCode id template isMarked .plain lines
  | .earlyExit lines => earlyExitCode id template isMarked lines
  | .call _ callee passed => callCode id template isMarked callee passed
  | .specification lines dataLines context typeParameters =>
    specificationCode id isMarked lines dataLines context typeParameters
  | .parallel own parts => do
    let around ← surround id (.parallel own parts) own
    let texts ← regionCodes id isMarked own parts
    return Region.framed isMarked .parallel
      (around.before ++ Text.join "\n" texts ++ (← around.behind))

def regionCodes (id : RoutineId) (isMarked : Bool) (template : Option NodeId) :
    List Region → Work (List String)
  | [] => return []
  | region :: regions => do
    let text ← regionCode id isMarked template region
    return text :: (← regionCodes id isMarked template regions)

end

end Work

end ParallelFortran
