import ParallelFortran.Backend.Debug
import ParallelFortran.Routine.Usage

/-! Calls of routines and kernels. -/

namespace ParallelFortran

open Xml

namespace Session

def routineName (session : Session) (routine : Routine) : String :=
  match routine.body with
  | none => Naming.limited routine.name
  | some body =>
    if body.sister.isNone then routine.name
    else
      let architecture := (session.backend body.backend).kind.architecture
      Naming.unique routine.name ((architecture.head?).getD "")

def calleeName (session : Session) (caller : RoutineBody) (callee : Routine) : String :=
  let name := session.routineName callee
  match callee.body with
  | none => name
  | some body =>
    let callerKind := (session.backend caller.backend).kind
    let calleeKind := (session.backend body.backend).kind
    let position := session.position body
    if !calleeKind.hasHostCopies then name
    else if (["outside", "within"].contains position && (session.position caller).isEmpty) ||
        (!callerKind.isOnDevice && !position.isEmpty) then Naming.hostRoutine name
    else if callee.isUsedOnHostOnly && !Text.contains name "hfk" &&
        callerKind.handlesDeviceData && calleeKind.handlesDeviceData then
      Naming.deviceRoutine name
    else name

end Session

namespace Backend

variable (store : Store) (backend : Backend)

def gridOutput (template : NodeId) (kernel : String) : Outcome String := do
  let iterators ← backend.iterators store template
  return "write(0,*) 'calling kernel " ++ kernel ++ " with grid size', " ++
    Text.join ", " ((gridNames.take iterators.length)) ++ "\n"

def preparationText (template : Option NodeId) (kernel : Option String) : Outcome String := do
  let launch ← match backend.kind.isCuda, template with
    | true, some template => do
      if ← CallGraph.appliesTo store ["GPU"] template then
        launchPreparation store backend template kernel
      else pure ""
    | _, _ => pure ""
  match backend.kind, template, kernel with
  | .debugOpenACC, _, some kernel | .traceCheckingOpenACC, _, some kernel =>
    return "write(0,*) 'calling kernel " ++ kernel ++ "'\n"
  | .debugCuda, some template, some kernel | .emulatedCuda, some template, some kernel =>
    return launch ++ (← gridOutput store backend template kernel)
  | _, _, _ => return launch

def followUpText (symbols : List Symbol) (kernel : String) : Outcome String := do
  let prints ←
    if ← backend.printsDebug then
      debugPrints store kernel symbols "within" backend.regionTemplate
    else pure ""
  if !backend.kind.isCuda then return prints
  let handling ← errorHandling kernel "cuerror" true
  let stop := if backend.kind == .cuda then ""
    else "if(cuerror .NE. cudaSuccess) then\n\tstop 1\nend if\n"
  return prints ++ handling ++ stop

end Backend

namespace Work

def prepareCall (id : BackendId) (template : Option NodeId) (kernel : Option String) :
    Work String := do
  let backend ← backend id
  setBackend id { backend with regionTemplate := template }
  (Backend.preparationText (← store) backend template kernel : Outcome _)

def followUpCall (id : BackendId) (symbols : List Symbol) (callee : NodeId) : Work String := do
  if (← position callee) != "within" then return ""
  let backend ← backend id
  let name := (← store).value callee "name"
  let text ← (Backend.followUpText (← store) backend symbols name : Outcome _)
  setBackend id { backend with regionTemplate := none }
  return text

end Work

end ParallelFortran
