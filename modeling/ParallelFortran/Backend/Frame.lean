import ParallelFortran.Backend.Call
import ParallelFortran.Backend.Transfer

/-! What stands at the end of the declarations of a routine and at its exits. -/

namespace ParallelFortran

open Xml

namespace Backend

def iteratorDeclaration (store : Store) (node : NodeId) (templates : List NodeId)
    (arguments : Option (List String)) (architectures : List String) : Outcome String := do
  match ← CallGraph.iterators store node templates architectures with
  | [] => return ""
  | iterators@(first :: _) =>
    match arguments with
    | none => throw (.defect .wrongKind)
    | some arguments =>
      return (if arguments.contains first then "integer(4), value :: " else "integer(4) :: ") ++
        Text.join ", " iterators ++ "\n"

def entryOutput (backend : Backend) (routine position : String) : String :=
  let isReported := match backend.kind with
    | .debugOpenACC | .traceCheckingOpenACC => position != "outside"
    | .debugCuda | .emulatedCuda => position == "inside"
    | _ => false
  if isReported then "write(0,*) 'entering subroutine " ++ routine ++ "'\n" else ""

def debugIteratorText : String :=
  "#ifndef GPU\ninteger(4), save :: hf_debug_print_iterator = 0\n#endif\n"

def gridVariables : String :=
  "type(dim3) :: cugrid, cublock\n" ++
    "integer(4) :: cugridSizeX, cugridSizeY, cugridSizeZ, cuerror, cuErrorMemcopy\n"

end Backend

namespace Work

variable (id : BackendId)

variable (routine : RoutineId)

def endHostDeclarations : Work String := do
  let body ← body routine
  setBackend id
    { (← backend id) with routineNode := some body.node, kernelNumber := some 0 }
  let backend ← backend id
  let printsDebug ← (backend.printsDebug : Outcome _)
  if printsDebug then setBackend id { backend with declaresDebugIterator := true }
  let target ← (Backend.known backend.target : Outcome _)
  let iterators ← (Backend.iteratorDeclaration (← store) body.node (body.regionTemplates.getD [])
    (← Work.routine routine).arguments [target, ""] : Outcome _)
  return (if printsDebug then "real(8) :: hf_output_temp\n" ++ Backend.debugIteratorText else "") ++
    iterators

variable (ids : List SymbolId)

def endDeviceDeclarations : Work String := do
  let body ← body routine
  let kind := (← backend id).kind
  let resetsKernels : Work Unit := do
    setBackend id { (← backend id) with kernelNumber := some 0 }
  if kind.isOpenACC then resetsKernels
  setBackend id { (← backend id) with routineNode := some body.node }
  let backend ← backend id
  let printsDebug ← (backend.printsDebug : Outcome _)
  let session ← get
  let iterators ← (Backend.iteratorDeclaration session.store body.node (body.regionTemplates.getD [])
    (session.routine routine).arguments ["GPU"] : Outcome _)
  let name := session.store.value body.node "name"
  let isCallingKernel := session.isCallingKernel body
  let gridLines := if kind.isCuda && isCallingKernel then Backend.gridVariables else ""
  let output := backend.entryOutput name (session.position body)
  resetsKernels
  let transfer ← onRegistry (Backend.transferIn isCallingKernel name ids)
  return (if printsDebug then "real(8) :: hf_output_temp\n" else "") ++ iterators ++ gridLines ++
    (if kind.isCuda then output ++ transfer else transfer ++ output)

def endDeclarations : Work String := do
  match (← backend id).kind with
  | .plain | .openMP | .traceGenerating => endHostDeclarations id routine
  | .deviceData => do
    setBackend id { (← backend id) with kernelNumber := some 0 }
    let session ← get
    let body ← body routine
    onRegistry (Backend.transferIn (session.isCallingKernel body)
      (session.store.value body.node "name") ids)
  | .traceCheckingOpenACC => do
    let _ ← endDeviceDeclarations id routine ids
    throw (.defect .unknownName)
  | _ => endDeviceDeclarations id routine ids

def exitRoutine (isCallingKernel isEnd : Bool) : Work String := do
  let start ← backend id
  if start.kind == .traceGenerating then
    match start.routineNode with
    | none => throw (.defect .missingPart)
    | some node =>
      report .info ("...In subroutine " ++ (← store).value node "name" ++
        ": Symbols [] used for tracing")
  if start.kind.isOnDevice && isEnd then setBackend id { start with routineNode := none }
  let transfer ←
    if start.kind.handlesDeviceData then onRegistry (Backend.transferOut isCallingKernel ids)
    else pure ""
  let backend ← backend id
  let counts := (← (backend.printsDebug : Outcome _)) && backend.declaresDebugIterator
  if isEnd then
    setBackend id { backend with routineNode := none, declaresDebugIterator := false }
  return transfer ++
    (if counts then "#ifndef GPU\nhf_debug_print_iterator = hf_debug_print_iterator + 1\n#endif\n"
     else "")

def routineAttributes (node : NodeId) : Work String := do
  let backend ← backend id
  if backend.kind == .traceGenerating || backend.kind == .traceCheckingOpenACC then
    setBackend id { backend with routineNode := some node }
  (backend.routineAttributes (← position node) : Outcome _)

def noteModule (name : Option String) : Work Unit := do
  let backend ← backend id
  if backend.kind == .traceGenerating || backend.kind == .traceCheckingOpenACC then
    setBackend id { backend with moduleName := name }

end Work

end ParallelFortran
