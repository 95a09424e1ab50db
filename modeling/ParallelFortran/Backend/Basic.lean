import ParallelFortran.CallGraph.Query

/-! Backends: the programming models for which code is generated. -/

namespace ParallelFortran

open Xml

inductive BackendKind where
  | plain
  | traceGenerating
  | openMP
  | deviceData
  | openACC
  | debugOpenACC
  | traceCheckingOpenACC
  | cuda
  | debugCuda
  | emulatedCuda
  deriving DecidableEq, Repr, Inhabited

namespace BackendKind

def all : List BackendKind :=
  [plain, traceGenerating, openMP, deviceData, openACC, debugOpenACC, traceCheckingOpenACC, cuda,
    debugCuda, emulatedCuda]

def name : BackendKind → String
  | plain => "FortranImplementation"
  | traceGenerating => "TraceGeneratingFortranImplementation"
  | openMP => "OpenMPFortranImplementation"
  | deviceData => "DeviceDataFortranImplementation"
  | openACC => "PGIOpenACCFortranImplementation"
  | debugOpenACC => "DebugPGIOpenACCFortranImplementation"
  | traceCheckingOpenACC => "TraceCheckingOpenACCFortranImplementation"
  | cuda => "CUDAFortranImplementation"
  | debugCuda => "DebugCUDAFortranImplementation"
  | emulatedCuda => "DebugEmulatedCUDAFortranImplementation"

def ofName? (name : String) : Option BackendKind :=
  all.find? fun kind => kind.name == name

def isOpenACC : BackendKind → Bool
  | openACC | debugOpenACC | traceCheckingOpenACC => true
  | _ => false

def isCuda : BackendKind → Bool
  | cuda | debugCuda | emulatedCuda => true
  | _ => false

variable (kind : BackendKind)

def isOnDevice : Bool :=
  kind.isOpenACC || kind.isCuda

def handlesDeviceData : Bool :=
  kind == deviceData || kind.isOnDevice

def architecture : List String :=
  if kind.isOpenACC then ["openacc", "gpu", "nvd", "nvidia"]
  else if kind.isCuda then ["cuda", "gpu", "nvd", "nvidia"]
  else ["cpu", "host"]

def allowsSeveralRegions : Bool := !kind.isCuda

def allowsScalarAssignment : Bool := !kind.isCuda

def allowsMixedCode : Bool := !kind.isCuda

def hasHostCopies : Bool := kind.isCuda

end BackendKind

structure BackendId where
  index : Nat
  deriving DecidableEq, Repr, Inhabited

structure Backend where
  kind : BackendKind
  flags : Option (List String) := some []
  target : Option String := some "CPU"
  kernelNumber : Option Nat := some 0
  regionTemplate : Option NodeId := none
  declaresDebugIterator : Bool := false
  routineNode : Option NodeId := none
  moduleName : Option String := none
  namesKernels : Bool := true
  deriving Inhabited

namespace Backend

def new (kind : BackendKind) (flags : List String) : Backend :=
  if kind == .traceGenerating then { kind, flags := none, target := none, kernelNumber := none }
  else { kind, flags := some flags }

def forHost (backend : Backend) : Backend :=
  { kind := .plain, flags := backend.flags, target := some "GPU", namesKernels := false }

def known {α : Type} (value : Option α) : Outcome α :=
  match value with
  | some value => .ok value
  | none => .error (.defect .missingPart)

variable (backend : Backend)

def hasFlag (flag : String) : Outcome Bool := do
  return (← known backend.flags).contains flag

def printsDebug : Outcome Bool :=
  backend.hasFlag "DEBUG_PRINT"

def earlyExit : Outcome String := do
  if backend.kind.isCuda then return "return"
  return "exit outerParallelLoop" ++ toString (← known backend.kernelNumber)

def replaceExits (line : String) : Outcome String := do
  if line.isEmpty then return line
  return Text.replace "@exit" (← backend.earlyExit) line

def filePreparation (path : String) : String :=
  let storageOrder := "#include \"storage_order.F90\"\n"
  if backend.kind.isOpenACC then
    let name := ((Text.split "." (Text.fileName path)).head?).getD ""
    storageOrder ++ "\nattributes(global) subroutine HF_DUMMYKERNEL_" ++ name ++ "()\n" ++
      "use cudafor\n" ++
      "!This ugly hack is used because otherwise as of PGI 14.7, OpenACC kernels could not be " ++
      "used in code that is compiled with CUDA flags.\nend subroutine\n\t\t"
  else storageOrder

def includes : String :=
  match backend.kind with
  | .traceGenerating => "use helper_functions\n"
  | .openACC | .debugOpenACC => "use openacc\nuse cudafor\n"
  | .traceCheckingOpenACC => "use openacc\nuse cudafor\nuse helper_functions\nuse cudafor\n"
  | .cuda | .debugCuda | .emulatedCuda => "use cudafor\n"
  | _ => ""

def unknownCallWarning (caller callee : String) : String :=
  if backend.kind.isCuda then
    "subroutine " ++ callee ++ " called inside " ++ caller ++
      "'s parallel region, but it is not defined in a h90 file.\n"
  else ""

def kernelCallConfig : String :=
  if backend.kind.isCuda then "<<< cugrid, cublock >>>" else ""

def loopPreparation : String :=
  if backend.kind.isOpenACC then "!$acc loop seq" else ""

def adjustSpecification (line specification : String) : String :=
  if backend.kind.hasHostCopies && specification == "private" then "" else line

def routineAttributes (position : String) : Outcome String :=
  if !backend.kind.isCuda then .ok ""
  else
    match position with
    | "" | "inside" => .ok ""
    | "within" => .ok "attributes(global)"
    | "outside" => .ok "attributes(device)"
    | _ => .error (.backend (.invalidPosition position))

def iteratorsOf (format : Format) (store : Store) (backend : Backend) (template : NodeId) :
    Outcome (List String) := do
  let architectures ←
    if backend.kind.isOnDevice then pure ["GPU"] else do pure [← known backend.target, ""]
  if ← CallGraph.appliesTo store architectures template then
    return (← CallGraph.loopDomainsOf format store template).map CallGraph.LoopDomain.name
  return []

def iterators (store : Store) (backend : Backend) (template : NodeId) : Outcome (List String) :=
  iteratorsOf indented store backend template

end Backend

end ParallelFortran
