import ParallelFortran.Backend.Basic
import ParallelFortran.Symbol.Loading

/-! Integer expressions of generated code. -/

namespace ParallelFortran.Backend

/-- An expression. What comes from the source stands in it as it is written there. -/
inductive Expression where
  | source (text : String)
  | number (value : Nat)
  | iterator (name : String)
  | blockIndex (dimension : String)
  | blockSize (dimension : String)
  | threadIndex (dimension : String)
  | sum (left right : Expression)
  | difference (left right : Expression)
  | product (left right : Expression)
  | enclosed (inner : Expression)
  | ceiling (dividend divisor : Expression)
  deriving DecidableEq, Repr, Inhabited

def Expression.render : Expression → String
  | source text => text
  | number value => toString value
  | iterator name => name
  | blockIndex dimension => "blockidx%" ++ dimension
  | blockSize dimension => "blockDim%" ++ dimension
  | threadIndex dimension => "threadidx%" ++ dimension
  | sum left right => left.render ++ " + " ++ right.render
  | difference left right => left.render ++ " - " ++ right.render
  | product left right => left.render ++ " * " ++ right.render
  | enclosed inner => "(" ++ inner.render ++ ")"
  | ceiling dividend divisor =>
    "ceiling(real(" ++ dividend.render ++ ") / real(" ++ divisor.render ++ "))"

structure Excess where
  value : Expression
  limit : Expression
  deriving DecidableEq, Repr, Inhabited

def Excess.render (excess : Excess) : String :=
  excess.value.render ++ " .GT. " ++ excess.limit.render

end ParallelFortran.Backend

/-! Loops over the domains of a parallel region, and the grids and guards that take their place on a
device with one thread for each iteration. -/

namespace ParallelFortran

open Xml
open CallGraph (LoopDomain)

namespace CallGraph.LoopDomain

open Backend (Expression)

variable (domain : LoopDomain)

def firstValue : Expression :=
  match domain.startsAt with
  | some first => .source first
  | none => .number 1

def lastValue : Expression := .source (domain.endsAt.getD domain.size)

def first : String := domain.firstValue.render

def last : String := domain.lastValue.render

def loop : String :=
  "do " ++ domain.name ++ "=" ++ domain.first ++ "," ++ domain.last

end CallGraph.LoopDomain

namespace Backend

def label (number : Nat) : String := "outerParallelLoop" ++ toString number

variable (number : Nat) (domains : List LoopDomain)

def loopLines : List String :=
  match domains.reverse with
  | [] => []
  | outer :: inner => (label number ++ ": " ++ outer.loop) :: inner.map LoopDomain.loop

def loopEnds : List String :=
  match domains with
  | [] => []
  | _ :: inner => inner.map (fun _ => "end do") ++ ["end do " ++ label number]

variable (number : Option Nat) (domains : List LoopDomain)

def loopsBegin : Outcome String := do
  if domains.isEmpty then return ""
  return Text.join "\n " (loopLines (← known number) domains)

def loopsEnd : Outcome String := do
  if domains.isEmpty then return ""
  return Text.join "" ((loopEnds (← known number) domains).map (· ++ "\n"))

variable (backend : Backend)

def stubBegin : Outcome String := do
  return label (← known backend.kernelNumber) ++ ": do\n"

def stubEnd : Outcome String := do
  let name := label (← known backend.kernelNumber)
  return "exit " ++ name ++ "\nend do " ++ name ++ "\n"

def nextKernel : Backend :=
  { backend with kernelNumber := backend.kernelNumber.map (· + 1) }

variable (store : Store) (routine : Option RoutineView)

def isShared (symbol : Symbol) : Outcome Bool := do
  if symbol.domains.value.isEmpty || Text.contains symbol.name "%" then return false
  if !symbol.activeKernelDomains.isEmpty then return true
  let kind ← symbol.declarationKind store
  return kind == .moduleArray || kind == .passedModuleArray ||
    !routine.any symbol.allowsDroppingDomains

def openMPBegin (symbols : List Symbol) (template : NodeId) : Outcome String := do
  let clause := Text.upper (← CallGraph.reductionClause store template)
  let shared ← symbols.filterM (isShared store routine)
  let names ← shared.mapM (Symbol.nameInScope store)
  return "!$OMP PARALLEL DO DEFAULT(firstprivate) " ++ clause ++ " " ++
    (if names.isEmpty then "\n" else "SHARED(" ++ Text.join ", " names ++ ")\n")

def checkDimensions : Outcome Unit :=
  if domains.isEmpty || domains.length > 3 then .error (.backend .regionDimensions) else .ok ()

def openACCBegin (backend : Backend) (symbols : List Symbol) (template : NodeId) : Outcome String := do
  let sizes ← CallGraph.blockSizeNames store template
  let onDevice := symbols.filter fun symbol => !symbol.domains.value.isEmpty && symbol.isOnDevice
  let domains ← CallGraph.loopDomains store template
  checkDimensions domains
  let loops := loopLines (← known backend.kernelNumber) domains
  let vectors := (sizes.take domains.length).reverse.map fun size =>
    "!$acc loop independent vector(" ++ size ++ ") \n"
  return "!$acc kernels " ++
    Text.join "" (onDevice.map fun symbol => "deviceptr(" ++ symbol.name ++ ") ") ++ "\n" ++
    Text.join "\n " ((vectors.zip loops).map fun line => line.1 ++ line.2)

/-! CUDA -/

def deviceDimensions : List String := ["x", "y", "z"]

variable (domain : LoopDomain) (dimension : String)

def threadValue : Expression :=
  .difference
    (.sum
      (.sum (.product (.enclosed (.difference (.blockIndex dimension) (.number 1)))
        (.blockSize dimension)) (.threadIndex dimension))
      domain.firstValue)
    (.number 1)

def threadIterator : String :=
  domain.name ++ " = " ++ (threadValue domain dimension).render ++ "\n"

def threadIterators : Outcome String := do
  if domains.length > 3 then throw (.backend (.tooManyDimensions domains.length))
  return Text.join "" ((domains.zip deviceDimensions).map fun place =>
    threadIterator place.1 place.2)

def behind : Excess := ⟨.iterator domain.name, domain.lastValue⟩

def threadGuard : String :=
  "if (" ++ Text.join " .OR. " (domains.map fun domain => (behind domain).render) ++
    ") then\nreturn\nend if\n"

variable (backend : Backend) (domains : List LoopDomain)

def iteratorDefinition : Outcome String :=
  if backend.kind.isCuda then threadIterators domains else .ok ""

def safetyGuard : String :=
  if backend.kind.isCuda then threadGuard domains else ""

def boundsLength : List String → Outcome Expression
  | [size] => .ok (.source size)
  | [lower, upper] =>
    .ok (.sum (.difference (.source upper) (.enclosed (.source lower))) (.number 1))
  | components => .error (.backend (.sizeComponents components))

def iterationCount : Outcome Expression :=
  match domain.startsAt, domain.endsAt with
  | some first, some last => boundsLength [first, last]
  | _, _ => boundsLength (Text.split ":" domain.size)

def gridNames : List String := ["cugridSizeX", "cugridSizeY", "cugridSizeZ"]

structure GridDimension where
  blocks : Expression
  threads : Expression

def gridDimension (blockSize : String) (domain : Option LoopDomain) : Outcome GridDimension := do
  match domain with
  | none => return ⟨.number 1, .number 1⟩
  | some domain => do
    let count ← iterationCount domain
    return ⟨.ceiling count (.source blockSize), .source blockSize⟩

def gridText (blockSizes : List String) : Outcome String := do
  let dimensions ← (gridNames.zip blockSizes).zipIdx.mapM fun (place, index) => do
    return (place.1, ← gridDimension place.2 domains[index]?)
  return Text.join "\n" (dimensions.map fun place => place.1 ++ " = " ++ place.2.blocks.render) ++
    "\ncugrid = dim3(" ++ Text.join ", " gridNames ++ ")\ncublock = dim3(" ++
    Text.join ", " (dimensions.map fun place => place.2.threads.render) ++ ")\n"

def cacheText (kernel : String) : String :=
  "cuerror = cudaFuncSetCacheConfig(" ++ kernel ++ ", cudaFuncCachePreferL1)\n" ++
    "cuerror = cudaGetLastError()\nif(cuerror .NE. cudaSuccess) then\n " ++
    "\t\twrite(0, *) 'CUDA error when setting cache configuration for kernel " ++ kernel ++
    ":', cudaGetErrorString(cuerror)\n \tstop 1\nend if\n"

def launchPreparation (template : NodeId) (kernel : Option String) : Outcome String := do
  let keepsCache ← backend.hasFlag "DO_NOT_TOUCH_GPU_CACHE_SETTINGS"
  let cache := match kernel with
    | some kernel => if keepsCache then "" else cacheText kernel
    | none => ""
  let blockSizes ← CallGraph.blockSizeNames store template
  let domains ← CallGraph.loopDomains store template
  checkDimensions domains
  return cache ++ (← gridText domains blockSizes)

def errorHandling (kernel variableName : String) (stops : Bool) : Outcome String := do
  if kernel.isEmpty then throw (.backend .routineWithoutName)
  return variableName ++ " = cudaThreadSynchronize()\n" ++ variableName ++ " = cudaGetLastError()\nif(" ++
    variableName ++ " .NE. cudaSuccess) then\n\twrite(0, *) 'CUDA error in kernel " ++ kernel ++
    ":', cudaGetErrorString(" ++ variableName ++ ")\n" ++ (if stops then "stop 1\n" else "") ++
    "end if\n"

end Backend

end ParallelFortran
