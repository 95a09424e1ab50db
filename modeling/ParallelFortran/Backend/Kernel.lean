import ParallelFortran.Backend.Call

/-! The begin and the end of parallel regions. -/

namespace ParallelFortran

open Xml
open CallGraph (LoopDomain)

namespace Backend

def firstElement (domains : List LoopDomain) (symbol : Symbol) : List String :=
  let starts := domains.filterMap fun domain =>
    if symbol.domains.value.any fun own => own.name == domain.name then some domain.first else none
  starts ++ List.replicate (symbol.domains.value.length - starts.length) "1"

variable (store : Store) (backend : Backend)

def reportingBegin (symbols : List Symbol) (template : NodeId) : Outcome String := do
  let domains ← CallGraph.loopDomains store template
  let definition ← threadIterators domains
  let node ← known backend.routineNode
  let routine := store.value node "name"
  if routine.isEmpty then throw (.backend .noRoutineName)
  let iterators ← backend.iterators store template
  if iterators.isEmpty then throw (.backend .noIterators)
  let invalid := "(" ++ Text.join " .OR. " (iterators.map (· ++ " .LT. 1")) ++ ")"
  let isFirst := "(" ++ Text.join " .AND. " (iterators.map (· ++ " .EQ. 1")) ++ ")"
  let read := symbols.filter fun symbol =>
    symbol.intent == some "in" || symbol.intent == some "inout"
  let values ← read.mapM fun symbol => do
    let element ← symbol.access store { iterators, region := some template }
      (firstElement domains symbol)
    return "if " ++ isFirst ++ " then\n\twrite(0,*) '" ++ element ++ "', " ++ element ++
      "\nend if\n"
  return definition ++ "if " ++ invalid ++
    " then\n\twrite(0,*) 'ERROR: invalid initialization of iterators in kernel " ++ routine ++
    " - check kernel domain setup'\n\twrite(0,*) " ++
    Text.join ", " (iterators.map fun iterator => "'" ++ iterator ++ "', " ++ iterator) ++
    "\nend if\nif " ++ isFirst ++ " write(0,*) '*********** entering kernel " ++ routine ++
    " finished *************** '\n" ++ Text.join "" values ++
    "if " ++ isFirst ++ " write(0,*) '**********************************************'\n" ++
    "if " ++ isFirst ++ " write(0,*) ''\n" ++ threadGuard domains

def regionBegin (routine : Option RoutineView) (symbols : List Symbol) (template : NodeId) :
    Outcome String := do
  match backend.kind with
  | .openMP => do
    let directive ← openMPBegin store routine symbols template
    return directive ++
      (← loopsBegin backend.kernelNumber (← CallGraph.loopDomains store template))
  | .openACC | .debugOpenACC | .traceCheckingOpenACC =>
    openACCBegin store backend symbols template
  | .cuda | .debugCuda => do
    let domains ← CallGraph.loopDomains store template
    return (← threadIterators domains) ++ threadGuard domains
  | .emulatedCuda => reportingBegin store backend symbols template
  | _ => do loopsBegin backend.kernelNumber (← CallGraph.loopDomains store template)

def endDirective (kind : BackendKind) : String :=
  if kind == .openMP then "\n!$OMP END PARALLEL DO\n"
  else if kind.isOpenACC then "\n!$acc end kernels\n"
  else ""

end Backend

namespace Work

def regionPrints (id : RoutineId) (backend : Backend) (template : NodeId) : Work String := do
  let session ← get
  let routine ← routine id
  let body ← body id
  let number ← (Backend.known backend.kernelNumber : Outcome _)
  match (body.regions.filter Region.isParallel)[number]? with
  | none =>
    throw (.backend (.noActiveRegion number (body.regions.map fun region => region.kind.mark)))
  | some region => do
    let symbols ← match body.symbols with
      | some symbols => pure symbols
      | none => throw (.defect .missingPart)
    let names ← (session.regionNames region : Outcome _)
    let used := (symbols.values.map session.symbol).filter fun symbol => names.contains symbol.name
    let used := (Table.ofList (used.map fun symbol => (symbol.name, symbol))).values
    let kernel := if backend.namesKernels then Naming.kernel routine.name number else routine.name
    (Backend.debugPrints session.store kernel used (session.position body) (some template) :
      Outcome _)

def endRegion (id : BackendId) (template : NodeId) (routine : Option RoutineId)
    (skipsPrints : Bool) : Work String := do
  let backend ← backend id
  if backend.kind.isCuda then return ""
  let prints : Work String := do
    if skipsPrints then return ""
    if !(← (backend.printsDebug : Outcome _)) then return ""
    match routine with
    | some routine => regionPrints routine backend template
    | none => throw (.defect .missingPart)
  let directive := Backend.endDirective backend.kind
  let early ← if directive.isEmpty then pure "" else prints
  let domains ← (CallGraph.loopDomains (← store) template : Outcome _)
  let loops ← (Backend.loopsEnd backend.kernelNumber domains : Outcome _)
  let late ← if directive.isEmpty then prints else pure ""
  let _ ← (Backend.known backend.kernelNumber : Outcome _)
  setBackend id backend.nextKernel
  return loops ++ late ++ directive ++ early

def beginStub (id : BackendId) : Work String := do
  ((← backend id).stubBegin : Outcome _)

def endStub (id : BackendId) : Work String := do
  let backend ← backend id
  let text ← (backend.stubEnd : Outcome _)
  setBackend id backend.nextKernel
  return text

end Work

end ParallelFortran
