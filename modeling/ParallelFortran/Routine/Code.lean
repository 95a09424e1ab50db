import ParallelFortran.Region.Code
import ParallelFortran.Routine.Merge

/-! The code of routines. -/

namespace ParallelFortran

open Xml

namespace Work

def additionalParameterCode (ids : List SymbolId) : Work String := do
  let parameters ← ids.mapM fun id => do
    let name ← onRegistry (Registry.nameInScope id)
    return name ++ " & !additional type " ++ toString (← kindNumber id) ++
      " symbol inserted by framework \n"
  return if parameters.isEmpty then "" else "&\n&" ++ Text.join "&, " parameters

variable (id : RoutineId)

def parameterList : Work String := do
  let session ← get
  let body ← body id
  let required := (body.additionalArguments.getD []).filter fun id =>
    isPassed body (session.symbol id)
  let additional ← additionalParameterCode required
  let arguments := ((session.routine id).arguments).getD []
  let separator := if required.isEmpty then "" else if arguments.isEmpty then "& " else "&, "
  let symbols := body.symbols.getD .empty
  let names ← arguments.mapM fun argument =>
    match symbols.get? argument with
    | some symbol => onRegistry (Registry.nameInScope symbol)
    | none => pure argument
  return additional ++ separator ++ Text.join ", " names

def headerCode : Work String := do
  let parameters ← parameterList id
  let body ← body id
  let attributes ← routineAttributes body.backend body.node
  return attributes ++ " subroutine " ++ (← routine id).name ++ "(" ++ parameters ++ ")\n"

def additionalImportCode : Work String := do
  let session ← get
  let body ← body id
  let backend := session.backend body.backend
  let whole := wholeModules body.imports
  let imports := body.additionalImports.getD []
  if imports.isEmpty then return backend.includes
  let needed := imports.filter fun id =>
    !((session.symbol id).sourceModule session.store).any whole.contains
  let text ← onRegistry (backend.importSymbols
    ⟨none, session.declarationPlace body, session.position body, false⟩ needed)
  return text ++ backend.includes

def footerCode : Work String := do
  let session ← get
  let body ← body id
  let ids := usedOrTransferred body session (← symbolsOf id).values
  let exit ← exitRoutine body.backend ids (session.isCallingKernel body) true
  return exit ++ "end subroutine\n"

def routineParts : Work (List String) := do
  updateSymbols id
  checkSymbols id
  let header ← headerCode id
  let imports ← additionalImportCode id
  let isMarked := (← get).marksRegions
  let regions ← regionCodes id isMarked none (← body id).regions
  let footer ← footerCode id
  return header :: imports :: (regions ++ [footer])

def routineCode : Work String := do
  let name := (← routine id).name
  let parts ← try routineParts id catch fault =>
    throw (fault.inRoutine (if fault.refusal? == some .usage then .usage else .scope) name)
  return Text.join "\n" (parts.filter (! ·.isEmpty))

end Work

end ParallelFortran
