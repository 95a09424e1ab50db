import ParallelFortran.Routine.Code
import ParallelFortran.Routine.Versions

/-! The code of modules. -/

namespace ParallelFortran

namespace Work

def prepareModule (id : ModuleId) : Work Unit := do
  let generated ← (← module id).routines.mapM generateRoutines
  changeModule id fun module => { module with generated := generated.flatten }
  generated.flatten.forM analyseUsage

def joinParts (parts : List String) : String :=
  Text.join "\n" ((parts.filter (! ·.isEmpty)).map (· ++ "\n"))

def prepareRoutines (routines : List RoutineId) : Work Unit := do
  routines.forM checkRegions
  routines.forM fun id => do
    deduplicateSymbols id
    prepareCalls id
  routines.forM prepareContext
  routines.forM fun id => do
    mergeSymbols id
    analyseUsage id
  routines.forM checkSymbols

def moduleCode (id : ModuleId) : Work String := do
  let routines := (← module id).generated
  prepareRoutines routines
  changeModule id fun module => { module with footer := module.undecided, undecided := "" }
  let codes ← routines.mapM fun routine => do
    let code ← routineCode routine
    let behind := ((← module id).textBehind.get? (← Work.routine routine).name).getD ""
    return Text.strip (code ++ "\n" ++ Text.strip behind)
  let module ← module id
  return joinParts (Text.strip module.header :: (codes ++ [Text.strip module.footer]))

end Work

end ParallelFortran
