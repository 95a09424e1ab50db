import ParallelFortran.Backend.Basic
import ParallelFortran.Region.Basic

/-! Routines. Of a routine that is only called nothing but its name and arguments need be known. -/

namespace ParallelFortran

open Xml

structure RoutineBody where
  backend : BackendId
  node : NodeId
  sister : Option RoutineId := none
  regionTemplates : Option (List NodeId) := none
  symbols : Option (Table String SymbolId) := none
  callees : List RoutineId := []
  regions : List Region := [.new .specification]
  additionalArguments : Option (List SymbolId) := none
  additionalImports : Option (List SymbolId) := none
  symbolsToUpdate : Option (List SymbolId) := none
  knowsProgram : Bool := false
  imports : Option Imports := none
  userNames : Option (List String) := none
  synthesized : Option (List SymbolId) := none
  packed : Table String (List SymbolId) := .empty
  calleeNames : Option (Table String String) := none
  usedNames : List String := []
  kernelUses : Table String Nat := .empty
  deriving Inhabited

namespace RoutineBody

variable (body : RoutineBody) (symbol : Symbol)

def uses : Bool :=
  body.usedNames.contains symbol.name

def usesInKernels : Bool :=
  body.kernelUses.contains symbol.name

def changeLast (change : Region → Region) (body : RoutineBody) : RoutineBody :=
  match body.regions.getLast? with
  | none => body
  | some region => { body with regions := body.regions.dropLast ++ [change region] }

def loadLine (text : String) (symbols : List SymbolId) (body : RoutineBody) : RoutineBody :=
  body.changeLast fun region => region.loadLine text symbols

def addRegion (region : Region) (isBehindParallel : Bool) (body : RoutineBody) : RoutineBody :=
  if body.regions.getLast?.any Region.isParallel && !isBehindParallel then
    body.changeLast (Region.addPart region)
  else { body with regions := body.regions ++ [region] }

variable (callee : RoutineId)

def setCallee : Region → Option Region
  | .call lines _ passed => some (.call lines (some callee) passed)
  | _ => none

def setLastCallee : Region → Option Region
  | .parallel template parts => do
    let part ← setCallee callee (← parts.getLast?)
    return .parallel template (parts.dropLast ++ [part])
  | region => setCallee callee region

def loadCall? (body : RoutineBody) : Option RoutineBody := do
  let changed ← setLastCallee callee (← body.regions.getLast?)
  return { body with
    regions := body.regions.dropLast ++ [changed], callees := body.callees ++ [callee] }

end RoutineBody

structure Routine where
  name : String
  moduleName : Option String
  arguments : Option (List String) := none
  isUsedOnHostOnly : Bool := false
  body : Option RoutineBody := none
  deriving Inhabited

end ParallelFortran
