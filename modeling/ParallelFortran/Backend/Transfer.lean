import ParallelFortran.Backend.Debug
import ParallelFortran.Backend.Declarations

/-! Allocation of data on the device and its transfer at the begin and at the exits of a routine. -/

namespace ParallelFortran

open Xml

namespace Backend

def needsCopy (symbol : Symbol) : Bool :=
  !symbol.domains.value.isEmpty && symbol.isOnDevice && !symbol.isPresent

def hasKnownSizes (symbol : Symbol) : Bool :=
  !symbol.domains.value.any fun domain => domain.size == ":"

def isExchanged (store : Store) (intents : List String) (symbol : Symbol) : Outcome Bool := do
  if symbol.hasIntent intents then return true
  return (← symbol.declarationKind store) == .moduleArray

def bothSelections (id : SymbolId) : RegistryM (String × String) := do
  Registry.change id fun symbol => { symbol with usesDeviceName := false }
  let host ← Registry.ask id fun store symbol => symbol.selectionText store
  Registry.change id fun symbol => { symbol with usesDeviceName := true }
  let device ← Registry.ask id fun store symbol => symbol.selectionText store
  return (host, device)

variable (isCallingKernel : Bool)

def allocation (routine : String) (id : SymbolId) : RegistryM String := do
  let symbol ← Registry.find id
  if !(isCallingKernel || symbol.isTransferred) || !symbol.hasUndecidedSizes ||
      !hasKnownSizes symbol then return ""
  if !symbol.isTransferred then
    Registry.report .info ("Generating implicit device data allocation for " ++ symbol.name ++
      " in " ++ routine)
  let check ← (arrayCheck symbol none : Outcome _)
  match symbol.allocationText (← get).store with
  | .ok text => return check ++ "\nallocate(" ++ text ++ ")\nend if\n"
  | .error fault =>
    throw (.during (.backend (.cannotAllocate symbol.name symbol.domains.value isCallingKernel
      symbol.isTransferred)) fault)

def filling (routine : String) (id : SymbolId) : RegistryM String := do
  let symbol ← Registry.find id
  let isNeeded := isCallingKernel || symbol.isTransferred
  if (← (isExchanged (← get).store ["in", "inout"] symbol : Outcome _)) && isNeeded then
    if !hasKnownSizes symbol then return ""
    Registry.report .info ("Generating device data transfer for " ++ symbol.name ++ " in " ++ routine)
    let check ← (arrayCheck symbol none : Outcome _)
    let (host, device) ← bothSelections id
    return check ++ "\n" ++ device ++ " = " ++ host ++ "\nend if\n"
  if isNeeded then
    Registry.report .info ("Setting device data to 0 for " ++ symbol.name ++ " in " ++ routine)
    return (← (symbol.selectionText (← get).store : Outcome _)) ++ " = 0\n"
  return ""

def transferIn (routine : String) (ids : List SymbolId) : RegistryM String := do
  let texts ← ids.mapM fun id => do
    if !needsCopy (← Registry.find id) then return ""
    let allocated ← allocation isCallingKernel routine id
    return allocated ++ (← filling isCallingKernel routine id)
  return Text.join "" texts

def copyBack (id : SymbolId) : RegistryM String := do
  let symbol ← Registry.find id
  let isExchangedHere ← (isExchanged (← get).store ["out", "inout"] symbol : Outcome _)
  if !isExchangedHere || !(isCallingKernel || symbol.isTransferred) || !hasKnownSizes symbol then
    return ""
  let check ← (arrayCheck symbol none : Outcome _)
  let (host, device) ← bothSelections id
  return check ++ "\n" ++ host ++ " = " ++ device ++ "\nend if\n"

def deallocation (id : SymbolId) : RegistryM String := do
  let symbol ← Registry.find id
  if !(isCallingKernel || symbol.isTransferred) || !symbol.hasUndecidedSizes ||
      !hasKnownSizes symbol then return ""
  let check ← (arrayCheck symbol none : Outcome _)
  return check ++ "\ndeallocate(" ++ (← (symbol.nameInScope (← get).store : Outcome _)) ++
    ")\nend if\n"

def transferOut (ids : List SymbolId) : RegistryM String := do
  let texts ← ids.mapM fun id => do
    if !needsCopy (← Registry.find id) then return ""
    let copied ← copyBack isCallingKernel id
    return copied ++ (← deallocation isCallingKernel id)
  return Text.join "" texts

end Backend

end ParallelFortran
