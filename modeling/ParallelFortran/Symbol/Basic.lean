import ParallelFortran.CallGraph.SymbolAnalysis

/-! Names of generated routines and symbols. -/

namespace ParallelFortran.Naming

def limited (name : String) : String :=
  Text.take 31 name

def frameworkArray (callee : String) : String :=
  "hfimp_" ++ callee

def unique (name scope : String) : String :=
  Text.strip (name ++ "_hfauto_" ++ scope)

def device (name : String) : String :=
  if Text.contains name "%" then Text.strip name else Text.strip (name ++ "_hfdev")

def plainRoutine (name : String) : String :=
  match Pattern.Fortran.routineName.match? name with
  | some found => found.group 1
  | none => ""

variable (routine : String)

def kernel (number : Int) : String :=
  "hfk" ++ toString number ++ "_" ++ plainRoutine routine

def hostRoutine : String :=
  plainRoutine routine

def deviceRoutine : String :=
  "hfd_" ++ plainRoutine routine

end ParallelFortran.Naming

/-! Symbols: what is known of a name of a program in one scope. -/

namespace ParallelFortran

open Xml
open CallGraph (SymbolAnalysis)

structure SymbolId where
  index : Nat
  deriving DecidableEq, Repr, Inhabited

/-- A value that several symbols can have in common. Those with the same mark see each other's
additions; the mark 0 stands for the value that a new symbol begins with. -/
structure Shared (α : Type) where
  mark : Nat := 0
  value : α
  deriving Inhabited

inductive LoadStage where
  | nothing
  | template
  | entry
  | scope
  | declaration
  deriving DecidableEq, Repr, Inhabited

namespace LoadStage

def number : LoadStage → Nat
  | nothing => 0
  | template => 1
  | entry => 2
  | scope => 3
  | declaration => 4

def max (left right : LoadStage) : LoadStage :=
  if left.number < right.number then right else left

end LoadStage

inductive DeclarationKind where
  | undefined
  | localArray
  | localModuleScalar
  | moduleArray
  | foreignModuleScalar
  | frameworkArray
  | passedModuleArray
  | otherArgument
  | otherArray
  | otherScalar
  | localScalar
  deriving DecidableEq, Repr, Inhabited

namespace DeclarationKind

def all : List DeclarationKind :=
  [undefined, localArray, localModuleScalar, moduleArray, foreignModuleScalar, frameworkArray,
    passedModuleArray, otherArgument, otherArray, otherScalar, localScalar]

def number (kind : DeclarationKind) : Nat :=
  all.idxOf kind

def ofNumber? (number : Nat) : Option DeclarationKind :=
  all[number]?

def isArray : DeclarationKind → Bool
  | localArray | moduleArray | frameworkArray | passedModuleArray | otherArray => true
  | _ => false

end DeclarationKind

inductive SymbolForm where
  | plain
  | framework (callee : String) (compacted : Option (List SymbolId))
  deriving Inhabited

def localModule : String := "HF90_LOCAL_MODULE"

def isGiven (text : Option String) : Bool :=
  text.any fun text => !text.isEmpty

def preferGiven (first second : Option String) : Option String :=
  if isGiven first then first else if isGiven second then second else first

structure Symbol where
  name : String
  form : SymbolForm := .plain
  stage : LoadStage := .nothing
  template : Option NodeId := none
  entry : Option NodeId := none
  scope : Option NodeId := none
  analysis : Option SymbolAnalysis := none
  intent : Option String := none
  isConstant : Bool := false
  attributes : Option (List String) := none
  position : Option String := none
  usesDeviceName : Bool := false
  isOnDevice : Bool := false
  isModuleSymbol : Bool := false
  isForcedArgument : Bool := false
  scopeNameOverride : Option String := none
  scopedName : Option String := none
  isUserSpecified : Bool := false
  isMarkedPresent : Bool := false
  isMarkedHost : Bool := false
  isTransferred : Bool := false
  residingModuleOverride : Option String := none
  typeParameters : Shared (List (String × SymbolId)) := ⟨0, []⟩
  isDeclaredExplicitly : Bool := false
  hasUndecidedSizes : Bool := false
  isMatched : Bool := false
  isTypeParameter : Bool := false
  isDimensionParameter : Bool := false
  declaration : Option String := none
  sourceModuleName : Option String := none
  sourceName : Option String := none
  regionTemplates : Option (List NodeId) := none
  declaredSizes : Option (List String) := none
  isAutoDom : Bool := false
  isCompacted : Bool := false
  domainMacro : Option String := none
  accessMacro : Option String := none
  kindOverride : Option DeclarationKind := none
  templateDomains : Option (List Domain) := none
  domains : Shared (List Domain) := ⟨0, []⟩
  kernelDomains : List String := []
  inactiveSizes : Shared (List String) := ⟨0, []⟩
  kernelSizes : Table String (List String) := .empty
  globalDomains : List String := []
  declarationSuffix : Option String := none
  deriving Inhabited

end ParallelFortran
