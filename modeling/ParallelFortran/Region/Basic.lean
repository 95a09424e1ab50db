import ParallelFortran.Symbol.Basic

/-! Regions: the parts of which a routine consists. Each line of a region is kept with the symbols
that occur in it. -/

namespace ParallelFortran

open Xml

structure RoutineId where
  index : Nat
  deriving DecidableEq, Repr, Inhabited

structure RegionLine where
  text : String
  symbols : List SymbolId
  deriving Inhabited

/-- The names that a routine imports: for a module and a name in the routine, the name in the module.
Without a name in the routine all of the module is imported. -/
abbrev Imports := Table (String × Option String) (Option String)

structure SpecificationContext where
  kernelParameters : Table String (List SymbolId × List SymbolId)
  added : List SymbolId
  compactionDeclarations : Table String (Option String)
  compacted : List SymbolId
  imports : Option Imports
  deriving Inhabited

inductive Region where
  | plain (lines : List RegionLine)
  | call (lines : List RegionLine) (callee : Option RoutineId)
      (passed : Option (Table String SymbolId))
  | parallel (template : Option NodeId) (regions : List Region)
  | specification (lines : List RegionLine) (dataLines : List String)
      (context : Option SpecificationContext) (typeParameters : Option (Table String SymbolId))
  | earlyExit (lines : List RegionLine)
  deriving Inhabited

inductive RegionKind where
  | plain
  | call
  | parallel
  | specification
  | earlyExit
  deriving DecidableEq, Repr, Inhabited

namespace RegionKind

def name : RegionKind → String
  | plain => "Region"
  | call => "CallRegion"
  | parallel => "ParallelRegion"
  | specification => "RoutineSpecificationRegion"
  | earlyExit => "RoutineEarlyExitRegion"

def mark (kind : RegionKind) : String :=
  "<class 'models.region." ++ kind.name ++ "'>"

end RegionKind

inductive DeclarationPlace where
  | moduleScope
  | kernelCaller
  | other
  deriving DecidableEq, Repr, Inhabited

namespace Region

def kind : Region → RegionKind
  | plain _ => .plain
  | call _ _ _ => .call
  | parallel _ _ => .parallel
  | specification _ _ _ _ => .specification
  | earlyExit _ => .earlyExit

/-- An empty region of a kind. A parallel region begins with a plain one inside. -/
def new : RegionKind → Region
  | .plain => plain []
  | .call => call [] none none
  | .parallel => parallel none [plain []]
  | .specification => specification [] [] none none
  | .earlyExit => earlyExit []

mutual

def lines : Region → List RegionLine
  | plain lines => lines
  | call lines _ _ => lines
  | parallel _ regions => linesOfAll regions
  | specification lines _ _ _ => lines
  | earlyExit lines => lines

def linesOfAll : List Region → List RegionLine
  | [] => []
  | region :: regions => region.lines ++ linesOfAll regions

end

def isParallel (region : Region) : Bool := region.kind == .parallel

def mentions (region : Region) (text : String) : Bool :=
  region.lines.any fun line => Text.contains line.text text

mutual

def addLine (line : RegionLine) : Region → Region
  | plain lines => plain (lines ++ [line])
  | call lines callee passed => call (lines ++ [line]) callee passed
  | parallel template regions => parallel template (addLineToLast line regions)
  | specification lines dataLines context typeParameters =>
    specification (lines ++ [line]) dataLines context typeParameters
  | earlyExit lines => earlyExit (lines ++ [line])

def addLineToLast (line : RegionLine) : List Region → List Region
  | [] => []
  | [region] => [region.addLine line]
  | region :: next :: regions => region :: addLineToLast line (next :: regions)

end

def loadLine (region : Region) (text : String) (symbols : List SymbolId) : Region :=
  let stripped := Text.strip text
  if stripped.isEmpty then region else region.addLine ⟨stripped, symbols⟩

def addPart (part : Region) : Region → Region
  | parallel template regions => parallel template (regions ++ [part])
  | region => region

def parts : Region → List Region
  | parallel _ regions => regions
  | region => [region]

def mapParts (change : Region → Region) : Region → Region
  | parallel template regions => parallel template (regions.map change)
  | region => change region

end Region

end ParallelFortran
