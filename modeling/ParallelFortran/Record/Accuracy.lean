import ParallelFortran.Number.Basic

/-! How far values are from reference values. -/

namespace ParallelFortran

structure Mismatch where
  index : Nat
  value : Number
  expected : Number
  deriving DecidableEq, Repr, Inhabited

structure Deviation where
  error : Binary64
  first? : Option Mismatch
  largest? : Option Nat
  nextValue : Number
  nextExpected : Number
  deriving DecidableEq, Repr, Inhabited

namespace Deviation

structure Progress where
  squares : Binary64 := .zero
  first? : Option Mismatch := none
  differences : List Number := []

def relative (bound value difference : Number) : Outcome Number :=
  if bound.lt value.abs then difference.abs.div value.abs else .ok difference.abs

/-- The square that counts, and the first mismatch so far. A difference whose square is too large is
always reported. -/
def judge (bound : Number) (mismatch : Mismatch) (difference relative : Number) (first? : Option Mismatch) :
    Number × Option Mismatch :=
  match difference.square with
  | .error _ => (.real .largest, some mismatch)
  | .ok square =>
    if difference.isNaN && first?.isNone then (.zero, some mismatch)
    else if bound.lt relative && first?.isNone then (square, some mismatch)
    else (square, first?)

def step (bound : Number) (progress : Progress) (mismatch : Mismatch) : Outcome Progress := do
  let difference := mismatch.value.sub mismatch.expected
  let relative ← relative bound mismatch.value difference
  let (square, first?) := judge bound mismatch difference relative progress.first?
  return { squares := progress.squares.add square.toReal, first?
           differences := difference.abs :: progress.differences }

def compare (bound : Number) : Nat → Progress → List Number → List Number → Outcome Progress
  | _, progress, [], _ => .ok progress
  | _, _, _ :: _, [] => .error (.defect .outOfRange)
  | index, progress, value :: values, expected :: reference => do
    let progress ← step bound progress ⟨index, value, expected⟩
    compare bound (index + 1) progress values reference

def largestIndex : Nat → Number → Nat → List Number → Nat
  | best, _, _, [] => best
  | best, most, index, number :: numbers =>
    if most.lt number then largestIndex index number (index + 1) numbers
    else largestIndex best most (index + 1) numbers

def largestIndex? : List Number → Option Nat
  | [] => none
  | number :: numbers => some (largestIndex 0 number 1 numbers)

def ofValues (values reference : List Number) (bound : Number) : Outcome Deviation := do
  let progress ← compare bound 1 {} values reference
  let largest? := (largestIndex? progress.differences.reverse).map (· + 1)
  let mean ← Number.mean values
  let root := Number.real progress.squares.sqrt
  let error ← if bound.lt mean then root.div mean.abs else pure root
  let behind := fun (numbers : List Number) => (largest?.bind fun index => numbers[index]?).getD .zero
  return { error := error.toReal, first? := progress.first?, largest?
           nextValue := behind values, nextExpected := behind reference }

end Deviation

inductive Integrity where
  | invalid (index : Nat) (value : Number)
  | valid (mean : Number)
  deriving DecidableEq, Repr, Inhabited

namespace Integrity

def firstInvalid? : Nat → List Number → Option (Nat × Number)
  | _, [] => none
  | index, number :: numbers =>
    if number.isNaN || number.isInfinite then some (index, number)
    else firstInvalid? (index + 1) numbers

def ofValues (values : List Number) : Outcome Integrity :=
  match firstInvalid? 0 values with
  | some (index, value) => .ok (invalid index value)
  | none => (Number.mean values).map valid

def printed : Integrity → String
  | invalid _ _ => ""
  | valid mean => s!"mean: {mean.scientificText}\n"

end Integrity

end ParallelFortran
