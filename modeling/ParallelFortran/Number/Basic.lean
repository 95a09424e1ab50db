import ParallelFortran.Fault
import ParallelFortran.Number.Binary64

/-! Numbers that are whole or real. Whole ones stay whole until they meet a real one or are
divided. -/

namespace ParallelFortran

inductive Number where
  | integer (value : Int)
  | real (value : Binary64)
  deriving DecidableEq, Repr, Inhabited

namespace Number

def zero : Number := real .zero

def toReal : Number → Binary64
  | integer value => .ofInt value
  | real value => value

def combine (whole : Int → Int → Int) (broken : Binary64 → Binary64 → Binary64) : Number → Number → Number
  | integer left, integer right => integer (whole left right)
  | left, right => real (broken left.toReal right.toReal)

def add : Number → Number → Number := combine (· + ·) Binary64.add

def sub : Number → Number → Number := combine (· - ·) Binary64.sub

def abs : Number → Number
  | integer value => integer value.natAbs
  | real value => real value.abs

def lt : Number → Number → Bool
  | integer left, integer right => left < right
  | left, right => left.toReal.lt right.toReal

def isNaN (number : Number) : Bool := number.toReal.isNaN

def isInfinite (number : Number) : Bool := number.toReal.isInfinite

def isZero : Number → Bool
  | integer value => value == 0
  | real value => value.isZero

def div (left right : Number) : Outcome Number :=
  if right.isZero then .error (.defect .divisionByZero)
  else .ok (real (left.toReal.div right.toReal))

def square : Number → Outcome Number
  | integer value => .ok (integer (value * value))
  | real value =>
    let result := value.square
    if value.isFinite && result.isInfinite then .error (.defect .overflow) else .ok (real result)

def sum (numbers : List Number) : Number := numbers.foldl add (integer 0)

def mean (numbers : List Number) : Outcome Number :=
  if numbers.isEmpty then .ok (real .one) else (sum numbers).div (integer numbers.length)

def truncate : Number → Outcome Int
  | integer value => .ok value
  | real value =>
    if value.isNaN then .error (.defect .badValue)
    else if value.isInfinite then .error (.defect .overflow)
    else .ok value.truncate

def text : Number → String
  | integer value => toString value
  | real value => value.text

def scientificText (number : Number) : String := number.toReal.scientificText

def literal? : Text.Letters → Option Number
  | '-' :: rest => (literal? rest).map fun number =>
    match number with
    | integer value => integer (-value)
    | real value => real value.negate
  | '+' :: rest => literal? rest
  | ' ' :: rest => literal? rest
  | text => do
    let numeral ← Text.Numeral.split? text
    if numeral.fraction.isNone && numeral.exponent.isNone then
      let value ← Text.digitsValue? 0 false numeral.whole
      if numeral.whole.head? == some '0' && value != 0 then none else some (integer value)
    else numeral.value?.map real

end Number

end ParallelFortran
