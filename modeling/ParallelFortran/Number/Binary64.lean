import ParallelFortran.Text.Basic

/-! Numbers of double precision, given by their bits. An operation on a NaN answers that NaN, and an
operation that has no value answers the negative quiet NaN, so the bits of every result are known. -/

namespace ParallelFortran

structure Binary64 where
  bits : UInt64
  deriving DecidableEq, Repr, Inhabited

namespace Binary64

variable (value : Binary64)

def isNegative : Bool := Nat.pow 2 63 ≤ value.bits.toNat

def exponentField : Nat := value.bits.toNat / Nat.pow 2 52 % 2048

def fraction : Nat := value.bits.toNat % Nat.pow 2 52

def isNaN : Bool := value.exponentField == 2047 && value.fraction != 0

def isInfinite : Bool := value.exponentField == 2047 && value.fraction == 0

def isFinite : Bool := value.exponentField != 2047

def isZero : Bool := value.exponentField == 0 && value.fraction == 0

/-- A finite number is `significand * 2 ^ scale`, up to its sign. -/
def significand : Nat :=
  if value.exponentField == 0 then value.fraction else Nat.pow 2 52 + value.fraction

def scale : Int := (max 1 value.exponentField : Nat) - 1075

def toFloat : Float := Float.ofBits value.bits

def ofFloat (value : Float) : Binary64 := ⟨value.toBits⟩

def zero : Binary64 := ⟨0⟩

def one : Binary64 := ⟨0x3ff0000000000000⟩

def ofInt (value : Int) : Binary64 := ofFloat (Float.ofInt value)

def largest : Binary64 := ⟨0x7fefffffffffffff⟩

def invalid : Binary64 := ⟨0xfff8000000000000⟩

def quiet : Binary64 := ⟨value.bits ||| 0x0008000000000000⟩

def abs : Binary64 := ⟨value.bits &&& 0x7fffffffffffffff⟩

def ofResult (value : Float) : Binary64 := if value.isNaN then invalid else ofFloat value

def map (operation : Float → Float) (value : Binary64) : Binary64 :=
  if value.isNaN then value.quiet else ofResult (operation value.toFloat)

def combine (operation : Float → Float → Float) (left right : Binary64) : Binary64 :=
  if left.isNaN then left.quiet
  else if right.isNaN then right.quiet
  else ofResult (operation left.toFloat right.toFloat)

def add : Binary64 → Binary64 → Binary64 := combine Float.add

def sub : Binary64 → Binary64 → Binary64 := combine Float.sub

def div : Binary64 → Binary64 → Binary64 := combine Float.div

def sqrt : Binary64 → Binary64 := map Float.sqrt

def square : Binary64 := value.map fun base => base.pow (Float.ofNat 2)

def lt (left right : Binary64) : Bool := left.toFloat < right.toFloat

def truncate : Int :=
  let size := if 0 ≤ value.scale then value.significand * Nat.pow 2 value.scale.toNat
    else value.significand / Nat.pow 2 (-value.scale).toNat
  if value.isNegative then -(size : Int) else size

def ofFields (isNegative : Bool) (exponentField fraction : Nat) : Binary64 :=
  ⟨UInt64.ofNat ((if isNegative then Nat.pow 2 63 else 0) + exponentField * Nat.pow 2 52 + fraction)⟩

def ofSingle (bits : Nat) : Binary64 :=
  let isNegative := bits / Nat.pow 2 31 % 2 == 1
  let exponent := bits / Nat.pow 2 23 % 256
  let fraction := bits % Nat.pow 2 23
  if exponent == 255 then
    let value := ofFields isNegative 2047 (fraction * Nat.pow 2 29)
    if fraction == 0 then value else value.quiet
  else if exponent == 0 then
    if fraction == 0 then ofFields isNegative 0 0
    else
      let place := fraction.log2
      ofFields isNegative (place + 874) ((fraction - Nat.pow 2 place) * Nat.pow 2 (52 - place))
  else ofFields isNegative (exponent + 896) (fraction * Nat.pow 2 29)

end Binary64

/-! Decimal digits of a finite number, chosen by exact arithmetic: the fewest that identify it, or a
fixed count of them. -/

structure Decimal where
  digits : Nat
  exponent : Int
  deriving DecidableEq, Repr, Inhabited

namespace Decimal

def digitCount (value : Nat) : Nat := (Nat.toDigits 10 value).length

/-- Two naturals whose quotient is `significand * 2 ^ scale / 10 ^ exponent`. -/
def quotient (significand : Nat) (scale exponent : Int) : Nat × Nat :=
  (significand * Nat.pow 2 scale.toNat * Nat.pow 10 (-exponent).toNat,
    Nat.pow 10 exponent.toNat * Nat.pow 2 (-scale).toNat)

/-- No finite number but zero is below `10 ^ (-350)`. -/
def depth : Nat := 350

def place (significand : Nat) (scale : Int) : Int :=
  let (numerator, denominator) := quotient significand scale (-depth)
  (digitCount (numerator / denominator) : Int) - depth

def roundQuotient (numerator denominator : Nat) : Nat :=
  let whole := numerator / denominator
  let rest := 2 * (numerator % denominator)
  if rest < denominator || (rest == denominator && whole % 2 == 0) then whole else whole + 1

/-- A number with the distances to its neighbours. Ends of the interval between the midpoints belong
to it if its significand is even. -/
structure Gap where
  significand : Nat
  scale : Int
  isNarrowBelow : Bool

def Gap.ofNumber (value : Binary64) : Gap :=
  { significand := value.significand, scale := value.scale
    isNarrowBelow := value.fraction == 0 && value.exponentField > 1 }

def Gap.contains (gap : Gap) (decimal : Decimal) : Bool :=
  let (unit, factor) := quotient 1 (gap.scale - 2) decimal.exponent
  let candidate := decimal.digits * factor
  let lowest := (4 * gap.significand - (if gap.isNarrowBelow then 1 else 2)) * unit
  let highest := (4 * gap.significand + 2) * unit
  if gap.significand % 2 == 0 then lowest ≤ candidate && candidate ≤ highest
  else lowest < candidate && candidate < highest

def Gap.decimal? (gap : Gap) (exponent : Int) : Option Decimal :=
  let (numerator, denominator) := quotient gap.significand gap.scale exponent
  let below := numerator / denominator
  let nearest := roundQuotient numerator denominator
  [nearest, below, below + 1].findSome? fun digits =>
    let decimal : Decimal := ⟨digits, exponent⟩
    if gap.contains decimal then some decimal else none

def trimmed : Nat → Decimal → Decimal
  | 0, decimal => decimal
  | fuel + 1, decimal =>
    if decimal.digits != 0 && decimal.digits % 10 == 0 then
      trimmed fuel ⟨decimal.digits / 10, decimal.exponent + 1⟩
    else decimal

def shortest (value : Binary64) : Decimal :=
  let gap := Gap.ofNumber value
  let place := place gap.significand gap.scale
  let exponents := (List.range 17).map fun count => place - (count + 1 : Nat)
  trimmed 17 ((exponents.findSome? gap.decimal?).getD ⟨0, 0⟩)

def rounded (count : Nat) (value : Binary64) : Decimal :=
  let place := place value.significand value.scale
  let (numerator, denominator) := quotient value.significand value.scale (place - count)
  let digits := roundQuotient numerator denominator
  if digits == Nat.pow 10 count then ⟨Nat.pow 10 (count - 1), place - count + 1⟩
  else ⟨digits, place - count⟩

end Decimal

/-! How real numbers are written: in the fewest digits that identify them, or in scientific form with
six places. -/

open Text (Letters)

namespace Decimal

def zeros (count : Nat) : Letters := List.replicate count '0'

def exponentText (exponent : Int) : Letters :=
  let digits := Nat.toDigits 10 exponent.natAbs
  (if exponent < 0 then '-' else '+') :: zeros (2 - digits.length) ++ digits

variable (decimal : Decimal)

def scientific : Letters :=
  let digits := Nat.toDigits 10 decimal.digits
  let exponent := decimal.exponent + (digits.length - 1 : Nat)
  let mantissa := match digits with
    | first :: second :: rest => first :: '.' :: second :: rest
    | digits => digits
  mantissa ++ 'e' :: exponentText exponent

def positional : Letters :=
  let digits := Nat.toDigits 10 decimal.digits
  let point := digits.length + decimal.exponent
  if point ≤ 0 then '0' :: '.' :: zeros (-point).toNat ++ digits
  else if 0 ≤ decimal.exponent then digits ++ zeros decimal.exponent.toNat ++ ['.', '0']
  else digits.take point.toNat ++ '.' :: digits.drop point.toNat

/-- Numbers from a ten-thousandth up to `10 ^ 16` are written positionally. -/
def isPositional : Bool :=
  let point := digitCount decimal.digits + decimal.exponent
  point > -4 && point ≤ 16

end Decimal

namespace Binary64

def textWith (write : Binary64 → Letters) (value : Binary64) : String :=
  if value.isNaN then "nan"
  else
    let size := if value.isInfinite then "inf".toList else write value
    String.ofList (if value.isNegative then '-' :: size else size)

def text : Binary64 → String :=
  textWith fun value =>
    if value.isZero then "0.0".toList
    else
      let decimal := Decimal.shortest value
      if decimal.isPositional then decimal.positional else decimal.scientific

def scientificText : Binary64 → String :=
  textWith fun value =>
    if value.isZero then "0.000000e+00".toList else (Decimal.rounded 7 value).scientific

end Binary64

end ParallelFortran

/-! Numbers written in texts. -/

namespace ParallelFortran

open Text (Letters)

def Binary64.ofDecimal (digits : Nat) (exponent : Int) : Binary64 :=
  let place := (Nat.toDigits 10 digits).length + exponent
  if digits == 0 || place < -400 then .zero
  else if place > 400 then .ofFloat (Float.ofScientific 1 false 400)
  else .ofFloat (Float.ofScientific digits (decide (exponent < 0)) exponent.natAbs)

def Binary64.negate (value : Binary64) : Binary64 := ⟨value.bits ^^^ 0x8000000000000000⟩

namespace Text

structure Numeral where
  whole : Letters
  fraction : Option Letters
  exponent : Option Letters

def isDigitOrLine (letter : Char) : Bool := letter.isDigit || letter == '_'

def Numeral.split? (text : Letters) : Option Numeral :=
  let whole := text.takeWhile isDigitOrLine
  let rest := text.dropWhile isDigitOrLine
  let (fraction, rest) := match rest with
    | '.' :: rest => (some (rest.takeWhile isDigitOrLine), rest.dropWhile isDigitOrLine)
    | rest => (none, rest)
  match rest with
  | [] => some ⟨whole, fraction, none⟩
  | mark :: exponent => if mark == 'e' || mark == 'E' then some ⟨whole, fraction, some exponent⟩ else none

def digitsOrNone? (letters : Letters) : Option Nat :=
  if letters.isEmpty then some 0 else digitsValue? 0 false letters

def exponentValue? : Letters → Option Int
  | '-' :: digits => (digitsValue? 0 false digits).map fun value => -(value : Int)
  | '+' :: digits => (digitsValue? 0 false digits).map Int.ofNat
  | digits => (digitsValue? 0 false digits).map Int.ofNat

def Numeral.value? (numeral : Numeral) : Option Binary64 := do
  let fraction := numeral.fraction.getD []
  let whole ← digitsOrNone? numeral.whole
  let part ← digitsOrNone? fraction
  let exponent ← (numeral.exponent.map exponentValue?).getD (some 0)
  if numeral.whole.isEmpty && fraction.isEmpty then none
  else
    let places := (fraction.filter Char.isDigit).length
    some (.ofDecimal (whole * Nat.pow 10 places + part) (exponent - places))

def unsignedReal? (text : Letters) : Option Binary64 :=
  match lower (String.ofList text) with
  | "inf" | "infinity" => some ⟨0x7ff0000000000000⟩
  | "nan" => some ⟨0x7ff8000000000000⟩
  | _ => (Numeral.split? text).bind Numeral.value?

def real? (text : String) : Option Binary64 :=
  match (strip text).toList with
  | '-' :: rest => (unsignedReal? rest).map Binary64.negate
  | '+' :: rest => unsignedReal? rest
  | rest => unsignedReal? rest

end Text

end ParallelFortran
