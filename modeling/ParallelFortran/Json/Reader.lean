import ParallelFortran.Json.Basic

/-! Reading of JSON text. Besides the standard grammar the numbers `NaN`, `Infinity` and `-Infinity`
are known. -/

namespace ParallelFortran.Json

open Text (Letters)

namespace Reader

def isSpace (letter : Char) : Bool :=
  letter == ' ' || letter == '\t' || letter == '\n' || letter == '\r'

def skip (text : Letters) : Letters :=
  text.dropWhile isSpace

def hexValue? (letter : Char) : Option Nat :=
  if '0' ≤ letter && letter ≤ '9' then some (letter.toNat - 48)
  else if 'a' ≤ letter && letter ≤ 'f' then some (letter.toNat - 87)
  else if 'A' ≤ letter && letter ≤ 'F' then some (letter.toNat - 55)
  else none

def readUnit? : Letters → Option (Nat × Letters)
  | first :: second :: third :: fourth :: rest => do
    let first ← hexValue? first
    let second ← hexValue? second
    let third ← hexValue? third
    let fourth ← hexValue? fourth
    some (4096 * first + 256 * second + 16 * third + fourth, rest)
  | _ => none

def replacement : Char := Char.ofNat 65533

def joinUnits (unit : Nat) (rest : Letters) : Char × Letters :=
  if 0xD800 ≤ unit && unit < 0xDC00 then
    match rest with
    | '\\' :: 'u' :: more =>
      match readUnit? more with
      | some (low, after) =>
        if 0xDC00 ≤ low && low < 0xE000 then
          (Char.ofNat (0x10000 + (unit - 0xD800) * 1024 + (low - 0xDC00)), after)
        else (replacement, rest)
      | none => (replacement, rest)
    | _ => (replacement, rest)
  else if 0xDC00 ≤ unit && unit < 0xE000 then (replacement, rest)
  else (Char.ofNat unit, rest)

def readString? : Nat → Letters → Letters → Option (String × Letters)
  | 0, _, _ => none
  | fuel + 1, read, text =>
    match text with
    | '"' :: rest => some (String.ofList read.reverse, rest)
    | '\\' :: 'u' :: rest => do
      let (unit, after) ← readUnit? rest
      let (letter, after) := joinUnits unit after
      readString? fuel (letter :: read) after
    | '\\' :: mark :: rest => do
      let letter ← match mark with
        | '"' => some '"'
        | '\\' => some '\\'
        | '/' => some '/'
        | 'b' => some (Char.ofNat 8)
        | 'f' => some (Char.ofNat 12)
        | 'n' => some '\n'
        | 'r' => some '\r'
        | 't' => some '\t'
        | _ => none
      readString? fuel (letter :: read) rest
    | letter :: rest =>
      if letter.toNat < 32 || letter == '\\' then none
      else readString? fuel (letter :: read) rest
    | [] => none

def digitsValue (digits : Letters) : Nat :=
  digits.foldl (fun value digit => 10 * value + (digit.toNat - 48)) 0

variable (text : Letters)

def readFraction : Letters × Letters :=
  match text with
  | '.' :: rest =>
    let digits := rest.takeWhile Text.isDigit
    if digits.isEmpty then ([], text) else (digits, rest.drop digits.length)
  | _ => ([], text)

def readExponent : Option Int × Letters :=
  match text with
  | mark :: rest =>
    if mark == 'e' || mark == 'E' then
      let (negative, body) := match rest with
        | '-' :: body => (true, body)
        | '+' :: body => (false, body)
        | body => (false, body)
      let digits := body.takeWhile Text.isDigit
      if digits.isEmpty then (none, text)
      else
        let value : Int := digitsValue digits
        (some (if negative then -value else value), body.drop digits.length)
    else (none, text)
  | [] => (none, text)

def readNumber? : Option (Json × Letters) :=
  let (negative, body) := match text with
    | '-' :: body => (true, body)
    | body => (false, body)
  let whole := match body with
    | '0' :: _ => ['0']
    | _ => body.takeWhile Text.isDigit
  if whole.isEmpty then none
  else
    let (fraction, rest) := readFraction (body.drop whole.length)
    let (exponent, rest) := readExponent rest
    if fraction.isEmpty && exponent.isNone then
      let value : Int := digitsValue whole
      some (.integer (if negative then -value else value), rest)
    else
      let value := Binary64.ofDecimal (digitsValue (whole ++ fraction))
        (exponent.getD 0 - fraction.length)
      some (.real (if negative then value.negate else value), rest)

def readWord? : Option (Json × Letters) :=
  [("null", Json.null), ("true", Json.bool true), ("false", Json.bool false),
    ("NaN", Json.real ⟨0x7ff8000000000000⟩), ("Infinity", Json.real ⟨0x7ff0000000000000⟩),
    ("-Infinity", Json.real ⟨0xfff0000000000000⟩)].findSome? fun (word, value) =>
      if word.toList.isPrefixOf text then some (value, text.drop word.length) else none

mutual

def readValue? : Nat → Letters → Option (Json × Letters)
  | 0, _ => none
  | fuel + 1, text =>
    match text with
    | '"' :: rest => (readString? (rest.length + 1) [] rest).map fun (value, after) =>
      (.string value, after)
    | '[' :: rest =>
      match skip rest with
      | ']' :: after => some (.array [], after)
      | inside => readItems? fuel [] inside
    | '\x7b' :: rest =>
      match skip rest with
      | '\x7d' :: after => some (.object [], after)
      | inside => readFields? fuel [] inside
    | _ => (readWord? text).or (readNumber? text)

def readItems? : Nat → List Json → Letters → Option (Json × Letters)
  | 0, _, _ => none
  | fuel + 1, items, text => do
    let (item, rest) ← readValue? fuel text
    match skip rest with
    | ',' :: more => readItems? fuel (item :: items) (skip more)
    | ']' :: after => some (.array (item :: items).reverse, after)
    | _ => none

def readFields? : Nat → List (String × Json) → Letters → Option (Json × Letters)
  | 0, _, _ => none
  | fuel + 1, fields, text =>
    match text with
    | '"' :: rest => do
      let (name, rest) ← readString? (rest.length + 1) [] rest
      match skip rest with
      | ':' :: rest =>
        let (value, rest) ← readValue? fuel (skip rest)
        let fields := setField fields name value
        match skip rest with
        | ',' :: more => readFields? fuel fields (skip more)
        | '\x7d' :: after => some (.object fields, after)
        | _ => none
      | _ => none
    | _ => none

end

end Reader

def read? (text : String) : Option Json :=
  let letters := text.toList
  match Reader.readValue? (letters.length + 1) (Reader.skip letters) with
  | some (value, rest) => if (Reader.skip rest).isEmpty then some value else none
  | none => none

end ParallelFortran.Json
