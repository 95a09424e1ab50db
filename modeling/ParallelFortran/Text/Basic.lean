import ParallelFortran.Text.Character

/-! Searching, cutting and joining of text. The work is done on lists of characters; the functions
on `String` at the end convert at the edges. -/

namespace ParallelFortran.Text

abbrev Letters := List Char

namespace Letters

def dropBlanks (text : Letters) : Letters :=
  text.dropWhile isBlank

def dropBlanksRight (text : Letters) : Letters :=
  (text.reverse.dropWhile isBlank).reverse

def strip (text : Letters) : Letters :=
  dropBlanksRight (dropBlanks text)

def find? (needle : Letters) : Letters → Option Nat
  | [] => if needle.isEmpty then some 0 else none
  | letter :: rest =>
    if needle.isPrefixOf (letter :: rest) then some 0
    else (find? needle rest).map (· + 1)

def findLast? (needle : Letters) : Letters → Option Nat
  | [] => if needle.isEmpty then some 0 else none
  | letter :: rest =>
    match findLast? needle rest with
    | some position => some (position + 1)
    | none => if needle.isPrefixOf (letter :: rest) then some 0 else none

variable (separator : Letters) (text : Letters)

def cut? : Option (Letters × Letters) :=
  (find? separator text).map fun position =>
    (text.take position, text.drop (position + separator.length))

/-- Splits at every occurrence of `separator`; a text without one is a single part. Occurrences are
taken from the left and do not overlap. -/
def splitLoop (separator : Letters) : Nat → Letters → Letters → List Letters
  | _, [], part => [part.reverse]
  | skip + 1, _ :: rest, part => splitLoop separator skip rest part
  | 0, letter :: rest, part =>
    if separator.isPrefixOf (letter :: rest) then
      part.reverse :: splitLoop separator (separator.length - 1) rest []
    else splitLoop separator 0 rest (letter :: part)

def split : List Letters :=
  splitLoop separator 0 text []

def wordsLoop : Letters → Letters → List Letters
  | [], word => if word.isEmpty then [] else [word.reverse]
  | letter :: rest, word =>
    if isBlank letter then
      if word.isEmpty then wordsLoop rest [] else word.reverse :: wordsLoop rest []
    else wordsLoop rest (letter :: word)

def words : List Letters :=
  wordsLoop text []

end Letters

/-- Splits at the separators, which are parts of their own. -/
def separate (isSeparator : Char → Bool) : Letters → Letters → List Letters
  | [], part => [part.reverse]
  | letter :: rest, part =>
    if isSeparator letter then part.reverse :: [letter] :: separate isSeparator rest []
    else separate isSeparator rest (letter :: part)

def strip (text : String) : String :=
  String.ofList (Letters.strip text.toList)

def stripRight (text : String) : String :=
  String.ofList (Letters.dropBlanksRight text.toList)

def isBlankText (text : String) : Bool :=
  text.toList.all isBlank

def find? (needle text : String) : Option Nat :=
  Letters.find? needle.toList text.toList

def findLast? (needle text : String) : Option Nat :=
  Letters.findLast? needle.toList text.toList

def contains (text needle : String) : Bool :=
  (find? needle text).isSome

def startsWith (text start : String) : Bool :=
  start.toList.isPrefixOf text.toList

def endsWith (text ending : String) : Bool :=
  ending.toList.reverse.isPrefixOf text.toList.reverse

variable (count : Nat) (text : String)

def take : String :=
  String.ofList (text.toList.take count)

def drop : String :=
  String.ofList (text.toList.drop count)

def dropRight : String :=
  String.ofList (text.toList.take (text.length - count))

def split (separator text : String) : List String :=
  (Letters.split separator.toList text.toList).map String.ofList

def words : List String :=
  (Letters.words text.toList).map String.ofList

def join (separator : String) (parts : List String) : String :=
  separator.intercalate parts

def replace (old new text : String) : String :=
  join new (split old text)

def after (separator text : String) : String :=
  match Letters.cut? separator.toList text.toList with
  | some parts => String.ofList parts.2
  | none => ""

def beforeLast (separator text : String) : String :=
  match findLast? separator text with
  | some position => take position text
  | none => ""

def linesKeepingEnds : List String :=
  let parts := split "\n" text
  let ended := parts.dropLast.map (· ++ "\n")
  match parts.getLast? with
  | some final => if final.isEmpty then ended else ended ++ [final]
  | none => ended

def unifyLineEnds : String :=
  replace "\r" "\n" (replace "\r\n" "\n" text)

def repeated : String :=
  String.join (List.replicate count text)

def fileName (path : String) : String :=
  ((split "/" path).getLast?).getD path

def digitsValue? : Nat → Bool → Letters → Option Nat
  | value, afterDigit, [] => if afterDigit then some value else none
  | value, afterDigit, letter :: letters =>
    if letter.isDigit then digitsValue? (value * 10 + (letter.toNat - '0'.toNat)) true letters
    else if letter == '_' && afterDigit then digitsValue? value false letters
    else none

def integer? : Option Int :=
  match (strip text).toList with
  | '-' :: digits => (digitsValue? 0 false digits).map fun value => -(value : Int)
  | '+' :: digits => (digitsValue? 0 false digits).map Int.ofNat
  | digits => (digitsValue? 0 false digits).map Int.ofNat

/-! The text of values inside messages: quoted strings, lists, pairs, truth values and absence. -/

def hexDigit (digit : Nat) : Char :=
  if digit < 10 then Char.ofNat (48 + digit) else Char.ofNat (87 + digit)

def hexDigits : Nat → Nat → Letters
  | 0, _ => []
  | width + 1, number => hexDigits width (number / 16) ++ [hexDigit (number % 16)]

def quotedLetter (quote letter : Char) : Letters :=
  if letter == quote || letter == '\\' then ['\\', letter]
  else if letter == '\n' then ['\\', 'n']
  else if letter == '\r' then ['\\', 'r']
  else if letter == '\t' then ['\\', 't']
  else if isPrintable letter then [letter]
  else if letter.toNat < 256 then '\\' :: 'x' :: hexDigits 2 letter.toNat
  else if letter.toNat < 65536 then '\\' :: 'u' :: hexDigits 4 letter.toNat
  else '\\' :: 'U' :: hexDigits 8 letter.toNat

def quoted : String :=
  let letters := text.toList
  let quote := if letters.contains '\'' && !letters.contains '"' then '"' else '\''
  String.ofList (quote :: letters.flatMap (quotedLetter quote) ++ [quote])

def listText (items : List String) : String :=
  "[" ++ join ", " items ++ "]"

def tupleText : List String → String
  | [item] => "(" ++ item ++ ",)"
  | items => "(" ++ join ", " items ++ ")"

def quotedList (items : List String) : String :=
  listText (items.map quoted)

def pairText (pair : String × String) : String :=
  tupleText [quoted pair.1, quoted pair.2]

def pairList (pairs : List (String × String)) : String :=
  listText (pairs.map pairText)

def absent : String := "None"

def truthText (value : Bool) : String :=
  if value then "True" else "False"

def orAbsent (text : Option String) : String :=
  text.getD absent

def quotedOrAbsent (text : Option String) : String :=
  (text.map quoted).getD absent

end ParallelFortran.Text
