import ParallelFortran.Pattern.Fortran
import ParallelFortran.Text.Brackets

/-! Lists whose items are separated by commas outside of brackets, as in declarations. -/

namespace ParallelFortran.Text

def joinParts : List Letters → Letters → BracketCount (List Letters × Letters)
  | [], current => pure ([], current)
  | part :: parts, current => do
    let current := current ++ part
    if (← Brackets.levelAfter .round part) == 0 then
      let (items, unfinished) ← joinParts parts []
      return (Letters.strip current :: items, unfinished)
    else joinParts parts (if parts.isEmpty then current else current ++ [','])

def isItemCharacter (letter : Char) : Bool :=
  isWord letter || letter == ',' || letter == ':' || letter == '+' || letter == '-' ||
    letter == '*' || letter == '/' || letter == '(' || letter == ')'

def firstVisible? (parts : List Letters) : Option Char :=
  parts.findSome? fun part => (Letters.strip part).head?

/-- The beginning of the parts that forms a complete item, and the text behind it. An item goes on
as long as brackets are open or the next visible character opens one. -/
def cutItem : List Letters → Letters → BracketCount (Option (Letters × Letters))
  | [], _ => pure none
  | part :: parts, item => do
    let item := item ++ part
    let level ← Brackets.levelAfter .round part
    if firstVisible? parts != some '(' && level == 0 then
      return some (Letters.strip item, parts.flatten)
    else cutItem parts item

def componentsAndRemainder (text : String) : Outcome (List String × String) := do
  let letters := text.toList
  if letters.all isBlank then return ([], "")
  let (items, unfinished) ← (joinParts (Letters.split [','] letters) []).run'
  match items.getLast? with
  | none => return ([], strip (String.ofList unfinished))
  | some last =>
    match ← (cutItem (separate (fun letter => !isItemCharacter letter) last []) []).run' with
    | none => return (items.map String.ofList, strip (String.ofList unfinished))
    | some (item, remainder) =>
      return ((items.dropLast ++ [item]).map String.ofList, strip (String.ofList remainder))

def nameAndContent (component : String) : Outcome (String × Option String) :=
  match find? "(" component with
  | none => .ok (strip component, none)
  | some 0 => .error (.text (.invalidComponent component))
  | some left =>
    match findLast? ")" component with
    | none => .error (.text (.invalidComponent component))
    | some right =>
      if right ≤ left + 1 then .error (.text (.invalidComponent component))
      else .ok (strip (take left component), some (drop (left + 1) (take right component)))

def restOfLine (text : String) : String :=
  String.ofList ((Letters.dropBlanks text.toList).takeWhile fun letter => !Pattern.isNewline letter)

def accessorsAndRemainder (text : String) : Outcome (List String × String) :=
  match Letters.dropBlanks text.toList with
  | '(' :: rest => do
    let (arguments, remainder) ←
      (Brackets.argumentsAndRemainder .round (Brackets.ofLine rest)).run'
    return (arguments.map String.ofList, String.ofList remainder)
  | _ => .ok ([], text)

def argumentsOf? (line : String) : Outcome (Option (List String)) :=
  match Pattern.Fortran.argumentList.match? line with
  | none => .ok none
  | some found => do
    let (arguments, _) ← (Brackets.argumentsAndRemainder .round (found.group 1).toList).run'
    return some (arguments.map String.ofList)

end ParallelFortran.Text
