import ParallelFortran.Fault

/-! Which characters of a line stand inside quotes, and the search for text outside of them. -/

namespace ParallelFortran.Text

def isQuote (letter : Char) : Bool :=
  letter == '\'' || letter == '"'

/-- Marks the letters of a part that begins at an index; gives the index behind it, too. -/
def paint (mark : Bool) (part : Letters) (marked : Nat × List Bool) : Nat × List Bool :=
  let stop := marked.1 + part.length
  (stop, marked.2.take marked.1 ++ List.replicate part.length mark ++ marked.2.drop stop)

/-- Goes over the parts of a text behind the first one, four at a time: the mark that opens a quotation,
the quotation, the mark that closes it, and what follows. -/
def markParts : List Letters → Nat × List Bool → Outcome (Nat × List Bool)
  | [], marked => .ok marked
  | opening :: quoted :: closing :: plain :: parts, marked =>
    if opening.length != 1 then .error (.text .longOpening)
    else if closing.length != 1 then .error (.text .longClosing)
    else markParts parts
      (paint false plain (paint true closing (paint true quoted (paint true opening marked))))
  | _, _ => .error (.defect .outOfRange)

/-- Which characters stand inside of quotes. Quotes within others are not known: where a mark is left
over, none does. -/
def markQuotes (text : Letters) : Outcome (List Bool) :=
  let marks := List.replicate text.length false
  match separate isQuote text [] with
  | [] | [_] => .ok marks
  | first :: parts =>
    if parts.length % 2 != 0 then .error (.text .unevenSplit)
    else if parts.length % 4 != 0 then .ok marks
    else do
      let (index, marks) ← markParts parts (paint false first (0, marks))
      if index != text.length then throw (.text (.wrongEnd index text.length))
      return marks

def searchLimit : Nat := 100

/-- Looks for the last occurrence of `needle` before `bound`, then for earlier ones, until one is
outside of quotes or at the beginning of the line. -/
def findLastOutside (needle text : Letters) (marks : List Bool) : Nat → Nat → Outcome (Option Nat)
  | 0, _ => .error (.text .searchTooLong)
  | tries + 1, bound =>
    match Letters.findLast? needle (text.take bound) with
    | none => .ok none
    | some 0 => .ok (some 0)
    | some position =>
      match marks[position]? with
      | none => .error (.defect .outOfRange)
      | some false => .ok (some position)
      | some true => findLastOutside needle text marks tries position

/-- The last occurrence outside of quotes that lies before `bound`; a bound that is not positive
stands for the end of the line. -/
def findLastOutsideQuotes (needle text : String) (bound : Int) : Outcome (Option Nat) := do
  let letters := text.toList
  findLastOutside needle.toList letters (← markQuotes letters) searchLimit
    (if bound > 0 then bound.toNat else letters.length)

def letterAt? (text : Letters) (index : Int) : Option Char :=
  if index < 0 then
    if text.length < index.natAbs then none else text[text.length - index.natAbs]?
  else text[index.toNat]?

def clampIndex (length : Nat) (index : Int) : Nat :=
  if index < 0 then length - index.natAbs else index.toNat

def isBoundary (text : Letters) (index : Int) : Outcome Bool :=
  match letterAt? text index with
  | none => .error (.defect .outOfRange)
  | some letter => .ok (!isWord letter)

def isWholeName (needle text : Letters) (position : Int) : Outcome Bool := do
  let before ← if position < 1 then pure true else isBoundary text (position - 1)
  if before then
    let stop := position + needle.length
    if (text.length : Int) ≤ stop then pure true else isBoundary text stop
  else pure false

def findFirstOutside (needle text : Letters) (marks : List Bool) (whole : Bool) :
    Nat → Int → Outcome (Option Int)
  | 0, _ => .error (.text .searchTooLong)
  | tries + 1, origin =>
    if (text.length : Int) ≤ origin then .ok none
    else
      let base := clampIndex text.length origin
      match Letters.find? needle (text.drop base) with
      | none => .ok none
      | some offset =>
        match (marks.drop base)[offset]? with
        | none => .error (.defect .outOfRange)
        | some quoted => do
          let position := origin + offset
          let accepted ←
            if quoted then pure false
            else if whole then isWholeName needle text position
            else pure true
          if accepted then pure (some position)
          else findFirstOutside needle text marks whole tries (position + 1)

/-- The first occurrence outside of quotes that lies behind the index `before`. With `whole` an
occurrence inside a longer name is passed over. -/
def findFirstOutsideQuotes (needle text : String) (before : Int) (whole : Bool) :
    Outcome (Option Int) := do
  let letters := text.toList
  findFirstOutside needle.toList letters (← markQuotes letters) whole searchLimit (before + 1)

def firstName (text : String) : List String → Outcome (Option (Int × String))
  | [] => .ok none
  | name :: names => do
    match ← findFirstOutsideQuotes name text (-1) true with
    | some position => pure (some (position, name))
    | none => firstName text names

/-- Splits a text at the first of the names that occurs in it: the text before, the name, and the
text behind. Without an occurrence all of the text stands before. -/
def splitAtName (names : List String) (text : String) : Outcome (String × String × String) := do
  match ← firstName text names with
  | none => pure (text, "", "")
  | some (position, name) =>
    pure (take position.toNat text, name, drop (position.toNat + name.length) text)

end ParallelFortran.Text
