import ParallelFortran.Fault
import ParallelFortran.Pattern.Basic

/-! Counting of brackets over one or several lines. The count is kept when an operation fails, so
that a caller can go on with the next line. -/

namespace ParallelFortran

open Text (Letters)

structure Delimiters where
  openingText : String
  closingText : String
  opening : Pattern
  closing : Pattern

def Delimiters.ofTexts (opening closing : String) : Delimiters :=
  ⟨opening, closing, Pattern.literal opening, Pattern.literal closing⟩

def Delimiters.round : Delimiters := Delimiters.ofTexts "(" ")"

structure Brackets where
  level : Int := 0
  everOpened : Bool := false

abbrev BracketCount := ExceptT Fault (StateM Brackets)

namespace Brackets

structure Split where
  before : Letters
  token : Letters
  after : Letters

def ofLine (text : Letters) : Letters :=
  text.takeWhile fun letter => !Pattern.isNewline letter

def nextToken? (token : Pattern) (text : Letters) : Option Split :=
  let found := Pattern.sequence [.group 1 Pattern.little, .group 2 token, .group 3 Pattern.anything]
  (found.matchLetters? text).map fun found =>
    let captured := fun (index : Nat) =>
      ((found.captures.find? fun capture => capture.1 == index).map Prod.snd).getD []
    ⟨captured 1, captured 2, captured 3⟩

def isMatch (pattern : Pattern) (token : Letters) : Bool :=
  (pattern.matchLetters? token).isSome

def enter : BracketCount Unit :=
  modify fun brackets => { level := brackets.level + 1, everOpened := true }

def leave : BracketCount Unit :=
  modify fun brackets => { brackets with level := brackets.level - 1 }

variable (delimiters : Delimiters)

def count (token : Letters) : BracketCount Unit := do
  if isMatch delimiters.opening token then enter
  else if isMatch delimiters.closing token then
    if (← get).level == 0 then throw (.text .closingFirst)
    leave
  else throw (.text .lostDelimiter)

def either : Pattern :=
  .either delimiters.opening delimiters.closing

def levelAfterLoop (delimiters : Delimiters) : Nat → Letters → BracketCount Unit
  | 0, _ => pure ()
  | fuel + 1, text =>
    match nextToken? (either delimiters) text with
    | none => pure ()
    | some split => do
      count delimiters split.token
      levelAfterLoop delimiters fuel split.after

def levelAfter (text : Letters) : BracketCount Int := do
  levelAfterLoop delimiters (text.length + 1) text
  return (← get).level

def closeLoop (delimiters : Delimiters) : Nat → Letters → Letters → BracketCount (Letters × Letters)
  | 0, read, text => pure (read, text)
  | fuel + 1, read, text =>
    match nextToken? (either delimiters) text with
    | none => pure (read, text)
    | some split => do
      count delimiters split.token
      let read := read ++ split.before ++ split.token
      if (← get).level == 0 then pure (read, split.after)
      else closeLoop delimiters fuel read split.after

/-- Splits a text behind the bracket that brings the level back to zero. As long as the brackets
stay open all of the text stands before, and the next line can be given to the same count. -/
def splitAfterClosing (text : Letters) : BracketCount (Letters × Letters) := do
  if (nextToken? (either delimiters) text).isNone then return (text, [])
  let (read, rest) ← closeLoop delimiters (text.length + 1) [] text
  if (← get).level == 0 then return (read, rest) else return (text, [])

def textWithin (text : Letters) : BracketCount (Letters × Letters) := do
  let (read, rest) ← splitAfterClosing delimiters text
  if delimiters.openingText.isEmpty || delimiters.closingText.isEmpty then
    throw (.defect .badValue)
  let inner := Text.beforeLast delimiters.closingText
    (Text.after delimiters.openingText (String.ofList read))
  return (inner.toList, rest)

def separatorOr (separator : String) : Pattern :=
  Pattern.choice [Pattern.literal separator, Pattern.literal delimiters.openingText,
    Pattern.literal delimiters.closingText]

def splitLoop (delimiters : Delimiters) (separator : String) (startLevel : Int) :
    Nat → Letters → Letters → BracketCount (Letters × Letters × Bool)
  | 0, read, text => pure (read, text, false)
  | fuel + 1, read, text =>
    match nextToken? (separatorOr delimiters separator) text with
    | none => pure (read, text, false)
    | some split => do
      let read := read ++ split.before ++ split.token
      let previous := (← get).level
      let isSeparator := isMatch (Pattern.literal separator) split.token
      if isSeparator && !(← get).everOpened then return (read, split.after, true)
      if isMatch delimiters.opening split.token then enter
      else if isMatch delimiters.closing split.token then leave
      else if !isSeparator then throw (.text (.lostDelimiterIn (String.ofList text)))
      let level := (← get).level
      if level < startLevel || (level == startLevel && level == previous) then
        return (read, split.after, false)
      splitLoop delimiters separator startLevel fuel read split.after

/-- Splits a text behind a separator on the present level, or behind the bracket that closes the
present level; gives the level reached. -/
def splitAfterSeparator (separator : String) (text : Letters) :
    BracketCount (Letters × Letters × Int) := do
  let startLevel := (← get).level
  if (nextToken? (separatorOr delimiters separator) text).isNone then return ([], text, startLevel)
  let (read, rest, ended) ← splitLoop delimiters separator startLevel (text.length + 1) [] text
  let level := (← get).level
  if ended || level ≤ startLevel then return (read, rest, level)
  return ([], text, level)

def trimArgument (level : Int) (argument : Letters) : Letters :=
  match argument.getLast? with
  | some ',' => argument.dropLast
  | some ')' => if level < 1 then argument.dropLast else argument
  | _ => argument

def argumentLoop (delimiters : Delimiters) (whole : Letters) :
    Nat → List Letters → Letters → BracketCount (List Letters × Letters)
  | 0, arguments, text => pure (arguments, text)
  | fuel + 1, arguments, text => do
    if text.isEmpty || (← get).level ≤ 0 then return (arguments, text)
    let (read, rest, level) ← splitAfterSeparator delimiters "," text
    if level > 1 || level < 0 then throw (.text (.unbalancedArguments (String.ofList rest)))
    modify fun brackets => { brackets with level }
    let rest := Letters.strip rest
    let rest := match rest with
      | ',' :: more => if level == 1 then more else rest
      | _ => rest
    let argument := trimArgument level (Letters.strip read)
    if argument.isEmpty then
      if level == 0 then return (arguments, rest)
      throw (.text (.emptyArgument (String.ofList whole) level (arguments.map String.ofList)
        (String.ofList rest)))
    argumentLoop delimiters whole fuel (arguments ++ [Letters.strip argument]) rest

def argumentsAndRemainder (text : Letters) : BracketCount (List Letters × Letters) := do
  set { level := 1, everOpened := true : Brackets }
  argumentLoop delimiters text (text.length + 1) [] text

end Brackets

def BracketCount.run' {α : Type} (count : BracketCount α) : Outcome α :=
  (ExceptT.run count {}).1

end ParallelFortran
