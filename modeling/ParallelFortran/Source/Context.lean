import ParallelFortran.Log
import ParallelFortran.Source.Line

/-! What is known while a source file is read line by line. -/

namespace ParallelFortran.Source

structure Context where
  place : Place := .outside
  around : Option Place := none
  moduleName : Option String := none
  routineName : Option String := none
  schemeName : Option String := none
  calleeName : Option String := none
  arguments : Option (List String) := none
  argumentList : Option (List String) := none
  branches : Brackets := {}
  deriving Inhabited

namespace Context

def effective (context : Context) : Place :=
  if context.place == .branch then context.around.getD .branch else context.place

def moveTo (place : Place) (context : Context) : Context :=
  if context.place == .branch then { context with around := some place }
  else { context with place }

def leaveDeclarations (context : Context) : Context :=
  if context.effective == .declarations then context
  else { context with arguments := none, argumentList := none }

def enterCall (callee : String) (arguments : List String) (context : Context) : Context :=
  { context with
    calleeName := some callee, arguments := some arguments, argumentList := some arguments }

def leaveCall (context : Context) : Context :=
  { context with calleeName := none, arguments := none, argumentList := none }

def enterRoutine (arguments : List String) (context : Context) : Context :=
  { context with arguments := some arguments, argumentList := some arguments }

def leaveRoutine (context : Context) : Context :=
  { context with routineName := none, arguments := none, argumentList := none }

end Context

def conditionals : Delimiters :=
  let blanks := Pattern.blanks
  let opening := Pattern.either
    (.sequence [.start, blanks, .literal "if", blanks, .literal "("])
    (.sequence [.start, blanks, .literal "select", .someBlanks, .literal "case"])
  let closing := Pattern.either
    (.sequence [.start, blanks, .literal "end", .someBlanks, .literal "if"])
    (.sequence [.start, blanks, .literal "end", .someBlanks, .literal "select"])
  ⟨"if", "end if", opening, closing⟩

def countConditionals (line : String) (brackets : Brackets) : Outcome Unit × Brackets :=
  let (result, brackets) := ExceptT.run (Brackets.levelAfter conditionals line.toList) brackets
  (result.map fun _ => (), brackets)

def schemeName (settings : String) : Outcome (Option String) :=
  match Pattern.Fortran.setting.match? settings with
  | none => .ok none
  | some found =>
    if Text.strip (found.group 1) != "name" then .ok none
    else do
      let (text, _) ← (Brackets.textWithin .round (found.group 2).toList).run'
      return some (String.ofList text)

def argumentListText (arguments : Option (List String)) : String :=
  match arguments with
  | none => Text.absent
  | some arguments => "[ArgParser: " ++ Text.quotedList arguments ++ "]"

def lineRefused (path : String) (number : Nat) (line : String) (fault : Fault) : LogEntry :=
  ⟨.critical, [.text (s!"Error when parsing file {path} on line {number}: "),
    .fault fault, .text ("; Print of line:" ++ Text.strip line ++ "\n")]⟩

def endRefused (path : String) (number : Nat) (context : Context) : LogEntry :=
  .plain .info ("Error when parsing file " ++ path ++
    ": File ended unexpectedly. Parser state: " ++ context.place.name ++
    "; Current Callee: " ++ Text.orAbsent context.calleeName ++
    "; Current Subprocedure name: " ++ Text.orAbsent context.routineName ++
    "; Current Linenumber: " ++ toString number ++
    "; Current ArgumentParser: " ++ argumentListText context.argumentList ++ "\n")

structure Pass (ε σ : Type) where
  read : String → ExceptT ε (StateM σ) Unit
  report : ε → Fault
  next : σ → σ
  lineNumber : σ → Nat
  context : σ → Context

namespace Pass

def readLines {ε σ : Type} (pass : Pass ε σ) : List String → σ → σ × Option (String × ε)
  | [], state => (state, none)
  | line :: lines, state =>
    match ExceptT.run (pass.read line) state with
    | (.ok _, state) => pass.readLines lines (pass.next state)
    | (.error fault, state) => (state, some (line, fault))

def readFile {ε σ : Type} (pass : Pass ε σ) (path text : String) (state : σ) :
    σ × Option LogEntry :=
  match pass.readLines (Text.linesKeepingEnds text) state with
  | (state, some (line, fault)) =>
    (state, some (lineRefused path (pass.lineNumber state) line (pass.report fault)))
  | (state, none) =>
    let context := pass.context state
    if context.place == .outside then (state, none)
    else (state, some (endRefused path (pass.lineNumber state) context))

end Pass

end ParallelFortran.Source
