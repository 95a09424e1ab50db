import ParallelFortran.Fault

/-! Messages that are logged while sources are processed. A message can quote a fault. -/

namespace ParallelFortran

inductive LogLevel where
  | debug
  | info
  | warning
  | error
  | critical
  deriving DecidableEq, Repr

namespace LogLevel

def name : LogLevel → String
  | debug => "DEBUG"
  | info => "INFO"
  | warning => "WARNING"
  | error => "ERROR"
  | critical => "CRITICAL"

def rank : LogLevel → Nat
  | debug => 10
  | info => 20
  | warning => 30
  | error => 40
  | critical => 50

end LogLevel

inductive LogPart where
  | text (content : String)
  | fault (cause : Fault)

structure LogEntry where
  level : LogLevel
  parts : List LogPart

def LogEntry.plain (level : LogLevel) (content : String) : LogEntry :=
  ⟨level, [.text content]⟩

abbrev LogM := ExceptT Fault (StateM (List LogEntry))

namespace LogM

def add (entry : LogEntry) : LogM Unit :=
  modify fun log => log ++ [entry]

def stop {α : Type} (level : LogLevel) (content : String) (status : Nat) : LogM α := do
  add (.plain level content)
  throw (.exit status)

end LogM

structure LogRecord where
  level : LogLevel
  content : String
  place : Option (String × String) := none

def LogRecord.line (time : String) (record : LogRecord) : String :=
  let place := (record.place.map fun (file, number) => file ++ s!":{number} - ").getD ""
  time ++ " - " ++ place ++ record.level.name ++ s!" - {record.content}\n"

structure DeferredLog where
  level : LogLevel
  shown : Bool
  time : String
  file : String := ""
  screen : String := ""
  waiting : List LogRecord := []

namespace DeferredLog

def capacity : Nat := 1024 * 100

def flush (log : DeferredLog) : DeferredLog :=
  { log with
    screen := log.waiting.foldl (fun screen record => screen ++ record.line log.time) log.screen
    waiting := [] }

def add (record : LogRecord) (log : DeferredLog) : DeferredLog :=
  if record.level.rank < log.level.rank then log
  else
    let log := { log with file := log.file ++ record.line log.time }
    if log.shown then
      let log := { log with waiting := log.waiting ++ [record] }
      if LogLevel.error.rank ≤ record.level.rank || capacity ≤ log.waiting.length then log.flush
      else log
    else log

def start (level : LogLevel) (shown : Bool) (time : String) : DeferredLog :=
  add ⟨.debug, "Logger has Initialized", none⟩ { level, shown, time }

end DeferredLog

namespace Text

def roundedQuotient (number divisor : Int) : Int :=
  let below := number.fdiv divisor
  let twice := 2 * (number - below * divisor)
  let half := divisor.natAbs
  if twice.natAbs < half then below
  else if half < twice.natAbs then below + 1
  else if below % 2 == 0 then below else below + 1

def progressLine (file : String) (line total : Int) (description : String) : Outcome String :=
  if total == 0 then .error (.defect .divisionByZero)
  else
    let current := if file.isEmpty then "" else " Currently processing: " ++ fileName file
    .ok (s!"\r{description}: " ++ toString (roundedQuotient (100 * line) total) ++ "% done." ++
      current ++ "\x1b[K\n")

end Text

end ParallelFortran
