import ParallelFortran.Command.Options
import ParallelFortran.Record.Accuracy
import ParallelFortran.Record.Basic
import ParallelFortran.Table

/-! What a program writes to its two output streams. -/

namespace ParallelFortran.Command

structure Output where
  printed : String := ""
  notes : String := ""

abbrev PrintM := ExceptT Fault (StateM Output)

def printLine (line : String) : PrintM Unit :=
  modify fun output => { output with printed := output.printed ++ line ++ "\n" }

def noteLine (line : String) : PrintM Unit :=
  modify fun output => { output with notes := output.notes ++ line ++ "\n" }

def giveUp {α : Type} (status : Nat) (line : String) : PrintM α := do
  noteLine line
  throw (.exit status)

/-! Commands on files of records: the comparison with a reference, and the change of the order of
bytes. -/

abbrev Disk := Table String Bytes

def Disk.cursor? (disk : Disk) (name : String) : Option Cursor :=
  (disk.get? name).map fun content => { content, isOnDisk := true }

def wholeValue (text : String) : Outcome Int :=
  match Text.integer? text with
  | some value => .ok value
  | none => .error (.defect .badValue)

structure Comparison where
  inputName : String
  referenceName? : Option String
  size? : Option Nat
  orderName : String
  shownText : String
  isVerbose : Bool
  bound : Binary64

namespace Comparison

def valueBound : Number := .real (.ofFloat 1E-6)

def openFile (disk : Disk) (name : String) : PrintM Cursor :=
  match disk.cursor? name with
  | some cursor => pure cursor
  | none => giveUp 1 ("Error: [Errno 2] No such file or directory: " ++ Text.quoted name)

def byteOrder (request : Comparison) (reference? : Option Cursor) : PrintM ByteOrder :=
  match request.orderName, reference? with
  | "little", _ => pure .little
  | "big", _ => pure .big
  | _, some cursor => pure (Record.detectOrder request.size? cursor)
  | _, none => giveUp 1 "Error: 'NoneType' object has no attribute 'seek'"

def nextRecord (request : Comparison) (order : ByteOrder) (cursor : Cursor) : PrintM (Option Record × Cursor) := do
  let (reading, cursor) := Record.read order request.size? cursor
  if request.isVerbose then reading.notes.forM noteLine
  return (reading.record?, cursor)

structure Verdict where
  error : Number
  firstIndex : Int
  largestIndex : Int
  text : String
  isFailure : Bool := false

def indexOr (index? : Option Nat) : Int := (index?.map Int.ofNat).getD (-1)

def Verdict.ofDeviation (bound : Binary64) (deviation : Deviation) : Verdict :=
  let isFailure := deviation.first?.isSome || bound.lt deviation.error
  let first := deviation.first?.getD ⟨0, .zero, .zero⟩
  { error := .real deviation.error, firstIndex := indexOr (deviation.first?.map Mismatch.index)
    largestIndex := indexOr deviation.largest?, isFailure
    text := if isFailure then
        s!"1st err val: {first.value.text}; ref: " ++ first.expected.text ++
          s!"; max err val: {deviation.nextValue.text}; ref: {deviation.nextExpected.text}; FAIL"
      else "pass" }

def Verdict.line (verdict : Verdict) (name : String) (index size : Nat) : String :=
  name ++ s!", rec {index} (len{size}): RMSE: " ++
    verdict.error.scientificText ++ "; 1st err idx: " ++ toString verdict.firstIndex ++
    s!"; max err idx: {verdict.largestIndex}; " ++ verdict.text

def integrity (record : Record) : PrintM Integrity := do
  let integrity ← (Integrity.ofValues record.items : Outcome _)
  modify fun output => { output with printed := output.printed ++ integrity.printed }
  return integrity

variable (request : Comparison)

def judge (record : Record) (expected? : Option Record) : PrintM Verdict := do
  match ← integrity record with
  | .invalid index value =>
    return { error := .integer (-1), firstIndex := index, largestIndex := -1, isFailure := true
             text := s!"invalid value found: {value.text}; FAIL <-------" }
  | .valid _ =>
    match expected? with
    | none => return { error := .integer 0, firstIndex := 0, largestIndex := 0, text := "no ref" }
    | some expected =>
      let deviation ← (Deviation.ofValues record.items expected.items valueBound : Outcome _)
      return .ofDeviation request.bound deviation

def compareRecords (index : Nat) (record : Record) (expected? : Option Record) : PrintM Bool := do
  let shown ← match Text.integer? request.shownText with
    | some shown => pure shown
    | none => giveUp 1 ("Error: invalid literal for int() with base 10: " ++ Text.quoted request.shownText)
  if shown > 0 then printLine (record.take shown.toNat).text
  if request.isVerbose then
    noteLine (s!"Record {index} unpacked, contains {record.size} elements.")
  if let some expected := expected? then
    if record.size != expected.size then
      giveUp 1 (s!"Error in {request.inputName}: Record " ++ toString index ++
        " does not have same length as reference. Length: " ++ toString record.size ++
        ", expected: " ++ toString expected.size)
    if let .invalid place value ← integrity expected then
      noteLine (request.inputName ++ s!", record {index}: WARNING: Invalid Value " ++
        value.text ++ s!" in Reference at {place} - cannot analyze")
      return false
  let verdict ← request.judge record expected?
  noteLine (verdict.line request.inputName index record.size)
  return verdict.isFailure

def missingRecord (record? : Option Record) (expected : Record) : PrintM Bool := do
  noteLine (s!"Error in {request.inputName}: Record with length " ++ toString expected.size ++
    " expected, " ++ Text.orAbsent (record?.map Record.text) ++ " found")
  if expected.size < 100 then noteLine ("Expected record: " ++ expected.text)
  throw (.exit 1)

def compareNext (order : ByteOrder) (index : Nat) (expected? : Option Record) (input : Cursor) :
    PrintM (Option (Bool × Cursor)) := do
  let (record?, input) ← request.nextRecord order input
  match record?.filter fun record => record.size > 0, expected? with
  | none, none => return none
  | none, some expected => do
    if request.isVerbose then
      if let some record := record? then
        noteLine (s!"Processing record {index}: " ++ toString record.size ++
          s!" values unpacked for record, {expected.size} values unpacked for reference.")
    return some (← request.missingRecord record? expected, input)
  | some record, expected? => do
    if request.isVerbose then
      if let some expected := expected? then
        noteLine (s!"Processing record {index}: " ++ toString record.size ++
          s!" values unpacked for record, {expected.size} values unpacked for reference.")
    return some (← request.compareRecords index record expected?, input)

/-- Compares the records from the `index`-th on; `fuel` bounds their number. Answers whether there is
a difference. -/
def compareFrom (request : Comparison) (order : ByteOrder) :
    Nat → Nat → Bool → Cursor → Option Cursor → PrintM Bool
  | 0, _, failed, _, _ => return failed
  | fuel + 1, index, failed, input, none => do
    match ← request.compareNext order index none input with
    | none => return failed
    | some (differs, input) => request.compareFrom order fuel (index + 1) (failed || differs) input none
  | fuel + 1, index, failed, input, some reference => do
    match ← request.nextRecord order reference with
    | (none, _) => return failed
    | (some expected, reference) =>
      if expected.size == 0 then
        request.compareFrom order fuel (index + 1) failed input (some reference)
      else
        match ← request.compareNext order index (some expected) input with
        | none => return failed
        | some (differs, input) =>
          request.compareFrom order fuel (index + 1) (failed || differs) input (some reference)

def run (disk : Disk) : PrintM Unit := do
  let input ← openFile disk request.inputName
  let reference? ← match request.referenceName? with
    | some name => some <$> openFile disk name
    | none => do
      noteLine "WARNING: No reference file specified - doing some basic checks on the input only"
      pure none
  let order ← request.byteOrder reference?
  noteLine ("performing accuracy test with .DAT file, " ++
    ((request.size?.map fun size => toString size).getD "automatic") ++ " bytes per value, " ++
    order.sign ++ " endian, float")
  let fuel := ((reference?.getD input).content.length) + 1
  if ← request.compareFrom order fuel 1 false input reference? then throw (.exit 1)

end Comparison

def sizeOption (text : String) : Outcome (Option Nat) := do
  let size ← wholeValue text
  return if size == 4 || size == 8 then some size.toNat else none

def accuracyForms : List OptionForm :=
  [⟨some 'f', "file", true⟩, ⟨none, "reference", true⟩, ⟨some 'b', "bytesPerValue", true⟩,
    ⟨some 'p', "printFirstValues", true⟩, ⟨some 'r', "readEndian", true⟩, ⟨none, "netcdf", false⟩,
    ⟨none, "index", true⟩, ⟨none, "slice", true⟩, ⟨some 'v', "verbose", false⟩,
    ⟨some 'e', "epsilon", true⟩]

def accuracyCommand (words : List String) (disk : Disk) : PrintM Unit := do
  match readOptions? accuracyForms words {} with
  | none => throw (.exit 2)
  | some options =>
    let bound ← match options.value? "epsilon" with
      | none => pure (.ofFloat 1E-6)
      | some text =>
        match Text.real? text with
        | some bound => pure bound
        | none => throw (.defect .badValue)
    let size? ← match options.given? "bytesPerValue" with
      | none => pure none
      | some text =>
        match ← (sizeOption text : Outcome _) with
        | some size => pure (some size)
        | none => giveUp 2 "Unsupported number of bytes per value specified."
    let request : Comparison :=
      { inputName := (options.given? "file").getD "in.dat"
        referenceName? := options.given? "reference", size?
        orderName := (options.given? "readEndian").getD "little"
        shownText := (options.given? "printFirstValues").getD "0"
        isVerbose := options.has "verbose", bound }
    request.run disk

def boundValue (text : String) : Outcome Number :=
  let letters := (Text.strip text).toList
  match Number.literal? letters with
  | some number => .ok number
  | none =>
    if letters.head?.any fun letter => Text.isWord letter && !letter.isDigit then
      .error (.defect .unknownName)
    else .error (.defect .malformedExpression)

def reorderForms : List OptionForm :=
  [⟨some 'f', "file", true⟩, ⟨some 'o', "out", true⟩, ⟨none, "min", true⟩, ⟨none, "max", true⟩,
    ⟨some 'b', "bytesPerValue", true⟩, ⟨some 'p', "numberOfRecordsToPrint", true⟩,
    ⟨some 'r', "readEndian", true⟩, ⟨some 'w', "writeEndian", true⟩]

/-- The order of bytes in which records are read. It is the big one if that is named as the target,
whatever the source is; records are always written in the little one. -/
def readOrder (source target : String) : ByteOrder :=
  if target == "big" then .big else if source == "little" then .little else .big

def reorderCommand (words : List String) (disk : Disk) : PrintM Disk := do
  match readOptions? reorderForms words {} with
  | none => throw (.exit 2)
  | some options =>
    let given := fun (name otherwise : String) => (options.given? name).getD otherwise
    let least ← (boundValue (given "min" "-1E10") : Outcome _)
    let most ← (boundValue (given "max" "1E10") : Outcome _)
    match ← (sizeOption (given "bytesPerValue" "4") : Outcome _) with
    | none => do
      printLine "Unsupported number of bytes per value specified."
      return disk
    | some size =>
      let order := readOrder (given "readEndian" "big") (given "writeEndian" "little")
      let shown ← (wholeValue (given "numberOfRecordsToPrint" "0") : Outcome _)
      let input := given "file" "in.dat"
      let output := given "out" "out.dat"
      if !disk.contains input then throw (.defect .unknownName)
      let disk := disk.set output []
      let request : Record.Reordering :=
        { order, size, least, most, showsValues := shown > 0 }
      let (result, state) := ExceptT.run (request.reorder ((disk.get? input).getD [])) {}
      modify fun shownSoFar => { shownSoFar with printed := shownSoFar.printed ++ state.printed }
      printLine ("number of records read: " ++ toString state.count)
      match result with
      | .ok _ | .error (.exit _) => return disk.set output state.written
      | .error fault => throw fault

end ParallelFortran.Command
