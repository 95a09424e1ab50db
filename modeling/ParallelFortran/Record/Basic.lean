import ParallelFortran.Number.Basic

/-! Orders of bytes and the values that bytes stand for. -/

namespace ParallelFortran

abbrev Bytes := List UInt8

def lowestFirst : Bytes → Nat
  | [] => 0
  | byte :: bytes => byte.toNat + 256 * lowestFirst bytes

def lowestBytes : Nat → Nat → Bytes
  | 0, _ => []
  | width + 1, value => UInt8.ofNat (value % 256) :: lowestBytes width (value / 256)

inductive ByteOrder where
  | little
  | big
  deriving DecidableEq, Repr, Inhabited

namespace ByteOrder

def sign : ByteOrder → String
  | little => "<"
  | big => ">"

def ofSign (sign : String) : ByteOrder := if sign == ">" then big else little

def value : ByteOrder → Bytes → Nat
  | little, bytes => lowestFirst bytes
  | big, bytes => lowestFirst bytes.reverse

def bytes : ByteOrder → Nat → Nat → Bytes
  | little, width, value => lowestBytes width value
  | big, width, value => (lowestBytes width value).reverse

end ByteOrder

def signed (value : Nat) : Int := if value < 0x80000000 then value else (value : Int) - 0x100000000

inductive ValueKind where
  | single
  | double
  | whole
  deriving DecidableEq, Repr, Inhabited

namespace ValueKind

def width : ValueKind → Nat
  | single | whole => 4
  | double => 8

def letter : ValueKind → String
  | single => "f"
  | double => "d"
  | whole => "i"

def ofSize (size : Nat) : ValueKind := if size == 8 then double else single

def number (bits : Nat) : ValueKind → Number
  | single => .real (.ofSingle bits)
  | double => .real ⟨UInt64.ofNat bits⟩
  | whole => .integer (signed bits)

def decode (kind : ValueKind) (order : ByteOrder) (bytes : Bytes) : Number :=
  kind.number (order.value bytes)

end ValueKind

/-! Sequential records. A record is a run of values of one size between two marks, each of which gives
its length in bytes; a file may also hold whole numbers without marks. Reading tries the first form
and falls back to the second. -/

structure Record where
  items : List Number
  isMarked : Bool
  deriving DecidableEq, Repr, Inhabited

namespace Record

def size (record : Record) : Nat := record.items.length

def text (record : Record) : String :=
  if record.isMarked then Text.tupleText (record.items.map Number.text)
  else Text.listText (record.items.map Number.text)

def take (count : Nat) (record : Record) : Record := { record with items := record.items.take count }

def framed (order : ByteOrder) (data : Bytes) : Bytes :=
  order.bytes 4 data.length ++ data ++ order.bytes 4 data.length

def pieces (size : Nat) : Nat → Bytes → List Bytes
  | 0, _ => []
  | count + 1, data => data.take size :: pieces size count (data.drop size)

end Record

/-- A place in a file. A file on disk refuses a negative length, which in memory means all that is
left. -/
structure Cursor where
  content : Bytes
  position : Nat := 0
  isOnDisk : Bool := false

namespace Cursor

def rest (cursor : Cursor) : Bytes := cursor.content.drop cursor.position

def next (count : Nat) (cursor : Cursor) : Bytes × Cursor :=
  let bytes := cursor.rest.take count
  (bytes, { cursor with position := cursor.position + bytes.length })

end Cursor

abbrev ReadM := ExceptT Fault (StateM Cursor)

namespace Record

def readInteger? (order : ByteOrder) (cursor : Cursor) : Option Int × Cursor :=
  let (bytes, cursor) := cursor.next 4
  (if bytes.length == 4 then some (signed (order.value bytes)) else none, cursor)

def nextInteger? (order : ByteOrder) : ReadM (Option Int) := do
  let (value?, cursor) := readInteger? order (← get)
  set cursor
  return value?

def nextData (length : Int) : ReadM Bytes := do
  let cursor ← get
  if length < 0 && cursor.isOnDisk then throw (.record .negativeLength)
  let (data, cursor) := cursor.next (if length < 0 then cursor.content.length else length.toNat)
  set cursor
  if (data.length : Int) != length then throw (.record (.shortData length data.length))
  return data

def unpack (order : ByteOrder) (kind : ValueKind) (count : Nat) (data : Bytes) : Outcome (List Number) :=
  if data.length == count * kind.width then
    .ok ((pieces kind.width count data).map (kind.decode order))
  else
    .error (.during (.record (.wrongSize "array" (order.sign ++ toString count ++ kind.letter)
      (count * kind.width))) (.defect .truncatedData))

variable (order : ByteOrder) (size : Nat) (kind : ValueKind)

def readArray : ReadM (Option (List Number)) := do
  match ← nextInteger? order with
  | none => return none
  | some length =>
    if size == 0 then throw (.defect .divisionByZero)
    if length % size != 0 then throw (.record (.oddLength length size))
    let data ← nextData length
    match ← nextInteger? order with
    | none => throw (.record .noTrailer)
    | some trailer =>
      if trailer != length then throw (.record .markMismatch)
      return some (← (unpack order kind (data.length / size) data : Outcome _))

def readReal : ReadM (Option Number) := do
  let (bytes, cursor) := (← get).next size
  set cursor
  if bytes.length != size then return none
  else if size != kind.width then
    throw (.during (.record (.wrongSize "float" (order.sign ++ kind.letter) kind.width))
      (.defect .truncatedData))
  else return some (kind.decode order bytes)

structure Reading where
  record? : Option Record := none
  notes : List String := []

def readSized (cursor : Cursor) : Reading × Cursor :=
  match ExceptT.run (readArray order size (.ofSize size)) cursor with
  | (.ok none, after) => ({}, after)
  | (.ok (some items), after) =>
    ({ record? := some ⟨items, true⟩
       notes := ["This record seems to be an array of length " ++ toString items.length] }, after)
  | (.error fault, after) =>
    let note := s!"Could not unpack record as array ({fault.message}) - trying integer"
    match readInteger? order { after with position := cursor.position } with
    | (none, after) => ({ notes := [note] }, after)
    | (some value, after) =>
      ({ record? := some ⟨[.integer value], false⟩
         notes := [note, "This record seems to be an integer with value " ++ toString value] },
        after)

def leastReasonable : Binary64 := .ofFloat 1E-15

def mostReasonable : Binary64 := .ofFloat 1E10

def isReasonable (record : Record) : Bool :=
  !record.items.isEmpty && record.items.all fun item =>
    Number.lt (.real leastReasonable) item && item.lt (.real mostReasonable)

def choose : Option Record → Option Record → Option Record
  | none, short => short
  | long, none => long
  | some long, some short =>
    if short.size > 1 && short.isReasonable then some short
    else if short.size == long.size then some short
    else if short.size == 1 && short.isReasonable then some short
    else some long

def read (size? : Option Nat) (cursor : Cursor) : Reading × Cursor :=
  match size? with
  | some size => readSized order size cursor
  | none =>
    let (long, after) := readSized order 8 cursor
    if long.record?.any fun record => record.size > 1 then (long, after)
    else
      let (short, after) := readSized order 4 { after with position := cursor.position }
      (⟨choose long.record? short.record?, long.notes ++ short.notes⟩, after)

def readMany (order : ByteOrder) (size? : Option Nat) : Nat → Cursor → List (Option Record × Cursor)
  | 0, _ => []
  | limit + 1, cursor =>
    let (reading, after) := read order size? cursor
    match reading.record? with
    | none => [(none, after)]
    | some record => (some record, after) :: readMany order size? limit after

def trialCount : Nat := 100

def detectOrder (size? : Option Nat) (cursor : Cursor) : ByteOrder :=
  let records := (readMany .little size? trialCount { cursor with position := 0 }).filterMap Prod.fst
  if records.length == trialCount && records.all fun record => record.size ≤ 1 then .big else .little

end Record

end ParallelFortran

/-! Changes the order of bytes in a file of records. Every step is printed, and the work ends at the
first record that is not sound. -/

namespace ParallelFortran.Record

structure Reordering where
  order : ByteOrder
  size : Nat
  least : Number
  most : Number
  showsValues : Bool

def Reordering.target : ByteOrder := .little

def Reordering.kind (request : Reordering) : ValueKind := .ofSize request.size

structure ReorderState where
  count : Nat := 0
  written : Bytes := []
  printed : String := ""

abbrev ReorderM := ExceptT Fault (StateM ReorderState)

def printLine (line : String) : ReorderM Unit :=
  modify fun state => { state with printed := state.printed ++ line ++ "\n" }

def abandon {α : Type} (line : String) : ReorderM α := do
  printLine line
  throw (.exit 0)

def Reordering.outside? (request : Reordering) : Nat → List Number → Option (Nat × Number)
  | _, [] => none
  | index, value :: values =>
    if request.least.lt value && value.lt request.most then request.outside? (index + 1) values
    else some (index, value)

variable (request : Reordering)

def Reordering.reordered (pieces : List Bytes) : Bytes :=
  pieces.flatMap fun piece => Reordering.target.bytes request.size (request.order.value piece)

def Reordering.checkValues (record : String) (values : List Number) : ReorderM Unit := do
  match request.outside? 1 values with
  | none => pure ()
  | some (index, value) =>
    let whole ← (value.truncate : Outcome _)
    abandon (s!"value {index} in {record} is out of the specified bounds: " ++ toString whole)

def Reordering.reorderRecord (remaining : Bytes) : ReorderM Nat := do
  modify fun state => { state with count := state.count + 1 }
  let record := "record " ++ toString (← get).count
  printLine ("preparing " ++ record)
  let length := signed (request.order.value (remaining.take 4))
  if length % request.size != 0 then abandon (s!"Odd record length at {record}. Abort.")
  printLine ("record byte length: " ++ toString length)
  printLine ("record length: " ++ toString (length / request.size))
  if length < 0 then throw (.defect .badValue)
  let length := length.toNat
  let data := (remaining.drop 4).take length
  if data.length != length then
    abandon (s!"Could not read {length} bytes at {record}. Abort.")
  let parts := pieces request.size (length / request.size) data
  let values := parts.map (request.kind.decode request.order)
  if request.showsValues then printLine (record ++ ": " ++ Text.tupleText (values.map Number.text))
  request.checkValues record values
  let trailer := (remaining.drop (4 + length)).take 4
  if trailer.length != 4 then abandon (s!"Could not read trailer at {record}. Abort.")
  if request.order.value trailer != length then
    abandon (s!"Header and trailer do not match at {record}. Abort.")
  printLine (s!"write format: {Reordering.target.sign}i" ++ toString (length / request.size) ++
    request.kind.letter ++ "i")
  modify fun state =>
    { state with written := state.written ++ framed Reordering.target (request.reordered parts) }
  printLine (record ++ s!" written, containing {length} bytes")
  return length

def Reordering.reorder (request : Reordering) (remaining : Bytes) : ReorderM Unit :=
  if enough : 4 ≤ remaining.length then do
    let length ← request.reorderRecord remaining
    request.reorder (remaining.drop (8 + length))
  else pure ()
termination_by remaining.length
decreasing_by
  simp only [List.length_drop]
  omega

end ParallelFortran.Record
