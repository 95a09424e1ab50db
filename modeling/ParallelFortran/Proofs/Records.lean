import Mathlib.Algebra.Group.Nat.Defs
import ParallelFortran.Command.Records
import ParallelFortran.Proofs.Action
import ParallelFortran.Proofs.Table

/-! Files of records. What is written as a file of records is read as these records, in both orders
of bytes, and a change of the order keeps the records. -/

namespace ParallelFortran

open List

theorem length_lowestBytes (width value : Nat) : (lowestBytes width value).length = width := by
  induction width generalizing value with
  | zero => rfl
  | succ width ih => rw [lowestBytes, length_cons, ih]

theorem lowestFirst_lowestBytes {width value : Nat} (bound : value < 256 ^ width) :
    lowestFirst (lowestBytes width value) = value := by
  induction width generalizing value with
  | zero =>
    rw [Nat.pow_zero, Nat.lt_one_iff] at bound
    exact bound.symm
  | succ width ih =>
    have rest : value / 256 < 256 ^ width := Nat.div_lt_of_lt_mul (by rwa [← Nat.pow_succ'])
    have low : (UInt8.ofNat (value % 256)).toNat = value % 256 :=
      Nat.mod_eq_of_lt (Nat.mod_lt value (by decide))
    rw [lowestBytes, lowestFirst, ih rest, low, Nat.mod_add_div]

namespace ByteOrder

variable (order : ByteOrder)

theorem length_bytes (width value : Nat) : (order.bytes width value).length = width := by
  cases order with
  | little => exact length_lowestBytes width value
  | big => exact length_reverse.trans (length_lowestBytes width value)

theorem value_bytes {width value : Nat} (bound : value < 256 ^ width) :
    order.value (order.bytes width value) = value := by
  cases order with
  | little => exact lowestFirst_lowestBytes bound
  | big =>
    rw [ByteOrder.value, bytes, reverse_reverse]
    exact lowestFirst_lowestBytes bound

end ByteOrder

namespace Record

/-- The values of a record, each given by its bits. A mark can hold their length in bytes. -/
structure Values (size : Nat) where
  bits : List (Fin (256 ^ size))
  short : bits.length * size < 0x80000000

namespace Values

variable {size : Nat} (record : Values size) (order : ByteOrder)

def numbers : List Number := record.bits.map fun value => (ValueKind.ofSize size).number value.val

def data : Bytes := record.bits.flatMap fun value => order.bytes size value.val

theorem length_data : (record.data order).length = record.bits.length * size := by
  unfold data
  induction record.bits with
  | nil => simp
  | cons value rest ih =>
    rw [flatMap_cons, length_append, ih, order.length_bytes, length_cons, Nat.succ_mul,
      Nat.add_comm]

theorem mark_eq :
    order.value (order.bytes 4 (record.data order).length) = record.bits.length * size := by
  have short := record.short
  rw [length_data, order.value_bytes (by omega)]

theorem pieces_data : pieces size record.bits.length (record.data order) =
    record.bits.map fun value => order.bytes size value.val := by
  unfold data
  induction record.bits with
  | nil => rfl
  | cons value rest ih =>
    rw [length_cons, pieces, flatMap_cons, take_left' (order.length_bytes size _),
      drop_left' (order.length_bytes size _), ih, map_cons]

theorem map_decode_pieces : (pieces size record.bits.length (record.data order)).map
    ((ValueKind.ofSize size).decode order) = record.numbers := by
  rw [pieces_data, map_map]
  refine map_congr_left fun value _ => ?_
  rw [Function.comp_apply, ValueKind.decode, order.value_bytes value.isLt]

end Values

def file {size : Nat} (order : ByteOrder) (records : List (Values size)) : Bytes :=
  records.flatMap fun record => framed order (record.data order)

end Record

namespace Cursor

variable {cursor : Cursor} {bytes rest : Bytes}

def behind (cursor : Cursor) (count : Nat) : Cursor :=
  { cursor with position := cursor.position + count }

theorem behind_behind (first second : Nat) :
    (cursor.behind first).behind second = cursor.behind (first + second) :=
  congrArg (fun position => { cursor with position }) (Nat.add_assoc _ _ _)

theorem rest_behind (before : cursor.rest = bytes ++ rest) :
    (cursor.behind bytes.length).rest = rest := by
  change cursor.content.drop (cursor.position + bytes.length) = rest
  rw [← drop_drop, ← Cursor.rest, before, drop_left]

theorem next_eq (before : cursor.rest = bytes ++ rest) :
    cursor.next bytes.length = (bytes, cursor.behind bytes.length) := by
  have front : cursor.rest.take bytes.length = bytes := by rw [before, take_left]
  rw [next, front]
  rfl

end Cursor

namespace Record

variable {order : ByteOrder} {size : Nat} {cursor : Cursor} {rest : Bytes}

theorem run_nextInteger? {value : Nat} (bound : value < 0x80000000)
    (before : cursor.rest = order.bytes 4 value ++ rest) :
    (nextInteger? order).run cursor = (.ok (some value), cursor.behind 4) := by
  have next := Cursor.next_eq before
  have number : signed (order.value (order.bytes 4 value)) = value := by
    rw [order.value_bytes (by omega), signed, if_pos bound]
  rw [order.length_bytes] at next
  change (Except.ok (readInteger? order cursor).1, (readInteger? order cursor).2) = _
  rw [readInteger?, next]
  dsimp only
  rw [order.length_bytes, number]
  rfl

theorem run_nextData {data : Bytes} (before : cursor.rest = data ++ rest) :
    (nextData data.length).run cursor = (.ok data, cursor.behind data.length) := by
  have run : Yields (nextData data.length) cursor fun value after =>
      value = data ∧ after = cursor.behind data.length := by
    have natural : ¬((data.length : Int) < 0) := by omega
    refine .step (run_get cursor) ?_
    rw [if_neg natural, Int.toNat_natCast, Cursor.next_eq before]
    dsimp only
    rw [bne_self_eq_false]
    exact .step rfl (.pure ⟨rfl, rfl⟩)
  obtain ⟨_, _, run, rfl, rfl⟩ := run
  exact run

section

variable (sized : size = 4 ∨ size = 8) (record : Values size)

include sized

theorem width_ofSize : (ValueKind.ofSize size).width = size := by
  rcases sized with rfl | rfl <;> rfl

theorem unpack_data : unpack order (.ofSize size) ((record.data order).length / size)
    (record.data order) = .ok record.numbers := by
  have positive : 0 < size := by omega
  rw [record.length_data, Nat.mul_div_cancel _ positive, unpack, record.length_data,
    width_ofSize sized, beq_self_eq_true, if_pos rfl, record.map_decode_pieces]

theorem read_record (before : cursor.rest = framed order (record.data order) ++ rest) :
    ∃ notes, read order (some size) cursor = (⟨some ⟨record.numbers, true⟩, notes⟩,
      cursor.behind (framed order (record.data order)).length) := by
  have run : Yields (readArray order size (.ofSize size)) cursor fun items after =>
      items = some record.numbers ∧
        after = cursor.behind (framed order (record.data order)).length := by
    have length := record.length_data order
    have short := record.short
    rw [framed, append_assoc, append_assoc] at before
    have atData := Cursor.rest_behind before
    rw [order.length_bytes] at atData
    have atTrailer := Cursor.rest_behind atData
    have whole : ((record.data order).length : Int) % size = 0 := by
      rw [length, Int.natCast_mul]
      exact Int.mul_emod_left _ _
    have filled : ¬(size == 0) = true := by
      rw [beq_iff_eq]
      omega
    refine .step (run_nextInteger? (by omega) before) ?_
    dsimp only
    rw [if_neg filled, whole]
    refine .step (run_nextData atData) (.step (run_nextInteger? (by omega) atTrailer) ?_)
    dsimp only
    rw [bne_self_eq_false, unpack_data sized]
    refine .step rfl (.pure ⟨rfl, ?_⟩)
    rw [framed, length_append, length_append, order.length_bytes, Cursor.behind_behind,
      Cursor.behind_behind, Nat.add_assoc]
  obtain ⟨_, _, run, rfl, rfl⟩ := run
  rw [read, readSized, run]
  exact ⟨_, rfl⟩

omit sized in
theorem read_end (ended : cursor.rest = []) :
    read order (some size) cursor = ({}, cursor.behind 0) := by
  have next : cursor.next 4 = ([], cursor.behind 0) := by
    rw [Cursor.next, ended]
    rfl
  have nothing : (nextInteger? order).run cursor = (.ok none, cursor.behind 0) := by
    change (Except.ok (readInteger? order cursor).1, (readInteger? order cursor).2) = _
    rw [readInteger?, next]
    rfl
  rw [read, readSized, readArray, run_bind, nothing]
  rfl

/-- What is written as a file of records is read as these records, one by one, and then the end of
the file is met. -/
theorem readMany_file (records : List (Values size)) {limit : Nat} (enough : records.length < limit)
    (before : cursor.rest = file order records) :
    (readMany order (some size) limit cursor).map Prod.fst =
      records.map (fun record => some ⟨record.numbers, true⟩) ++ [none] := by
  induction records generalizing limit cursor with
  | nil =>
    obtain ⟨limit, rfl⟩ := Nat.exists_eq_add_of_lt enough
    rw [readMany, read_end before]
    rfl
  | cons record records ih =>
    obtain ⟨limit, rfl⟩ := Nat.exists_eq_add_of_lt enough
    obtain ⟨notes, found⟩ := read_record sized record before
    have rest := @ih _ (records.length + 1 + limit) (by omega) (Cursor.rest_behind before)
    rw [readMany, found]
    exact congrArg (some _ :: ·) rest

end

def twoRecords : List (Values 4) :=
  [⟨[⟨0x3f800000, by decide⟩, ⟨0x40000000, by decide⟩], by decide⟩, ⟨[], by decide⟩]

theorem readMany_file_twoRecords :
    (readMany .big (some 4) 3 { content := file .big twoRecords, isOnDisk := true }).map Prod.fst =
      twoRecords.map (fun record => some ⟨record.numbers, true⟩) ++ [none] :=
  readMany_file (.inl rfl) twoRecords (by decide) rfl

theorem reordered_pieces (request : Reordering) (record : Values request.size) :
    request.reordered (pieces request.size record.bits.length (record.data request.order)) =
      record.data .little := by
  rw [record.pieces_data, Reordering.reordered, flatMap_map]
  refine flatMap_congr fun value _ => ?_
  rw [request.order.value_bytes value.isLt]
  rfl

end Record

namespace Record.Reordering

variable {request : Reordering}

def Admits (request : Reordering) (record : Values request.size) : Prop :=
  ∀ number ∈ record.numbers, request.least.lt number = true ∧ number.lt request.most = true

theorem outside?_eq_none {numbers : List Number}
    (inside : ∀ number ∈ numbers, request.least.lt number = true ∧ number.lt request.most = true)
    (index : Nat) : request.outside? index numbers = none := by
  induction numbers generalizing index with
  | nil => rfl
  | cons number rest ih =>
    rw [forall_mem_cons] at inside
    rw [outside?, inside.1.1, inside.1.2]
    exact ih inside.2 (index + 1)

variable (sized : request.size = 4 ∨ request.size = 8)

include sized

theorem reorderRecord_yields {record : Values request.size} (admitted : request.Admits record)
    (rest : Bytes) (state : ReorderState) :
    Yields (request.reorderRecord (framed request.order (record.data request.order) ++ rest)) state
      fun length after => length = record.bits.length * request.size ∧
        after.written = state.written ++ framed .little (record.data .little) := by
  have short := record.short
  have positive : 0 < request.size := by omega
  let mark := request.order.bytes 4 (record.data request.order).length
  have marked : mark.length = 4 := request.order.length_bytes 4 _
  have read : request.order.value mark = record.bits.length * request.size := record.mark_eq _
  have length := record.length_data request.order
  have split : framed request.order (record.data request.order) ++ rest =
      mark ++ (record.data request.order ++ (mark ++ rest)) := by
    rw [framed, append_assoc, append_assoc]
  have trailer : (mark ++ (record.data request.order ++ (mark ++ rest))).drop
      (4 + record.bits.length * request.size) = mark ++ rest := by
    rw [← drop_drop, drop_left' marked, drop_left' length]
  have natural : ¬(((record.bits.length * request.size : Nat) : Int) < 0) := by omega
  have whole : ((record.bits.length * request.size : Nat) : Int) % request.size = 0 := by
    rw [Int.natCast_mul]
    exact Int.mul_emod_left _ _
  have checked : ∀ name state,
      (request.checkValues name record.numbers).run state = (.ok (), state) := by
    intro name state
    rw [checkValues, outside?_eq_none admitted]
    rfl
  rw [split]
  refine .step rfl (.step rfl (.step rfl ?_))
  dsimp only
  rw [take_left' marked, read, signed, if_pos short, whole, bne_self_eq_false]
  refine .step rfl (.step rfl ?_)
  rw [if_neg natural, Int.toNat_natCast, drop_left' marked, take_left' length, length,
    bne_self_eq_false, Nat.mul_div_cancel _ positive, kind,
    record.map_decode_pieces, trailer, take_left' marked, marked, bne_self_eq_false,
    if_neg Bool.false_ne_true, read, bne_self_eq_false, if_neg Bool.false_ne_true, reordered_pieces]
  split
  · exact .step rfl (.step (checked _ _) (.step rfl (.step rfl (.step rfl (.pure ⟨rfl, rfl⟩)))))
  · exact .step (checked _ _) (.step rfl (.step rfl (.step rfl (.pure ⟨rfl, rfl⟩))))

theorem reorder_yields {records : List (Values request.size)}
    (admitted : ∀ record ∈ records, request.Admits record) (state : ReorderState) :
    Yields (request.reorder (file request.order records)) state fun _ after =>
      after.written = state.written ++ file .little records := by
  induction records generalizing state with
  | nil =>
    rw [reorder]
    exact .pure (append_nil _).symm
  | cons record records ih =>
    rw [forall_mem_cons] at admitted
    have written : file request.order (record :: records) =
        framed request.order (record.data request.order) ++ file request.order records := rfl
    have size : (framed request.order (record.data request.order)).length =
        8 + record.bits.length * request.size := by
      rw [framed, length_append, length_append, request.order.length_bytes, record.length_data]
      omega
    rw [reorder, dif_pos (by rw [written, length_append]; omega), written]
    refine .bind (reorderRecord_yields sized admitted.1 _ state) ?_
    rintro _ between ⟨rfl, first⟩
    rw [drop_left' size]
    refine (ih admitted.2 between).weaken fun _ after rest => ?_
    rw [rest, first, append_assoc]
    rfl

end Record.Reordering

namespace Command

open Record

def orderName : ByteOrder → String
  | .little => "little"
  | .big => "big"

/-- The options ask for a change from an order of bytes to another one, of values of a size that are
between two bounds. -/
structure Asks (options : Options) (source target : ByteOrder) (size : Nat) (least most : Number) :
    Prop where
  source : (options.given? "readEndian").getD "big" = orderName source
  target : (options.given? "writeEndian").getD "little" = orderName target
  size : sizeOption ((options.given? "bytesPerValue").getD "4") = .ok (some size)
  least : boundValue ((options.given? "min").getD "-1E10") = .ok least
  most : boundValue ((options.given? "max").getD "1E10") = .ok most
  shown : ∃ shown, wholeValue ((options.given? "numberOfRecordsToPrint").getD "0") = .ok shown

theorem size_of_sizeOption {text : String} {size : Nat} (read : sizeOption text = .ok (some size)) :
    size = 4 ∨ size = 8 := by
  obtain ⟨value, _, rest⟩ := parts_of_bind_eq_ok read
  have chosen := Except.ok.inj rest
  split at chosen
  · next known =>
    rw [Bool.or_eq_true, beq_iff_eq, beq_iff_eq] at known
    rcases known with rfl | rfl
    · exact .inl (Option.some.inj chosen).symm
    · exact .inr (Option.some.inj chosen).symm
  · cases chosen

/-- Records between the bounds are written in the little order, whichever one is asked for. They are
read in the order that is named for the source, unless the big one is asked for: then in that. -/
theorem reorderCommand_writes {words : List String} {options : Options} {disk : Disk} {size : Nat}
    {least most : Number} {source target : ByteOrder} {records : List (Values size)}
    (read : readOptions? reorderForms words {} = some options)
    (asks : Asks options source target size least most)
    (stored : disk.get? ((options.given? "file").getD "in.dat") =
      some (file (if target = .big then .big else source) records))
    (apart : (options.given? "file").getD "in.dat" ≠ (options.given? "out").getD "out.dat")
    (inside : ∀ record ∈ records, ∀ number ∈ record.numbers,
      least.lt number = true ∧ number.lt most = true) (before : Output) :
    Yields (reorderCommand words disk) before fun after _ =>
      after.get? ((options.given? "out").getD "out.dat") = some (file .little records) := by
  have order : readOrder (orderName source) (orderName target) =
      if target = .big then .big else source := by
    cases source <;> cases target <;> rfl
  have known : disk.contains ((options.given? "file").getD "in.dat") = true := by
    rw [Table.contains, contains_iff_mem]
    by_contra unknown
    rw [(Table.get?_eq_none_iff disk _).mpr unknown] at stored
    cases stored
  obtain ⟨shown, counted⟩ := asks.shown
  rw [reorderCommand, read]
  refine .step (run_outcome asks.least before) (.step (run_outcome asks.most before) ?_)
  refine .step (run_outcome asks.size before) (.step (run_outcome counted before) ?_)
  dsimp only
  rw [known, Bool.not_true, if_neg Bool.false_ne_true, asks.source, asks.target, order,
    Table.get?_set, if_neg apart, stored, Option.getD_some]
  let request : Reordering :=
    { order := if target = .big then .big else source, size, least, most, showsValues := shown > 0 }
  have admitted : ∀ record ∈ records, request.Admits record := inside
  obtain ⟨_, state, run, written⟩ :=
    @Reordering.reorder_yields request (size_of_sizeOption asks.size) records admitted {}
  rw [run]
  refine .step rfl (.step rfl (.pure ?_))
  rw [Table.get?_set, if_pos rfl, written]
  rfl

theorem reorderCommand_writes_twoRecords :
    Yields (reorderCommand ["-w", "big", "--min=0", "--max=3"]
        (Table.ofList [("in.dat", file .big twoRecords)])) {} (fun after _ =>
          after.get? "out.dat" = some (file .little twoRecords)) ∧
      file .little twoRecords ≠ file .big twoRecords := by
  have asks : Asks ⟨[("writeEndian", "big"), ("min", "0"), ("max", "3")], [], []⟩ .big .big 4
      (.integer 0) (.integer 3) :=
    ⟨rfl, rfl, by rfl, by rfl, by rfl, 0, by rfl⟩
  refine ⟨reorderCommand_writes (by rfl) asks rfl (by decide) ?_ {}, by decide⟩
  decide +kernel

end Command

end ParallelFortran
