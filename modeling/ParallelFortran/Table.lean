/-! Tables that remember the order in which their keys were first set. Setting a key again keeps its
place; a key that was erased and is set again stands last. -/

namespace ParallelFortran

structure Table (κ ν : Type) where
  entries : List (κ × ν)
  distinct : (entries.map Prod.fst).Nodup

namespace Table

variable {κ ν : Type}

def empty : Table κ ν := ⟨[], List.nodup_nil⟩

instance : EmptyCollection (Table κ ν) := ⟨empty⟩

instance : Inhabited (Table κ ν) := ⟨empty⟩

variable (table : Table κ ν)

def keys : List κ := table.entries.map Prod.fst

def values : List ν := table.entries.map Prod.snd

def size : Nat := table.entries.length

def isEmpty : Bool := table.entries.isEmpty

def mapValues {ω : Type} (change : κ → ν → ω) (table : Table κ ν) : Table κ ω :=
  ⟨table.entries.map fun entry => (entry.1, change entry.1 entry.2), by
    simpa [List.map_map, Function.comp_def] using table.distinct⟩

variable [DecidableEq κ]

def get? (table : Table κ ν) (key : κ) : Option ν :=
  (table.entries.find? fun entry => entry.1 = key).map Prod.snd

def contains (table : Table κ ν) (key : κ) : Bool :=
  table.keys.contains key

theorem keys_replace (entries : List (κ × ν)) (key : κ) (value : ν) :
    (entries.map fun entry => if entry.1 = key then (entry.1, value) else entry).map Prod.fst =
      entries.map Prod.fst := by
  rw [List.map_map]
  apply List.map_congr_left
  intro entry _
  simp only [Function.comp_apply]
  split <;> rfl

variable (table : Table κ ν)

def set (key : κ) (value : ν) : Table κ ν :=
  if present : key ∈ table.keys then
    ⟨table.entries.map fun entry => if entry.1 = key then (entry.1, value) else entry, by
      rw [keys_replace]
      exact table.distinct⟩
  else
    ⟨table.entries ++ [(key, value)], by
      rw [List.map_append, List.nodup_append]
      refine ⟨table.distinct, by simp, ?_⟩
      intro left leftMember right rightMember same
      simp only [List.map_cons, List.map_nil, List.mem_singleton] at rightMember
      subst rightMember
      subst same
      exact present leftMember⟩

def erase (key : κ) : Table κ ν :=
  ⟨table.entries.filter fun entry => entry.1 ≠ key, by
    exact List.Nodup.sublist (List.Sublist.map Prod.fst List.filter_sublist) table.distinct⟩

def update (pairs : List (κ × ν)) : Table κ ν :=
  pairs.foldl (fun table pair => table.set pair.1 pair.2) table

def ofList (pairs : List (κ × ν)) : Table κ ν :=
  empty.update pairs

def setDefault (key : κ) (value : ν) : ν × Table κ ν :=
  match table.get? key with
  | some present => (present, table)
  | none => (value, table.set key value)

def pop? (key : κ) : Option (ν × Table κ ν) :=
  (table.get? key).map fun value => (value, table.erase key)

def popLast? : Option ((κ × ν) × Table κ ν) :=
  table.entries.getLast?.map fun entry => (entry, table.erase entry.1)

def popFirst? : Option ((κ × ν) × Table κ ν) :=
  table.entries.head?.map fun entry => (entry, table.erase entry.1)

def ofKeys (keys : List κ) (value : ν) : Table κ ν :=
  ofList (keys.map fun key => (key, value))

def sameInOrder [BEq ν] (left right : Table κ ν) : Bool :=
  left.entries == right.entries

def sameEntries [BEq ν] (left right : Table κ ν) : Bool :=
  left.size == right.size &&
    left.entries.all fun entry => (right.get? entry.1).any (· == entry.2)

end Table

abbrev OrderedSet (κ : Type) := Table κ Unit

namespace OrderedSet

variable {κ : Type} [DecidableEq κ]

def ofList (members : List κ) : OrderedSet κ :=
  Table.ofKeys members ()

variable (set : OrderedSet κ)

def members : List κ := set.keys

def insert (member : κ) : OrderedSet κ :=
  set.set member ()

end OrderedSet

end ParallelFortran
