import ParallelFortran.Proofs.Action
import ParallelFortran.Source.Line

/-! What lines can mean outside of branches. -/

namespace ParallelFortran.Source

open List Event

def Event.isPlain : Event → Bool
  | branch _ | firstStatement => false
  | _ => true

def plainReaders : List (String → Option Event) :=
  [scheme?, schemeEnd?, moduleBegin?, moduleEnd?, interfaceBegin?, interfaceEnd?, typeBegin?,
    typeEnd?, containsLine?, routineBegin?, routineEnd?, call?, dependants?, dependantsEnd?, region?,
    regionEnd?, dataStatement?, earlyReturn?, branchEnd?]

theorem isPlain_of_reader {reader : String → Option Event} (listed : reader ∈ plainReaders)
    (line : String) : ∀ event ∈ reader line, event.isPlain = true := by
  simp only [plainReaders, mem_cons, not_mem_nil, or_false] at listed
  rcases listed with rfl | rfl | rfl | rfl | rfl | rfl | rfl | rfl | rfl | rfl | rfl | rfl | rfl |
    rfl | rfl | rfl | rfl | rfl | rfl
  all_goals
    intro event read
    obtain ⟨_, _, rfl⟩ := Option.map_eq_some_iff.mp read
    rfl

variable {line : String} {event : Event}

theorem firstOf_cases {readers : List (String → Option Event)}
    (first : firstOf readers line = event) :
    event = .other ∨ ∃ reader ∈ readers, reader line = some event := by
  rw [firstOf] at first
  cases found : readers.findSome? fun reader => reader line with
  | none =>
    rw [found] at first
    exact .inl first.symm
  | some read =>
    rw [found] at first
    cases first
    exact .inr (exists_of_findSome?_eq_some found)

namespace Place

def readers : Place → List (String → Option Event)
  | outside => [branch?, scheme?, schemeEnd?, moduleBegin?]
  | module => [branch?, interfaceBegin?, typeBegin?, scheme?, schemeEnd?, dependants?, moduleEnd?,
      containsLine?]
  | interface => [interfaceEnd?]
  | typeDefinition => [typeEnd?]
  | moduleBody => [branch?, scheme?, schemeEnd?, moduleEnd?, routineBegin?]
  | declarations | routineBody => [branch?, dependants?, call?, routineEnd?, region?]
  | parallelRegion => [branch?, call?, regionEnd?]
  | moduleDependants | dependants => [branch?, dependantsEnd?]
  | branch | ignored => []

def codeReaders : Place → List (String → Option Event)
  | declarations => [dataStatement?, branch?, call?, routineEnd?, region?, dependants?]
  | routineBody => [branch?, branchEnd?, call?, routineEnd?, earlyReturn?, region?, regionEnd?,
      dependants?]
  | place => place.readers

end Place

/-- What a line means at a place comes from one of the readers there, unless it is nothing. -/
inductive ReadAt (readers : Place → List (String → Option Event)) (place : Place) (line : String) :
    Event → Prop
  | other : ReadAt readers place line .other
  | firstStatement (first : place = .declarations) : ReadAt readers place line .firstStatement
  | found {reader : String → Option Event} {event : Event} (listed : reader ∈ readers place)
      (read : reader line = some event) : ReadAt readers place line event

section

variable {line : String} {event : Event}

theorem readAt_statement {readers : Place → List (String → Option Event)}
    (read : (do if ← isDeclaration line then return other else return firstStatement) =
      Except.ok event) :
    ReadAt readers .declarations line event := by
  obtain ⟨declared, _, rest⟩ := parts_of_bind_eq_ok read
  cases declared
  all_goals cases rest
  · exact .firstStatement rfl
  · exact .other

variable {place : Place}

theorem readAt_of_read (read : place.read line = .ok event) :
    ReadAt Place.readers place line event := by
  have direct : ∀ readers, firstOf readers line = event → place.readers = readers →
      ReadAt Place.readers place line event := by
    intro readers first same
    rcases firstOf_cases first with rfl | ⟨reader, member, found⟩
    · exact .other
    · exact .found (same ▸ member) found
  cases place with
  | module | interface | typeDefinition => exact direct _ (Except.ok.inj read) rfl
  | branch | ignored =>
    cases read
    exact .other
  | _ =>
    dsimp only [Place.read, readOutside, readInModuleBody, readInDeclarations, readInRoutineBody,
      readInRegion, readInDependants] at read
    generalize first : firstOf _ line = found at read
    rcases firstOf_cases first with rfl | ⟨reader, member, same⟩
    · first
        | exact readAt_statement read
        | cases read
          exact .other
        | dsimp only at read
          repeat' split at read
          all_goals cases read
          exact .other
    · simp only [mem_cons, not_mem_nil, or_false] at member
      rcases member with rfl | rfl | rfl | rfl | rfl | rfl | rfl | rfl
      all_goals
        obtain ⟨_, _, rfl⟩ := Option.map_eq_some_iff.mp same
        dsimp only at read
        try split at read
        all_goals cases read <;> exact .found (by simp [Place.readers]) same

theorem codeReadAt_of_readCode (read : place.readCode line = .ok event) :
    ReadAt Place.codeReaders place line event := by
  have kept : ReadAt Place.readers place line event → place.codeReaders = place.readers →
      ReadAt Place.codeReaders place line event := by
    rintro (_ | first | ⟨listed, found⟩) same
    · exact .other
    · exact .firstStatement first
    · exact .found (same ▸ listed) found
  cases place with
  | declarations | routineBody | parallelRegion =>
    dsimp only [Place.readCode, readDeclarationCode, readStatementCode, readRegionCode] at read
    generalize first : firstOf _ line = found at read
    rcases firstOf_cases first with rfl | ⟨reader, member, same⟩
    · first
        | exact readAt_statement read
        | cases read
          exact .other
    · simp only [mem_cons, not_mem_nil, or_false] at member
      rcases member with rfl | rfl | rfl | rfl | rfl | rfl | rfl | rfl | rfl
      all_goals
        obtain ⟨_, _, rfl⟩ := Option.map_eq_some_iff.mp same
        cases read <;> exact .found (by simp [Place.codeReaders, Place.readers]) same
  | _ => exact kept (readAt_of_read read) rfl

section

variable (unbranched : branch? line = none)

include unbranched

theorem readCode_isPlain (read : place.readCode line = .ok event) :
    event.isPlain = true ∨ event = .firstStatement ∧ place = .declarations := by
  cases codeReadAt_of_readCode read with
  | other => exact .inl rfl
  | firstStatement first => exact .inr ⟨rfl, first⟩
  | found listed found =>
    have plain : ∀ reader ∈ place.codeReaders, reader ∈ branch? :: plainReaders := by
      cases place <;> simp [Place.codeReaders, Place.readers, plainReaders]
    rcases mem_cons.mp (plain _ listed) with rfl | other
    · rw [unbranched] at found
      cases found
    · exact .inl (isPlain_of_reader other line _ found)

theorem readStatementCode_isPlain
    (read : Place.readCode .routineBody line = .ok event) : event.isPlain = true :=
  (readCode_isPlain unbranched read).resolve_right nofun

theorem readInDependants_cases
    (read : readInDependants line = .ok event) : event = .dependantsEnd ∨ event = .other := by
  cases readAt_of_read (show Place.read .dependants line = .ok event from read) with
  | other => exact .inr rfl
  | firstStatement first => cases first
  | found listed found =>
    simp only [Place.readers, mem_cons, not_mem_nil, or_false] at listed
    rcases listed with rfl | rfl
    · rw [unbranched] at found
      cases found
    · obtain ⟨_, _, rfl⟩ := Option.map_eq_some_iff.mp found
      exact .inl rfl

end

end

def Event.belongsAt (place : Place) : Event → Bool
  | moduleBegin _ _ => place == .outside
  | routineBegin _ _ => place == .moduleBody
  | routineEnd _ => place == .declarations || place == .routineBody
  | firstStatement => place == .declarations
  | _ => true

theorem readCode_belongsAt {place : Place}
    (read : place.readCode line = .ok event) : event.belongsAt place = true := by
  cases codeReadAt_of_readCode read with
  | other => rfl
  | firstStatement first =>
    subst first
    rfl
  | found listed found =>
    cases place
    all_goals
      simp only [Place.codeReaders, Place.readers, mem_cons, not_mem_nil, or_false] at listed
    all_goals rcases listed with rfl | rfl | rfl | rfl | rfl | rfl | rfl | rfl
    all_goals
      obtain ⟨_, _, rfl⟩ := Option.map_eq_some_iff.mp found
      rfl

end ParallelFortran.Source
