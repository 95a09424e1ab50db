import ParallelFortran.Backend.Declarations

/-! Symbols that one line declares have to be alike. Of a mixture, only that of present symbols, or of
type parameters, with others is refused as wrong usage; host symbols may stand beside any that are not
on the device. -/

namespace ParallelFortran.Symbol

open List

def Agree (property : Symbol → Bool) (symbols : List Symbol) : Prop :=
  ∀ symbol ∈ symbols, ∀ other ∈ symbols, property symbol = property other

def leading (property : Symbol → Bool) (symbols : List Symbol) : Verdict :=
  (symbols.head?.map fun symbol => .of (property symbol)).getD .undefined

section

variable {property : Symbol → Bool} {first : Symbol} {rest : List Symbol}

theorem agree_cons : Agree property (first :: rest) ↔
    ∀ symbol ∈ rest, property symbol = property first := by
  constructor
  · exact fun agree symbol member => agree symbol (.tail _ member) first mem_cons_self
  · intro same
    have all : ∀ symbol ∈ first :: rest, property symbol = property first :=
      forall_mem_cons.mpr ⟨rfl, same⟩
    exact fun symbol member other otherMember =>
      (all symbol member).trans (all other otherMember).symm

theorem settle_of (mixed : Fault) (holds : Bool) (symbols : List Symbol) :
    (∀ symbol ∈ symbols, property symbol = holds) ∧
        settle property mixed (.of holds) symbols = .ok (.of holds) ∨
      (¬∀ symbol ∈ symbols, property symbol = holds) ∧
        settle property mixed (.of holds) symbols = .error mixed := by
  induction symbols with
  | nil => simp [settle]
  | cons symbol rest ih =>
    have step : settle property mixed (.of holds) (symbol :: rest) =
        if property symbol = holds then settle property mixed (.of holds) rest else .error mixed := by
      cases holds <;> cases given : property symbol <;> simp [settle, Verdict.of, given]
    rw [step, forall_mem_cons]
    by_cases same : property symbol = holds
    · simpa [same] using ih
    · simp [same]

/-- The loop over the symbols ends without a fault exactly if they agree. -/
theorem settle_cases (property : Symbol → Bool) (mixed : Fault) (symbols : List Symbol) : Agree property symbols ∧
      settle property mixed .undefined symbols = .ok (leading property symbols) ∨
    ¬ Agree property symbols ∧ settle property mixed .undefined symbols = .error mixed := by
  cases symbols with
  | nil => exact .inl ⟨fun _ member => absurd member not_mem_nil, rfl⟩
  | cons first rest =>
    rw [agree_cons]
    exact settle_of mixed (property first) rest

end

theorem settleHost_eq (symbols : List Symbol) :
    settleHost .undefined symbols = leading isHost symbols := by
  have settled : ∀ holds (rest : List Symbol), settleHost (.of holds) rest = .of holds := by
    intro holds rest
    induction rest with
    | nil => cases holds <;> rfl
    | cons symbol rest ih => cases holds <;> exact ih
  cases symbols with
  | nil => rfl
  | cons first rest => exact settled first.isHost rest

theorem single_role (symbol : Symbol) :
    [symbol.isPresent, symbol.isTransferred, symbol.isHost].count true ≤ 1 := by
  rw [isHost, isPresent]
  cases symbol.isTransferred <;> cases symbol.isMarkedPresent <;> cases symbol.isMarkedHost <;> decide

/-- Where the loops end without a fault, no two of the roles exclude each other. -/
theorem roles_compatible (symbols : List Symbol) :
    (leading isTransferred symbols == .yes && leading isPresent symbols == .yes) = false ∧
    (leading isTransferred symbols == .yes && leading isHost symbols == .yes) = false ∧
    (leading isPresent symbols == .yes && leading isHost symbols == .yes) = false := by
  cases symbols with
  | nil => decide
  | cons first rest =>
    have single := single_role first
    revert single
    simp only [leading, head?_cons, Option.map_some, Option.getD_some]
    cases first.isPresent <;> cases first.isTransferred <;> cases first.isHost <;> decide

theorem conformity_cases (symbols : List Symbol) :
    (¬ Agree isPresent symbols ∧ conformity symbols = .error (mixedPresence symbols)) ∨
    (Agree isPresent symbols ∧ ¬ Agree isTransferred symbols ∧
      conformity symbols = .error (.defect .missingPart)) ∨
    (Agree isPresent symbols ∧ Agree isTransferred symbols ∧ ¬ Agree isTypeParameter symbols ∧
      conformity symbols = .error (mixedTypes symbols)) ∨
    Agree isPresent symbols ∧ Agree isTransferred symbols ∧ Agree isTypeParameter symbols ∧
      conformity symbols =
        .ok ⟨leading isPresent symbols, leading isTransferred symbols, leading isHost symbols⟩ := by
  obtain ⟨first, second, third⟩ := roles_compatible symbols
  rcases settle_cases isPresent (mixedPresence symbols) symbols with ⟨present, agreed⟩ | ⟨mixed, failed⟩
  · rcases settle_cases isTransferred (.defect .missingPart) symbols with
      ⟨transferred, moved⟩ | ⟨mixed, failed⟩
    · rcases settle_cases isTypeParameter (mixedTypes symbols) symbols with
        ⟨typed, told⟩ | ⟨mixed, failed⟩
      · refine .inr (.inr (.inr ⟨present, transferred, typed, ?_⟩))
        simp only [conformity, bind, Except.bind, agreed, moved, settleHost_eq, first, second, third, told]
        rfl
      · refine .inr (.inr (.inl ⟨present, transferred, mixed, ?_⟩))
        simp only [conformity, bind, Except.bind, agreed, moved, settleHost_eq, first, second, third, failed]
        rfl
    · refine .inr (.inl ⟨present, mixed, ?_⟩)
      simp only [conformity, bind, Except.bind, agreed, failed]
  · refine .inl ⟨mixed, ?_⟩
    simp only [conformity, bind, Except.bind, failed]

/-- A mixture of transferred symbols with others leads to a defect, and one of host symbols with others
is not noticed: the first symbol decides. -/
theorem conformity_settled (symbols : List Symbol) :
    ((∃ fault, conformity symbols = .error fault ∧ fault.refusal? = some .usage) ↔
      ¬ Agree isPresent symbols ∨ Agree isTransferred symbols ∧ ¬ Agree isTypeParameter symbols) ∧
    ((∃ fault, conformity symbols = .error fault ∧ fault.refusal? ≠ some .usage) ↔
      Agree isPresent symbols ∧ ¬ Agree isTransferred symbols) ∧
    (∀ result, conformity symbols = .ok result ↔
      Agree isPresent symbols ∧ Agree isTransferred symbols ∧ Agree isTypeParameter symbols ∧
        result = ⟨leading isPresent symbols, leading isTransferred symbols, leading isHost symbols⟩) ∧
    ∀ symbol : Symbol, [symbol.isPresent, symbol.isTransferred, symbol.isHost].count true ≤ 1 := by
  refine and_assoc.mp (and_assoc.mp ⟨?_, single_role⟩)
  rcases conformity_cases symbols with ⟨present, run⟩ | ⟨present, transferred, run⟩ |
    ⟨present, transferred, typed, run⟩ | ⟨present, transferred, typed, run⟩
  · simp [run, present, mixedPresence, Fault.refusal?, BackendFault.refusal]
  · simp [run, present, transferred, Fault.refusal?]
  · simp [run, present, transferred, typed, mixedTypes, Fault.refusal?, BackendFault.refusal]
  · simp [run, present, transferred, typed, eq_comm]

end ParallelFortran.Symbol
