import ParallelFortran.Proofs.Brackets

/-! The level of the brackets behind a text, and the split behind the bracket that closes them. -/

namespace ParallelFortran

open List Delimiters
open Text (Letters)

theorem Pattern.runLazy_eq_none {α : Type} {accepts : Char → Bool} {captures : Captures}
    {next : Continuation α} {text : Letters}
    (nowhere : ∀ position rest, rest <:+ text → next ⟨position, rest⟩ captures = none)
    (position : Nat) : runLazy accepts captures next 0 position text = none := by
  induction text generalizing position with
  | nil => exact nowhere _ _ suffix_rfl
  | cons letter text ih =>
    rw [runLazy, nowhere _ _ suffix_rfl]
    dsimp only
    rw [ih fun position rest behind => nowhere position rest (behind.trans (suffix_cons ..)),
      ite_self]

namespace Brackets

variable {text : Letters}

theorem nextToken?_eq_none (unbracketed : ∀ letter ∈ text, isRound letter = false) :
    nextToken? (either round) text = none := by
  rw [nextToken?, Option.map_eq_none_iff]
  change (Pattern.both (.group 1 Pattern.little) (.both (.group 2 (either round))
    (.group 3 Pattern.anything))).matchWith ⟨0, text⟩ [] _ = none
  rw [Pattern.matchWith, Pattern.matchWith, Pattern.little, Pattern.matchWith]
  refine Pattern.runLazy_eq_none (fun position rest behind => ?_) 0
  rw [Pattern.matchWith, Pattern.matchWith, reads_round, if_neg]
  rintro found
  obtain ⟨letter, head, bracket⟩ := (Option.any_eq_true ..).mp found
  simp [unbracketed letter (behind.subset (mem_of_mem_head? head))] at bracket

/-- A text is read from one bracket to the next. -/
theorem tokenwise {motive : Letters → Prop}
    (last : ∀ plain, (∀ letter ∈ plain, isRound letter = false) → motive plain)
    (step : ∀ plain bracket rest, (∀ letter ∈ plain, isRound letter = false) →
      isRound bracket = true → motive rest → motive (plain ++ bracket :: rest)) (text : Letters) :
    motive text := by
  induction length : text.length using Nat.strongRecOn generalizing text with
  | ind _ ih =>
    cases found : List.find? isRound text with
    | none => exact last text (by simpa using found)
    | some bracket =>
      obtain ⟨isBracket, plain, rest, rfl, unbracketed⟩ := find?_eq_some_iff_append.mp found
      refine step plain bracket rest (by simpa using unbracketed) isBracket (ih rest.length ?_ rest rfl)
      rw [← length, length_append, length_cons]
      omega

def countLetter (letter : Char) : BracketCount Unit :=
  if isRound letter then count round [letter] else pure ()

theorem forM_unbracketed (unbracketed : ∀ letter ∈ text, isRound letter = false) :
    forM text countLetter = pure () := by
  induction text with
  | nil => rfl
  | cons letter text ih =>
    rw [forall_mem_cons] at unbracketed
    rw [forM_cons, ih unbracketed.2]
    simp [countLetter, unbracketed.1]

theorem levelAfterLoop_eq (single : '\n' ∉ text) {fuel : Nat} (enough : text.length < fuel) :
    levelAfterLoop round fuel text = forM text countLetter := by
  induction text using tokenwise generalizing fuel with
  | last plain unbracketed =>
    obtain ⟨fuel, rfl⟩ : ∃ less, fuel = less + 1 := ⟨fuel - 1, by omega⟩
    rw [levelAfterLoop, nextToken?_eq_none unbracketed, forM_unbracketed unbracketed]
  | step plain bracket rest unbracketed isBracket ih =>
    obtain ⟨fuel, rfl⟩ : ∃ less, fuel = less + 1 := ⟨fuel - 1, by omega⟩
    rw [length_append, length_cons] at enough
    have later : '\n' ∉ rest := fun feed => single (by simp [feed])
    rw [levelAfterLoop, nextToken?_eq_some reads_round unbracketed isBracket single]
    dsimp only
    rw [ih later (by omega), forM_append, forM_cons, forM_unbracketed unbracketed]
    simp [countLetter, isBracket]

variable {level last : Nat}

theorem levelAfter_eq (single : '\n' ∉ text) :
    levelAfter round text = forM text countLetter >>= fun _ => return (← get).level := by
  rw [levelAfter, levelAfterLoop_eq single (Nat.lt_succ_self _)]

theorem run_levelAfter (single : '\n' ∉ text) (level : Nat) (opened : Bool) :
    (levelAfter? level text).elim
      ((ExceptT.run (levelAfter round text) ⟨level, opened⟩).1 = .error (.text .closingFirst))
      fun last => ∃ ever, ExceptT.run (levelAfter round text) ⟨level, opened⟩ =
        (.ok (last : Int), ⟨last, ever⟩) := by
  rw [levelAfter_eq single]
  clear single
  induction text generalizing level opened with
  | nil => exact ⟨opened, rfl⟩
  | cons letter text ih =>
    rw [forM_cons, bind_assoc, levelAfter?]
    split
    · next opening =>
      subst opening
      exact ih (level + 1) true
    · split
      · next closing =>
        subst closing
        cases level with
        | zero => rfl
        | succ level =>
          have less : ((level + 1 : Nat) : Int) - 1 = level := by omega
          have closes : isRound ')' = true := rfl
          rw [countLetter, if_pos closes, run_bind, run_count_closing (by omega), less]
          exact ih level opened
      · next opening closing =>
        have plain : isRound letter = false := by simp [isRound, opening, closing]
        rw [countLetter, plain]
        exact ih level opened

theorem run_levelAfter_some (single : '\n' ∉ text) (counted : levelAfter? level text = some last)
    (opened : Bool) : ∃ ever, ExceptT.run (levelAfter round text) ⟨level, opened⟩ =
      (.ok (last : Int), ⟨last, ever⟩) := by
  have run := run_levelAfter single level opened
  rwa [counted] at run

theorem levelAfter?_some : levelAfter? level text = some last →
    last + text.count ')' = level + text.count '(' := by
  induction text generalizing level with
  | nil =>
    rintro ⟨⟩
    rfl
  | cons letter text ih =>
    rw [levelAfter?]
    intro reaches
    split at reaches
    · next opening =>
      have := ih reaches
      subst opening
      simp
      omega
    · next opening =>
      split at reaches
      · next closing =>
        split at reaches
        · cases reaches
        · have := ih reaches
          subst closing
          simp
          omega
      · next closing =>
        have := ih reaches
        simp [opening, closing, this]

/-- More brackets are closed than are open. -/
def Overdrawn (level : Nat) (text : Letters) : Prop :=
  ∃ front, front <+: text ∧ level + front.count '(' < front.count ')'

theorem levelAfter?_eq_none : levelAfter? level text = none ↔
    ∃ front rest, text = front ++ ')' :: rest ∧ levelAfter? level front = some 0 := by
  induction text generalizing level with
  | nil => simp [levelAfter?]
  | cons letter text ih =>
    rw [levelAfter?_cons]
    split
    · next isOpen =>
      rw [ih]
      constructor
      · rintro ⟨front, rest, rfl, reaches⟩
        exact ⟨letter :: front, rest, rfl, by rwa [levelAfter?_cons, if_pos isOpen]⟩
      · rintro ⟨_ | ⟨first, front⟩, rest, split, reaches⟩
        · cases split
          cases reaches
          simp [weight] at isOpen
        · cases split
          rw [levelAfter?_cons, if_pos isOpen] at reaches
          exact ⟨front, rest, rfl, reaches⟩
    · next closed =>
      have shut : letter = ')' ∧ level = 0 := by
        rw [weight] at closed
        grind
      simp only [shut, true_iff]
      exact ⟨[], text, rfl, rfl⟩

theorem overdrawn_iff : Overdrawn level text ↔ levelAfter? level text = none := by
  constructor
  · rintro ⟨front, ⟨rest, rfl⟩, more⟩
    rw [levelAfter?_append]
    cases reaches : levelAfter? level front with
    | none => rfl
    | some last =>
      have := levelAfter?_some reaches
      omega
  · intro closed
    obtain ⟨front, rest, rfl, reaches⟩ := levelAfter?_eq_none.mp closed
    have counts := levelAfter?_some reaches
    refine ⟨front ++ [')'], ⟨rest, by simp⟩, ?_⟩
    simp
    omega

/-- The text ends with a bracket that closes the first one. -/
def Returns (text : Letters) : Prop :=
  text.getLast? = some ')' ∧ text.count '(' = text.count ')'

theorem closeLoop_open (single : '\n' ∉ text) {fuel : Nat} (enough : text.length < fuel)
    (reaches : levelAfter? level text = some last) (read : Letters) :
    ∃ result, ExceptT.run (closeLoop round fuel read text) ⟨level + 1, true⟩ =
      (.ok result, ⟨last + 1, true⟩) := by
  induction text using tokenwise generalizing fuel level read with
  | last plain unbracketed =>
    obtain ⟨fuel, rfl⟩ : ∃ less, fuel = less + 1 := ⟨fuel - 1, by omega⟩
    rw [levelAfter?_unbracketed unbracketed] at reaches
    cases reaches
    rw [closeLoop, nextToken?_eq_none unbracketed]
    exact ⟨_, rfl⟩
  | step plain bracket rest unbracketed isBracket ih =>
    obtain ⟨fuel, rfl⟩ : ∃ less, fuel = less + 1 := ⟨fuel - 1, by omega⟩
    rw [length_append, length_cons] at enough
    have later : '\n' ∉ rest := fun feed => single (by simp [feed])
    rw [levelAfter?_append, levelAfter?_unbracketed unbracketed, Option.bind_some,
      levelAfter?_cons] at reaches
    split at reaches
    · next isOpen =>
      have next := ih later (by omega : rest.length < fuel) reaches (read ++ plain ++ [bracket])
      have stays : ((level : Int) + 1 + weight bracket == 0) = false := by
        rw [beq_eq_false_iff_ne]
        omega
      have same : ((level + weight bracket).toNat : Int) + 1 = level + 1 + weight bracket := by omega
      have step := closeLoop_scans.step fuel read unbracketed isBracket single
        (by omega : 0 < (level : Int) + 1)
      rw [stays] at step
      rw [step, ← same]
      exact next
    · cases reaches

section Bracketed

variable {plain tail : Letters} (unbracketed : ∀ letter ∈ plain, isRound letter = false)

include unbracketed

theorem count_unbracketed : plain.count '(' = 0 ∧ plain.count ')' = 0 := by
  simp only [count_eq_zero]
  exact ⟨fun member => Bool.noConfusion (unbracketed _ member),
    fun member => Bool.noConfusion (unbracketed _ member)⟩

/-- As long as the first bracket is open, the text does not return to the level before it. -/
theorem not_returns (reaches : levelAfter? 0 tail = some last) {shorter : Letters}
    (part : shorter <+: plain ++ '(' :: tail) : ¬ Returns shorter := by
  rintro ⟨ends, counts⟩
  obtain ⟨opened, closed⟩ := count_unbracketed unbracketed
  have outside : ')' ∉ plain := count_eq_zero.mp closed
  obtain ⟨rest, split⟩ := part
  obtain ⟨more, rfl, _⟩ | ⟨_ | ⟨first, inner⟩, rfl, behind⟩ := append_eq_append_iff.mp split
  · exact outside (mem_append_left _ (mem_of_getLast? ends))
  · rw [append_nil] at ends
    exact outside (mem_of_getLast? ends)
  · rw [cons_append, cons.injEq] at behind
    obtain ⟨rfl, rfl⟩ := behind
    rw [levelAfter?_append] at reaches
    obtain ⟨between, level, _⟩ := Option.bind_eq_some_iff.mp reaches
    have inside := levelAfter?_some level
    simp [opened, closed] at counts
    omega

end Bracketed

/-- The text is cut behind its shortest part that returns, if there is one. -/
structure IsSplit (text front rest : Letters) : Prop where
  whole : front ++ rest = text
  shortest : Returns front ∧ (∀ other, other <+: text → Returns other → front <+: other) ∨
    rest = [] ∧ ∀ other, other <+: text → ¬ Returns other

theorem splitAfterClosing_shortest (single : '\n' ∉ text) :
    (List.find? isRound text = some ')' →
      (splitAfterClosing round text).run' = .error (.text .closingFirst)) ∧
    (List.find? isRound text ≠ some ')' → ∃ front rest,
      (splitAfterClosing round text).run' = .ok (front, rest) ∧ IsSplit text front rest) := by
  cases found : List.find? isRound text with
  | none =>
    have unbracketed : ∀ letter ∈ text, isRound letter = false := by simpa using found
    refine ⟨nofun, fun _ => ⟨text, [], ?_, ⟨append_nil _, .inr ⟨rfl, fun other part returns => ?_⟩⟩⟩⟩
    · rw [splitAfterClosing, nextToken?_eq_none unbracketed]
      rfl
    · have member := part.subset (mem_of_getLast? returns.1)
      exact Bool.noConfusion (unbracketed _ member)
  | some bracket =>
    obtain ⟨isBracket, plain, tail, rfl, refused⟩ := find?_eq_some_iff_append.mp found
    have unbracketed : ∀ letter ∈ plain, isRound letter = false := by simpa using refused
    have token := nextToken?_eq_some reads_round unbracketed isBracket single
    simp only [isRound, Bool.or_eq_true, beq_iff_eq] at isBracket
    rcases isBracket with rfl | rfl
    · refine ⟨fun closing => absurd closing (by decide), fun _ => ?_⟩
      cases reaches : levelAfter? 0 tail with
      | none =>
        obtain ⟨inner, rest, rfl, balanced⟩ := levelAfter?_eq_none.mp reaches
        refine ⟨plain ++ '(' :: (inner ++ [')']), rest, ?_, ⟨by simp, .inl ⟨⟨?_, ?_⟩, ?_⟩⟩⟩
        · rw [BracketCount.run', splitAfterClosing_balanced unbracketed balanced single]
        · rw [← cons_append, ← append_assoc, getLast?_concat]
        · have inside := levelAfter?_some balanced
          obtain ⟨opened, closed⟩ := count_unbracketed unbracketed
          simp [opened, closed]
          omega
        · intro other part returns
          have front : plain ++ '(' :: (inner ++ [')']) <+:
              plain ++ '(' :: (inner ++ ')' :: rest) := ⟨rest, by simp⟩
          obtain longer | shorter := prefix_or_prefix_of_prefix front part
          · exact longer
          · rw [← cons_append, ← append_assoc, prefix_concat_iff] at shorter
            obtain rfl | shorter := shorter
            · simp
            · exact absurd returns (not_returns unbracketed balanced shorter)
      | some last =>
        refine ⟨plain ++ '(' :: tail, [], ?_, ⟨append_nil _, .inr ⟨rfl, fun other part =>
          not_returns unbracketed reaches part⟩⟩⟩
        obtain ⟨result, run⟩ := closeLoop_open (fun feed => single (by simp [feed]))
          (by grind : tail.length < (plain ++ '(' :: tail).length) reaches (plain ++ ['('])
        rw [BracketCount.run', splitAfterClosing_opening unbracketed single run]
        have isOpen : ((last : Int) + 1 == 0) = false := by
          rw [beq_eq_false_iff_ne]
          omega
        rw [isOpen]
        rfl
    · refine ⟨fun _ => ?_, fun other => absurd rfl other⟩
      rw [BracketCount.run', splitAfterClosing, token]
      simp only [Option.isNone_some, Bool.false_eq_true, if_false]
      rw [run_bind, closeLoop, token]
      rfl

/-- The scan of a text counts its brackets, over several texts as over all of them in one, and fails where
one is closed that is not open. A text is split behind the bracket that closes its first one, and fails if
the first one closes. -/
theorem brackets_counted (text : Letters) (single : '\n' ∉ text) :
    (∀ (level : Nat) (opened : Bool),
      (Overdrawn level text → (ExceptT.run (levelAfter round text) ⟨level, opened⟩).1 =
        .error (.text .closingFirst)) ∧
      (¬ Overdrawn level text → (ExceptT.run (levelAfter round text) ⟨level, opened⟩).1 =
        .ok ((level : Int) + text.count '(' - text.count ')'))) ∧
    (∀ front rest, text = front ++ rest →
      levelAfter round text = levelAfter round front >>= fun _ => levelAfter round rest) ∧
    (List.find? isRound text = some ')' →
      (splitAfterClosing round text).run' = .error (.text .closingFirst)) ∧
    (List.find? isRound text ≠ some ')' → ∃ front rest,
      (splitAfterClosing round text).run' = .ok (front, rest) ∧ IsSplit text front rest) := by
  refine ⟨fun level opened => ?_, ?_, splitAfterClosing_shortest single⟩
  · rw [overdrawn_iff]
    have run := run_levelAfter single level opened
    cases reaches : levelAfter? level text with
    | none =>
      rw [reaches] at run
      exact ⟨fun _ => run, fun other => absurd rfl other⟩
    | some last =>
      obtain ⟨ever, run⟩ := run_levelAfter_some single reaches opened
      have counts := levelAfter?_some reaches
      have same : (last : Int) = level + text.count '(' - text.count ')' := by omega
      rw [run]
      exact ⟨nofun, fun _ => congrArg Except.ok same⟩
  · rintro front rest rfl
    rw [mem_append, not_or] at single
    rw [levelAfter_eq (by simpa using single), levelAfter_eq single.1, levelAfter_eq single.2,
      forM_append, bind_assoc, bind_assoc]
    rfl

theorem brackets_counted_call :
    (ExceptT.run (levelAfter round "f(a(i))+g(b".toList) ⟨1, true⟩).1 = .ok 2 ∧
    ∃ front rest, (splitAfterClosing round "f(a(i))+g(b".toList).run' = .ok (front, rest) ∧
      IsSplit "f(a(i))+g(b".toList front rest := by
  obtain ⟨levels, _, _, splits⟩ := brackets_counted "f(a(i))+g(b".toList (by decide)
  refine ⟨(levels 1 true).2 ?_, splits (by decide)⟩
  rw [overdrawn_iff]
  decide

/-- No part of the text returns to the level zero, and the split fails all the same. -/
theorem splitAfterClosing_unopened :
    (∀ front, front <+: [')'] → ¬ Returns front) ∧
      (splitAfterClosing round [')']).run' = .error (.text .closingFirst) := by
  refine ⟨?_, rfl⟩
  rintro front part ⟨ends, counts⟩
  obtain rfl | ⟨rest, rfl, behind⟩ := prefix_cons_iff.mp part
  · cases ends
  · rw [prefix_nil.mp behind] at counts
    cases counts

end Brackets

end ParallelFortran
