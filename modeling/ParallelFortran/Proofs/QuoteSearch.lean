import Mathlib.Algebra.Ring.Parity
import Mathlib.Order.Bounds.Defs
import ParallelFortran.Proofs.Text

/-! Quoted parts of a text, and the first occurrence of a text outside of them. -/

namespace ParallelFortran.Text

open List

theorem quotedMarks_length (text : Letters) : (quotedMarks text).length = text.length := by
  have length : ∀ inside, (alternating inside text).length = text.length := by
    intro inside
    induction text generalizing inside with
    | nil => rfl
    | cons letter rest ih =>
      rw [alternating]
      split <;> simp [ih]
  rw [quotedMarks]
  split <;> simp [length]

/-- The walk over the parts of a text ends without a fault. It marks both marks of a pair and what stands
between them, unless a mark is left over. -/
theorem markQuotes_parity (text : Letters) : ∃ marks, markQuotes text = .ok marks ∧
    marks.length = text.length ∧
    (Odd (text.countP isQuote) → ∀ mark ∈ marks, mark = false) ∧
    (Even (text.countP isQuote) → ∀ position letter, text[position]? = some letter →
      (marks[position]? = some true ↔
        isQuote letter = true ∨ Odd ((text.take position).countP isQuote))) := by
  refine ⟨_, markQuotes_eq text, quotedMarks_length text, ?_⟩
  rw [Nat.odd_iff, Nat.even_iff, quotedMarks]
  split
  · next odd =>
    rw [beq_iff_eq] at odd
    exact ⟨fun _ => by simp, fun even => by omega⟩
  · next even =>
    rw [beq_iff_eq] at even
    refine ⟨fun odd => absurd odd even, fun _ position letter found => ?_⟩
    simp [alternating_getElem?, found, Nat.odd_iff]

variable (needle text : Letters)

def occurrences (start : Nat) : List Nat :=
  (range' start (text.length - start)).filter fun position => needle.isPrefixOf (text.drop position)

def isApart (position : Nat) : Bool :=
  (text.take position).getLast?.all (! isWord ·) &&
    (text.drop (position + needle.length)).head?.all (! isWord ·)

/-- An occurrence that is looked for: it begins outside of quotes and, if names are looked for, is a
whole name. -/
def isWanted (whole : Bool) (position : Nat) : Bool :=
  (quotedMarks text)[position]? == some false && (!whole || isApart needle text position)

variable {needle text} {position : Nat}

theorem mem_occurrences {start : Nat} : position ∈ occurrences needle text start ↔
    start ≤ position ∧ position < text.length ∧ needle <+: text.drop position := by
  rw [occurrences, mem_filter, mem_range'_1, isPrefixOf_iff_prefix]
  constructor
  · exact fun ⟨⟨first, last⟩, occurs⟩ => ⟨first, by omega, occurs⟩
  · exact fun ⟨first, last, occurs⟩ => ⟨⟨first, by omega⟩, occurs⟩

theorem occurrences_eq (text : Letters) (filled : needle ≠ []) (start : Nat) : occurrences needle text start =
    match Letters.find? needle (text.drop start) with
    | none => []
    | some offset => (start + offset) :: occurrences needle text (start + offset + 1) := by
  generalize count : text.length - start = more
  induction more generalizing start with
  | zero => simp [occurrences, count, drop_eq_nil_of_le (Nat.sub_eq_zero_iff_le.mp count),
      Letters.find?, filled]
  | succ more ih =>
    have bound : start < text.length := by omega
    have rest : occurrences needle text (start + 1) =
        (range' (start + 1) more).filter fun position => needle.isPrefixOf (text.drop position) := by
      rw [occurrences, show text.length - (start + 1) = more by omega]
    rw [occurrences, count, range'_succ, filter_cons, ← rest, drop_eq_getElem_cons bound,
      Letters.find?]
    split
    · rfl
    · rw [ih (start + 1) (by omega)]
      cases Letters.find? needle (text.drop (start + 1)) with
      | none => rfl
      | some offset => simp only [Option.map_some, Nat.add_comm, Nat.add_left_comm]

theorem isBoundary_eq (bound : position < text.length) :
    isBoundary text position = .ok (! isWord text[position]) := by
  rw [isBoundary, letterAt?, if_neg (by omega), Int.toNat_natCast, getElem?_eq_getElem bound]

theorem isWholeName_eq (bound : position < text.length) :
    isWholeName needle text position = .ok (isApart needle text position) := by
  have behind : (if (text.length : Int) ≤ position + needle.length then pure true
      else isBoundary text (position + needle.length)) =
      (.ok ((text.drop (position + needle.length)).head?.all (! isWord ·)) : Outcome Bool) := by
    split
    · rw [drop_eq_nil_of_le (by omega)]
      rfl
    · next inside =>
      have known : position + needle.length < text.length := by omega
      rw [← Int.natCast_add, isBoundary_eq known, head?_drop, getElem?_eq_getElem known]
      rfl
  unfold isWholeName isApart
  cases position with
  | zero => exact behind
  | succ position =>
    have known : position < text.length := by omega
    have last : (text.take (position + 1)).getLast? = some text[position] := by
      simp [getLast?_take, known]
    rw [if_neg (by omega), show ((position + 1 : Nat) : Int) - 1 = position by omega,
      isBoundary_eq known, last, Option.all_some]
    cases isWord text[position] with
    | true => rfl
    | false => exact behind

/-- What is found among occurrences, of which only the first ones are tried. -/
def firstWanted (wanted : Nat → Bool) (tries : Nat) (found : List Nat) : Outcome (Option Int) :=
  match (found.take tries).find? wanted with
  | some position => .ok (some position)
  | none => if found.length < tries then .ok none else .error (.text .searchTooLong)

theorem firstWanted_cons (wanted : Nat → Bool) (tries : Nat) (found : List Nat) :
    firstWanted wanted (tries + 1) (position :: found) =
      if wanted position then .ok (some position) else firstWanted wanted tries found := by
  rw [firstWanted, take_succ_cons, find?_cons]
  cases wanted position with
  | true => rfl
  | false => simp only [length_cons, Nat.add_lt_add_iff_right, Bool.false_eq_true, if_false, firstWanted]

theorem findFirstOutside_eq (filled : needle ≠ []) (whole : Bool) (tries start : Nat) :
    findFirstOutside needle text (quotedMarks text) whole tries start =
      firstWanted (isWanted needle text whole) tries (occurrences needle text start) := by
  induction tries generalizing start with
  | zero => rfl
  | succ tries ih =>
    rw [findFirstOutside]
    split
    · next beyond =>
      rw [occurrences, Nat.sub_eq_zero_of_le (by omega)]
      rfl
    · have base : clampIndex text.length start = start := by simp [clampIndex]
      have listed := occurrences_eq text filled start
      rw [base]
      cases found : Letters.find? needle (text.drop start) with
      | none =>
        rw [found] at listed
        rw [listed]
        simp only [found]
        rfl
      | some offset =>
        rw [found] at listed
        have bound : start + offset < text.length := by
          have member : start + offset ∈ occurrences needle text start := by simp [listed]
          exact (mem_occurrences.mp member).2.1
        obtain ⟨mark, marked⟩ : ∃ mark, (quotedMarks text)[start + offset]? = some mark := by
          rw [← (quotedMarks_length text)] at bound
          exact ⟨_, getElem?_eq_getElem bound⟩
        rw [listed, firstWanted_cons, ← ih, isWanted, marked]
        simp only [found, getElem?_drop, marked, ← Int.natCast_add, isWholeName_eq bound]
        cases mark <;> cases whole <;> rfl

section Positions

variable {wanted : Nat → Bool} {tries : Nat} {found rest : List Nat}

theorem find?_eq_least (wanted : Nat → Bool) (position : Nat) (sorted : (found ++ rest).Pairwise (· < ·)) :
    found.find? wanted = some position ↔
      position ∈ found ∧ IsLeast { other | other ∈ found ++ rest ∧ wanted other } position := by
  rw [find?_eq_some_iff_append]
  constructor
  · rintro ⟨accepted, before, behind, rfl, refused⟩
    refine ⟨by simp, ⟨by simp, accepted⟩, fun other ⟨member, wanted⟩ => ?_⟩
    rw [append_assoc, cons_append] at sorted member
    have later := (pairwise_cons.mp (pairwise_append.mp sorted).2.1).1 other
    rcases mem_append.mp member with member | _ | ⟨_, member⟩
    · exact absurd wanted (by simpa using refused other member)
    · exact le_refl position
    · exact (later member).le
  · rintro ⟨member, ⟨_, accepted⟩, least⟩
    obtain ⟨before, behind, rfl⟩ := append_of_mem member
    refine ⟨accepted, before, behind, rfl, fun other earlier => ?_⟩
    rw [append_assoc, cons_append] at sorted
    have smaller := (pairwise_append.mp sorted).2.2 other earlier position mem_cons_self
    by_contra wanted
    exact smaller.not_ge (least ⟨by simp [earlier], by simpa using wanted⟩)

theorem firstWanted_some (sorted : found.Pairwise (· < ·)) :
    firstWanted wanted tries found = .ok (some (position : Int)) ↔
      position ∈ found.take tries ∧ IsLeast { other | other ∈ found ∧ wanted other } position := by
  have least := find?_eq_least wanted position ((take_append_drop tries found).symm ▸ sorted)
  rw [take_append_drop] at least
  rw [← least, firstWanted]
  split
  · next first => simp only [first, Except.ok.injEq, Option.some.injEq, Int.ofNat_inj]
  · next none => split <;> simp [none]

theorem firstWanted_none : firstWanted wanted tries found = .ok none ↔
    (∀ position ∈ found, ¬ wanted position) ∧ found.length < tries := by
  rw [firstWanted]
  split
  · next position first =>
    have member := take_subset _ _ (mem_of_find?_eq_some first)
    simpa using fun none => absurd (find?_some first) (by simp [none position member])
  · next none =>
    split
    · next few => simpa [few, take_of_length_le few.le] using none
    · next many => simp [many]

theorem firstWanted_error (fault : Fault) : firstWanted wanted tries found = .error fault ↔
    fault = .text .searchTooLong ∧ tries ≤ found.length ∧
      ∀ position ∈ found.take tries, ¬ wanted position := by
  rw [firstWanted]
  split
  · next position first =>
    have member := mem_of_find?_eq_some first
    simpa using fun _ _ => ⟨position, member, find?_some first⟩
  · next none =>
    have refused := find?_eq_none.mp none
    split
    · next few => simp [few]
    · next many =>
      simp only [Except.error.injEq, Nat.le_of_not_lt many, true_and]
      exact ⟨fun same => ⟨same.symm, refused⟩, fun both => both.1.symm⟩

end Positions

/-- The search finds the first occurrence that is wanted, if it is one of those that are tried. It
finds nothing where no occurrence is wanted and all are tried, and fails where some are not. -/
theorem findFirstOutsideQuotes_iff (filled : needle ≠ []) (whole : Bool) (start : Nat) :
    let result := findFirstOutsideQuotes (.ofList needle) (.ofList text) ((start : Int) - 1) whole
    let found := occurrences needle text start
    (∀ position : Nat, result = .ok (some (position : Int)) ↔ position ∈ found.take searchLimit ∧
      IsLeast { other | other ∈ found ∧ isWanted needle text whole other } position) ∧
    (result = .ok none ↔
      (∀ position ∈ found, ¬ isWanted needle text whole position) ∧ found.length < searchLimit) ∧
    ∀ fault, result = .error fault ↔ fault = .text .searchTooLong ∧ searchLimit ≤ found.length ∧
      ∀ position ∈ found.take searchLimit, ¬ isWanted needle text whole position := by
  intro result found
  have sorted : found.Pairwise (· < ·) := (pairwise_lt_range' ..).filter _
  have same : result = firstWanted (isWanted needle text whole) searchLimit found := by
    rw [← findFirstOutside_eq filled]
    simp [result, findFirstOutsideQuotes_eq]
  rw [same]
  exact ⟨fun _ => firstWanted_some sorted, firstWanted_none, firstWanted_error⟩

theorem findFirstOutsideQuotes_skipped : ['a'] ≠ [] ∧
    findFirstOutsideQuotes "a" "'a' ba a" (-1) true = .ok (some 7) := by
  have least : ∀ other ∈ occurrences ['a'] "'a' ba a".toList 0,
      isWanted ['a'] "'a' ba a".toList true other → 7 ≤ other := by decide
  exact ⟨by decide, ((findFirstOutsideQuotes_iff (by decide) true 0).1 7).mpr
    ⟨by decide, ⟨by decide, by decide⟩, fun other both => least other both.1 both.2⟩⟩

end ParallelFortran.Text
