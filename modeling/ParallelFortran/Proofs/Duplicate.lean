import Mathlib.Data.List.Basic
import ParallelFortran.Proofs.Action
import ParallelFortran.Xml.Duplicate

/-! The search for a duplicate among trees: it goes through the candidates that are alike, and compares
texts and children. -/

namespace ParallelFortran.Xml

open List

variable {ι π : Type} {items : List ι} {shape : ι → Tree} {alike same : ι → Bool}

theorem search_eq {test : Tree → Outcome Bool} {value : Outcome (Option String)}
    {known : Option String} {body : Option String → (Tree × Bool) × Nat → Outcome (Option Nat)}
    (tested : ∀ item ∈ items, test (shape item) = .ok (alike item)) (valued : value = .ok known)
    (compared : ∀ item ∈ items, ∀ place,
      body known ((shape item, true), place) = .ok (if same item then some place else none)) : (do
      let alike ← (items.map shape).mapM test
      let indexed := ((items.map shape).zip alike).zipIdx.filter fun entry => entry.1.2
      if indexed.isEmpty then return none
      let value ← value
      indexed.findSomeM? (body value) : Outcome (Option Nat)) =
      .ok (items.findIdx? fun item => alike item && same item) := by
  have tests : (items.map shape).mapM test = .ok (items.map alike) := by
    simpa [mapM_eq_ok_iff, forall₂_same] using tested
  have found : ∀ first, (((items.map fun item => (shape item, alike item)).zipIdx first).filter
      fun entry => entry.1.2).findSomeM? (body known) =
      .ok ((items.findIdx? fun item => alike item && same item).map (· + first)) := by
    clear tests tested
    induction items with
    | nil => exact fun _ => rfl
    | cons item rest ih =>
      intro first
      have later := ih (fun other member => compared other (.tail _ member)) (first + 1)
      have shifted : ((rest.findIdx? fun item => alike item && same item).map (· + 1)).map
          (· + first) = (rest.findIdx? fun item => alike item && same item).map
            (· + (first + 1)) := by
        rw [Option.map_map]
        congr 1
        funext place
        simp only [Function.comp]
        omega
      rw [map_cons, zipIdx_cons, findIdx?_cons]
      cases isAlike : alike item with
      | false =>
        rw [filter_cons_of_neg (by simp), later, Bool.false_and, if_neg Bool.false_ne_true,
          shifted]
      | true =>
        rw [filter_cons_of_pos rfl, findSomeM?_cons,
          compared item mem_cons_self first]
        cases isSame : same item with
        | false =>
          simp only [Bool.and_false, Bool.false_eq_true, if_false, shifted]
          exact later
        | true =>
          simp only [Bool.and_true, if_true, Option.map_some, Nat.zero_add]
          rfl
  have indexed : (items.map shape).zip (items.map alike) =
      items.map fun item => (shape item, alike item) := zip_map'
  rw [tests]
  change (if (((items.map shape).zip (items.map alike)).zipIdx.filter fun entry => entry.1.2).isEmpty
    then Pure.pure none else value >>= fun value => _) = _
  rw [indexed, valued]
  have whole := found 0
  simp only [Nat.add_zero, Option.map_id'] at whole
  split
  · next none =>
    rw [List.isEmpty_iff] at none
    rw [none] at whole
    exact whole
  · exact whole

theorem findIdx?_congr {first second : ι → Bool} (same : ∀ item ∈ items, first item = second item) :
    items.findIdx? first = items.findIdx? second := by
  induction items with
  | nil => rfl
  | cons item rest ih =>
    rw [findIdx?_cons, findIdx?_cons, same item mem_cons_self,
      ih fun other member => same other (.tail _ member)]

theorem compareChildren_eq {candidates : List Tree} {parts : List π} {form : π → Tree}
    {present : π → Bool} (elements : ∀ part ∈ parts, (form part).isElement = true)
    (searched : ∀ part ∈ parts, ∃ place, firstDuplicate? true candidates (form part) = .ok place ∧
      place.isSome = present part) (comparison : Comparison) :
    compareChildren candidates comparison (parts.map form) =
      .ok ⟨comparison.value, comparison.elements && parts.all present⟩ := by
  induction parts generalizing comparison with
  | nil => simp [compareChildren]
  | cons part rest ih =>
    obtain ⟨place, found, known⟩ := searched part mem_cons_self
    have noted : comparison.note (form part).isElement place.isSome =
        ⟨comparison.value, comparison.elements && present part⟩ := by
      rw [Comparison.note, elements part mem_cons_self, if_pos rfl, known]
    rw [map_cons, compareChildren, found]
    change compareChildren candidates (comparison.note (form part).isElement place.isSome)
      (rest.map form) = _
    rw [ih (fun other member => elements other (.tail _ member))
      (fun other member => searched other (.tail _ member)), noted, all_cons, Bool.and_assoc]

def textsAgree (new known : Option String) : Bool :=
  (Comparison.begin new known).any Comparison.holds

theorem begin_texts {new known : String} (visible : new ≠ "") (visibleKnown : known ≠ "") :
    Comparison.begin (some new) (some known) =
      some ⟨some (if new == known then found else new), true⟩ := by
  have filled : ∀ {text : String}, text ≠ "" → (some text).filter (! ·.isEmpty) = some text := by
    intro text visible
    simpa using visible
  rw [Comparison.begin, filled visible, filled visibleKnown]

theorem textsAgree_texts {new known : String} (visible : new ≠ "") (visibleKnown : known ≠ "")
    (ordinary : new ≠ found) : textsAgree (some new) (some known) = (known == new) := by
  rw [textsAgree, begin_texts visible visibleKnown, Option.any_some, Comparison.holds]
  by_cases same : known = new
  · simp [same]
  · simp [same, Ne.symm same, ordinary]

theorem firstDuplicate?_elements {parts : List π} {form : π → Tree} {tag : String}
    {attributes : Attributes} {value : Option String} {merged : ι → Option String}
    {present : ι → π → Bool} (elements : ∀ part ∈ parts, (form part).isElement = true)
    (tested : ∀ item ∈ items, sameAttributes true (shape item)
      (.element tag attributes (parts.map form)) = .ok (alike item))
    (valued : mergedValue (.element tag attributes (parts.map form)) = .ok value)
    (known : ∀ item ∈ items, mergedValue (shape item) = .ok (merged item))
    (searched : ∀ item ∈ items, ∀ part ∈ parts, ∃ place,
      firstDuplicate? true (shape item).children (form part) = .ok place ∧
        place.isSome = present item part) :
    firstDuplicate? true (items.map shape) (.element tag attributes (parts.map form)) =
      .ok (items.findIdx? fun item => alike item &&
        ((shape item).children.length == parts.length && textsAgree value (merged item) &&
          parts.all (present item))) := by
  refine search_eq tested valued ?_
  intro item member place
  have size : (parts.map form).length = parts.length := length_map _
  simp only [size]
  by_cases sizes : (shape item).children.length = parts.length
  · have equal : ((shape item).children.length != parts.length) = false := by simp [sizes]
    rw [equal, known item member, textsAgree]
    simp only [bind, Except.bind]
    cases Comparison.begin value (merged item) with
    | none => simp [Pure.pure, Except.pure]
    | some comparison =>
      have each := compareChildren_eq elements (searched item member) comparison
      have holds : Comparison.holds ⟨comparison.value,
          comparison.elements && parts.all (present item)⟩ =
          (comparison.holds && parts.all (present item)) := by
        rw [Comparison.holds, Comparison.holds, Bool.and_right_comm]
      simp only [each, sizes, beq_self_eq_true, Bool.true_and, Option.any_some, ← holds]
      rfl
  · have unequal : ((shape item).children.length != parts.length) = true := by simp [sizes]
    have other : ((shape item).children.length == parts.length) = false := by simp [sizes]
    rw [unequal, other]
    rfl

end ParallelFortran.Xml
