import Mathlib.Data.Multiset.MapFold
import Mathlib.Data.List.Nodup
import ParallelFortran.Xml.Tree

/-! The comparison of trees: what it sees of a tree, whatever the order of the attributes. -/

namespace ParallelFortran.Xml

open List

variable (ignored : List String)

def masked (entry : String × Option String) : String × Option (Option String) :=
  (entry.1, if entry.1 ∈ ignored then none else some entry.2)

/-- What is seen of a tree of elements and texts: attributes have no order, and some have no value. -/
inductive Essence where
  | element (tag : String) (attributes : Multiset (String × Option (Option String)))
      (children : List Essence)
  | text (data : String)
  | other

mutual

def Tree.essence : Tree → Essence
  | .element tag attributes children =>
    .element tag (attributes.map (masked ignored)) (essences children)
  | .text data => .text data
  | _ => .other

def essences : List Tree → List Essence
  | [] => []
  | tree :: trees => tree.essence :: essences trees

end

mutual

/-- The tree has elements and texts only, and no attribute twice. -/
def Tree.isPlain : Tree → Bool
  | .element _ attributes children => (attributes.map Prod.fst).Nodup && arePlain children
  | .text _ => true
  | _ => false

def arePlain : List Tree → Bool
  | [] => true
  | tree :: trees => tree.isPlain && arePlain trees

end

variable {ignored} {left right : Attributes}

theorem sameAttribute_iff {first second : String × Option String} :
    sameAttribute ignored first second = true ↔ masked ignored first = masked ignored second := by
  simp only [sameAttribute, Bool.and_eq_true, beq_iff_eq, Bool.or_eq_true, contains_iff_mem, masked,
    Prod.mk.injEq, and_congr_right_iff]
  intro same
  rw [← same]
  by_cases hidden : first.1 ∈ ignored <;> simp [hidden]

theorem all_sameAttribute_iff : (left.length == right.length &&
      (left.zip right).all fun (first, second) => sameAttribute ignored first second) = true ↔
    left.map (masked ignored) = right.map (masked ignored) := by
  induction left generalizing right with
  | nil => cases right <;> simp
  | cons first left ih =>
    cases right with
    | nil => simp
    | cons second right =>
      rw [zip_cons_cons, all_cons, map_cons, map_cons, cons.injEq, ← ih, ← sameAttribute_iff]
      simp [and_left_comm]

theorem sorted_masked (distinct : (left.map Prod.fst).Nodup) :
    ((left.mergeSort attributeOrder).map (masked ignored)).Pairwise fun first second =>
      first.1 ≤ second.1 ∧ first.1 ≠ second.1 := by
  have sorted : (left.mergeSort attributeOrder).Pairwise fun first second => first.1 ≤ second.1 := by
    refine (pairwise_mergeSort ?_ ?_ left).imp fun less => of_decide_eq_true less
    · intro first second third
      simpa [attributeOrder] using String.le_trans
    · intro first second
      simpa [attributeOrder] using String.le_total first.1 second.1
  have names := ((mergeSort_perm left attributeOrder).map Prod.fst).nodup_iff.mpr distinct
  rw [pairwise_map]
  exact sorted.and (pairwise_map.mp names)

theorem sameAttributeLists_iff (distinct : (left.map Prod.fst).Nodup)
    (otherDistinct : (right.map Prod.fst).Nodup) : sameAttributeLists ignored left right = true ↔
      left.map (masked ignored) ~ right.map (masked ignored) := by
  have order (attributes : Attributes) : attributes.mergeSort attributeOrder ~ attributes :=
    mergeSort_perm _ _
  have same : sameAttributeLists ignored left right = true ↔
      (left.mergeSort attributeOrder).map (masked ignored) =
        (right.mergeSort attributeOrder).map (masked ignored) := by
    rw [← all_sameAttribute_iff, sameAttributeLists, length_mergeSort, length_mergeSort]
  rw [same]
  constructor
  · intro equal
    exact ((order left).map _).symm.trans (equal ▸ (order right).map _)
  · intro perm
    refine (((order left).map _).trans (perm.trans ((order right).map _).symm)).eq_of_pairwise ?_
      (sorted_masked distinct) (sorted_masked otherDistinct)
    intro first second _ _ less more
    exact absurd (String.le_antisymm less.1 more.1) less.2

mutual

theorem equalTrees_iff (tree other : Tree) (plain : tree.isPlain = true)
    (otherPlain : other.isPlain = true) :
    equalTrees ignored tree other = true ↔ tree.essence ignored = other.essence ignored := by
  cases tree with
  | element tag attributes children =>
    cases other with
    | element otherTag otherAttributes others =>
      simp only [Tree.isPlain, Bool.and_eq_true, decide_eq_true_eq] at plain otherPlain
      simp only [equalTrees, Tree.essence, Bool.and_eq_true, beq_iff_eq, Essence.element.injEq,
        Multiset.coe_eq_coe, sameAttributeLists_iff plain.1 otherPlain.1,
        equalForests_iff children others plain.2 otherPlain.2, and_assoc]
    | text => simp [equalTrees, Tree.essence]
    | verbatim | comment | instruction => cases otherPlain
  | text data =>
    cases other with
    | element | text => simp [equalTrees, Tree.essence]
    | verbatim | comment | instruction => cases otherPlain
  | verbatim | comment | instruction => cases plain

theorem equalForests_iff (trees others : List Tree) (plain : arePlain trees = true)
    (otherPlain : arePlain others = true) :
    equalForests ignored trees others = true ↔ essences ignored trees = essences ignored others := by
  cases trees with
  | nil => cases others <;> simp [equalForests, essences]
  | cons tree trees =>
    cases others with
    | nil => simp [equalForests, essences]
    | cons other others =>
      simp only [arePlain, Bool.and_eq_true] at plain otherPlain
      simp only [equalForests, essences, Bool.and_eq_true, cons.injEq,
        equalTrees_iff tree other plain.1 otherPlain.1,
        equalForests_iff trees others plain.2 otherPlain.2]

end

variable {more : List String}

theorem sameAttributeLists_mono (wider : ignored ⊆ more)
    (same : sameAttributeLists ignored left right = true) :
    sameAttributeLists more left right = true := by
  simp only [sameAttributeLists, sameAttribute, Bool.and_eq_true, Bool.or_eq_true, all_eq_true,
    contains_iff_mem] at same ⊢
  refine ⟨same.1, fun pair member => (same.2 pair member).imp_right ?_⟩
  exact Or.imp_left fun hidden => wider hidden

mutual

theorem equalTrees_mono (wider : ignored ⊆ more) (tree other : Tree)
    (equal : equalTrees ignored tree other = true) : equalTrees more tree other = true := by
  cases tree with
  | element tag attributes children =>
    cases other with
    | element =>
      simp only [equalTrees, Bool.and_eq_true] at equal ⊢
      exact ⟨⟨equal.1.1, sameAttributeLists_mono wider equal.1.2⟩,
        equalForests_mono wider children _ equal.2⟩
    | _ => cases equal
  | _ => cases other <;> exact equal

theorem equalForests_mono (wider : ignored ⊆ more) (trees others : List Tree)
    (equal : equalForests ignored trees others = true) : equalForests more trees others = true := by
  cases trees with
  | nil => cases others <;> exact equal
  | cons tree trees =>
    cases others with
    | nil => cases equal
    | cons other others =>
      simp only [equalForests, Bool.and_eq_true] at equal ⊢
      exact ⟨equalTrees_mono wider tree other equal.1, equalForests_mono wider trees others equal.2⟩

end

/-- Trees are equal if the same is seen of them; so equality is an equivalence relation, and the more
attributes are ignored the more trees are equal. -/
theorem equalTrees_equivalence (ignored : List String) :
    (∀ tree other : Tree, tree.isPlain = true → other.isPlain = true →
      (equalTrees ignored tree other = true ↔ tree.essence ignored = other.essence ignored)) ∧
    Equivalence (fun tree other : { tree : Tree // tree.isPlain = true } =>
      equalTrees ignored tree other = true) ∧
    ∀ more, ignored ⊆ more → ∀ tree other : Tree, equalTrees ignored tree other = true →
      equalTrees more tree other = true := by
  refine ⟨equalTrees_iff, ?_, fun more wider => equalTrees_mono wider⟩
  have same (tree other : { tree : Tree // tree.isPlain = true }) :
      equalTrees ignored tree other = true ↔ tree.1.essence ignored = other.1.essence ignored :=
    equalTrees_iff tree.1 other.1 tree.2 other.2
  simp only [same]
  exact ⟨fun _ => rfl, Eq.symm, Eq.trans⟩

end ParallelFortran.Xml
