import Mathlib.Data.List.Sort
import ParallelFortran.Symbol.Domain

/-! The order of domains in a declaration: the domains are kept, and those of one size keep their
order among each other. -/

namespace ParallelFortran.Domain

open List

variable {sizes : List String} {domains : List Domain} {used indices : List Nat} {size : String}

def ofSize (size : String) (domains : List Domain) : List Domain :=
  domains.filter (·.size == size)

theorem ofSize_cons (size : String) (domain : Domain) (domains : List Domain) :
    ofSize size (domain :: domains) =
      if domain.size = size then domain :: ofSize size domains else ofSize size domains := by
  simp [ofSize, filter_cons]

theorem length_ofSize (size : String) (domains : List Domain) :
    (ofSize size domains).length = (domains.map Domain.size).count size := by
  rw [count_eq_countP, countP_map, countP_eq_length_filter]
  rfl

def free (sizes : List String) (used : List Nat) (size : String) : List Nat :=
  (range sizes.length).filter fun index => sizes[index]? == some size && !used.contains index

theorem nextUnused?_eq : nextUnused? sizes used size = (free sizes used size).head? :=
  head?_filter.symm

theorem mem_free {index : Nat} :
    index ∈ free sizes used size ↔ sizes[index]? = some size ∧ index ∉ used := by
  simp only [free, mem_filter, mem_range, Bool.and_eq_true, beq_iff_eq, Bool.not_eq_true',
    contains_eq_mem, decide_eq_false_iff_not, and_iff_right_iff_imp]
  rintro ⟨found, _⟩
  exact (List.getElem?_eq_some_iff.mp found).1

theorem free_cons {index : Nat} (first : (free sizes used size).head? = some index)
    (other : String) : free sizes (index :: used) other =
      if size = other then (free sizes used size).tail else free sizes used other := by
  have distinct : (free sizes used other).Nodup := nodup_range.filter _
  have erased : free sizes (index :: used) other = (free sizes used other).erase index := by
    rw [distinct.erase_eq_filter, free, free, filter_filter]
    congr 1
    funext place
    by_cases same : place = index <;> simp [same]
  rw [erased]
  split
  · next same =>
    rw [← same, ← cons_head?_tail first]
    simp
  · next different =>
    refine erase_of_not_mem fun member => different ?_
    have known := (mem_free.mp (mem_of_mem_head? first)).1
    rw [(mem_free.mp member).1] at known
    exact (Option.some.inj known).symm

theorem map_getElem?_range (sizes : List String) :
    (range sizes.length).map (sizes[·]?) = sizes.map some :=
  ext_getElem? fun index => by by_cases bound : index < sizes.length <;> simp [bound]

theorem length_free (sizes : List String) (size : String) :
    (free sizes [] size).length = sizes.count size := by
  have counted := congrArg (countP (· == some size)) (map_getElem?_range sizes)
  rw [countP_map, countP_map] at counted
  rw [free, ← countP_eq_length_filter, count_eq_countP]
  simpa [Function.comp_def] using counted

theorem assign?_cons (domain : Domain) {index : Nat}
    (first : (free sizes used domain.size).head? = some index) :
    assign? sizes (domain :: domains) used =
      (assign? sizes domains (index :: used)).map (index :: ·) := by
  rw [assign?, nextUnused?_eq, first, Option.map_eq_bind]
  rfl

theorem assign?_isSome : (assign? sizes domains used).isSome ↔
    ∀ size, (ofSize size domains).length ≤ (free sizes used size).length := by
  induction domains generalizing used with
  | nil => simp [assign?, ofSize]
  | cons domain domains ih =>
    cases first : (free sizes used domain.size).head? with
    | none =>
      have none : assign? sizes (domain :: domains) used = none := by
        simp [assign?, nextUnused?_eq, first]
      simp only [none, Option.isSome_none, Bool.false_eq_true, false_iff]
      intro enough
      simpa [ofSize_cons, head?_eq_none_iff.mp first] using enough domain.size
    | some index =>
      rw [assign?_cons domain first, Option.isSome_map, ih]
      refine forall_congr' fun size => ?_
      rw [free_cons first, ofSize_cons]
      by_cases same : domain.size = size
      · subst same
        rw [← cons_head?_tail first]
        simp
      · simp [same]

def atPlace (placed : List (Nat × Domain)) (index : Nat) : Option Domain :=
  (placed.find? (·.1 == index)).map Prod.snd

theorem map_atPlace (assigned : assign? sizes domains used = some indices) (size : String) :
    ((free sizes used size).take (ofSize size domains).length).map
      (atPlace (indices.zip domains)) = (ofSize size domains).map some := by
  induction domains generalizing used indices with
  | nil => rfl
  | cons domain domains ih =>
    cases first : (free sizes used domain.size).head? with
    | none => simp [assign?, nextUnused?_eq, first] at assigned
    | some index =>
      rw [assign?_cons domain first] at assigned
      obtain ⟨others, rest, rfl⟩ := Option.map_eq_some_iff.mp assigned
      have group := ih rest
      have skips : ∀ place ∈ (free sizes (index :: used) size).take (ofSize size domains).length,
          atPlace (others.zip domains) place =
            atPlace ((index :: others).zip (domain :: domains)) place := by
        intro place member
        have taken := (mem_free.mp (mem_of_mem_take member)).2
        have different : index ≠ place := fun same => taken (same ▸ mem_cons_self)
        simp [atPlace, different]
      rw [map_congr_left skips, free_cons first] at group
      rw [ofSize_cons]
      split at group
      · next same =>
        subst same
        rw [if_pos rfl, ← cons_head?_tail first, length_cons, take_succ_cons, map_cons, group]
        simp [atPlace]
      · next other =>
        rw [if_neg other, group]

theorem filterMap_eq_of_map {α β : Type} {given : α → Option β} {places : List α} {values : List β}
    (all : places.map given = values.map some) : places.filterMap given = values := by
  have listed := congrArg (filterMap id) all
  rwa [filterMap_map, filterMap_map, Function.id_comp, Function.id_comp, filterMap_some] at listed

theorem reorder_of_perm (same : sizes ~ domains.map Domain.size) :
    (reorder domains sizes).map Domain.size = sizes ∧
      ∀ size, ofSize size (reorder domains sizes) = ofSize size domains := by
  have full : ∀ size, (free sizes [] size).length = (ofSize size domains).length := by
    intro size
    rw [length_free, length_ofSize, same.count_eq]
  obtain ⟨indices, assigned⟩ := Option.isSome_iff_exists.mp
    (assign?_isSome.mpr fun size => (full size).ge)
  have result : reorder domains sizes =
      (range sizes.length).filterMap (atPlace (indices.zip domains)) := by
    have lengths := same.length_eq
    rw [length_map] at lengths
    rw [reorder, assigned, lengths, bne_self_eq_false]
    rfl
  have groups : ∀ size, (free sizes [] size).map (atPlace (indices.zip domains)) =
      (ofSize size domains).map some := by
    intro size
    rw [← map_atPlace assigned, ← full, take_length]
  have placed : ∀ index ∈ range sizes.length, ∃ domain,
      atPlace (indices.zip domains) index = some domain ∧ sizes[index]? = some domain.size := by
    intro index bound
    obtain ⟨size, known⟩ : ∃ size, sizes[index]? = some size :=
      ⟨_, getElem?_eq_getElem (mem_range.mp bound)⟩
    have image := mem_map_of_mem (f := atPlace (indices.zip domains))
      (mem_free.mpr ⟨known, not_mem_nil⟩)
    rw [groups, mem_map] at image
    obtain ⟨domain, member, found⟩ := image
    have own : domain.size = size := by simpa using (mem_filter.mp member).2
    exact ⟨domain, found.symm, own ▸ known⟩
  rw [result]
  constructor
  · have sizesAt : ∀ index ∈ range sizes.length,
        (atPlace (indices.zip domains) index).map Domain.size = sizes[index]? := by
      intro index bound
      obtain ⟨domain, found, known⟩ := placed index bound
      rw [found, known]
      rfl
    rw [map_filterMap, filterMap_congr sizesAt]
    exact filterMap_eq_of_map (map_getElem?_range sizes)
  · intro size
    rw [ofSize, filter_filterMap, ← filterMap_eq_of_map (groups size), free, filterMap_filter]
    refine filterMap_congr fun index bound => ?_
    obtain ⟨domain, found, known⟩ := placed index bound
    simp [found, known, Option.filter]

theorem perm_of_groups {left right : List Domain}
    (groups : ∀ size, ofSize size left = ofSize size right) : left ~ right := by
  rw [perm_iff_count]
  intro domain
  have counted : ∀ list, (ofSize domain.size list).count domain = list.count domain :=
    fun list => count_filter (by simp)
  rw [← counted, groups, counted]

/-- Lists of the same domains for each size, which list the sizes in the same order, are the same. -/
theorem eq_of_groups {left right : List Domain}
    (sizes : left.map Domain.size = right.map Domain.size)
    (groups : ∀ size, ofSize size left = ofSize size right) : left = right := by
  induction left generalizing right with
  | nil => exact (map_eq_nil_iff.mp sizes.symm).symm
  | cons first left ih =>
    obtain ⟨second, others, rfl⟩ := exists_cons_of_ne_nil (l := right) (by rintro rfl; simp at sizes)
    rw [map_cons, map_cons, cons.injEq] at sizes
    have group := groups first.size
    rw [ofSize_cons, ofSize_cons, if_pos rfl, if_pos sizes.1.symm, cons.injEq] at group
    rw [group.1, ih sizes.2 fun size => ?_]
    have rest := groups size
    rw [group.1, ofSize_cons, ofSize_cons] at rest
    split at rest
    · exact (cons.inj rest).2
    · exact rest

theorem reorder_of_not_perm (other : ¬ sizes ~ domains.map Domain.size) :
    reorder domains sizes = domains := by
  rw [reorder]
  split
  · rfl
  · next lengths =>
    cases assigned : assign? sizes domains [] with
    | none => rfl
    | some indices =>
      have enough := assign?_isSome.mp (by rw [assigned]; rfl : (assign? sizes domains []).isSome)
      have fits : domains.map Domain.size <+~ sizes := subperm_ext_iff.mpr fun size _ => by
        rw [← length_ofSize, ← length_free]
        exact enough size
      have few : sizes.length ≤ (domains.map Domain.size).length := by simp_all
      exact absurd (fits.perm_of_length_le few).symm other

/-- Domains of the declared sizes are put into the declared order, those of one size as they stood.
Other domains stay as they are. -/
theorem reorder_stable (domains : List Domain) (sizes : List String) :
    reorder domains sizes ~ domains ∧
      (sizes ~ domains.map Domain.size →
        (reorder domains sizes).map Domain.size = sizes ∧
          ∀ size, ofSize size (reorder domains sizes) = ofSize size domains) ∧
      (¬ sizes ~ domains.map Domain.size → reorder domains sizes = domains) ∧
      reorder (reorder domains sizes) sizes = reorder domains sizes := by
  by_cases same : sizes ~ domains.map Domain.size
  · obtain ⟨order, groups⟩ := reorder_of_perm same
    have again := @reorder_of_perm sizes (reorder domains sizes) (by rw [order])
    exact ⟨perm_of_groups groups, fun _ => ⟨order, groups⟩, fun other => absurd same other,
      eq_of_groups (again.1.trans order.symm) again.2⟩
  · have stays := reorder_of_not_perm same
    rw [stays, stays]
    exact ⟨.refl _, fun other => absurd other same, fun _ => rfl, rfl⟩

end ParallelFortran.Domain
