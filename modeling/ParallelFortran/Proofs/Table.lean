import ParallelFortran.Table

/-! What a table gives for a key behind a change. -/

namespace ParallelFortran.Table

open List

variable {κ ν : Type} [DecidableEq κ]

theorem get?_eq_none_iff (table : Table κ ν) (key : κ) :
    table.get? key = none ↔ key ∉ table.keys := by
  simp only [get?, keys, Option.map_eq_none_iff, find?_eq_none, mem_map]
  constructor
  · rintro unknown ⟨entry, member, rfl⟩
    simpa using unknown entry member
  · intro unknown entry member
    simp only [decide_eq_true_eq]
    rintro rfl
    exact unknown ⟨entry, member, rfl⟩

theorem find?_replace (entries : List (κ × ν)) (key other : κ) (value : ν) :
    ((entries.map fun entry => if entry.1 = key then (entry.1, value) else entry).find?
      fun entry => entry.1 = other).map Prod.snd =
      if other = key then ((entries.find? fun entry => entry.1 = key).map fun _ => value)
      else (entries.find? fun entry => entry.1 = other).map Prod.snd := by
  induction entries with
  | nil => simp
  | cons entry entries ih =>
    by_cases isKey : entry.1 = key
    · by_cases isOther : other = key
      · simp [isKey, isOther]
      · simp only [map_cons, isKey, isOther, if_false] at ih ⊢
        rw [find?_cons_of_neg (by simpa using Ne.symm isOther),
          find?_cons_of_neg (by simpa [isKey] using Ne.symm isOther), ih]
    · by_cases isOther : entry.1 = other
      · subst isOther
        simp [isKey]
      · simp only [map_cons, isKey] at ih ⊢
        rw [find?_cons_of_neg (by simpa using isOther),
          find?_cons_of_neg (by simpa using isKey),
          find?_cons_of_neg (by simpa using isOther), ih]

theorem get?_set (table : Table κ ν) (key other : κ) (value : ν) :
    (table.set key value).get? other = if other = key then some value else table.get? other := by
  by_cases present : key ∈ table.keys
  · have known : table.get? key ≠ none := by
      rw [Ne, get?_eq_none_iff]
      exact fun unknown => unknown present
    simp only [set, present, dif_pos, get?] at known ⊢
    rw [find?_replace]
    by_cases same : other = key
    · cases found : table.entries.find? fun entry => decide (entry.1 = key) with
      | none => simp [found] at known
      | some entry => simp [same]
    · simp [same]
  · have unknown := (get?_eq_none_iff table key).mpr present
    simp only [set, present, dif_neg, not_false_eq_true, get?, find?_append] at unknown ⊢
    by_cases same : other = key
    · subst same
      simp only [Option.map_eq_none_iff] at unknown
      simp [unknown]
    · have single : [(key, value)].find? (fun entry => decide (entry.1 = other)) = none := by
        simpa using Ne.symm same
      rw [single, Option.or_none, if_neg same]

theorem get?_eq_some_iff (table : Table κ ν) (key : κ) (value : ν) :
    table.get? key = some value ↔ (key, value) ∈ table.entries := by
  obtain ⟨entries, distinct⟩ := table
  simp only [get?]
  induction entries with
  | nil => simp
  | cons entry entries ih =>
    rw [map_cons, nodup_cons] at distinct
    by_cases first : entry.1 = key
    · have absent : (key, value) ∉ entries := by
        intro member
        exact distinct.1 (first ▸ mem_map_of_mem member)
      simp [first, absent, Prod.ext_iff, eq_comm]
    · have other : (key, value) ≠ entry := by
        rintro rfl
        exact first rfl
      simp [first, other, ih distinct.2]

@[simp] theorem get?_empty (key : κ) : (empty : Table κ ν).get? key = none :=
  rfl

theorem get?_update_of_not_mem {pairs : List (κ × ν)} {key : κ} (absent : key ∉ pairs.map Prod.fst)
    (table : Table κ ν) : (table.update pairs).get? key = table.get? key := by
  induction pairs generalizing table with
  | nil => rfl
  | cons pair pairs ih =>
    rw [map_cons, mem_cons, not_or] at absent
    change ((table.set pair.1 pair.2).update pairs).get? key = _
    rw [ih absent.2, get?_set, if_neg absent.1]

theorem exists_get?_update {pairs : List (κ × ν)} {key : κ} (present : key ∈ pairs.map Prod.fst)
    (table : Table κ ν) :
    ∃ value, (key, value) ∈ pairs ∧ (table.update pairs).get? key = some value := by
  induction pairs generalizing table with
  | nil => cases present
  | cons pair pairs ih =>
    change ∃ value, _ ∧ ((table.set pair.1 pair.2).update pairs).get? key = some value
    by_cases later : key ∈ pairs.map Prod.fst
    · obtain ⟨value, member, found⟩ := ih later (table.set pair.1 pair.2)
      exact ⟨value, mem_cons_of_mem _ member, found⟩
    · have isKey : key = pair.1 := (mem_cons.mp present).resolve_right later
      refine ⟨pair.2, ?_, ?_⟩
      · rw [isKey]
        exact mem_cons_self
      · rw [get?_update_of_not_mem later, get?_set, if_pos isKey]

end ParallelFortran.Table
