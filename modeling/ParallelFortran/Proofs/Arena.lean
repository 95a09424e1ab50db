/-! Values that are kept in an array and known by their places. -/

namespace ParallelFortran.Arena

variable {α : Type} {items : Array α} {place : Nat} {first second update : α → α} {missing : α}

theorem getD_modify (items : Array α) (place other : Nat) (update : α → α) (missing : α) :
    (items.modify place update)[other]?.getD missing =
      if place = other ∧ other < items.size then update (items[other]?.getD missing)
      else items[other]?.getD missing := by
  by_cases known : other < items.size
  · by_cases same : place = other <;> simp [Array.getElem_modify, same, known]
  · simp [known]

theorem modify_modify (items : Array α) (place : Nat) (first second : α → α) :
    (items.modify place first).modify place second =
      items.modify place fun item => second (first item) := by
  refine Array.ext (by simp) fun index _ _ => ?_
  simp only [Array.getElem_modify]
  split <;> rfl

theorem modify_congr
    (same : first (items[place]?.getD missing) = second (items[place]?.getD missing)) :
    items.modify place first = items.modify place second := by
  refine Array.ext (by simp) fun index known _ => ?_
  simp only [Array.getElem_modify]
  split
  · next here =>
    subst here
    rw [Array.size_modify] at known
    simpa [known] using same
  · rfl

theorem modify_eq_self (same : update (items[place]?.getD missing) = items[place]?.getD missing) :
    items.modify place update = items := by
  have kept : items.modify place update = items.modify place id := modify_congr same
  rw [kept]
  exact Array.ext (by simp) fun _ _ _ => by simp [Array.getElem_modify]

end ParallelFortran.Arena
