import Mathlib.Data.List.Perm.Subperm
import Mathlib.Logic.Relation
import ParallelFortran.Build.Dependencies
import ParallelFortran.Proofs.Table

/-! The order in which files are built: each stands in it once, behind all that it depends on. There is
none if a file depends on itself, directly or through others. -/

namespace ParallelFortran

open List

theorem OrderedSet.mem_ofList {κ : Type} [DecidableEq κ] {members : List κ} {member : κ} :
    member ∈ (OrderedSet.ofList members).members ↔ member ∈ members := by
  rw [OrderedSet.members, ← not_iff_not, ← Table.get?_eq_none_iff, OrderedSet.ofList, Table.ofKeys,
    Table.ofList]
  have listed : member ∈ (members.map fun key => (key, ())).map Prod.fst ↔ member ∈ members := by simp
  by_cases known : member ∈ members
  · obtain ⟨value, _, found⟩ := Table.exists_get?_update (listed.mpr known) Table.empty
    simp [known, found]
  · rw [Table.get?_update_of_not_mem (mt listed.mp known)]
    simp [known]

namespace Dependencies

open Relation (ReflTransGen TransGen)

variable {dependencies : Dependencies} {visited files : List String} {file needed : String}

section

variable (dependencies : Dependencies)

def DependsOn (file needed : String) : Prop :=
  needed ∈ (dependencies.get? file).getD []

def Circular : Prop :=
  ∃ file, TransGen dependencies.DependsOn file file

def mentioned : List String :=
  dependencies.keys ++ dependencies.values.flatten

end

theorem mem_needs : needed ∈ dependencies.needs file ↔ dependencies.DependsOn file needed := by
  rw [needs, OrderedSet.mem_ofList, mem_reverse, DependsOn]

theorem dependsOn_iff : dependencies.DependsOn file needed ↔
    ∃ list, (file, list) ∈ dependencies.entries ∧ needed ∈ list := by
  simp only [← Table.get?_eq_some_iff, DependsOn]
  cases dependencies.get? file <;> simp

theorem DependsOn.mem_keys (direct : dependencies.DependsOn file needed) :
    file ∈ dependencies.keys := by
  obtain ⟨list, entry, _⟩ := dependsOn_iff.mp direct
  exact mem_map_of_mem entry

theorem DependsOn.mem_mentioned (direct : dependencies.DependsOn file needed) :
    needed ∈ dependencies.mentioned := by
  obtain ⟨list, entry, member⟩ := dependsOn_iff.mp direct
  exact mem_append_right _ (mem_flatten_of_mem (mem_map_of_mem entry) member)

/-- Every file stands behind those that it needs. -/
structure Ordered (dependencies : Dependencies) (files : List String) : Prop where
  distinct : files.Nodup
  behind : ∀ before file rest, files = before ++ file :: rest →
    ∀ needed, dependencies.DependsOn file needed → needed ∈ before

namespace Ordered

theorem nil : Ordered dependencies [] :=
  ⟨nodup_nil, by simp⟩

theorem snoc (ordered : Ordered dependencies visited) (new : file ∉ visited)
    (known : ∀ needed, dependencies.DependsOn file needed → needed ∈ visited) :
    Ordered dependencies (visited ++ [file]) := by
  have distinct : (visited ++ [file]).Nodup := by
    simpa [nodup_append, ordered.distinct] using fun other inside => ne_of_mem_of_not_mem inside new
  refine ⟨distinct, fun before other rest split => ?_⟩
  rcases rest.eq_nil_or_concat with rfl | ⟨front, last, rfl⟩
  · obtain ⟨rfl, single⟩ := append_inj' split rfl
    obtain rfl := singleton_inj.mp single
    exact known
  · rw [concat_eq_append, ← cons_append, ← append_assoc] at split
    exact ordered.behind before other front (append_inj' split rfl).1

theorem reach {before rest : List String} (ordered : Ordered dependencies (before ++ file :: rest))
    (path : TransGen dependencies.DependsOn file needed) : needed ∈ before := by
  induction path with
  | single direct => exact ordered.behind before file rest rfl _ direct
  | tail _ direct ih =>
    obtain ⟨front, back, rfl⟩ := append_of_mem ih
    exact mem_append_left _ (ordered.behind front _ _ (append_assoc ..) _ direct)

theorem acyclic (ordered : Ordered dependencies files) (member : file ∈ files) :
    ¬ TransGen dependencies.DependsOn file file := by
  intro path
  obtain ⟨before, rest, rfl⟩ := append_of_mem member
  exact (nodup_append.mp ordered.distinct).2.2 file (ordered.reach path) file
    mem_cons_self rfl

end Ordered

/-- What comes of a visit to files: an order that goes on from what was visited, or a circle. -/
inductive Visits (dependencies : Dependencies) (visited files : List String) :
    Outcome (List String) → Prop
  | ordered {after : List String} (ordered : Ordered dependencies after) (kept : visited ⊆ after)
      (found : files ⊆ after) (reached : ∀ file ∈ after, file ∈ visited ∨
        ∃ start ∈ files, ReflTransGen dependencies.DependsOn start file) :
      Visits dependencies visited files (.ok after)
  | circular (circle : dependencies.Circular) :
      Visits dependencies visited files (.error (.defect .circularDependency))

theorem Visits.foldlM {visit : List String → String → Outcome (List String)}
    (each : ∀ visited, Ordered dependencies visited → ∀ file ∈ files,
      Visits dependencies visited [file] (visit visited file))
    (ordered : Ordered dependencies visited) :
    Visits dependencies visited files (files.foldlM visit visited) := by
  induction files generalizing visited with
  | nil => exact .ordered ordered (Subset.refl _) (nil_subset _) fun _ => .inl
  | cons file files ih =>
    rw [foldlM_cons]
    have first := each visited ordered file mem_cons_self
    generalize visit visited file = outcome at first
    cases first with
    | circular circle => exact .circular circle
    | @ordered between orderedBetween kept found reached =>
      have rest := ih (fun visited ordered other member => each visited ordered other (.tail _ member))
        orderedBetween
      change Visits dependencies visited (file :: files) (files.foldlM visit between)
      generalize files.foldlM visit between = outcome at rest
      cases rest with
      | circular circle => exact .circular circle
      | ordered orderedAfter keptAfter foundAfter reachedAfter =>
        have here : file ∈ between := found mem_cons_self
        refine .ordered orderedAfter (Subset.trans kept keptAfter)
          (cons_subset.mpr ⟨keptAfter here, foundAfter⟩) fun other member => ?_
        rcases reachedAfter other member with earlier | ⟨start, listed, path⟩
        · refine (reached other earlier).imp_right ?_
          rintro ⟨start, listed, path⟩
          exact ⟨file, mem_cons_self, mem_singleton.mp listed ▸ path⟩
        · exact .inr ⟨start, .tail _ listed, path⟩

/-- The files that wait for another one are distinct and depend on it; there is fuel for all others. -/
structure Waits (dependencies : Dependencies) (fuel : Nat) (path : List String) (file : String) :
    Prop where
  distinct : path.Nodup
  known : file :: path ⊆ dependencies.mentioned
  depend : ∀ waiting ∈ path, TransGen dependencies.DependsOn waiting file
  enough : fuel + path.length = dependencies.depth

theorem visit_visits {fuel : Nat} {path : List String} (waits : Waits dependencies fuel path file)
    (ordered : Ordered dependencies visited) :
    Visits dependencies visited [file] (visit dependencies fuel path visited file) := by
  induction fuel generalizing path visited file with
  | zero =>
    have bound := (waits.distinct.subperm (cons_subset.mp waits.known).2).length_le
    have enough := waits.enough
    simp [mentioned, depth, Table.keys, Table.size] at bound enough
    omega
  | succ fuel ih =>
    rw [visit]
    split
    · next seen =>
      exact .ordered ordered (Subset.refl _) (by simpa using seen) fun _ => .inl
    · next unseen =>
      split
      · next waiting => exact .circular ⟨file, waits.depend file (by simpa using waiting)⟩
      · next new =>
        have inner : Visits dependencies visited (dependencies.needs file)
            ((dependencies.needs file).foldlM (visit dependencies fuel (file :: path)) visited) := by
          refine .foldlM (fun visited ordered needed member => ih ⟨?_, ?_, ?_, ?_⟩ ordered) ordered
          · exact nodup_cons.mpr ⟨by simpa using new, waits.distinct⟩
          · exact cons_subset.mpr ⟨(mem_needs.mp member).mem_mentioned, waits.known⟩
          · exact forall_mem_cons.mpr ⟨.single (mem_needs.mp member), fun waiting inside =>
              (waits.depend waiting inside).tail (mem_needs.mp member)⟩
          · have enough := waits.enough
            rw [length_cons]
            omega
        generalize (dependencies.needs file).foldlM (visit dependencies fuel (file :: path))
          visited = outcome at inner
        cases inner with
        | circular circle => exact .circular circle
        | @ordered after orderedAfter kept found reached =>
          have last : file ∉ after := by
            intro member
            rcases reached file member with old | ⟨start, listed, path⟩
            · exact unseen (by simpa using old)
            · exact orderedAfter.acyclic member (.head' (mem_needs.mp listed) path)
          refine .ordered (orderedAfter.snoc last fun needed direct => found (mem_needs.mpr direct))
            (subset_append_of_subset_left _ kept) (by simp) fun other member => ?_
          rcases mem_append.mp member with earlier | same
          · refine (reached other earlier).imp_right ?_
            rintro ⟨start, listed, path⟩
            exact ⟨file, mem_cons_self, .head (mem_needs.mp listed) path⟩
          · exact .inr ⟨other, same, .refl⟩

theorem order_visits : Visits dependencies [] dependencies.keys.reverse dependencies.order := by
  refine .foldlM (fun visited ordered file listed => visit_visits ⟨nodup_nil, ?_, ?_, rfl⟩ ordered)
    .nil
  · simpa [mentioned] using .inl (mem_reverse.mp listed)
  · simp

theorem order_eq_error_iff :
    dependencies.order = .error (.defect .circularDependency) ↔ dependencies.Circular := by
  have visits := @order_visits dependencies
  generalize dependencies.order = outcome at visits
  cases visits with
  | circular circle => exact iff_of_true rfl circle
  | ordered ordered kept found reached =>
    refine iff_of_false (by simp) ?_
    rintro ⟨file, circle⟩
    obtain ⟨needed, direct, _⟩ := TransGen.head'_iff.mp circle
    exact ordered.acyclic (found (mem_reverse.mpr direct.mem_keys)) circle

theorem exists_order (acyclic : ¬ dependencies.Circular) :
    ∃ files, dependencies.order = .ok files ∧ Ordered dependencies files ∧
      ∀ file, file ∈ files ↔ file ∈ dependencies.mentioned := by
  have visits := @order_visits dependencies
  generalize dependencies.order = outcome at visits
  cases visits with
  | circular circle => exact absurd circle acyclic
  | @ordered files ordered kept found reached =>
    refine ⟨files, rfl, ordered, fun file => ⟨fun member => ?_, fun member => ?_⟩⟩
    · rcases reached file member with old | ⟨start, listed, path⟩
      · cases old
      · rcases path.cases_tail with rfl | ⟨last, _, direct⟩
        · exact mem_append_left _ (mem_reverse.mp listed)
        · exact direct.mem_mentioned
    · rcases mem_append.mp member with key | below
      · exact found (mem_reverse.mpr key)
      · obtain ⟨list, value, inside⟩ := mem_flatten.mp below
        obtain ⟨⟨owner, _⟩, entry, rfl⟩ := mem_map.mp value
        have direct := dependsOn_iff.mpr ⟨_, entry, inside⟩
        obtain ⟨before, rest, rfl⟩ := append_of_mem (found (mem_reverse.mpr direct.mem_keys))
        exact mem_append_left _ (ordered.behind before owner rest rfl _ direct)

theorem files_ordered (acyclic : ¬ dependencies.Circular) :
    ∃ files, dependencies.order = .ok files ∧ files.Nodup ∧
      (∀ file, file ∈ files ↔ file ∈ dependencies.mentioned) ∧
      ∀ before file rest, files = before ++ file :: rest →
        ∀ needed, TransGen dependencies.DependsOn file needed → needed ∈ before := by
  obtain ⟨files, run, ordered, members⟩ := exists_order acyclic
  refine ⟨files, run, ordered.distinct, members, ?_⟩
  rintro before file rest rfl needed path
  exact ordered.reach path

theorem not_circular_of_rank (rank : String → Nat) (falls : ∀ entry ∈ dependencies.entries,
    ∀ needed ∈ entry.2, rank needed < rank entry.1) : ¬ dependencies.Circular := by
  rintro ⟨file, circle⟩
  have step : ∀ file needed, dependencies.DependsOn file needed → rank needed < rank file := by
    intro file needed direct
    obtain ⟨list, entry, member⟩ := dependsOn_iff.mp direct
    exact falls _ entry needed member
  have below : ∀ {needed}, TransGen dependencies.DependsOn file needed → rank needed < rank file := by
    intro needed path
    induction path with
    | single direct => exact step _ _ direct
    | tail _ direct ih => exact Nat.lt_trans (step _ _ direct) ih
  exact Nat.lt_irrefl _ (below circle)

def solverFiles : Dependencies :=
  .ofList [("solver.f90", ["io.f90", "grid.f90"]), ("grid.f90", ["io.f90"])]

theorem files_ordered_solverFiles : ∃ files, solverFiles.order = .ok files ∧
    files.Nodup ∧ (∀ file, file ∈ files ↔ file ∈ solverFiles.mentioned) ∧
      ∀ before file rest, files = before ++ file :: rest →
        ∀ needed, TransGen solverFiles.DependsOn file needed → needed ∈ before :=
  files_ordered (not_circular_of_rank String.length (by decide))

def withoutSelf (dependencies : Dependencies) : Dependencies :=
  dependencies.mapValues fun file list => list.filter (· != file)

theorem withoutSelf_eq_self (none : ∀ file, ¬ dependencies.DependsOn file file) :
    dependencies.withoutSelf = dependencies := by
  have same : dependencies.withoutSelf.entries = dependencies.entries := by
    refine (map_congr_left fun entry member => ?_).trans (map_id _)
    refine Prod.ext rfl (filter_eq_self.mpr fun needed inside => bne_iff_ne.mpr ?_)
    rintro rfl
    exact none entry.1 (dependsOn_iff.mpr ⟨entry.2, member, inside⟩)
  have ext : ∀ left right : Dependencies, left.entries = right.entries → left = right := by
    rintro ⟨_, _⟩ ⟨_, _⟩ ⟨⟩
    rfl
  exact ext _ _ same

/-- A file that depends on itself is an error, also where nothing else goes in a circle. -/
theorem order_of_self_dependent (others : ¬ dependencies.withoutSelf.Circular) :
    (∃ files, dependencies.withoutSelf.order = .ok files) ∧
    ((∃ file, dependencies.DependsOn file file) →
      dependencies.order = .error (.defect .circularDependency)) ∧
    ((∀ file, ¬ dependencies.DependsOn file file) →
      dependencies.order = dependencies.withoutSelf.order) := by
  obtain ⟨files, run, _⟩ := exists_order others
  refine ⟨⟨files, run⟩, ?_, fun none => by rw [withoutSelf_eq_self none]⟩
  rintro ⟨file, direct⟩
  exact order_eq_error_iff.mpr ⟨file, .single direct⟩

def selfishFiles : Dependencies :=
  .ofList [("solver.f90", ["grid.f90"]), ("grid.f90", ["grid.f90"])]

theorem order_of_self_dependent_selfishFiles :
    (∃ files, selfishFiles.withoutSelf.order = .ok files) ∧
      selfishFiles.order = .error (.defect .circularDependency) := by
  have others : ¬ selfishFiles.withoutSelf.Circular :=
    not_circular_of_rank String.length (by decide)
  obtain ⟨ordered, refused, _⟩ := order_of_self_dependent others
  exact ⟨ordered, refused ⟨"grid.f90", mem_cons_self⟩⟩

end Dependencies

end ParallelFortran
