import ParallelFortran.Proofs.Versions

/-! Kernels: how the regions of a routine are divided between its kernels and what calls them. -/

namespace ParallelFortran

open Xml List

namespace Work

/-! The division of regions -/

/-- Each parallel region with a template is taken into a kernel and called instead, a parallel region
without a template is opened, and all else stays. -/
inductive Divided : List Region → List (Region × NodeId) → List RoutineId → List Region → Prop
  | done : Divided [] [] [] []
  | taken {regions items kernels rest} (template : NodeId) (parts : List Region)
      (kernel : RoutineId) : Divided regions items kernels rest →
      Divided (.parallel (some template) parts :: regions)
        ((.parallel (some template) parts, template) :: items) (kernel :: kernels)
        (.call [] (some kernel) none :: rest)
  | opened {regions items kernels rest} (parts : List Region) :
      Divided regions items kernels rest →
      Divided (.parallel none parts :: regions) items kernels (parts ++ rest)
  | kept {regions items kernels rest} (region : Region) : region.isParallel = false →
      Divided regions items kernels rest →
      Divided (region :: regions) items kernels (region :: rest)

theorem divided_callingRegions (regions : List Region) (kernels : List RoutineId)
    (enough : kernels.length = (kernelRegions regions).length) :
    Divided regions (kernelRegions regions) kernels (callingRegions kernels regions) := by
  induction regions generalizing kernels with
  | nil =>
    have none : kernels = [] := length_eq_zero_iff.mp enough
    rw [none]
    exact .done
  | cons region regions ih =>
    cases region with
    | parallel template parts =>
      cases template with
      | none =>
        exact .opened parts (ih kernels enough)
      | some template =>
        cases kernels with
        | nil => simp [kernelRegions] at enough
        | cons kernel kernels =>
          have fewer : kernels.length = (kernelRegions regions).length := by
            simpa [kernelRegions] using enough
          exact .taken template parts kernel (ih kernels fewer)
    | _ =>
      cases kernels <;> exact .kept _ rfl (ih _ enough)

theorem kernelRegions_isParallel {regions : List Region} {item : Region × NodeId}
    (member : item ∈ kernelRegions regions) : item.1.isParallel = true := by
  obtain ⟨region, _, chosen⟩ := mem_filterMap.mp member
  cases region with
  | parallel template parts =>
    cases template with
    | none => cases chosen
    | some template =>
      cases chosen
      rfl
  | _ => cases chosen

section

variable {regions rest : List Region} {items : List (Region × NodeId)} {kernels : List RoutineId}

theorem Divided.mem_rest (divided : Divided regions items kernels rest) {region : Region}
    (member : region ∈ rest) : (∃ kernel ∈ kernels, region = .call [] (some kernel) none) ∨
      (∃ parts, Region.parallel none parts ∈ regions ∧ region ∈ parts) ∨
        region ∈ regions ∧ region.isParallel = false := by
  induction divided with
  | done => cases member
  | taken template parts kernel _ ih =>
    rcases mem_cons.mp member with rfl | later
    · exact .inl ⟨kernel, mem_cons_self, rfl⟩
    · exact (ih later).imp (.imp fun _ => And.imp_left (.tail _))
        (.imp (.imp fun _ => And.imp_left (.tail _)) (And.imp_left (.tail _)))
  | opened parts _ ih =>
    rcases mem_append.mp member with part | later
    · exact .inr (.inl ⟨parts, mem_cons_self, part⟩)
    · exact (ih later).imp_right
        (.imp (.imp fun _ => And.imp_left (.tail _)) (And.imp_left (.tail _)))
  | kept other alone _ ih =>
    rcases mem_cons.mp member with rfl | later
    · exact .inr (.inr ⟨mem_cons_self, alone⟩)
    · exact (ih later).imp_right
        (.imp (.imp fun _ => And.imp_left (.tail _)) (And.imp_left (.tail _)))

variable (divided : Divided regions items kernels rest)
  (flat : ∀ template parts, Region.parallel template parts ∈ regions →
    ∀ part ∈ parts, part.isParallel = false)

include divided flat

theorem Divided.not_parallel : ∀ region ∈ rest, region.isParallel = false := by
  intro region member
  rcases divided.mem_rest member with ⟨_, _, rfl⟩ | ⟨parts, inside, part⟩ | ⟨_, alone⟩
  · rfl
  · exact flat none parts inside region part
  · exact alone

theorem Divided.callees {callee : RoutineId} (called : callee ∈ rest.flatMap Region.callees) :
    callee ∈ regions.flatMap Region.callees ∨ callee ∈ kernels := by
  obtain ⟨region, member, calledThere⟩ := mem_flatMap.mp called
  rcases divided.mem_rest member with ⟨kernel, isKernel, rfl⟩ | ⟨parts, inside, part⟩ | ⟨inside, _⟩
  · have same : callee = kernel := by
      simpa [Region.callees, Region.parts, Region.callee?] using calledThere
    exact .inr (same ▸ isKernel)
  · rw [Region.callees_eq (flat none parts inside region part)] at calledThere
    exact .inl (mem_flatMap.mpr ⟨_, inside,
      mem_filterMap.mpr ⟨region, part, Option.mem_toList.mp calledThere⟩⟩)
  · exact .inl (mem_flatMap.mpr ⟨region, inside, calledThere⟩)

end

theorem kernel_injective (routine : String) {first second : Nat}
    (same : Naming.kernel routine first = Naming.kernel routine second) : first = second := by
  simp only [Naming.kernel, String.append_left_inj, String.append_right_inj] at same
  have digits : Nat.toDigits 10 first = Nat.toDigits 10 second := by
    rw [← Nat.toList_repr, ← Nat.toList_repr]
    exact congrArg String.toList same
  rw [← @Nat.ofDigitChars_toDigits 10 first (by omega) (by omega), digits,
    Nat.ofDigitChars_toDigits (by omega) (by omega)]

/-! Routines with kernels -/

def HoldsRegion (specification : Region) (item : Region × NodeId) (kernel : Routine) : Prop :=
  ∃ body, kernel.body = some body ∧ body.regionTemplates = some [item.2] ∧
    body.regions.map Region.unprepared = [specification, item.1].map Region.unprepared

section

variable {body : RoutineBody} {caller : Routine} {items : List (Region × NodeId)}
  {kernels : List Routine} {first : Nat} (areKernels : Forall₂ (fun item kernel =>
    IsKernel caller body item.2 item.1.1 item.1.2 kernel) (items.zipIdx first) kernels)

include areKernels

theorem kernel_names : kernels.map Routine.name =
    (range' first items.length).map fun number : Nat => Naming.kernel caller.name number := by
  induction items generalizing first kernels with
  | nil =>
    cases areKernels
    rfl
  | cons item items ih =>
    cases areKernels with
    | cons isKernel others =>
      rw [map_cons, isKernel.name, ih others, length_cons, range'_succ, map_cons]

theorem kernel_names_nodup : (kernels.map Routine.name).Nodup := by
  rw [kernel_names areKernels]
  exact Nodup.map (fun _ _ => kernel_injective caller.name) nodup_range'

theorem areKernels_items : Forall₂ (fun item kernel =>
    ∃ number, IsKernel caller body number item.1 item.2 kernel) items kernels := by
  rw [← zipIdx_map_fst first items, forall₂_map_left_iff]
  exact areKernels.imp fun item kernel isKernel => ⟨item.2, isKernel⟩

theorem isKernel_of_mem {kernel : Routine} (member : kernel ∈ kernels) :
    ∃ number, ∃ item ∈ items, IsKernel caller body number item.1 item.2 kernel := by
  obtain ⟨item, inside, number, isKernel⟩ :=
    Ensures.related_mem (areKernels_items areKernels).flip member
  exact ⟨number, item, inside, isKernel⟩

theorem holdsRegion_of_kernels {specification : Region} {rest : List Region}
    (regions : body.regions = specification :: rest)
    (parallel : ∀ item ∈ items, item.1.isParallel = true) :
    Forall₂ (HoldsRegion (withoutImportLines specification)) items kernels := by
  refine ((forall₂_and_left _ _).mpr ⟨parallel, areKernels_items areKernels⟩).imp ?_
  rintro item kernel ⟨isParallel, number, isKernel⟩
  obtain ⟨kernelBody, kernelFound, _, _, templates, same⟩ := isKernel.body
  refine ⟨kernelBody, kernelFound, templates, ?_⟩
  rw [same, regions]
  have untouched : withoutImportLines item.1 = item.1 := by
    cases shape : item.1 <;> first | rfl | simp [shape, Region.isParallel, Region.kind] at isParallel
  rw [untouched]
  rfl

end

def sweepBody : RoutineBody where
  backend := ⟨0⟩
  node := ⟨0⟩
  callees := [⟨1⟩]
  regions := [
    .specification [⟨"use tools, only: weigh", []⟩, ⟨"implicit none", []⟩] [] none none,
    .plain [⟨"total = 0", []⟩],
    .parallel (some ⟨1⟩) [.plain [⟨"a(i) = 1", []⟩], .call [⟨"(a(i))", []⟩] (some ⟨1⟩) none],
    .parallel none [.plain [⟨"a(i) = 2", []⟩], .plain [⟨"a(i) = 3", []⟩]],
    .parallel (some ⟨1⟩) [.plain [⟨"a(i) = 4", []⟩]]]
  imports := some (.ofList [(("tools", some "weigh"), some "weigh")])

def sweep : Session where
  registry := { store := { nodes := #[
    ⟨.element "routine" [("parallelRegionPosition", "within")], ⟨0⟩, none, #[]⟩,
    ⟨.element "parallelRegionTemplate" [], ⟨0⟩, none, #[]⟩] } }
  routines := #[
    { name := "sweep", moduleName := some "m", isUsedOnHostOnly := true, body := some sweepBody },
    { name := "weigh", moduleName := some "tools" }]
  backends := #[.new .cuda []]

end Work

end ParallelFortran
