import Mathlib.Data.Rat.Floor
import ParallelFortran.Backend.Loops
import ParallelFortran.Proofs.Text

/-! The iterations that a kernel runs on a device, compared with those of the loop that takes its
place on a processor. The grid has one thread for each iteration, and some more to fill up the last
block; a thread behind the end of the domain does nothing. -/

namespace ParallelFortran.Backend

open CallGraph (LoopDomain)

variable {domain : LoopDomain}

structure Surroundings where
  source : String → Int
  iterator : String → Int
  blockIndex : String → Int
  blockSize : String → Int
  threadIndex : String → Int

def Surroundings.outside (source : String → Int) : Surroundings :=
  ⟨source, fun _ => 0, fun _ => 0, fun _ => 0, fun _ => 0⟩

def Expression.value (around : Surroundings) : Expression → Int
  | .source text => around.source text
  | .number value => value
  | .iterator name => around.iterator name
  | .blockIndex dimension => around.blockIndex dimension
  | .blockSize dimension => around.blockSize dimension
  | .threadIndex dimension => around.threadIndex dimension
  | .sum left right => left.value around + right.value around
  | .difference left right => left.value around - right.value around
  | .product left right => left.value around * right.value around
  | .enclosed inner => inner.value around
  | .ceiling dividend divisor => ⌈(dividend.value around : ℚ) / divisor.value around⌉

def Excess.holds (around : Surroundings) (excess : Excess) : Prop :=
  excess.limit.value around < excess.value.value around

section

variable (source : String → Int) (domain : LoopDomain)

def executed (dimension : String) (grid : GridDimension) : Set Int :=
  { value | ∃ around : Surroundings, around.source = source ∧
      around.blockSize dimension = grid.threads.value (.outside source) ∧
      1 ≤ around.blockIndex dimension ∧
      around.blockIndex dimension ≤ grid.blocks.value (.outside source) ∧
      1 ≤ around.threadIndex dimension ∧
      around.threadIndex dimension ≤ grid.threads.value (.outside source) ∧
      around.iterator domain.name = (threadValue domain dimension).value around ∧
      ¬ (behind domain).holds around ∧ value = around.iterator domain.name }

def iterated : Set Int :=
  { value | domain.firstValue.value (.outside source) ≤ value ∧
      value ≤ domain.lastValue.value (.outside source) }

end

variable (around : Surroundings)

theorem threadValue_value (domain : LoopDomain) (dimension : String) :
    (threadValue domain dimension).value around =
      (around.blockIndex dimension - 1) * around.blockSize dimension +
        around.threadIndex dimension + domain.firstValue.value (.outside around.source) - 1 := by
  rw [threadValue, LoopDomain.firstValue]
  cases domain.startsAt <;> rfl

theorem behind_holds (domain : LoopDomain) : (behind domain).holds around ↔
      domain.lastValue.value (.outside around.source) < around.iterator domain.name :=
  Iff.rfl

theorem exists_thread_iff {threads blocks number : Int} (positive : 1 ≤ threads) :
    (∃ block thread, 1 ≤ block ∧ block ≤ blocks ∧ 1 ≤ thread ∧ thread ≤ threads ∧
      number = (block - 1) * threads + thread) ↔ 1 ≤ number ∧ number ≤ blocks * threads := by
  constructor
  · rintro ⟨block, thread, firstBlock, lastBlock, firstThread, lastThread, rfl⟩
    have before : 0 ≤ (block - 1) * threads := Int.mul_nonneg (by omega) (by omega)
    have behind : block * threads ≤ blocks * threads :=
      Int.mul_le_mul_of_nonneg_right lastBlock (by omega)
    have expanded : (block - 1) * threads = block * threads - threads := by ring
    omega
  · rintro ⟨first, last⟩
    have division := Int.mul_ediv_add_emod (number - 1) threads
    have remainder := Int.emod_nonneg (number - 1) (by omega : threads ≠ 0)
    have smaller := Int.emod_lt_of_pos (number - 1) (by omega : 0 < threads)
    refine ⟨(number - 1) / threads + 1, (number - 1) % threads + 1, ?_, ?_, by omega, by omega, ?_⟩
    · have quotient := Int.ediv_nonneg (by omega : 0 ≤ number - 1) (by omega : 0 ≤ threads)
      omega
    · have quotient := Int.ediv_lt_of_lt_mul (by omega)
        (by omega : number - 1 < blocks * threads)
      omega
    · rw [Int.add_sub_cancel, Int.mul_comm]
      omega

variable {dimension : String} {grid : GridDimension}

section

variable {source : String → Int} (positive : 1 ≤ grid.threads.value (.outside source))
include positive

theorem executed_eq : executed source domain dimension grid = { value ∈ iterated source domain |
      value ≤ domain.firstValue.value (.outside source) - 1 +
        grid.blocks.value (.outside source) * grid.threads.value (.outside source) } := by
  ext value
  simp only [executed, iterated, Set.mem_ofPred_eq, behind_holds, threadValue_value, not_lt]
  constructor
  · rintro ⟨around, rfl, size, firstBlock, lastBlock, firstThread, lastThread, assigned, inside, rfl⟩
    have number := (exists_thread_iff positive).mp
      ⟨around.blockIndex dimension, around.threadIndex dimension, firstBlock, lastBlock, firstThread,
        lastThread, rfl⟩
    rw [size] at assigned
    omega
  · rintro ⟨⟨first, last⟩, covered⟩
    have number : 1 ≤ value - domain.firstValue.value (.outside source) + 1 ∧
        value - domain.firstValue.value (.outside source) + 1 ≤
          grid.blocks.value (.outside source) * grid.threads.value (.outside source) := by omega
    obtain ⟨block, thread, firstBlock, lastBlock, firstThread, lastThread, place⟩ :=
      (exists_thread_iff positive).mpr number
    refine ⟨⟨source, fun _ => value, fun _ => block, fun _ => grid.threads.value (.outside source),
      fun _ => thread⟩, rfl, rfl, firstBlock, lastBlock, firstThread, lastThread, ?_, last, rfl⟩
    simp only
    omega

theorem executed_eq_iterated : executed source domain dimension grid = iterated source domain ↔
      domain.lastValue.value (.outside source) < domain.firstValue.value (.outside source) ∨
      domain.lastValue.value (.outside source) - domain.firstValue.value (.outside source) + 1 ≤
        grid.blocks.value (.outside source) * grid.threads.value (.outside source) := by
  rw [executed_eq positive, Set.sep_eq_self_iff_mem_true]
  constructor
  · intro covered
    by_cases empty : domain.lastValue.value (.outside source) < domain.firstValue.value (.outside source)
    · exact .inl empty
    · have last := covered (domain.lastValue.value (.outside source)) ⟨by omega, by omega⟩
      omega
  · rintro enough value ⟨first, last⟩
    omega

end

theorem le_ceiling_mul {count threads : Int} (positive : 1 ≤ threads) :
    count ≤ ⌈(count : ℚ) / threads⌉ * threads := by
  have above : (0 : ℚ) < threads := by exact_mod_cast positive
  have rounded := Int.le_ceil ((count : ℚ) / threads)
  rw [div_le_iff₀ above] at rounded
  exact_mod_cast rounded

theorem split_plain {size : String} (plain : ':' ∉ size.toList) : Text.split ":" size = [size] := by
  have colon : ":".toList = [':'] := rfl
  rw [Text.split, colon, Text.Letters.split_single, List.splitOn_eq_singleton plain,
    List.map_singleton, String.ofList_toList]

/-- The number of iterations that a grid is made for: a bound counts only together with the other. -/
def plannedCount (source : String → Int) (domain : LoopDomain) : Int :=
  if domain.startsAt.isSome && domain.endsAt.isSome then
    domain.lastValue.value (.outside source) - domain.firstValue.value (.outside source) + 1
  else source domain.size

section

variable (source : String → Int)

include source

theorem plannedCount_alike
    (alike : domain.startsAt.isSome = domain.endsAt.isSome) : plannedCount source domain =
      domain.lastValue.value (.outside source) - domain.firstValue.value (.outside source) + 1 := by
  obtain ⟨name, size, startsAt, endsAt⟩ := domain
  cases startsAt <;> cases endsAt
  · simp [plannedCount, LoopDomain.lastValue, LoopDomain.firstValue, Expression.value,
      Surroundings.outside]
  · simp at alike
  · simp at alike
  · rfl

theorem plannedCount_single (single : domain.startsAt.isSome ≠ domain.endsAt.isSome) :
    plannedCount source domain = source domain.size := by
  rw [plannedCount, if_neg]
  intro both
  rw [Bool.and_eq_true] at both
  exact single (both.1.trans both.2.symm)

theorem gridDimension_eq (blockSize : String) (plain : ':' ∉ domain.size.toList) :
    ∃ grid, gridDimension blockSize (some domain) = .ok grid ∧
      grid.threads.value (.outside source) = source blockSize ∧
      grid.blocks.value (.outside source) =
        ⌈(plannedCount source domain : ℚ) / source blockSize⌉ := by
  obtain ⟨name, size, startsAt, endsAt⟩ := domain
  have split := split_plain plain
  cases startsAt <;> cases endsAt <;>
    simp only [gridDimension, iterationCount, split] <;>
    exact ⟨_, rfl, rfl, rfl⟩

end

/-- A kernel runs no other iterations than the loop does. It runs all of them whenever both bounds of
the domain are given, or none. With one bound alone it runs all of them only if the size of the domain
provides for as many threads, or if there is nothing to be done. -/
theorem executed_eq_iterated_iff (source : String → Int) (domain : LoopDomain)
    (dimension blockSize : String) (plain : ':' ∉ domain.size.toList)
    (positive : 1 ≤ source blockSize) :
    ∃ grid, gridDimension blockSize (some domain) = .ok grid ∧
      executed source domain dimension grid ⊆ iterated source domain ∧
      (executed source domain dimension grid = iterated source domain ↔
        domain.startsAt.isSome = domain.endsAt.isSome ∨
        domain.lastValue.value (.outside source) < domain.firstValue.value (.outside source) ∨
        domain.lastValue.value (.outside source) - domain.firstValue.value (.outside source) + 1 ≤
          ⌈(source domain.size : ℚ) / source blockSize⌉ * source blockSize) := by
  obtain ⟨grid, made, threads, blocks⟩ := gridDimension_eq source blockSize plain
  have enough : 1 ≤ grid.threads.value (.outside source) := by
    rw [threads]
    exact positive
  refine ⟨grid, made, ?_, ?_⟩
  · rw [executed_eq enough]
    exact Set.sep_subset _ _
  · rw [executed_eq_iterated enough, threads, blocks]
    by_cases alike : domain.startsAt.isSome = domain.endsAt.isSome
    · rw [plannedCount_alike source alike]
      exact ⟨fun _ => .inl alike, fun _ => .inr (le_ceiling_mul positive)⟩
    · rw [plannedCount_single source alike]
      simp only [alike, false_or]

/-- A domain of the size 4 begins at 0: the loop comes to 4, and a kernel with blocks of four threads
only to 3. -/
theorem executed_ne_iterated_of_early_start :
    let source := fun text => if text = "0" then 0 else (4 : Int)
    let domain : LoopDomain := ⟨"i", "4", some "0", none⟩
    ∃ grid, gridDimension "CUDA_BLOCKSIZE_X" (some domain) = .ok grid ∧
      executed source domain "x" grid ⊆ iterated source domain ∧
      executed source domain "x" grid ≠ iterated source domain := by
  intro source domain
  obtain ⟨grid, made, fewer, complete⟩ := executed_eq_iterated_iff source domain "x"
    "CUDA_BLOCKSIZE_X" (by decide) (by decide)
  refine ⟨grid, made, fewer, ?_⟩
  have first : source "0" = 0 := by decide
  have size : source "4" = 4 := by decide
  have threads : source "CUDA_BLOCKSIZE_X" = 4 := by decide
  rw [Ne, complete]
  change ¬ (true = false ∨ source "4" < source "0" ∨ source "4" - source "0" + 1 ≤
    ⌈(source "4" : ℚ) / source "CUDA_BLOCKSIZE_X"⌉ * source "CUDA_BLOCKSIZE_X")
  rw [first, size, threads]
  norm_num

end ParallelFortran.Backend
