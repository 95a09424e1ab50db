import Mathlib.Data.List.Nodup
import ParallelFortran.Proofs.KernelGrid

/-! What an early exit from a parallel region ends. A processor runs the iterations of the region in
loops one after the other, and a device runs them in threads of their own. The iterations are given by
the values of the iterators, the outermost one first. -/

namespace ParallelFortran.Backend

open List
open CallGraph (LoopDomain)

inductive Jump where
  | leave (label : String)
  | back
  deriving DecidableEq

def Jump.render : Jump → String
  | leave label => "exit " ++ label
  | back => "return"

def jump (backend : Backend) (number : Nat) : Jump :=
  if backend.kind.isCuda then .back else .leave (label number)

/-- The body of a region, and the loops around it. A stub is run once only. -/
inductive Code where
  | body
  | loop (label : Option String) (domain : LoopDomain) (inner : Code)
  | stub (label : String) (inner : Code)

namespace Code

def opening : Code → List String
  | body => []
  | loop none domain inner => domain.loop :: inner.opening
  | loop (some label) domain inner => (label ++ ": " ++ domain.loop) :: inner.opening
  | stub label inner => (label ++ ": do") :: inner.opening

def closing : Code → List String
  | body => []
  | loop none _ inner => inner.closing ++ ["end do"]
  | loop (some label) _ inner => inner.closing ++ ["end do " ++ label]
  | stub label inner => inner.closing ++ ["exit " ++ label, "end do " ++ label]

def loops : List LoopDomain → Code
  | [] => body
  | domain :: inner => loop none domain (loops inner)

def nest (number : Nat) (domains : List LoopDomain) : Code :=
  match domains.reverse with
  | [] => body
  | outer :: inner => loop (some (label number)) outer (loops inner)

variable (domains : List LoopDomain)

theorem opening_nest (number : Nat) : (nest number domains).opening = loopLines number domains := by
  have inside : ∀ domains, (loops domains).opening = domains.map LoopDomain.loop := by
    intro domains
    induction domains with
    | nil => rfl
    | cons domain domains ih => rw [loops, opening, ih, map_cons]
  unfold nest loopLines
  cases domains.reverse with
  | nil => rfl
  | cons outer inner =>
    rw [opening, inside]

theorem closing_nest (number : Nat) : (nest number domains).closing = loopEnds number domains := by
  have inside : ∀ domains, (loops domains).closing = replicate domains.length "end do" := by
    intro domains
    induction domains with
    | nil => rfl
    | cons domain domains ih => rw [loops, closing, ih, length_cons, replicate_succ']
  cases reversed : domains.reverse with
  | nil => rw [reverse_eq_nil_iff.mp reversed, nest, reverse_nil, closing, loopEnds]
  | cons outer inner =>
    have count := congrArg length reversed
    cases domains with
    | nil => cases reversed
    | cons domain domains =>
      rw [length_reverse, length_cons, length_cons, Nat.add_right_cancel_iff] at count
      simp [nest, reversed, closing, inside, loopEnds, count]

end Code

open Code

variable (source : String → Int)

def values (domain : LoopDomain) : List Int :=
  let first := domain.firstValue.value (.outside source)
  (range (domain.lastValue.value (.outside source) + 1 - first).toNat).map fun offset : Nat =>
    first + offset

def iterations (source : String → Int) : List LoopDomain → List (List Int)
  | [] => [[]]
  | domain :: inner =>
    (values source domain).flatMap fun value => (iterations source inner).map (value :: ·)

theorem nodup_iterations (domains : List LoopDomain) : (iterations source domains).Nodup := by
  induction domains with
  | nil => exact nodup_singleton _
  | cons domain inner ih =>
    rw [iterations, nodup_flatMap]
    refine ⟨fun value _ => ih.map fun _ _ same => (cons.inj same).2, ?_⟩
    have distinct : (values source domain).Nodup := nodup_range.map fun _ _ same => by simpa using same
    refine distinct.imp fun different => ?_
    refine disjoint_left.mpr ?_
    simp only [mem_map]
    rintro _ ⟨left, _, rfl⟩ ⟨right, _, same⟩
    exact different (cons.inj same).1.symm

/-- The iterations that begin, and the statement by which the code is left if it is not run to its
end. -/
abbrev Run := List (List Int) × Option Jump

def rounds (round : Int → Run) : List Int → Run
  | [] => ([], none)
  | value :: rest =>
    match round value with
    | (begun, some jump) => (begun.map (value :: ·), some jump)
    | (begun, none) => (begun.map (value :: ·) ++ (rounds round rest).1, (rounds round rest).2)

def arrive (label : String) : Option Jump → Option Jump
  | some jump => if jump = .leave label then none else some jump
  | none => none

/-- Runs code whose body comes to an early exit in some iterations. -/
def Code.run (source : String → Int) (jump : Jump) (exits : List Int → Bool) : Code → Run
  | body => ([[]], if exits [] then some jump else none)
  | loop label domain inner =>
    let all := rounds (fun value => inner.run source jump fun rest => exits (value :: rest))
      (values source domain)
    (all.1, label.elim all.2 (arrive · all.2))
  | stub label inner => let once := inner.run source jump exits; (once.1, arrive label once.2)

/-- Runs the threads of a kernel. The caller goes on behind the kernel however its threads end. -/
def launch (source : String → Int) (jump : Jump) (exits : List Int → Bool)
    (iterations : List (List Int)) : Run :=
  (iterations.flatMap fun iteration =>
    (body.run source jump fun rest => exits (iteration ++ rest)).1.map (iteration ++ ·), none)

theorem launch_eq (source : String → Int) (jump : Jump) (exits : List Int → Bool)
    (iterations : List (List Int)) : launch source jump exits iterations = (iterations, none) := by
  simp [launch, run]

def upTo {α : Type} (holds : α → Bool) : List α → List α
  | [] => []
  | member :: rest => if holds member then [member] else member :: upTo holds rest

section

variable {α β : Type} (holds : α → Bool)

theorem upTo_append (front rest : List α) : upTo holds (front ++ rest) =
      if front.any holds then upTo holds front else front ++ upTo holds rest := by
  induction front with
  | nil => rfl
  | cons member front ih =>
    by_cases here : holds member = true
    · simp [upTo, here]
    · simp only [cons_append, upTo, here, ih, any_cons, Bool.false_or, if_false,
        Bool.false_eq_true]
      split <;> rfl

theorem upTo_map (change : β → α) (members : List β) :
    upTo holds (members.map change) = (upTo (fun member => holds (change member)) members).map change := by
  induction members with
  | nil => rfl
  | cons member members ih =>
    by_cases here : holds (change member) = true
    · simp [upTo, here]
    · simp [upTo, here, ih]

theorem upTo_eq_self {members : List α} (none : members.any holds = false) :
    upTo holds members = members := by
  induction members with
  | nil => rfl
  | cons member members ih =>
    rw [any_cons, Bool.or_eq_false_iff] at none
    rw [upTo, none.1, ih none.2]
    rfl

theorem upTo_subset (members : List α) : upTo holds members ⊆ members := by
  induction members with
  | nil => exact nil_subset _
  | cons member members ih =>
    rw [upTo]
    split
    · exact cons_subset_cons _ (nil_subset _)
    · exact cons_subset_cons _ ih

theorem subset_upTo_iff {members : List α} (distinct : members.Nodup) :
    members ⊆ upTo holds members ↔ ∀ member ∈ members.dropLast, holds member = false := by
  induction members with
  | nil => simp
  | cons member members ih =>
    obtain ⟨apart, others⟩ := nodup_cons.mp distinct
    have behind : members ⊆ member :: upTo holds members ↔ members ⊆ upTo holds members := by
      refine ⟨fun covered other inside => ?_, fun covered other inside => .tail _ (covered inside)⟩
      refine (mem_cons.mp (covered inside)).resolve_left ?_
      rintro rfl
      exact apart inside
    cases members with
    | nil => by_cases here : holds member = true <;> simp [upTo]
    | cons next members =>
      rw [dropLast_cons_cons, forall_mem_cons, ← ih others, ← behind, upTo]
      by_cases here : holds member = true
      · have missed : next ≠ member := by
          rintro rfl
          exact apart (.head _)
        simp [here, missed]
      · simp [here]

end

variable (source : String → Int) (exits : List Int → Bool)

theorem run_loops (jump : Jump) (domains : List LoopDomain) :
    (loops domains).run source jump exits = (upTo exits (iterations source domains),
      if (iterations source domains).any exits then some jump else none) := by
  induction domains generalizing exits with
  | nil => by_cases exit : exits [] = true <;> simp [loops, run, iterations, upTo]
  | cons domain inner ih =>
    have each : ∀ values, rounds (fun value =>
        (loops inner).run source jump fun rest => exits (value :: rest)) values =
        (upTo exits (values.flatMap fun value => (iterations source inner).map (value :: ·)),
          if (values.flatMap fun value => (iterations source inner).map (value :: ·)).any exits then
            some jump else none) := by
      intro values
      induction values with
      | nil => rfl
      | cons value values later =>
        rw [rounds, ih, later, flatMap_cons, upTo_append, any_append, upTo_map, any_map,
          Function.comp_def]
        by_cases exit : ((iterations source inner).any fun rest => exits (value :: rest)) = true
        · simp [exit]
        · rw [Bool.not_eq_true] at exit
          simp only [exit, Bool.false_eq_true, if_false, Bool.false_or, upTo_eq_self _ exit]
    exact each (values source domain)

/-- The loops of a region run up to the first early exit, and the code behind them is reached. -/
theorem run_nest {domains : List LoopDomain} (some : domains ≠ []) (number : Nat) :
    (nest number domains).run source (.leave (label number)) exits =
      (upTo exits (iterations source domains.reverse), none) := by
  unfold nest
  split
  · next empty => exact absurd (reverse_eq_nil_iff.mp empty) some
  · next outer inner reversed =>
    have whole := run_loops source exits (.leave (label number)) (outer :: inner)
    have labelled : (loop (.some (label number)) outer (loops inner)).run source
        (.leave (label number)) exits =
        (((loops (outer :: inner)).run source (.leave (label number)) exits).1,
          arrive (label number)
            ((loops (outer :: inner)).run source (.leave (label number)) exits).2) := rfl
    rw [labelled, whole, reversed]
    split <;> simp [arrive]

variable {backend : Backend}

theorem earlyExit_eq {number : Nat} (numbered : backend.kernelNumber = some number) :
    backend.earlyExit = .ok (backend.jump number).render := by
  by_cases cuda : backend.kind.isCuda = true
  · simp only [earlyExit, jump, cuda]
    rfl
  · simp only [earlyExit, jump, cuda, numbered]
    rfl

/-- The loops around a region, the stub that stands for them where the region is not generated, and
the statements that leave them are written as the code says. -/
structure Writes (backend : Backend) (number : Nat) (domains : List LoopDomain) : Prop where
  earlyExit : backend.earlyExit = .ok (backend.jump number).render
  begin : loopsBegin backend.kernelNumber domains =
    .ok (Text.join "\n " (nest number domains).opening)
  ending : loopsEnd backend.kernelNumber domains =
    .ok (Text.join "" ((nest number domains).closing.map (· ++ "\n")))
  stubBegin : backend.stubBegin =
    .ok (Text.join "" ((stub (label number) .body).opening.map (· ++ "\n")))
  stubEnd : backend.stubEnd =
    .ok (Text.join "" ((stub (label number) .body).closing.map (· ++ "\n")))

theorem writes {number : Nat} (numbered : backend.kernelNumber = some number)
    (domains : List LoopDomain) : Writes backend number domains where
  earlyExit := earlyExit_eq numbered
  begin := by
    rw [numbered, opening_nest]
    cases domains <;> rfl
  ending := by
    rw [numbered, closing_nest]
    cases domains <;> rfl
  stubBegin := by
    rw [Backend.stubBegin, numbered]
    refine congrArg Except.ok (String.toList_inj.mp ?_)
    simp [opening, Text.join]
  stubEnd := by
    rw [Backend.stubEnd, numbered]
    refine congrArg Except.ok (String.toList_inj.mp ?_)
    simp [closing, Text.join]

/-- On a processor an early exit ends all of the loops of a region: the iterations are those of the
kernel on a device only if none but the last one comes to an early exit. Both go on behind the region.
Where a region is run within one iteration, an early exit ends the region on a processor, and the
routine on a device. -/
theorem early_exit_ends_loops {host device : Backend} {number deviceNumber : Nat}
    {domains : List LoopDomain} (hosted : host.kind.isCuda = false)
    (threaded : device.kind.isCuda = true) (numbered : host.kernelNumber = some number)
    (numberedThere : device.kernelNumber = some deviceNumber) (some : domains ≠ [])
    (source : String → Int) (exits : List Int → Bool) :
    Writes host number domains ∧ Writes device deviceNumber domains ∧
    ((Code.nest number domains).run source (host.jump number) exits).2 = none ∧
    (launch source (device.jump deviceNumber) exits (iterations source domains.reverse)).2 = none ∧
    ((∀ iteration, iteration ∈ ((Code.nest number domains).run source (host.jump number) exits).1 ↔
        iteration ∈ (launch source (device.jump deviceNumber) exits
          (iterations source domains.reverse)).1) ↔
      ∀ iteration ∈ (iterations source domains.reverse).dropLast, exits iteration = false) ∧
    ((Code.stub (label number) .body).run source (host.jump number) exits).2 = none ∧
    (((Code.stub (label deviceNumber) .body).run source (device.jump deviceNumber) exits).2 = none ↔
      exits [] = false) := by
  have leaves : host.jump number = .leave (label number) := by rw [jump, hosted]; rfl
  have returns : device.jump deviceNumber = .back := by rw [jump, threaded]; rfl
  rw [leaves, returns, run_nest source exits some, launch_eq]
  refine ⟨writes numbered domains, writes numberedThere domains, rfl, rfl, ?_, ?_, ?_⟩
  · rw [← subset_upTo_iff exits (nodup_iterations source domains.reverse)]
    constructor
    · exact fun same iteration inside => (same iteration).mpr inside
    · exact fun covered iteration => ⟨fun begun => upTo_subset exits _ begun, fun inside => covered inside⟩
  · by_cases exit : exits [] = true <;> simp [run, arrive, exit]
  · by_cases exit : exits [] = true <;> simp [run, arrive, exit]

/-- Three rounds, and an early exit from the first one: the threads begin all of them, the loop does
not. -/
theorem early_exit_ends_loops_firstRound :
    let source : String → Int := fun _ => 3
    let exits : List Int → Bool := (· == [1])
    let domains : List LoopDomain := [⟨"x", "NX", none, none⟩]
    Writes (new .plain []) 0 domains ∧
    ¬ ∀ iteration, iteration ∈ ((Code.nest 0 domains).run source ((new .plain []).jump 0) exits).1 ↔
      iteration ∈ (launch source ((new .cuda []).jump 0) exits (iterations source domains.reverse)).1 := by
  intro source exits domains
  obtain ⟨written, _, _, _, same, _⟩ := @early_exit_ends_loops (new .plain []) (new .cuda []) 0 0
    domains rfl rfl rfl rfl (cons_ne_nil _ _) source exits
  refine ⟨written, fun all => ?_⟩
  have first : [(1 : Int)] ∈ (iterations source domains.reverse).dropLast := by decide
  cases same.mp all [1] first

end ParallelFortran.Backend
