import ParallelFortran.Proofs.LoopLabels

/-! The copy of a routine that runs on the host in the place of its kernels. -/

namespace ParallelFortran

open Xml List

namespace CallGraph

/-- A region is for all architectures, or for one that a single letter names. -/
def AppliesByLetter (store : Store) (template : NodeId) : Prop :=
  match store.descendants template "appliesTo" with
  | [] => True
  | setting :: _ => ∃ entry ∈ store.descendants setting "entry", ∃ text,
      entryText store entry = .ok text ∧ Text.lower text ∈ ["g", "p", "u"]

theorem anyM_ok {α : Type} {test : α → Outcome Bool} {members : List α} {result : Bool}
    (run : members.anyM test = .ok result) :
    result = true ↔ ∃ member ∈ members, test member = .ok true := by
  induction members with
  | nil =>
    cases run
    simp
  | cons member members ih =>
    obtain ⟨found, given, run⟩ := parts_of_bind_eq_ok run
    cases found with
    | true =>
      cases run
      simp [given]
    | false => simp [given, ih run]

theorem any_letter_iff (text : String) :
    (["G", "P", "U"].any fun letter => Text.lower letter == text) = true ↔ text ∈ ["g", "p", "u"] := by
  have lower : ["G", "P", "U"].map Text.lower = ["g", "p", "u"] := by decide
  rw [← lower, any_eq_true, mem_map]
  simp [beq_iff_eq]

theorem appliesByLetter_iff {store : Store} {template : NodeId} {result : Bool}
    (run : appliesTo store ["G", "P", "U"] template = .ok result) :
    result = true ↔ AppliesByLetter store template := by
  unfold appliesTo at run
  unfold AppliesByLetter
  cases settings : store.descendants template "appliesTo" with
  | nil =>
    rw [settings] at run
    cases run
    simp
  | cons setting rest =>
    rw [settings] at run
    dsimp only at run
    split at run
    · cases run
    · rw [anyM_ok run]
      refine exists_congr fun entry => and_congr_right fun _ => ?_
      cases entryText store entry with
      | error failure => exact ⟨nofun, nofun⟩
      | ok text =>
        have matched := any_letter_iff (Text.lower text)
        refine ⟨fun found => ⟨text, rfl, matched.mp (Except.ok.inj found)⟩, ?_⟩
        rintro ⟨_, given, letter⟩
        cases given
        exact congrArg Except.ok (matched.mpr letter)

end CallGraph

namespace Work

open Backend (Code)
open CallGraph

variable {session : Session} {id : RoutineId} {body : RoutineBody}

theorem HostPosition.within_iff {position : String} {kernels : List NodeId}
    (stands : HostPosition session body position kernels)
    (isWithin : session.position body = "within") : position = "within" ↔
      ∀ first ∈ kernels.head?, AppliesByLetter session.store first := by
  cases kernels with
  | nil => simpa using stands.trans isWithin
  | cons first others =>
    obtain ⟨applies, given, rfl⟩ := stands isWithin
    simp [← appliesByLetter_iff given]

def LoopsOver (store : Store) (template : NodeId) (code : Code) : Prop :=
  ∃ domains, loopDomains store template = .ok domains ∧ code.ranges = domains.reverse

theorem Fits.loopsOver_iff {store : Store} {template : NodeId} {parts : List Region} {code : Code}
    (fits : Fits store body (some template) parts code)
    (filled : loopDomains store template ≠ .ok []) : LoopsOver store template code ↔
      store.value body.node "parallelRegionPosition" = "within" := by
  refine ⟨?_, fun isWithin => fits.ranges isWithin template rfl⟩
  rintro ⟨domains, known, ranges⟩
  by_contra elsewhere
  rw [fits.elsewhere elsewhere] at ranges
  exact filled (known.trans (by rw [reverse_eq_nil_iff.mp ranges.symm]))

section

variable (found : (session.routine id).body = some body)
  (isCuda : (session.backend body.backend).kind.isCuda = true)
  (used : (session.routine id).isUsedOnHostOnly = true)

include found isCuda used

theorem generateRoutines_copies : Ensures (generateRoutines id) session fun ids after =>
    (∀ region ∈ body.regions, needsDevice session region = false) ∧
    ∃ copy copyBody kernels, ids = id :: copy :: kernels ∧
      (after.routine copy).body = some copyBody ∧ copyBody.regions = body.regions ∧
      after.backend copyBody.backend = (session.backend body.backend).forHost ∧
      HostPosition session body (after.position copyBody) (kernelTemplates body.regions) := by
  have known := Session.knows_of_body found
  refine (generateRoutines_attains found isCuda).1.weaken ?_
  rintro _ _ ⟨registry, hosts, backends, kernels, remaining, ⟨hostVersions, placed⟩, _, rfl, rfl⟩
  rw [HostVersions, if_pos used] at hostVersions
  obtain ⟨host, isCopy, rfl, rfl⟩ := hostVersions
  obtain ⟨copyBody, copyFound, _, _, stands⟩ := placed host mem_cons_self
  obtain ⟨given, givenFound, backend, _, regions⟩ := isCopy.body
  obtain rfl := Option.some.inj (copyFound.symm.trans givenFound)
  have routines := map_routine_withVersions known registry [] ([host] ++ kernels)
    [(session.backend body.backend).forHost] remaining
  rw [singleton_append, length_cons, Session.newIds_succ, map_cons] at routines
  refine ⟨isCopy.callees, session.nextId 0, copyBody, session.newIds 1 kernels.length, ?_, ?_, regions,
    ?_, stands⟩
  · rw [singleton_append, length_cons, Session.newIds_succ]
  · exact (congrArg Routine.body (head_eq_of_cons_eq routines)).trans copyFound
  · rw [backend]
    exact Session.backend_grown_new session registry ([host] ++ kernels) _

/-- A routine is copied for the host exactly if none of its own regions calls a routine for a device that
has no copies for the host. The calls inside of its parallel regions do not matter, and the copy has all
the regions. -/
theorem host_copy_iff (named : Text.isBlankText (Naming.hostRoutine (session.routine id).name) = false)
    (knows : ∀ region ∈ body.regions, KnowsCallees region)
    (applies : ∀ template ∈ (kernelTemplates body.regions).head?, ∃ applies,
      appliesTo session.store ["G", "P", "U"] template = .ok applies) :
    ((∃ ids after, ExceptT.run (generateRoutines id) session = (.ok ids, after)) ↔
      ∀ region ∈ body.regions, needsDevice session region = false) ∧
    Ensures (generateRoutines id) session fun ids after =>
      ∃ copy copyBody kernels, ids = id :: copy :: kernels ∧
        (after.routine copy).body = some copyBody ∧ copyBody.regions = body.regions := by
  have copies := generateRoutines_copies found isCuda used
  refine ⟨⟨?_, ?_⟩, copies.weaken ?_⟩
  · rintro ⟨ids, after, run⟩
    exact (copies ids after run).1
  · intro allowed
    obtain ⟨ids, after, run, _⟩ := (generateRoutines_attains found isCuda).yields
      ⟨knows, fun _ => ⟨named, allowed, applies⟩⟩
    exact ⟨ids, after, run⟩
  · rintro ids after ⟨_, copy, copyBody, kernels, chosen, copyFound, regions, _⟩
    exact ⟨copy, copyBody, kernels, chosen, copyFound, regions⟩

end

/-- The routine `sweep` with some regions, and the other one for another device. -/
def mixedSweep (regions : List Region) : Session :=
  { sweep with
    routines := #[{ (sweep.routine ⟨0⟩) with body := some { sweepBody with regions } },
      { (sweep.routine ⟨1⟩) with body := some { sweepBody with backend := ⟨1⟩ } }]
    backends := sweep.backends.push (.new .openACC []) }

/-- The calls inside of the parallel regions do not keep the routine from being copied, others do. -/
theorem host_copy_iff_mixedSweep :
    (∃ ids after, ExceptT.run (generateRoutines ⟨0⟩) (mixedSweep sweepBody.regions) =
      (.ok ids, after)) ∧
    ¬ ∃ ids after, ExceptT.run (generateRoutines ⟨0⟩) (mixedSweep [.call [] (some ⟨1⟩) none]) =
      (.ok ids, after) := by
  constructor
  · refine (host_copy_iff rfl rfl rfl (by decide) (by decide) ?_).1.mpr (by decide)
    rintro template member
    cases member
    exact ⟨true, rfl⟩
  · rw [(host_copy_iff rfl rfl rfl (by decide) (by decide) ?_).1]
    · decide
    · exact fun _ member => by cases member

/-- The regions of the copy of a routine for the host run in loops over their domains if, and only if,
the first of them is for all architectures or for one that a single letter names. -/
theorem host_copy_loops_iff (found : (session.routine id).body = some body)
    (isCuda : (session.backend body.backend).kind.isCuda = true)
    (isWithin : session.position body = "within")
    (used : (session.routine id).isUsedOnHostOnly = true) :
    Ensures (generateRoutines id) session fun ids after =>
      ∃ copy copyBody kernels, ids = id :: copy :: kernels ∧
        (after.routine copy).body = some copyBody ∧ copyBody.regions = body.regions ∧
        after.backend copyBody.backend = (session.backend body.backend).forHost ∧
        ∀ later number template parts isMarked around, Counting later copy copyBody number →
          later.position copyBody = after.position copyBody →
          Flat later.store (.parallel (some template) parts) →
          Ensures (regionCode copy isMarked around (.parallel (some template) parts)) later
            fun text _ => ∃ code, Looped later copy copyBody isMarked (some template) parts code text ∧
              (LoopsOver later.store template code ↔
                ∀ first ∈ (kernelTemplates body.regions).head?,
                  CallGraph.AppliesByLetter session.store first) := by
  refine (generateRoutines_copies found isCuda used).weaken ?_
  rintro _ _ ⟨_, copy, copyBody, kernels, rfl, copyFound, regions, backend, stands⟩
  refine ⟨copy, copyBody, kernels, rfl, copyFound, regions, backend, ?_⟩
  intro later number template parts isMarked around counting same flat
  refine (parallel_isCode counting isMarked around flat).weaken ?_
  rintro text _ ⟨code, looped, _⟩
  refine ⟨code, looped, ?_⟩
  rw [looped.toFits.loopsOver_iff (flat.2 template rfl), ← stands.within_iff isWithin]
  exact Eq.congr_left same

/-- The routine `sweep`, with the device named where its first region says what it is for. -/
def deviceSweep : Session :=
  { sweep with registry := { store := { nodes := #[
    ⟨.element "routine" [("parallelRegionPosition", "within")], ⟨0⟩, none, #[]⟩,
    ⟨.element "parallelRegionTemplate" [], ⟨0⟩, none, #[⟨2⟩]⟩,
    ⟨.element "appliesTo" [], ⟨0⟩, some ⟨1⟩, #[⟨3⟩]⟩,
    ⟨.element "entry" [], ⟨0⟩, some ⟨2⟩, #[⟨4⟩]⟩,
    ⟨.text "GPU", ⟨0⟩, some ⟨3⟩, #[]⟩] } } }

theorem host_copy_loops_iff_deviceSweep :
    (ExceptT.run (generateRoutines ⟨0⟩) deviceSweep).1.toOption.isSome = true ∧
    Ensures (generateRoutines ⟨0⟩) deviceSweep fun ids after =>
      ∃ copy copyBody kernels, ids = ⟨0⟩ :: copy :: kernels ∧
        (after.routine copy).body = some copyBody ∧ copyBody.regions = sweepBody.regions ∧
        ∀ later number template parts isMarked around, Counting later copy copyBody number →
          later.position copyBody = after.position copyBody →
          Flat later.store (.parallel (some template) parts) →
          Ensures (regionCode copy isMarked around (.parallel (some template) parts)) later
            fun text _ => ∃ code, Looped later copy copyBody isMarked (some template) parts code text ∧
              ¬ LoopsOver later.store template code := by
  have first : (kernelTemplates sweepBody.regions).head? = some ⟨1⟩ := by decide +kernel
  have run : appliesTo deviceSweep.store ["G", "P", "U"] ⟨1⟩ = .ok false := rfl
  refine ⟨by decide +kernel, ?_⟩
  refine (@host_copy_loops_iff deviceSweep ⟨0⟩ sweepBody rfl rfl (by decide +kernel) rfl).weaken ?_
  rintro ids after ⟨copy, copyBody, kernels, chosen, found, regions, _, loops⟩
  refine ⟨copy, copyBody, kernels, chosen, found, regions, ?_⟩
  intro later number template parts isMarked around counting same flat
  refine (loops later number template parts isMarked around counting same flat).weaken ?_
  rintro text _ ⟨code, looped, ranged⟩
  refine ⟨code, looped, fun all => ?_⟩
  cases (appliesByLetter_iff run).mpr (ranged.mp all ⟨1⟩ first)

end Work

end ParallelFortran
