import ParallelFortran.Proofs.RegionMarks

/-! Spreading of a position along calls. What is spread from a routine arrives at exactly the
routines that a path leads to, together with the references of the routine. -/

namespace ParallelFortran.CallGraph

open Xml Xml.Store RegionAnalysis Relation List

/-- The analysis of some routines has come somewhere. Only kernels are within regions, and the other routines
hold nothing but what the analysis has put there, and of that only what is allowed. -/
structure Progress (start now : Store) (net : Net) (allowed : NodeId → String → Prop) : Prop where
  size : start.nodes.size ≤ now.nodes.size
  arranged : Arranged now
  value : ∀ node name, node.index < start.nodes.size →
    ¬ net.routine node ∨ name ≠ "parallelRegionPosition" → now.value node name = start.value node name
  old : ∀ routine, net.routine routine → routine.index < start.nodes.size
  tagged : ∀ routine, net.routine routine → (now.tag? routine).isSome
  apart : ∀ left, net.routine left → ∀ right, net.routine right → left ≠ right → Apart now left right
  plain : ∀ routine, net.routine routine → ¬ net.kernel routine → Plain now routine
  bounded : ∀ routine, net.routine routine → ¬ net.kernel routine →
    ∀ id ∈ activeIds now routine, allowed routine id
  within : ∀ routine, net.routine routine → positionOf now routine = "within" → net.kernel routine

namespace Progress

variable {routine : NodeId} {routines : List NodeId} {start now after : Store} {net : Net}
  {allowed wide : NodeId → String → Prop} (progress : Progress start now net allowed)

include progress

theorem mono (wider : ∀ routine id, allowed routine id → wide routine id) :
    Progress start now net wide :=
  { progress with
    bounded := fun routine known free id held =>
      wider routine id (progress.bounded routine known free id held) }

theorem name (known : net.routine routine) : now.value routine "name" = start.value routine "name" :=
  progress.value routine "name" (progress.old routine known) (.inr (by decide))

theorem touch (known : net.routine routine) (touched : Touched now after routine)
    (plain : ¬ net.kernel routine → Plain after routine ∧
      ∀ id ∈ activeIds after routine, allowed routine id)
    (within : positionOf after routine = "within" → net.kernel routine) :
    Progress start after net allowed := by
  have size := progress.size
  have untouched :=
    fun other otherKnown different =>
      touched.untouched progress.arranged (progress.apart other otherKnown routine known different)
  refine ⟨Nat.le_trans size touched.size, touched.arranged, ?_, progress.old, ?_, ?_, ?_, ?_, ?_⟩
  · intro node name old free
    rw [← progress.value node name old free]
    rcases free with outside | other
    · refine value_congr (touched.label node (by omega) ?_) name
      rintro rfl
      exact outside known
    · exact touched.value node name (by omega) other
  · intro other otherKnown
    rw [touched.tag other (bound_of_tag (progress.tagged other otherKnown))]
    exact progress.tagged other otherKnown
  · intro left leftKnown right rightKnown different
    exact touched.apart progress.arranged (progress.apart left leftKnown right rightKnown different)
  · intro other otherKnown free
    by_cases same : other = routine
    · rw [same]
      exact (plain (same ▸ free)).1
    · exact (untouched other otherKnown same).plain (progress.plain other otherKnown free)
  · intro other otherKnown free
    by_cases same : other = routine
    · rw [same]
      exact (plain (same ▸ free)).2
    · rw [(untouched other otherKnown same).activeIds_eq]
      exact progress.bounded other otherKnown free
  · intro other otherKnown position
    by_cases same : other = routine
    · rw [same] at position ⊢
      exact within position
    · rw [(untouched other otherKnown same).positionOf_eq] at position
      exact progress.within other otherKnown position

section

variable (listed : ∀ routine, routine ∈ routines ↔ net.routine routine)

include listed

theorem of_receiver? {name : String} (receives : receiver? now routines name = some routine) :
    net.routine routine ∧ start.value routine "name" = name := by
  have member := (listed routine).mp (mem_of_find?_eq_some receives)
  have same := find?_some receives
  simp only [progress.name member, Bool.and_eq_true, beq_iff_eq] at same
  exact ⟨member, same.1⟩

theorem receiver?_eq (unique : ∀ left, net.routine left → ∀ right, net.routine right →
      start.value left "name" = start.value right "name" → left = right)
    (known : net.routine routine) (free : ¬ net.kernel routine) :
    receiver? now routines (start.value routine "name") = some routine := by
  have accepted : (now.value routine "name" == start.value routine "name" &&
      positionOf now routine != "within") = true := by
    rw [progress.name known, Bool.and_eq_true, bne_iff_ne]
    exact ⟨beq_self_eq_true _, fun position => free (progress.within routine known position)⟩
  have some : (receiver? now routines (start.value routine "name")).isSome :=
    find?_isSome.mpr ⟨routine, (listed routine).mpr known, accepted⟩
  obtain ⟨found, receives⟩ := Option.isSome_iff_exists.mp some
  obtain ⟨member, same⟩ := progress.of_receiver? listed receives
  rw [receives, unique found member routine known same]

end

end Progress

structure Spreading (start before after : Store) (net : Net) (allowed : NodeId → String → Prop)
    (position : String) (ids : List String) (reached : NodeId → Prop) : Prop where
  progress : Progress start after net allowed
  size : before.nodes.size ≤ after.nodes.size
  value : ∀ node name, node.index < before.nodes.size → name ≠ "parallelRegionPosition" →
    after.value node name = before.value node name
  unreached : ∀ routine, net.routine routine → ¬ reached routine → Untouched before after routine
  position : ∀ routine, reached routine → positionOf after routine = position
  gained : ∀ routine, reached routine → ids ⊆ activeIds after routine
  kept : ∀ routine, net.routine routine → ¬ net.kernel routine →
    activeIds before routine ⊆ activeIds after routine

namespace Spreading

variable {start before between marked after : Store} {net : Net}
  {allowed : NodeId → String → Prop} {edge : NodeId → NodeId → Prop} {position : String}
  {next : NodeId} {ids : List String} {reached : NodeId → Prop}

theorem refl (progress : Progress start before net allowed) :
    Spreading start before before net allowed position ids fun _ => False :=
  ⟨progress, Nat.le_refl _, fun _ _ _ _ => rfl, fun routine _ _ => .refl progress.arranged routine,
    fun _ none => none.elim, fun _ none => none.elim, fun _ _ _ => Subset.refl _⟩

theorem extend (spreading : Spreading start before between net allowed position ids reached)
    (inside : ∀ routine, reached routine → net.routine routine ∧ ¬ net.kernel routine)
    (known : net.routine next) (free : ¬ net.kernel next)
    (mark : Marked between marked next position ids)
    (more : Spreading start marked after net allowed position (activeIds marked next)
      (TransGen edge next)) : Spreading start before after net allowed position ids
      fun routine => reached routine ∨ ReflTransGen edge next routine := by
  have size := spreading.size
  have marks := mark.touched.size
  have untouched :=
    fun routine member different => mark.touched.untouched spreading.progress.arranged
      (spreading.progress.apart routine member next known different)
  have markKept : ∀ routine, net.routine routine →
      activeIds between routine ⊆ activeIds marked routine := by
    intro routine member id held
    by_cases same : routine = next
    · rw [same] at held ⊢
      exact (mark.ids id).mpr (.inl held)
    · rw [(untouched routine member same).activeIds_eq]
      exact held
  refine ⟨more.progress, by have := more.size; omega, ?_, ?_, ?_, ?_, ?_⟩
  · intro node name old other
    rw [more.value node name (by omega) other, mark.touched.value node name (by omega) other,
      spreading.value node name old other]
  · intro routine member outside
    rw [not_or, Relation.reflTransGen_iff_eq_or_transGen, not_or] at outside
    have first := spreading.unreached routine member outside.1
    have second := untouched routine member outside.2.1
    have third := more.unreached routine member outside.2.2
    exact (first.trans second size).trans third (by omega)
  · intro routine place
    by_cases again : TransGen edge next routine
    · exact more.position routine again
    · by_cases same : routine = next
      · subst same
        rw [(more.unreached routine known again).positionOf_eq, mark.position]
      · have before : reached routine := by
          rcases place with earlier | path
          · exact earlier
          · rcases Relation.reflTransGen_iff_eq_or_transGen.mp path with equal | steps
            · exact (same equal).elim
            · exact (again steps).elim
        have member := (inside routine before).1
        rw [(more.unreached routine member again).positionOf_eq,
          (untouched routine member same).positionOf_eq, spreading.position routine before]
  · intro routine place id given
    have atNext : id ∈ activeIds marked next := (mark.ids id).mpr (.inr given)
    rcases place with earlier | path
    · obtain ⟨member, plain⟩ := inside routine earlier
      exact more.kept routine member plain
        (markKept routine member (spreading.gained routine earlier given))
    · rcases Relation.reflTransGen_iff_eq_or_transGen.mp path with rfl | steps
      · exact more.kept routine known free atNext
      · exact more.gained routine steps atNext
  · intro routine member plain id held
    exact more.kept routine member plain
      (markKept routine member (spreading.kept routine member plain held))

end Spreading

theorem relationsOf_known {store : Store} (arranged : Arranged store) {routine relation : NodeId}
    (member : relation ∈ relationsOf store routine) : relation.index < store.nodes.size :=
  bound_of_tag (relationsOf_below arranged member).tagged

def ReachedBy (start : Store) (edge : NodeId → NodeId → Prop) (origin : NodeId) (names : List String)
    (routine : NodeId) : Prop :=
  ∃ first, edge origin first ∧ start.value first "name" ∈ names ∧ ReflTransGen edge first routine

theorem ReachedBy.transGen {start : Store} {edge : NodeId → NodeId → Prop} {origin routine : NodeId}
    {names : List String} (reached : ReachedBy start edge origin names routine) :
    TransGen edge origin routine := by
  obtain ⟨first, forward, _, path⟩ := reached
  exact TransGen.head'_iff.mpr ⟨first, forward, path⟩

section

variable {start : Store} {edge : NodeId → NodeId → Prop} {origin first : NodeId}
  {names : List String} {name : String}

theorem reachedBy_nil : ReachedBy start edge origin [] = fun _ => False := by
  funext routine
  simp [ReachedBy]

theorem reachedBy_concat_missing
    (missing : ∀ other, edge origin other → start.value other "name" ≠ name) :
    ReachedBy start edge origin (names ++ [name]) = ReachedBy start edge origin names := by
  funext routine
  refine propext ⟨?_, ?_⟩
  · rintro ⟨other, step, listed, path⟩
    rcases mem_append.mp listed with earlier | last
    · exact ⟨other, step, earlier, path⟩
    · exact (missing other step (mem_singleton.mp last)).elim
  · rintro ⟨other, step, listed, path⟩
    exact ⟨other, step, mem_append_left _ listed, path⟩

theorem reachedBy_concat_found (step : edge origin first) (named : start.value first "name" = name)
    (only : ∀ other, edge origin other → start.value other "name" = name → other = first) :
    ReachedBy start edge origin (names ++ [name]) =
      fun routine => ReachedBy start edge origin names routine ∨ ReflTransGen edge first routine := by
  funext routine
  refine propext ⟨?_, ?_⟩
  · rintro ⟨other, forward, listed, path⟩
    rcases mem_append.mp listed with earlier | last
    · exact .inl ⟨other, forward, earlier, path⟩
    · rw [only other forward (mem_singleton.mp last)] at path
      exact .inr path
  · rintro (⟨other, forward, listed, path⟩ | path)
    · exact ⟨other, forward, mem_append_left _ listed, path⟩
    · exact ⟨first, step, by simp [named], path⟩

theorem reachedBy_all (all : ∀ other, edge origin other → start.value other "name" ∈ names) :
    ReachedBy start edge origin names = TransGen edge origin := by
  funext routine
  refine propext ⟨ReachedBy.transGen, ?_⟩
  intro path
  obtain ⟨other, step, rest⟩ := TransGen.head'_iff.mp path
  exact ⟨other, step, all other step, rest⟩

end

section

variable {start : Store} {routines : List NodeId} {net : Net} {allowed : NodeId → String → Prop}
  {edge : NodeId → NodeId → Prop} {position : String} {next : Store → NodeId → List String}

theorem spread_yields (listed : ∀ routine, routine ∈ routines ↔ net.routine routine)
    (unique : ∀ left, net.routine left → ∀ right, net.routine right →
      start.value left "name" = start.value right "name" → left = right)
    (other : position ≠ "within")
    (inner : ∀ now, Progress start now net allowed → ∀ here, net.routine here → ¬ net.kernel here →
      ∀ routine, net.routine routine →
        (start.value routine "name" ∈ next now here ↔ edge here routine))
    (fuel : Nat) (origin : NodeId) (analysis : RegionAnalysis)
    (progress : Progress start analysis.store net allowed) (shallow : Shallow edge fuel origin)
    (targets : ∀ routine, TransGen edge origin routine → net.routine routine ∧ ¬ net.kernel routine)
    (names : ∀ routine, net.routine routine →
      (start.value routine "name" ∈ next analysis.store origin ↔ edge origin routine))
    -- what is allowed somewhere is allowed further along the edges
    (given : ∀ routine id, edge origin routine → id ∈ relationIds analysis.store origin →
      allowed routine id)
    (closed : ∀ here routine id, TransGen edge origin here → edge here routine → allowed here id →
      allowed routine id) :
    Yields (spread position next routines fuel origin) analysis fun _ after =>
      Spreading start analysis.store after.store net allowed position
        (relationIds analysis.store origin) (TransGen edge origin) := by
  induction fuel generalizing origin analysis with
  | zero => exact shallow.elim
  | succ fuel ih =>
    refine Yields.step (run_get analysis) ?_
    refine (Yields.loop (fun done now =>
      Spreading start analysis.store now.store net allowed position
        (relationIds analysis.store origin) (ReachedBy start edge origin done)) ?_ _ ?_).bind ?_
    · intro done name rest _ now all spreading
      refine Yields.step (run_get now) ?_
      cases receives : receiver? now.store routines name with
      | none =>
        -- An edge to a routine of the name would have made it the receiver.
        have missing : ∀ other, edge origin other → start.value other "name" ≠ name := by
          rintro other step rfl
          obtain ⟨known, free⟩ := targets other (.single step)
          have found := spreading.progress.receiver?_eq listed unique known free
          rw [receives] at found
          cases found
        refine .pure ⟨PUnit.unit, rfl, ?_⟩
        rw [reachedBy_concat_missing missing]
        exact spreading
      | some first =>
        obtain ⟨known, named⟩ := spreading.progress.of_receiver? listed receives
        have step : edge origin first := (names first known).mp (by simp [all, named])
        have free := (targets first (.single step)).2
        have only : ∀ other, edge origin other → start.value other "name" = name →
            other = first := fun other forward sameName =>
          unique other (targets other (.single forward)).1 first known (sameName.trans named.symm)
        have relationsKnown : ∀ relation ∈ relationsOf analysis.store origin,
            relation.index < now.store.nodes.size := fun relation member =>
          Nat.lt_of_lt_of_le (relationsOf_known progress.arranged member) spreading.size
        refine (mark_yields spreading.progress.arranged (spreading.progress.tagged first known)
          (spreading.progress.plain first known free) relationsKnown position).bind ?_
        intro _ marking marked
        have ids : (relationsOf analysis.store origin).map (now.store.value · "id") =
            relationIds analysis.store origin :=
          map_congr_left fun relation member => spreading.value relation "id"
            (relationsOf_known progress.arranged member) (by decide)
        rw [ids] at marked
        have bounded : ∀ id ∈ activeIds marking.store first, allowed first id := by
          intro id held
          rcases (marked.ids id).mp held with old | new
          · exact spreading.progress.bounded first known free id old
          · exact given first id step new
        have further := spreading.progress.touch known marked.touched
          (fun _ => ⟨marked.plain, bounded⟩) fun within =>
            (other (marked.position.symm.trans within)).elim
        have beyond := fun routine path => targets routine (.head step path)
        have onward : ∀ routine id, edge first routine → id ∈ relationIds marking.store first →
            allowed routine id := by
          intro routine id forward held
          rw [marked.plain.relationIds_eq] at held
          exact closed first routine id (.single step) forward (bounded id held)
        refine (ih first marking further (shallow first step) beyond
          (inner marking.store further first known free) onward
          fun here routine id path => closed here routine id (.head step path)).bind ?_
        intro _ after more
        rw [marked.plain.relationIds_eq] at more
        refine .pure ⟨PUnit.unit, rfl, ?_⟩
        rw [reachedBy_concat_found step named only]
        exact spreading.extend (fun routine place => targets routine place.transGen) known free
          marked more
    · simpa only [reachedBy_nil] using .refl progress
    · intro _ after spreading
      have every := fun other step =>
        (names other (targets other (.single step)).1).mpr step
      rw [reachedBy_all every] at spreading
      exact .pure spreading

end

end ParallelFortran.CallGraph
