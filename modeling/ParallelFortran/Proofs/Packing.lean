import Mathlib.Data.List.Sort
import ParallelFortran.Proofs.CallArguments

/-! Scalars that are handed to a kernel in one array: the caller fills the slots of the array, and the
kernel takes the scalars out of them. -/

namespace ParallelFortran

open Xml List
open Text (Shows)
open Text.Letters (Tight)

namespace Registry

def InOrder (registry : Registry) (first second : SymbolId) : Prop :=
  ∀ name other, registry.NamedAs first name → registry.NamedAs second other → name ≤ other

variable {registry : Registry} {entries : List (String × SymbolId)}

theorem pairwise_inOrder (ordered : entries.Pairwise fun left right => left.1 ≤ right.1)
    (named : ∀ entry ∈ entries, registry.NamedAs entry.2 entry.1) :
    (entries.map Prod.snd).Pairwise registry.InOrder := by
  rw [pairwise_map]
  refine ordered.imp_of_mem ?_
  intro left right leftIn rightIn before name other isLeft isRight
  have first := (named left leftIn).symm.trans isLeft
  have second := (named right rightIn).symm.trans isRight
  cases first
  cases second
  exact before

theorem pairwise_names {symbols : List SymbolId} {names : List String}
    (ordered : symbols.Pairwise registry.InOrder) (named : Forall₂ registry.NamedAs symbols names)
    : names.Pairwise (· ≤ ·) := by
  induction named with
  | nil => exact .nil
  | cons first others ih =>
    rw [pairwise_cons] at ordered
    refine .cons ?_ (ih ordered.2)
    intro name inside
    obtain ⟨symbol, member, isNamed⟩ := Ensures.related_mem others.flip inside
    exact ordered.1 symbol member _ _ first isNamed

def Labels (registry : Registry) (symbol : SymbolId) (entry : String × SymbolId) : Prop :=
  entry.2 = symbol ∧ registry.NamedAs symbol entry.1

theorem labelled (registry : Registry) (symbol : SymbolId) :
    Ensures (do return (← nameInScope symbol, symbol)) registry fun entry after =>
      after = registry ∧ registry.Labels symbol entry :=
  .reading (nameInScope_named registry symbol) fun _ named => .pure ⟨rfl, rfl, named⟩

def NotBehind (left right : String × SymbolId) : Prop :=
  left.1 ≤ right.1

instance : DecidableRel NotBehind :=
  fun left right => inferInstanceAs (Decidable (left.1 ≤ right.1))

instance : Std.Total NotBehind where
  total left right := String.le_total left.1 right.1

instance : IsTrans (String × SymbolId) NotBehind where
  trans _ _ _ := String.le_trans

theorem insertByName_eq (entry : String × SymbolId) (entries : List (String × SymbolId)) :
    insertByName entry entries = entries.orderedInsert NotBehind entry := by
  induction entries with
  | nil => rfl
  | cons other rest ih =>
    rw [insertByName, orderedInsert_cons, ih, ← ite_not]
    rfl

theorem sortedEntries_inOrder {ids : List SymbolId} (all : Forall₂ registry.Labels ids entries) :
    ((entries.foldr insertByName []).map Prod.snd).Perm ids ∧
      ((entries.foldr insertByName []).map Prod.snd).Pairwise registry.InOrder := by
  have symbols : entries.map Prod.snd = ids := by
    induction all with
    | nil => rfl
    | cons first _ ih => rw [map_cons, ih, first.1]
  have sorts : entries.foldr insertByName [] = entries.insertionSort NotBehind := by
    rw [insertionSort, funext₂ insertByName_eq]
  rw [sorts]
  have perm := perm_insertionSort NotBehind entries
  refine ⟨symbols ▸ perm.map Prod.snd, pairwise_inOrder (pairwise_insertionSort NotBehind entries) ?_⟩
  intro entry inside
  obtain ⟨symbol, _, same, named⟩ := Ensures.related_mem all.flip (perm.mem_iff.mp inside)
  rw [same]
  exact named

theorem sorted_inOrder (registry : Registry) (ids : List SymbolId) :
    Ensures (sorted ids) registry fun result after =>
      after = registry ∧ result.Perm ids ∧ result.Pairwise registry.InOrder := by
  unfold sorted
  split
  · exact .pure ⟨rfl, .refl _, .nil⟩
  · exact .pure ⟨rfl, .refl _, pairwise_singleton _ _⟩
  · next first second rest =>
    refine .reading (labelled registry second) fun secondEntry isSecond => ?_
    refine .reading (labelled registry first) fun firstEntry isFirst => ?_
    refine .reading (.gather registry.Labels (labelled registry)) fun entries areRest => .pure ⟨rfl, ?_⟩
    exact sortedEntries_inOrder (.cons isFirst (.cons isSecond areRest))

end Registry

namespace Work

open Session (Steady)

variable {id callee : RoutineId}

theorem sorted_ensures (state : Session) (ids : List SymbolId) :
    Ensures (onRegistry (Registry.sorted ids)) state fun result after =>
      after = state ∧ result.Perm ids ∧ result.Pairwise state.registry.InOrder :=
  query_ensures (Registry.sorted_inOrder state.registry ids)

/-- The scalars of a list that are used, by the names that they have in their scope at a state, in the
order of these names. -/
structure SlotsAt (state : Session) (used : List String) (ids : List SymbolId)
    (names : List String) : Prop where
  symbols : ∃ symbols, Forall₂ state.registry.NamedAs symbols names ∧
    symbols.Perm (ids.filter fun symbol => used.contains (state.symbol symbol).name)
  ordered : names.Pairwise (· ≤ ·)

variable {state : Session} {used names : List String} {ids : List SymbolId}

theorem SlotsAt.of_sorted {sorted : List SymbolId} (perm : sorted.Perm ids)
    (ordered : sorted.Pairwise state.registry.InOrder) (named : Forall₂ state.registry.NamedAs
      (sorted.filter fun symbol => used.contains (state.symbol symbol).name) names) :
    SlotsAt state used ids names :=
  ⟨⟨_, named, perm.filter _⟩, Registry.pairwise_names (ordered.filter _) named⟩

section

variable (slots : SlotsAt state used ids names)

include slots

theorem SlotsAt.eq_iff_perm {other : Session} {otherUsed : List String} {otherIds : List SymbolId}
    {otherNames : List String} (others : SlotsAt other otherUsed otherIds otherNames) :
    names = otherNames ↔ names.Perm otherNames := by
  constructor
  · rintro rfl
    exact .refl _
  · intro perm
    exact perm.eq_of_pairwise (fun _ _ _ _ => String.le_antisymm) slots.ordered others.ordered

theorem SlotsAt.length_le : names.length ≤ ids.length := by
  obtain ⟨symbols, named, perm⟩ := slots.symbols
  rw [← named.length_eq, perm.length_eq]
  exact length_filter_le _ _

theorem SlotsAt.length_eq {prepared : Session} (follows : Steady prepared state)
    (known : ∀ symbol ∈ ids, symbol.index < prepared.registry.symbols.size ∧
      used.contains (prepared.symbol symbol).name = true) : names.length = ids.length := by
  obtain ⟨symbols, named, perm⟩ := slots.symbols
  rw [← named.length_eq, perm.length_eq, filter_eq_self.mpr]
  intro symbol inside
  have same := follows.registry.identity symbol (known symbol inside).1
  simp only [Symbol.identity, Symbol.Identity.mk.injEq] at same
  have isUsed := (known symbol inside).2
  rwa [← show (state.symbol symbol).name = (prepared.symbol symbol).name from same.1] at isUsed

end

variable (array : String) (line : (String × String) × Nat)

def fillLine : String :=
  array ++ "(" ++ toString (line.2 + 1) ++ ") = " ++ line.1.1 ++ " ! " ++ line.1.2 ++ "\n"

def takeLine : String :=
  line.1.1 ++ " = " ++ array ++ "(" ++ toString (line.2 + 1) ++ ") ! " ++ line.1.2 ++ "\n"

variable (entries : List (String × String))

def fillText : String :=
  Text.join "" (entries.zipIdx.map (fillLine array))

def takeText : String :=
  Text.join "" (entries.zipIdx.map (takeLine array))

def WrittenFor (registry : Registry) (write : (String × String) × Nat → String)
    (member : SymbolId × Nat) (text : String) : Prop :=
  ∃ entry, registry.NamedAs member.1 entry.1 ∧ text = write (entry, member.2)

theorem numbered_of_written {registry : Registry} {write : (String × String) × Nat → String}
    {symbols : List SymbolId} {texts : List String} (first : Nat)
    (all : Forall₂ (WrittenFor registry write) (symbols.zipIdx first) texts) :
    ∃ entries : List (String × String), Forall₂ registry.NamedAs symbols (entries.map Prod.fst) ∧
      texts = (entries.zipIdx first).map write := by
  induction symbols generalizing first texts with
  | nil =>
    cases all
    exact ⟨[], .nil, rfl⟩
  | cons symbol rest ih =>
    cases all with
    | cons here others =>
      obtain ⟨entry, named, rfl⟩ := here
      obtain ⟨entries, areNamed, rfl⟩ := ih (first + 1) others
      exact ⟨entry :: entries, .cons named areNamed, rfl⟩

def slotArray (name : String) : String :=
  Naming.limited (Naming.frameworkArray name)

variable {body : RoutineBody}

theorem packing_ensures {calleeBody : RoutineBody} (found : (state.routine id).body = some body)
    (calleeFound : (state.routine callee).body = some calleeBody) (calleeName : String) :
    Ensures (packing id callee calleeName) state fun text _ => ∃ entries,
      text = fillText (slotArray calleeName) entries ∧
      SlotsAt state calleeBody.usedNames ((body.packed.get? calleeName).getD []) (entries.map Prod.fst) := by
  refine .step (run_body found) ?_
  refine .reading (sorted_ensures state _) fun sorted ⟨perm, ordered⟩ => ?_
  split
  · next empty =>
    have nothing := isEmpty_iff.mp empty
    subst nothing
    refine .pure ⟨[], rfl, .of_sorted perm ordered .nil⟩
  · refine .step (run_body calleeFound) (.step (run_get state) ?_)
    refine .reading (.gather (WrittenFor state.registry (fillLine (slotArray calleeName)))
      fun member => ?_) fun texts written => .pure ?_
    · refine .reading (.outcome fun name named => ⟨rfl, named⟩) fun name named => ?_
      refine .reading (.outcome fun _ _ => ⟨rfl, trivial⟩) fun kind _ => .pure ⟨rfl, ?_⟩
      refine ⟨(name, "type " ++ toString kind.number ++ " symbol compaction for callee " ++ calleeName),
        named, ?_⟩
      apply String.toList_inj.mp
      simp [fillLine, slotArray]
    · obtain ⟨entries, named, rfl⟩ := numbered_of_written 0 written
      exact ⟨entries, rfl, .of_sorted perm ordered named⟩

theorem unpacking_ensures (state : Session) (site : SpecificationSite) (compacted : List SymbolId) :
    Ensures (unpacking site compacted) state fun text _ => ∃ entries,
      text = takeText (slotArray site.routine.name) entries ∧
      SlotsAt state site.body.usedNames compacted (entries.map Prod.fst) := by
  refine .reading (sorted_ensures state _) fun sorted ⟨perm, ordered⟩ => ?_
  refine .step (run_get state) ?_
  refine .reading (.gather (WrittenFor state.registry (takeLine (slotArray site.routine.name)))
    fun member => ?_) fun texts written => .pure ?_
  · refine .reading (nameInScope_ensures state member.1)
      fun name named => ?_
    refine (kindNumber_advances member.1).looked fun number => .pure ⟨rfl, ?_⟩
    refine ⟨(name, "additional type " ++ toString number ++ " symbol compaction"), named, ?_⟩
    apply String.toList_inj.mp
    simp [takeLine, slotArray]
  · obtain ⟨entries, named, rfl⟩ := numbered_of_written 0 written
    exact ⟨entries, rfl, .of_sorted perm ordered named⟩

variable {prepared : Session}

/-- The text of a call fills the slots of an array with the scalars that are packed for the callee
and that the callee uses. -/
def Fills (prepared : Session) (caller callee : RoutineBody) (calleeName text : String)
    (names : List String) : Prop :=
  ∃ state entries, Steady prepared state ∧ entries.map Prod.fst = names ∧
    Shows text (Text.strip (fillText (slotArray calleeName) entries)) ∧
    SlotsAt state callee.usedNames ((caller.packed.get? calleeName).getD []) names

/-- The text of a specification takes the compacted scalars that the routine uses out of the slots of
an array. -/
def Takes (prepared : Session) (body : RoutineBody) (name : String) (compacted : List SymbolId)
    (text : String) (names : List String) : Prop :=
  ∃ state entries, Steady prepared state ∧ entries.map Prod.fst = names ∧
    Shows text (Text.strip (takeText (slotArray name) entries)) ∧ SlotsAt state body.usedNames compacted names

theorem shows_framed {text part : String} (shown : Shows text part) (isMarked : Bool)
    (kind : RegionKind) : Shows (Region.framed isMarked kind text) (Text.strip part) :=
  Text.Shows.framed ((Text.shows_strip part).trans shown) (Text.tight_strip part) isMarked kind

section

variable (found : (prepared.routine id).body = some body)

include found

theorem callCode_fills {calleeBody : RoutineBody}
    (calleeFound : (prepared.routine callee).body = some calleeBody) (follows : Steady prepared state)
    (template : Option NodeId) (isMarked : Bool) (passed : Option (Table String SymbolId)) :
    Ensures (callCode id template isMarked (some callee) passed) state fun text _ =>
      ∃ name names, CalledAs prepared id callee name ∧
        Fills prepared body calleeBody name text names := by
  refine .reading (calledName_ensures found follows) fun calleeName called => ?_
  obtain ⟨symbols, current⟩ := follows.body found
  obtain ⟨calleeSymbols, calleeCurrent⟩ := follows.body calleeFound
  have reads : Advances Eq (packing id callee calleeName) := packing_advances id callee calleeName
  refine .reading (reads.reading (packing_ensures current calleeCurrent calleeName)) ?_
  rintro _ ⟨entries, rfl, slots⟩
  have fills : ∀ behind, ∃ name names, CalledAs prepared id callee name ∧
      Fills prepared body calleeBody name
        (Region.framed isMarked .call (fillText (slotArray calleeName) entries ++ behind)) names := by
    intro behind
    have shown : Shows (fillText (slotArray calleeName) entries ++ behind)
        (fillText (slotArray calleeName) entries) := ⟨[], behind.toList, by simp⟩
    exact ⟨calleeName, entries.map Prod.fst, called,
      state, entries, follows, rfl, shows_framed shown isMarked .call, slots⟩
  refine .skip fun start _ => .skip fun _ _ => ?_
  split <;>
    exact .skip fun _ _ => .skip fun _ _ => .skip fun _ _ => .pure
      (by simpa only [String.append_assoc] using fills _)

theorem specificationCode_takes
    (follows : Steady prepared state) (isMarked : Bool) (lines : List RegionLine)
    (dataLines : List String) (context : SpecificationContext)
    (parameters : Option (Table String SymbolId)) :
    Ensures (specificationCode id isMarked lines dataLines (some context) parameters) state
      fun text _ => ∃ names,
        Takes prepared body (prepared.routine id).name context.compacted text names := by
  obtain ⟨symbols, current⟩ := follows.body found
  have sited : Ensures (specificationSite id isMarked) state fun site after => after = state ∧
      site.routine.name = (prepared.routine id).name ∧ site.body = { body with symbols } := by
    refine .step (run_get state) (.step (run_body current) (.pure ⟨rfl, ?_⟩))
    exact ⟨follows.name id, rfl⟩
  refine .reading sited fun site ⟨isName, isBody⟩ => ?_
  refine (readSpecification_firm site _ lines).steady.onward follows fun kept _ follows => ?_
  cases parameters with
  | none => exact .thrown
  | some parameters =>
    refine (kindImports_firm site _).steady.onward follows fun _ _ follows => ?_
    refine (importCode_firm site _ _).steady.onward follows fun _ _ follows => ?_
    refine (declaredCode_firm site _).steady.onward follows fun _ _ follows => ?_
    refine (addedCode_firm site _).steady.onward follows fun _ _ follows => ?_
    refine (calleeCode_firm site _ _).steady.onward follows fun _ _ follows => ?_
    refine (declarationEnd_firm site).steady.onward follows fun _ between follows => ?_
    refine .bind (unpacking_ensures between site context.compacted) ?_
    rintro _ _ ⟨entries, rfl, slots⟩
    rw [isName]
    refine .pure ⟨_, between, entries, follows, rfl, shows_framed ?_ isMarked .specification, ?_⟩
    · exact (suffix_append _ _).isInfix.trans (by rw [String.toList_append])
    · rw [isBody] at slots
      exact slots

end

/-- When the code of a module is generated, a kernel takes scalars out of the slots of an array, and
each call of it fills the slots. Both go through the scalars in the order of their names, so that every
scalar arrives where it was put exactly if the scalars are the same. -/
theorem filled_eq_taken_iff {module : ModuleId} {session after : Session} {code : String}
    {caller kernel : RoutineId} (run : ExceptT.run (moduleCode module) session = (.ok code, after))
    (callerIn : caller ∈ (session.module module).generated)
    (kernelIn : kernel ∈ (session.module module).generated) :
    ∃ prepared body lines dataLines context parameters rest specification taken,
      ExceptT.run (prepareRoutines (session.module module).generated) session =
        (.ok (), prepared) ∧
      regionCallees (prepared.routine caller) = regionCallees (session.routine caller) ∧
      (prepared.routine kernel).body = some body ∧
      body.regions = .specification lines dataLines (some context) parameters :: rest ∧
      Written prepared kernel (.specification lines dataLines (some context) parameters)
        specification ∧
      Shows code (Text.strip specification) ∧
      Takes prepared body (prepared.routine kernel).name context.compacted specification taken ∧
      ∀ callerBody, (prepared.routine caller).body = some callerBody →
        ∀ region ∈ callerBody.regions, ∀ part ∈ region.parts, part.callee? = some kernel →
          ∃ call name filled,
            Written prepared caller part call ∧ Shows code (Text.strip call) ∧
            CalledAs prepared caller kernel name ∧
            Fills prepared callerBody body name call filled ∧
            (filled = taken ↔ filled.Perm taken) := by
  obtain ⟨prepared, prepares, shows⟩ := moduleCode_shows_parts module session code after run
  obtain ⟨sameCalls, knows⟩ := prepareRoutines_ensures session _ () prepared prepares
  obtain ⟨body, lines, dataLines, context, parameters, rest, found, regions⟩ :=
    (knows kernel kernelIn).2
  have first : Region.specification lines dataLines (some context) parameters ∈ body.regions := by
    rw [regions]
    exact mem_cons_self
  obtain ⟨specification, written, shown⟩ :=
    (shows kernel kernelIn).2 body found _ first _ (mem_singleton_self _)
  obtain ⟨isMarked, _, state, _, follows, wrote⟩ := id written
  rw [regionCode] at wrote
  obtain ⟨taken, takes⟩ := specificationCode_takes found follows isMarked lines dataLines context
    parameters specification _ wrote
  refine ⟨prepared, body, lines, dataLines, context, parameters, rest, specification, taken, prepares,
    sameCalls caller, found, regions, written, shown, takes, ?_⟩
  intro callerBody callerFound region within part among called
  obtain ⟨callLines, passed, rfl⟩ := Region.call_of_callee? called
  obtain ⟨call, written, shown⟩ := (shows caller callerIn).2 callerBody callerFound region within _ among
  obtain ⟨isMarked, template, state, _, follows, wrote⟩ := id written
  rw [regionCode] at wrote
  obtain ⟨name, filled, isName, fills⟩ :=
    callCode_fills callerFound found follows template isMarked passed call _ wrote
  refine ⟨call, name, filled, written, shown, isName, fills, ?_⟩
  obtain ⟨_, _, _, _, _, filledSlots⟩ := fills
  obtain ⟨_, _, _, _, _, takenSlots⟩ := takes
  exact filledSlots.eq_iff_perm takenSlots

/-- The routine packs one scalar for the kernel, and the kernel takes two out of the array. -/
def skewed (prepared : Session) : Bool :=
  match (prepared.routine ⟨0⟩).body, (prepared.routine ⟨1⟩).body with
  | some caller, some kernel =>
    (caller.calleeNames.bind (·.get? (prepared.routine ⟨1⟩).name)) == some "hfk0_relay" &&
    ((caller.packed.get? "hfk0_relay").getD []).length == 1 &&
    match kernel.regions with
    | .specification _ _ (some context) _ :: _ =>
      context.compacted.length == 2 && context.compacted.all fun symbol =>
        decide (symbol.index < prepared.registry.symbols.size) &&
          kernel.usedNames.contains (prepared.symbol symbol).name
    | _ => false
  | _, _ => false

theorem relay_skewed : skewed ((prepareRoutines [⟨0⟩, ⟨1⟩]).run relay).2 = true := by
  decide +kernel

theorem filled_eq_taken_iff_relay :
    ∃ code after prepared caller kernel context name call specification filled taken,
      ExceptT.run (moduleCode ⟨0⟩) relay = (.ok code, after) ∧
      Shows code (Text.strip call) ∧ Shows code (Text.strip specification) ∧
      Fills prepared caller kernel name call filled ∧
      Takes prepared kernel (prepared.routine ⟨1⟩).name context specification taken ∧
      (filled = taken ↔ filled.Perm taken) ∧ filled ≠ taken := by
  obtain ⟨code, succeeds⟩ := Option.isSome_iff_exists.mp relay_written
  have run := run_of_toOption succeeds
  obtain ⟨prepared, kernel, lines, dataLines, context, parameters, rest, specification, taken, prepares,
    sameCalls, found, regions, _, shown, takes, agree⟩ :=
    @filled_eq_taken_iff ⟨0⟩ relay _ code ⟨0⟩ ⟨1⟩ run (by decide) (by decide)
  have called : ⟨1⟩ ∈ regionCallees (prepared.routine ⟨0⟩) := by
    rw [sameCalls]
    decide
  obtain ⟨caller, callerFound, region, within, part, inside, calls⟩ := mem_regionCallees.mp called
  obtain ⟨call, name, filled, _, callShown, isName, fills, equal⟩ :=
    agree caller callerFound region within part inside calls
  refine ⟨code, _, prepared, caller, kernel, context.compacted, name, call, specification, filled, taken,
    run, callShown, shown, fills, takes, equal, ?_⟩
  have skew : skewed prepared = true := by
    have same := congrArg Prod.snd prepares
    rw [← show _ = prepared from same]
    exact relay_skewed
  obtain ⟨callerBody, names, callerSame, given, filed⟩ := isName
  obtain rfl := Option.some.inj (callerSame.symm.trans callerFound)
  simp only [skewed, callerFound, found, regions, given, Option.bind_some, filed, Bool.and_eq_true,
    beq_iff_eq, Option.some.injEq, all_eq_true, decide_eq_true_eq] at skew
  obtain ⟨⟨rfl, packs⟩, compacts, known⟩ := skew
  obtain ⟨_, _, _, _, _, filledSlots⟩ := fills
  obtain ⟨_, _, follows, _, _, takenSlots⟩ := takes
  have few := filledSlots.length_le
  have many := takenSlots.length_eq follows known
  rintro rfl
  omega

end Work

end ParallelFortran
