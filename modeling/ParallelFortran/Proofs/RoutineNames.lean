import Mathlib.Data.List.Infix
import ParallelFortran.Symbol.Basic

/-! Names of generated routines: the name of the routine is read back from each of them. -/

namespace ParallelFortran

open List
open Text (Letters)

namespace Pattern

def begins : Letters → Letters → Bool
  | [], _ => true
  | _ :: _, [] => false
  | wanted :: part, letter :: text => caseless wanted letter && begins part text

theorem caseless_self (letter : Char) : caseless letter letter = true := by
  unfold caseless
  split <;> simp

theorem begins_append (part text : Letters) : begins part (part ++ text) = true := by
  induction part with
  | nil => rfl
  | cons letter part ih =>
    rw [cons_append, begins, caseless_self, ih]
    rfl

variable {α : Type}

theorem begins_of_append {part text rest : Letters} (found : begins part text = true) :
    begins part (text ++ rest) = true := by
  induction part generalizing text with
  | nil => rfl
  | cons wanted part ih =>
    cases text with
    | nil => cases found
    | cons letter text =>
      simp only [begins, Bool.and_eq_true] at found
      simp only [cons_append, begins, Bool.and_eq_true]
      exact ⟨found.1, ih found.2⟩

theorem matchWith_either (first second : Pattern) (cursor : Cursor) (captures : Captures)
    (next : Continuation α) : (either first second).matchWith cursor captures next =
      (first.matchWith cursor captures next).or (second.matchWith cursor captures next) := by
  rw [matchWith]
  cases first.matchWith cursor captures next <;> rfl

theorem matchWith_one (wanted : Char) (text : Letters) (position : Nat) (captures : Captures)
    (next : Continuation α) : (one (caseless wanted)).matchWith ⟨position, text⟩ captures next =
      if begins [wanted] text then next ⟨position + 1, text.drop 1⟩ captures else none := by
  cases text with
  | nil | cons letter text => simp [matchWith, begins]

theorem matchWith_lettersOf (part text : Letters) (position : Nat) (captures : Captures)
    (next : Continuation α) : (lettersOf part).matchWith ⟨position, text⟩ captures next =
      if begins part text then next ⟨position + part.length, text.drop part.length⟩ captures
      else none := by
  induction part generalizing text position with
  | nil => simp [lettersOf, sequence, matchWith, begins]
  | cons wanted part ih =>
    cases part with
    | nil => exact matchWith_one wanted text position captures next
    | cons second part =>
      have whole : lettersOf (wanted :: second :: part) =
          both (one (caseless wanted)) (lettersOf (second :: part)) := rfl
      rw [whole, matchWith]
      cases text with
      | nil => simp [matchWith, begins]
      | cons letter text =>
        rw [matchWith_one]
        by_cases same : caseless wanted letter = true
        · rw [begins, same, begins, Bool.true_and, if_pos rfl, ih, begins, same,
            Bool.true_and, drop_one, tail_cons]
          simp [Nat.add_assoc, Nat.add_comm 1]
        · have different : begins (wanted :: second :: part) (letter :: text) = false := by
            rw [begins]
            simp [same]
          rw [different, begins]
          simp [same]

variable {accepts : Char → Bool} {captures : Captures} {next : Continuation α} {result : α}
  {front rest text : Letters} {position : Nat}

theorem runGreedy_stop (accepted : ∀ letter ∈ front, accepts letter = true)
    (stops : ∀ letter ∈ rest.head?, accepts letter = false)
    (matched : next ⟨position + front.length, rest⟩ captures = some result) :
    runGreedy accepts captures next 0 position (front ++ rest) = some result := by
  induction front generalizing position with
  | nil =>
    cases rest with
    | nil => exact matched
    | cons letter rest =>
      rw [nil_append, runGreedy, stops letter rfl]
      exact matched
  | cons letter front ih =>
    have later : runGreedy accepts captures next 0 (position + 1) (front ++ rest) =
        some result := by
      apply ih
      · exact fun other member => accepted other (mem_cons_of_mem _ member)
      · rwa [Nat.add_assoc, Nat.add_comm 1]
    rw [cons_append, runGreedy, accepted letter mem_cons_self, if_pos rfl, later]

theorem runGreedy_isSome_iff : (runGreedy accepts captures next 0 position text).isSome = true ↔
      ∃ front rest, text = front ++ rest ∧ (∀ letter ∈ front, accepts letter = true) ∧
        (next ⟨position + front.length, rest⟩ captures).isSome = true := by
  induction text generalizing position with
  | nil =>
    constructor
    · intro matched
      exact ⟨[], [], rfl, by simp, matched⟩
    · rintro ⟨front, rest, whole, _, matched⟩
      obtain ⟨rfl, rfl⟩ := append_eq_nil_iff.mp whole.symm
      exact matched
  | cons letter text ih =>
    have either : (runGreedy accepts captures next 0 position (letter :: text)).isSome = true ↔
        accepts letter = true ∧
          (runGreedy accepts captures next 0 (position + 1) text).isSome = true ∨
        (next ⟨position, letter :: text⟩ captures).isSome = true := by
      rw [runGreedy]
      by_cases accepted : accepts letter = true
      · cases longer : runGreedy accepts captures next 0 (position + 1) text <;> simp [accepted]
      · simp [accepted]
    rw [either]
    constructor
    · rintro (⟨accepted, longer⟩ | matched)
      · obtain ⟨front, rest, rfl, all, behind⟩ := ih.mp longer
        refine ⟨letter :: front, rest, rfl, forall_mem_cons.mpr ⟨accepted, all⟩, ?_⟩
        rwa [length_cons, Nat.add_comm front.length, ← Nat.add_assoc]
      · exact ⟨[], letter :: text, rfl, by simp, matched⟩
    · rintro ⟨front, rest, whole, all, matched⟩
      cases front with
      | nil =>
        cases whole
        exact .inr matched
      | cons first front =>
        obtain ⟨rfl, rfl⟩ := cons.inj whole
        rw [forall_mem_cons] at all
        rw [length_cons, Nat.add_comm front.length, ← Nat.add_assoc] at matched
        exact .inl ⟨all.1, ih.mpr ⟨front, rest, rfl, all.2, matched⟩⟩

theorem runGreedy_all (accepted : ∀ letter ∈ text, accepts letter = true)
    (matched : next ⟨position + text.length, []⟩ captures = some result) :
    runGreedy accepts captures next 0 position text = some result := by
  have stop := runGreedy_stop accepted (by simp) matched
  rwa [append_nil] at stop

theorem matchWith_word (isWord : ∀ letter ∈ text, Text.isWord letter = true)
    (matched : next ⟨position + text.length, []⟩ ((1, text) :: captures) = some result) :
    (group 1 word).matchWith ⟨position, text⟩ captures next = some result := by
  refine runGreedy_all isWord ?_
  rwa [Nat.add_sub_cancel_left, take_length]

end Pattern

namespace Naming

open Pattern

variable {name text : String}

/-- A name without the parts that mark generated routines, in any case. -/
structure Unreserved (name : String) : Prop where
  isWord : ∀ letter ∈ name.toList, Text.isWord letter = true
  notDevice : ∀ rest ∈ name.toList.tails, begins "hfd_".toList rest = false
  notKernel : ∀ rest ∈ name.toList.tails, begins "hfk".toList rest = false

instance (name : String) : Decidable (Unreserved name) :=
  decidable_of_iff ((name.toList.all Text.isWord && name.toList.tails.all fun rest =>
    !begins "hfd_".toList rest && !begins "hfk".toList rest) = true) (by
    simp only [Bool.and_eq_true, all_eq_true, Bool.not_eq_true']
    constructor
    · rintro ⟨isWord, absent⟩
      exact ⟨isWord, fun rest member => (absent rest member).1, fun rest member => (absent rest member).2⟩
    · intro unreserved
      exact ⟨unreserved.isWord,
        fun rest member => ⟨unreserved.notDevice rest member, unreserved.notKernel rest member⟩⟩)

def deviceMark : Pattern := literal "hfd_"

def kernelMark : Pattern := both (literal "hfk") (both (run Text.isDigit 0 true) (literal "_"))

theorem plainRoutine_eq (position : Nat)
    (isWord : ∀ letter ∈ text.toList, Text.isWord letter = true)
    (marked : ∀ (next : Continuation Found) result, next ⟨position, text.toList⟩ [] = some result →
      (Pattern.optional (either deviceMark kernelMark)).matchWith ⟨0, name.toList⟩ [] next = some
      result) : plainRoutine name = text := by
  have found : Pattern.Fortran.routineName.match? name = some
      ⟨name.toList.take (position + text.toList.length), [], [(1, text.toList)]⟩ := by
    apply marked
    exact matchWith_word isWord rfl
  simp [plainRoutine, found, Found.group, Found.group?]

/-- A name that does not begin as that of a generated routine does, in any case. -/
structure Unmarked (name : String) : Prop where
  isWord : ∀ letter ∈ name.toList, Text.isWord letter = true
  notDevice : begins "hfd_".toList name.toList = false
  notKernel : ∀ digits rest, (∀ digit ∈ digits, Text.isDigit digit = true) →
    name.toList.drop 3 = digits ++ '_' :: rest → begins "hfk".toList name.toList = false

theorem Unreserved.unmarked (unreserved : Unreserved name) : Unmarked name :=
  ⟨unreserved.isWord, unreserved.notDevice _ (by simp),
    fun _ _ _ _ => unreserved.notKernel _ (by simp)⟩

theorem plainRoutine_unmarked (unmarked : Unmarked name) : plainRoutine name = name := by
  refine plainRoutine_eq 0 unmarked.isWord fun next result matched => ?_
  have device : deviceMark.matchWith ⟨0, name.toList⟩ [] next = none := by
    rw [deviceMark, literal, matchWith_lettersOf, unmarked.notDevice]
    rfl
  have kernel : kernelMark.matchWith ⟨0, name.toList⟩ [] next = none := by
    rw [← Option.not_isSome_iff_eq_none, kernelMark, matchWith, literal, matchWith_lettersOf]
    split
    · next marked =>
      intro found
      obtain ⟨digits, rest, whole, all, behind⟩ := runGreedy_isSome_iff.mp found
      rw [literal, matchWith_lettersOf] at behind
      split at behind
      · next ends =>
        cases rest with
        | nil => cases ends
        | cons letter rest =>
          have isMark : letter = '_' := by simpa [begins, caseless] using ends
          rw [unmarked.notKernel digits rest all (isMark ▸ whole)] at marked
          cases marked
      · cases behind
    · exact nofun
  rw [Pattern.optional, matchWith_either, matchWith_either, device, kernel]
  exact matched

theorem plainRoutine_unreserved (unreserved : Unreserved name) : plainRoutine name = name :=
  plainRoutine_unmarked unreserved.unmarked

theorem plainRoutine_device (isWord : ∀ letter ∈ name.toList, Text.isWord letter = true) :
    plainRoutine ("hfd_" ++ name) = name := by
  refine plainRoutine_eq 4 isWord fun next result matched => ?_
  have device : deviceMark.matchWith ⟨0, ("hfd_" ++ name).toList⟩ [] next = some result := by
    rw [deviceMark, literal, matchWith_lettersOf, String.toList_append, begins_append]
    exact matched
  rw [Pattern.optional, matchWith_either, matchWith_either, device, Option.some_or, Option.some_or]

theorem isDigit_of_mem_toDigits {number : Nat} {letter : Char}
    (member : letter ∈ Nat.toDigits 10 number) : Text.isDigit letter = true := by
  have digit := Nat.isDigit_of_mem_toDigits (by omega) (by omega) member
  simpa [Char.isDigit, Text.isDigit, Char.le_def] using digit

theorem plainRoutine_kernel (isWord : ∀ letter ∈ name.toList, Text.isWord letter = true)
    (number : Nat) :
    plainRoutine ("hfk" ++ toString number ++ "_" ++ name) = name := by
  have letters : ("hfk" ++ toString number ++ "_" ++ name).toList =
      "hfk".toList ++ (Nat.toDigits 10 number ++ '_' :: name.toList) := by
    simp only [String.toList_append, append_assoc]
    rw [← Nat.toList_repr]
    rfl
  refine plainRoutine_eq (0 + 3 + (Nat.toDigits 10 number).length + 1) isWord
    fun next result matched => ?_
  have device : deviceMark.matchWith ⟨0, ("hfk" ++ toString number ++ "_" ++ name).toList⟩ [] next =
      none := by
    have different : begins "hfd_".toList ("hfk" ++ toString number ++ "_" ++ name).toList = false := by
      have third : caseless 'd' 'k' = false := by decide +kernel
      rw [letters]
      change (_ && (_ && (caseless 'd' 'k' && _))) = false
      rw [third, Bool.false_and, Bool.and_false, Bool.and_false]
    rw [deviceMark, literal, matchWith_lettersOf, different]
    rfl
  have kernel : kernelMark.matchWith ⟨0, ("hfk" ++ toString number ++ "_" ++ name).toList⟩ [] next =
      some result := by
    rw [kernelMark, matchWith, literal, matchWith_lettersOf, letters, begins_append]
    apply runGreedy_stop (fun _ => isDigit_of_mem_toDigits)
    · intro letter member
      cases member
      decide
    · exact matched
  rw [Pattern.optional, matchWith_either, matchWith_either, device, kernel, Option.none_or,
    Option.some_or]

inductive IsVersion (name : String) : String → Prop
  | plain : IsVersion name name
  | device : IsVersion name ("hfd_" ++ name)
  | kernel (number : Nat) : IsVersion name ("hfk" ++ toString number ++ "_" ++ name)

section

variable (unreserved : Unreserved name)

include unreserved

theorem plainRoutine_version (version : IsVersion name text) : plainRoutine text = name := by
  cases version with
  | plain => exact plainRoutine_unreserved unreserved
  | device => exact plainRoutine_device unreserved.isWord
  | kernel number => exact plainRoutine_kernel unreserved.isWord number

theorem version_injective {other : String} (alsoUnreserved : Unreserved other)
    (version : IsVersion name text) (alsoVersion : IsVersion other text) : name = other := by
  rw [← plainRoutine_version unreserved version, plainRoutine_version alsoUnreserved alsoVersion]

theorem ne_device (other : String) : name ≠ "hfd_" ++ other := by
  intro same
  have reserved := unreserved.notDevice name.toList (by simp)
  rw [same, String.toList_append, begins_append] at reserved
  cases reserved

theorem ne_kernel (number other : String) : name ≠ "hfk" ++ number ++ "_" ++ other := by
  intro same
  have reserved := unreserved.notKernel name.toList (by simp)
  rw [same, String.append_assoc, String.append_assoc, String.toList_append]
    at reserved
  cases reserved

end

theorem device_ne_kernel (name number other : String) :
    "hfd_" ++ name ≠ "hfk" ++ number ++ "_" ++ other := by
  intro same
  have letters := congrArg String.toList same
  simp at letters

inductive Version where
  | host
  | device
  | kernel (number : Nat)

namespace Version

def nameOf (routine : String) : Version → String
  | host => hostRoutine routine
  | device => deviceRoutine routine
  | kernel number => Naming.kernel routine number

def mark : Version → String
  | host => ""
  | device => "hfd_"
  | kernel number => "hfk" ++ toString number ++ "_"

variable (version : Version)

theorem nameOf_eq (unmarked : Unmarked name) : version.nameOf name = version.mark ++ name := by
  have plain := plainRoutine_unmarked unmarked
  cases version with
  | host => rw [nameOf, hostRoutine, plain, mark, String.empty_append]
  | device => rw [nameOf, deviceRoutine, plain, mark]
  | kernel number =>
    rw [nameOf, Naming.kernel, plain, mark]
    rfl

theorem plainRoutine_nameOf (unmarked : Unmarked name) : plainRoutine (version.nameOf name) = name := by
  rw [nameOf_eq version unmarked]
  cases version with
  | host =>
    rw [mark, String.empty_append]
    exact plainRoutine_unmarked unmarked
  | device => exact plainRoutine_device unmarked.isWord
  | kernel number => exact plainRoutine_kernel unmarked.isWord number

theorem eq_of_mark_eq {other : Version} (same : version.mark = other.mark) : version = other := by
  have letters := congrArg String.toList same
  cases version with
  | host => cases other <;> simp [mark] at letters ⊢
  | device => cases other <;> simp [mark] at letters ⊢
  | kernel number =>
    cases other with
    | host | device => simp [mark] at letters
    | kernel second =>
      have digits : Nat.toDigits 10 number = Nat.toDigits 10 second := by simpa [mark] using letters
      rw [← @Nat.ofDigitChars_ten_toDigits number, digits, Nat.ofDigitChars_ten_toDigits]

end Version

/-- The name of a routine and what it is generated for are read off the generated name, whatever the
name holds behind its beginning. -/
theorem nameOf_injective (unmarked : Unmarked name) (version : Version) :
    plainRoutine (version.nameOf name) = name ∧
      ∀ other, Unmarked other → ∀ otherVersion : Version,
        version.nameOf name = otherVersion.nameOf other → name = other ∧ version = otherVersion := by
  have read := version.plainRoutine_nameOf unmarked
  refine ⟨read, fun other otherUnmarked otherVersion same => ?_⟩
  have sameName : name = other := by
    rw [← read, same, otherVersion.plainRoutine_nameOf otherUnmarked]
  subst sameName
  rw [version.nameOf_eq unmarked, otherVersion.nameOf_eq unmarked] at same
  exact ⟨rfl, version.eq_of_mark_eq ((String.append_left_inj name).mp same)⟩

theorem nameOf_injective_lookalike : Unmarked "shfk1_hfd_x" ∧
    plainRoutine ((Version.kernel 12).nameOf "shfk1_hfd_x") = "shfk1_hfd_x" := by
  have unmarked : Unmarked "shfk1_hfd_x" :=
    ⟨all_eq_true.mp (by decide), by decide, fun _ _ _ _ => by decide⟩
  exact ⟨unmarked, (nameOf_injective unmarked _).1⟩

theorem find?_eq_none {needle text : Letters} (filled : needle ≠ [])
    (absent : ∀ rest ∈ text.tails, begins needle rest = false) :
    Text.Letters.find? needle text = none := by
  induction text with
  | nil => simp [Text.Letters.find?, filled]
  | cons letter text ih =>
    have notHere : needle.isPrefixOf (letter :: text) = false := by
      by_contra isPrefix
      obtain ⟨rest, same⟩ := isPrefixOf_iff_prefix.mp (Bool.of_not_eq_false isPrefix)
      have here := absent (letter :: text) (by simp)
      rw [← same, begins_append] at here
      cases here
    have later := ih fun rest member => absent rest (mem_cons_of_mem _ member)
    simp [Text.Letters.find?, notHere, later]

theorem not_contains_kernel (unreserved : Unreserved name) : Text.contains name "hfk" = false := by
  rw [Text.contains, Text.find?, find?_eq_none (by decide) unreserved.notKernel]
  rfl

theorem unreserved_limited (unreserved : Unreserved name) : Unreserved (limited name) := by
  have letters : (limited name).toList = name.toList.take 31 := by
    rw [Naming.limited, Text.take, String.toList_ofList]
  have absent : ∀ part, (∀ rest ∈ name.toList.tails, begins part rest = false) →
      ∀ rest ∈ (name.toList.take 31).tails, begins part rest = false := by
    intro part notThere rest member
    obtain ⟨front, same⟩ := (mem_tails _ _).mp member
    have whole : rest ++ name.toList.drop 31 ∈ name.toList.tails := by
      rw [mem_tails]
      refine ⟨front, ?_⟩
      rw [← append_assoc, same, take_append_drop]
    by_contra found
    have later := notThere _ whole
    rw [begins_of_append (Bool.of_not_eq_false found)] at later
    cases later
  constructor
  · rw [letters]
    exact fun letter member => unreserved.isWord letter (mem_of_mem_take member)
  · rw [letters]
    exact absent _ unreserved.notDevice
  · rw [letters]
    exact absent _ unreserved.notKernel

end Naming

end ParallelFortran
