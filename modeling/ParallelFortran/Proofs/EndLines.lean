import Mathlib.Data.List.TakeWhile
import ParallelFortran.Proofs.RoutineNames
import ParallelFortran.Source.Line

/-! Lines that end a routine: what else they can be taken for. -/

namespace ParallelFortran

open List Text.Letters
open Text (Letters)

namespace Text

variable {letter : Char}

def blankLetters : List Char :=
  [9, 10, 11, 12, 13, 28, 29, 30, 31, 32, 133, 160, 5760, 8192, 8193, 8194, 8195, 8196, 8197, 8198,
    8199, 8200, 8201, 8202, 8232, 8233, 8239, 8287, 12288].map Char.ofNat

theorem mem_blankLetters (isBlank : isBlank letter = true) : letter ∈ blankLetters := by
  simp only [Text.isBlank, Bool.or_eq_true, Bool.and_eq_true, decide_eq_true_eq, beq_iff_eq]
    at isBlank
  rw [← Char.ofNat_toNat letter]
  refine mem_map_of_mem ?_
  simp only [mem_cons]
  rcases isBlank with (((((((((_ | _) | _) | _) | _) | _) | _) | _) | _) | _) | _
  all_goals omega

theorem toNat_eq_of_ofNat {code : Nat} (same : Char.ofNat code = letter)
    (filled : letter.toNat ≠ 0) : code = letter.toNat := by
  subst same
  by_cases valid : code.isValidChar
  · rw [Char.ofNat, dif_pos valid]
    rfl
  · rw [Char.ofNat, dif_neg valid] at filled
    exact absurd rfl filled

theorem toNat_of_end (member : letter ∈ ['e', 'n', 'd']) : letter.toNat ∈ [101, 110, 100] :=
  mem_map_of_mem member

/-- No letter beyond ASCII is another spelling of a letter of `end`. -/
theorem toNat_lt_of_foldCase (spelled : foldCase letter ∈ ['e', 'n', 'd']) :
    letter.toNat < 128 := by
  by_contra beyond
  have notLower : lowerChar letter ∉ ['e', 'n', 'd'] := by
    unfold lowerChar
    rw [if_neg beyond]
    split
    · decide
    · unfold shiftCase
      dsimp only
      split
      · next run found =>
        have away : ∀ run ∈ lowerRuns, ∀ code ∈ [101, 110, 100],
            ¬ (run.1 + run.2.2.2 ≤ (code : Nat) ∧
              code ≤ run.2.1 + run.2.2.2) := by decide +kernel
        intro shifted
        have inside := Array.find?_some found
        simp only [Bool.and_eq_true, decide_eq_true_eq] at inside
        have filled : ∀ code ∈ [101, 110, 100], code ≠ 0 := by decide
        have positive := filled _ (toNat_of_end shifted)
        have code := toNat_eq_of_ofNat rfl positive
        have apart := away run (Array.mem_of_find?_eq_some found) _ (toNat_of_end shifted)
        omega
      · intro same
        have small : ∀ code ∈ [101, 110, 100], code < 128 := by decide
        exact beyond (small _ (toNat_of_end same))
  unfold foldCase at spelled
  dsimp only at spelled
  split at spelled
  · exact notLower spelled
  · split at spelled
    · next entry found =>
      have away : ∀ entry ∈ letterVariants, Char.ofNat entry.2 ∉ ['e', 'n', 'd'] := by
        decide
      exact away entry (Array.mem_of_find?_eq_some found) spelled
    · exact notLower spelled

end Text

namespace Pattern

variable {text part : Letters} {α : Type}

def isVisible (text : Letters) : Bool :=
  text.head?.any fun first => !Text.isBlank first && !Text.isBlank (Text.foldCase first)

theorem dropBlanks_eq {front rest : Letters} (blank : ∀ letter ∈ front, Text.isBlank letter = true)
    (stops : ∀ letter ∈ rest.head?, Text.isBlank letter = false) :
    dropBlanks (front ++ rest) = rest := by
  rw [dropBlanks, dropWhile_append_of_pos blank]
  cases rest with
  | nil => rfl
  | cons letter rest => rw [dropWhile_cons_of_neg (by simp [stops letter rfl])]

theorem exists_head_of_begins {wanted : Char} (first : part.head? = some wanted)
    (found : begins part text = true) : ∃ letter ∈ text.head?, caseless wanted letter = true := by
  cases part with
  | nil => cases first
  | cons head part =>
    cases first
    cases text with
    | nil => cases found
    | cons letter text =>
      rw [begins, Bool.and_eq_true] at found
      exact ⟨letter, rfl, found.1⟩

theorem exists_wanted_of_begins (found : begins part text = true) :
    ∀ letter ∈ text.take part.length, ∃ wanted ∈ part, caseless wanted letter = true := by
  induction part generalizing text with
  | nil => simp
  | cons wanted part ih =>
    cases text with
    | nil => cases found
    | cons first text =>
      rw [begins, Bool.and_eq_true] at found
      rintro letter (_ | ⟨_, member⟩)
      · exact ⟨wanted, mem_cons_self, found.1⟩
      · obtain ⟨other, listed, same⟩ := ih found.2 letter member
        exact ⟨other, mem_cons_of_mem _ listed, same⟩

theorem head_not_blank (visible : isVisible part = true) (found : begins part text = true) :
    ∀ letter ∈ text.head?, Text.isBlank letter = false := by
  obtain ⟨wanted, first, apart⟩ := (Option.any_eq_true ..).mp visible
  obtain ⟨letter, head, same⟩ := exists_head_of_begins first found
  rw [Bool.and_eq_true, Bool.not_eq_true', Bool.not_eq_true'] at apart
  intro other alsoHead
  cases Option.some.inj (head.symm.trans alsoHead)
  by_contra isBlank
  rw [Bool.not_eq_false] at isBlank
  unfold caseless at same
  split at same
  · rw [beq_iff_eq.mp same, apart.1] at isBlank
    cases isBlank
  · have folded := beq_iff_eq.mp same
    have each : Text.blankLetters.all (fun letter => Text.foldCase letter == letter) = true := by
      decide +kernel
    rw [beq_iff_eq.mp (all_eq_true.mp each letter (Text.mem_blankLetters isBlank))] at folded
    rw [folded, apart.2] at isBlank
    cases isBlank

theorem begins_of_blanks {name : String} {tail : Pattern} {position : Nat} {captures : Captures}
    {next : Continuation α} (visible : isVisible name.toList = true)
    (matched : ((both blanks (both (literal name) tail)).matchWith ⟨position, text⟩ captures
      next).isSome = true) : begins name.toList (dropBlanks text) = true ∧
      ∃ place, (tail.matchWith
        ⟨place, (dropBlanks text).drop name.toList.length⟩ captures next).isSome = true := by
  rw [matchWith, blanks, matchWith, if_pos rfl, runGreedy_isSome_iff] at matched
  obtain ⟨front, rest, rfl, blank, behind⟩ := matched
  rw [matchWith, literal, matchWith_lettersOf] at behind
  split at behind
  · next found =>
    rw [dropBlanks_eq blank (head_not_blank visible found)]
    exact ⟨found, _, behind⟩
  · cases behind

def Apart (first second : Char) : Prop :=
  ∀ letter, caseless first letter = true → caseless second letter = false

theorem apart_mark {wanted : Char} (different : caseless wanted '@' = false) : Apart '@' wanted := by
  intro letter same
  have mark : letter = '@' := by simpa [caseless] using same
  rwa [mark]

theorem apart_letters {first second : Char} (firstLetter : first.isAlpha = true)
    (secondLetter : second.isAlpha = true)
    (different : Text.foldCase first ≠ Text.foldCase second) : Apart first second := by
  intro letter same
  simp only [caseless, firstLetter, Bool.not_true, Bool.and_false, Bool.false_eq_true, if_false,
    beq_iff_eq] at same
  simp only [caseless, secondLetter, Bool.not_true, Bool.and_false, Bool.false_eq_true, if_false,
    same, beq_eq_false_iff_ne]
  exact different

theorem not_begins_of_apart {first second : Char} {other : Letters} (apart : Apart first second)
    (partHead : part.head? = some first) (otherHead : other.head? = some second)
    (found : begins part text = true) : begins other text = false := by
  by_contra alsoFound
  obtain ⟨letter, head, same⟩ := exists_head_of_begins partHead found
  obtain ⟨_, alsoHead, alsoSame⟩ := exists_head_of_begins otherHead (Bool.of_not_eq_false alsoFound)
  cases Option.some.inj (head.symm.trans alsoHead)
  rw [apart letter same] at alsoSame
  cases alsoSame

namespace Fortran

theorem begins_of_routineEnd {line : String} (ends : routineEnd.accepts line = true) :
    begins "end".toList (dropBlanks line.toList) = true ∧ begins "subroutine".toList
        (dropBlanks ((dropBlanks line.toList).drop 3)) = true := by
  obtain ⟨outer, place, behind⟩ := begins_of_blanks (by decide) ends
  exact ⟨outer, (begins_of_blanks (by decide) behind).1⟩

theorem isWord_of_end {wanted letter : Char} (member : wanted ∈ ['e', 'n', 'd'])
    (same : caseless wanted letter = true) : Text.isWord letter = true := by
  have spelled : Text.foldCase letter ∈ ['e', 'n', 'd'] := by
    have plain : ['e', 'n', 'd'].all
        (fun wanted => wanted.isAlpha && Text.foldCase wanted == wanted) = true := by
      decide
    obtain ⟨isAlpha, folded⟩ := Bool.and_eq_true_iff.mp (all_eq_true.mp plain wanted member)
    rw [beq_iff_eq] at folded
    simp only [caseless, isAlpha, Bool.not_true, Bool.and_false, Bool.false_eq_true, if_false,
      beq_iff_eq, folded] at same
    rwa [same]
  have ascii := Text.toNat_lt_of_foldCase spelled
  have words : ∀ code < 128, Text.foldCase (Char.ofNat code) ∈ ['e', 'n', 'd'] →
      Text.isWord (Char.ofNat code) = true := by decide
  rw [← Char.ofNat_toNat letter] at spelled ⊢
  exact words _ ascii spelled

theorem routineBegin_of_routineEnd {line : String} (ends : routineEnd.accepts line = true) :
    routineBegin.accepts line = true := by
  obtain ⟨outer, inner⟩ := begins_of_routineEnd ends
  have split : ∀ text, ∃ front, text = front ++ dropBlanks text ∧
      ∀ letter ∈ front, Text.isBlank letter = true := by
    intro text
    exact ⟨text.takeWhile Text.isBlank, takeWhile_append_dropWhile.symm,
      fun letter member => mem_takeWhile_imp member⟩
  obtain ⟨front, whole, blank⟩ := split line.toList
  obtain ⟨gap, middle, alsoBlank⟩ := split ((dropBlanks line.toList).drop 3)
  have mark : ∀ letter ∈ (dropBlanks line.toList).take 3,
      Text.isWord letter = true := by
    intro letter member
    obtain ⟨wanted, listed, same⟩ := exists_wanted_of_begins outer letter member
    exact isWord_of_end listed same
  -- the word before `subroutine` is the `end` of the line
  change ((both blanks (both word (both blanks (both (literal "subroutine")
    (both blanks (both (group 1 word) anything)))))).matchWith ⟨0, line.toList⟩ []
      fun cursor captures => some (Found.mk (line.toList.take cursor.position) cursor.rest captures)
        ).isSome = true
  rw [matchWith, blanks, matchWith, if_pos rfl, runGreedy_isSome_iff]
  refine ⟨front, _, whole, blank, ?_⟩
  rw [matchWith, word, matchWith, if_pos rfl, runGreedy_isSome_iff]
  refine ⟨_, _, (take_append_drop 3 _).symm, mark, ?_⟩
  rw [matchWith, matchWith, if_pos rfl, runGreedy_isSome_iff]
  refine ⟨gap, _, middle, alsoBlank, ?_⟩
  rw [matchWith, literal, matchWith_lettersOf, inner, if_pos rfl, matchWith, matchWith, if_pos rfl,
    runGreedy_isSome_iff]
  refine ⟨[], _, rfl, by simp, ?_⟩
  rw [matchWith, matchWith, matchWith, if_pos rfl, runGreedy_isSome_iff]
  refine ⟨[], _, rfl, by simp, ?_⟩
  rw [anything, matchWith, if_pos rfl, runGreedy_isSome_iff]
  exact ⟨[], _, rfl, by simp, rfl⟩

end Fortran

end Pattern

namespace Source

open Pattern

def directiveReaders : List (String → Option Event) :=
  [Event.branch?, Event.scheme?, Event.schemeEnd?, Event.dependants?, Event.dependantsEnd?,
    Event.region?, Event.regionEnd?]

section

variable {line : String} (ends : Pattern.Fortran.routineEnd.accepts line = true)

include ends

theorem match?_eq_none {pattern tail : Pattern} {name : String} {first : Char}
    (apart : Apart first 'e') (shape : ∀ text, pattern.matchLetters? text =
      (both blanks (both (literal name) tail)).matchLetters? text)
    (visible : isVisible name.toList = true) (head : name.toList.head? = some first) :
    pattern.match? line = none := by
  have outer := (Pattern.Fortran.begins_of_routineEnd ends).1
  rw [match?, shape]
  by_contra matched
  have begun := (begins_of_blanks visible (Option.isSome_iff_ne_none.mpr matched)).1
  have never : begins "end".toList _ = false := not_begins_of_apart apart head rfl begun
  exact absurd outer (never ▸ Bool.false_ne_true)

theorem directive_none_of_end {reader : String → Option Event} (listed : reader ∈ directiveReaders) :
    reader line = none := by
  have apart : Apart '@' 'e' := apart_mark (by decide)
  simp only [directiveReaders, mem_cons, not_mem_nil, or_false] at listed
  rcases listed with rfl | rfl | rfl | rfl | rfl | rfl | rfl
  all_goals
    exact Option.map_eq_none_iff.mpr (match?_eq_none ends apart (fun _ => rfl) (by decide) rfl)

theorem moduleBegin?_of_end : Event.moduleBegin? line = none := by
  have apart : Apart 'm' 'e' := apart_letters rfl rfl (by decide)
  exact Option.map_eq_none_iff.mpr (match?_eq_none ends apart (fun _ => rfl) (by decide) rfl)

theorem call?_of_end : Event.call? line = none := by
  have apart : Apart 'c' 'e' := apart_letters rfl rfl (by decide)
  exact Option.map_eq_none_iff.mpr (match?_eq_none ends apart (fun _ => rfl) (by decide) rfl)

/-- Both kinds of line begin with `end`; the next word tells them apart. -/
theorem moduleEnd?_of_end : Event.moduleEnd? line = none := by
  have inner := (Pattern.Fortran.begins_of_routineEnd ends).2
  have apart : Apart 'm' 's' := apart_letters rfl rfl (by decide)
  refine Option.map_eq_none_iff.mpr ?_
  by_contra matched
  obtain ⟨_, place, behind⟩ := @begins_of_blanks _ _ "end" _ 0 [] _ (by decide)
    (Option.isSome_iff_ne_none.mpr matched)
  have other := (begins_of_blanks (by decide) behind).1
  have never : begins "subroutine".toList _ = false := not_begins_of_apart apart rfl rfl other
  exact absurd inner (never ▸ Bool.false_ne_true)

end

def carriesName (line : String) : Bool :=
  (Pattern.Fortran.routineBegin.match? line).any fun found => !(found.group 1).isEmpty

/-- Where a line that ends a routine can be accepted, and what it is taken for there. -/
inductive EndTaken (line : String) : Place → Event → Prop
  | unseen {place : Place} (event : Event)
      (specification : place ∈ [.module, .interface, .typeDefinition]) : EndTaken line place event
  | closing {place : Place} (text : String) (inside : place ∈ [.declarations, .routineBody]) :
      EndTaken line place (.routineEnd text)
  | opening (event : Event) (named : carriesName line = true) : EndTaken line .moduleBody event

theorem endTaken_of_read {place : Place} {line : String} {event : Event}
    (plain : place ≠ .branch ∧ place ≠ .ignored)
    (ends : Pattern.Fortran.routineEnd.accepts line = true) (read : place.read line = .ok event) :
    EndTaken line place event := by
  obtain ⟨found, matched⟩ := Option.isSome_iff_exists.mp ends
  obtain ⟨began, alsoMatched⟩ :=
    Option.isSome_iff_exists.mp (Pattern.Fortran.routineBegin_of_routineEnd ends)
  have isEnd : Event.routineEnd? line = some (.routineEnd (Event.whole found)) := by
    rw [Event.routineEnd?, matched, Option.map_some]
  have isBegin : Event.routineBegin? line =
      some (.routineBegin (Event.whole began) (began.group 1)) := by
    rw [Event.routineBegin?, alsoMatched, Option.map_some]
  have directives : ∀ reader ∈ directiveReaders, reader line = none :=
    fun reader => directive_none_of_end ends
  simp only [directiveReaders, mem_cons, forall_eq_or_imp] at directives
  obtain ⟨noBranch, noScheme, noSchemeEnd, noDependants, noDependantsEnd, noRegion, noRegionEnd⟩ :=
    directives
  have noModule := moduleBegin?_of_end ends
  have noModuleEnd := moduleEnd?_of_end ends
  have noCall := call?_of_end ends
  have refused : ∀ event, readInDependants line ≠ .ok event := by
    intro event
    simp only [readInDependants, firstOf, findSome?_cons, findSome?_nil, noBranch,
      noDependantsEnd, noCall, noRegionEnd, noRegion, isEnd, Option.getD_none]
    split
    · exact fun read => by cases read
    · exact fun read => by cases read
  cases place with
  | outside =>
    simp only [Place.read, readOutside, firstOf, findSome?_cons, noBranch, noScheme,
      noSchemeEnd, noModule, isBegin] at read
    cases read
  | module | interface | typeDefinition => exact .unseen event (by decide)
  | moduleBody =>
    simp only [Place.read, readInModuleBody, firstOf, findSome?_cons, noBranch, noScheme,
      noSchemeEnd, noModuleEnd, isBegin, Option.getD_some] at read
    split at read
    · cases read
    · next named => exact .opening event (by simp [carriesName, alsoMatched, named])
  | declarations =>
    simp only [Place.read, readInDeclarations, firstOf, findSome?_cons, noBranch,
      noDependants, noCall, isEnd] at read
    cases read
    exact .closing _ (by decide)
  | routineBody =>
    simp only [Place.read, readInRoutineBody, firstOf, findSome?_cons, noBranch,
      noDependants, noCall, isEnd] at read
    cases read
    exact .closing _ (by decide)
  | parallelRegion =>
    simp only [Place.read, readInRegion, firstOf, findSome?_cons, noBranch, noCall,
      noRegionEnd, noRegion, isEnd] at read
    cases read
  | moduleDependants | dependants => exact absurd read (refused event)
  | branch => exact absurd rfl plain.1
  | ignored => exact absurd rfl plain.2

end Source

end ParallelFortran
