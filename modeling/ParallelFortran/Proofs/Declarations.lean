import Mathlib.Data.List.Chain
import ParallelFortran.Proofs.Components

/-! Declarations are read as they are written: a type with attributes, and behind two colons the objects,
or one object and what is assigned to it. -/

namespace ParallelFortran

open List
open Text (Letters isBlank isItemCharacter)
open Text.Letters (dropBlanks Tight)
open CallGraph (Spaces)
open Brackets

namespace Component

variable (component : Component)

def object : DataObject :=
  ⟨String.ofList component.name, component.content.map String.ofList⟩

theorem tight_name : Tight component.name where
  first _ head := (component.letters (mem_of_mem_head? head)).2.1
  last _ last := (component.letters (mem_of_getLast? last)).2.1

theorem find?_opening {front : Letters} (unopened : '(' ∉ front) (rest : Letters) :
    Text.Letters.find? ['('] (front ++ rest) =
      (Text.Letters.find? ['('] rest).map (· + front.length) := by
  induction front with
  | nil => simp
  | cons letter front ih =>
    rw [mem_cons, not_or] at unopened
    simp [Text.Letters.find?, ih unopened.2, unopened.1, Function.comp_def, Nat.add_assoc]

theorem readObject_text :
    Specification.readObject component.written = .ok component.object := by
  have alone : Text.strip (String.ofList component.name) = String.ofList component.name := by
    rw [Text.strip, String.toList_ofList]
    exact congrArg String.ofList component.tight_name.strip_eq_self
  have unopened : '(' ∉ component.name := fun opening =>
    absurd (component.letters opening).2.2.1 (by decide)
  have letters : "(".toList = ['('] ∧ ")".toList = [')'] := by decide
  rw [Specification.readObject, object, written, text]
  cases content : component.content with
  | none =>
    have absent : Text.find? "(" (String.ofList (component.name ++ [])) = none := by
      rw [Text.find?, letters.1, String.toList_ofList, find?_opening unopened]
      rfl
    rw [Option.elim_none, Text.nameAndContent, absent, append_nil]
    dsimp only
    rw [alone]
    rfl
  | some inner =>
    have left : Text.find? "(" (String.ofList (component.name ++ '(' :: (inner ++ [')']))) =
        some component.name.length := by
      rw [Text.find?, letters.1, String.toList_ofList, find?_opening unopened]
      simp [Text.Letters.find?]
    have right : Text.findLast? ")" (String.ofList (component.name ++ '(' :: (inner ++ [')']))) =
        some (component.name ++ '(' :: inner).length := by
      rw [Text.findLast?, letters.2, String.toList_ofList, ← cons_append, ← append_assoc]
      exact findLast?_concat ')' _
    have filled := length_pos_iff.mpr (component.filled inner content).1
    obtain ⟨count, size⟩ := Nat.exists_eq_add_one_of_ne_zero (mt length_eq_zero_iff.mp component.named)
    have long : (component.name ++ '(' :: inner).length = count + 1 + 1 + inner.length := by
      rw [length_append, size, length_cons]
      omega
    have behind : (component.name ++ '(' :: inner).drop (component.name.length + 1) = inner := by
      rw [drop_append]
      simp
    rw [Option.elim_some, Text.nameAndContent, left, size]
    simp only [right]
    rw [if_neg (by omega), ← size, Text.take, Text.take, Text.drop, String.toList_ofList,
      String.toList_ofList, take_left, alone, ← cons_append, ← append_assoc, take_left, behind]
    rfl

end Component

/-- No two colons stand side by side. -/
def Colonless (text : Letters) : Prop :=
  text.IsChain fun first second => first = ':' → second ≠ ':'

instance (text : Letters) : Decidable (Colonless text) :=
  inferInstanceAs (Decidable (text.IsChain _))

theorem colonless_listing {components : List Component}
    (each : ∀ component ∈ components, Colonless component.text) :
    Colonless (listing components ++ [' ', ':']) := by
  induction components with
  | nil => decide
  | cons first components ih =>
    rw [forall_mem_cons] at each
    by_cases others : components = []
    · rw [others, listing_singleton]
      exact isChain_append.mpr ⟨each.1, by decide, by simp⟩
    · rw [listing_cons first others, append_assoc]
      refine isChain_append.mpr ⟨each.1, isChain_cons.mpr ⟨by simp, ?_⟩, by simp⟩
      exact isChain_cons.mpr ⟨by simp, ih each.2⟩

theorem single_listing (components : List Component) : '\n' ∉ listing components :=
  joined_single (by simp [Component.isArgument])

namespace Pattern.Fortran

variable {left right text : Letters}

theorem not_begins_colons (plain : Colonless (left ++ [':'])) (some : left ≠ []) (rest : Letters) :
    begins "::".toList (left ++ rest) = false := by
  have colons : "::".toList = [':', ':'] := by decide
  have same : ∀ letter, caseless ':' letter = true → letter = ':' := by
    simp [caseless]
  obtain ⟨first, others, rfl⟩ := exists_cons_of_ne_nil some
  rw [colons, cons_append, begins]
  by_contra found
  rw [Bool.not_eq_false, Bool.and_eq_true] at found
  cases others with
  | nil => exact absurd (same first found.1) (by simpa [Colonless] using plain)
  | cons second others =>
    rw [cons_append, begins, Bool.and_eq_true] at found
    rw [Colonless, cons_append, cons_append, isChain_cons_cons] at plain
    exact plain.1 (same first found.1) (same second found.2.1)

theorem doubleColon_match (plain : Colonless (left ++ [':'])) (first : '\n' ∉ left)
    (second : '\n' ∉ right) :
    doubleColon.match? (String.ofList (left ++ ':' :: ':' :: right)) =
      some ⟨left ++ ':' :: ':' :: right, [], [(2, right), (1, left)]⟩ := by
  have colons : "::".toList = [':', ':'] := by decide
  rw [match?, String.toList_ofList, matchLetters?]
  change (both (group 1 little) (both (literal "::") (group 2 anything))).matchWith
    ⟨0, left ++ ':' :: ':' :: right⟩ [] _ = _
  rw [matchWith, matchWith, little, matchWith]
  refine runLazy_stop (onLine first) ?_ ?_
  · intro count bound
    have behind : Colonless (left.drop count ++ [':']) := by
      rw [← drop_append_of_le_length (Nat.le_of_lt bound)]
      exact plain.drop count
    have some : left.drop count ≠ [] := mt drop_eq_nil_iff.mp (Nat.not_le_of_lt bound)
    rw [matchWith, literal, matchWith_lettersOf, not_begins_colons behind some,
      if_neg Bool.false_ne_true]
  · rw [matchWith, literal, matchWith_lettersOf, colons]
    have written : begins [':', ':'] (':' :: ':' :: right) = true := rfl
    rw [if_pos written, matchWith, anything, matchWith]
    refine runGreedy_all (onLine second) ?_
    simp
    omega

def standardTypes : List String :=
  ["real", "integer", "character", "logical", "complex", "type"]

variable {α : Type}

theorem choice_isSome {parts : List Pattern} {part : Pattern} {cursor : Cursor} {captures : Captures}
    {next : Continuation α} (member : part ∈ parts)
    (found : (part.matchWith cursor captures next).isSome = true) :
    ((choice parts).matchWith cursor captures next).isSome = true := by
  induction parts with
  | nil => cases member
  | cons first parts ih =>
    cases parts with
    | nil =>
      rw [mem_singleton.mp member] at found
      exact found
    | cons second parts =>
      rw [choice, matchWith_either, Option.isSome_or, Bool.or_eq_true]
      · rcases mem_cons.mp member with rfl | later
        · exact .inl found
        · exact .inr (ih later)
      · simp

theorem runGreedy_isSome {accepts : Char → Bool} {captures : Captures} {next : Continuation α}
    {position : Nat} (found : (next ⟨position, text⟩ captures).isSome = true) :
    (runGreedy accepts captures next 0 position text).isSome = true :=
  runGreedy_isSome_iff.mpr ⟨[], text, rfl, forall_mem_nil _, found⟩

variable {type : String} (standard : type ∈ standardTypes) (named : begins type.toList text = true)

include standard named

theorem standardType_accepts : standardType.accepts (String.ofList text) = true := by
  have member : literal type ∈ sequence [literal "double", someBlanks, literal "precision"] ::
      standardTypes.map literal := mem_cons_of_mem _ (mem_map_of_mem standard)
  rw [accepts, match?, String.toList_ofList, matchLetters?]
  refine runGreedy_isSome (choice_isSome member ?_)
  rw [literal, matchWith_lettersOf, if_pos named]
  refine runGreedy_isSome ?_
  change ((optional _).matchWith _ _ _).isSome = true
  rw [optional, matchWith_either, Option.isSome_or, Bool.or_eq_true]
  exact .inr (runGreedy_isSome rfl)

theorem doublePrecision_eq_none : doublePrecision.match? (String.ofList text) = none := by
  have heads : standardTypes.all (fun type => isVisible type.toList && type.toList.head?.any
      fun first => first.isAlpha && Text.foldCase first != Text.foldCase 'd') = true := by
    decide
  have facts := all_eq_true.mp heads type standard
  simp only [Bool.and_eq_true, Option.any_eq_true, bne_iff_ne] at facts
  obtain ⟨visible, first, head, isAlpha, other⟩ := facts
  have apart : Apart first 'd' := apart_letters isAlpha rfl other
  by_contra found
  rw [← ne_eq, ← Option.isSome_iff_ne_none, match?, String.toList_ofList] at found
  have double := (@begins_of_blanks _ _ "double" _ _ _ _ (by decide) found).1
  rw [Text.Letters.dropBlanks_eq_self (head_not_blank visible named),
    not_begins_of_apart apart head (by decide) named] at double
  cases double

end Pattern.Fortran

/-- The word begins with a type of the language, in capital or small letters. -/
def Component.IsType (component : Component) : Prop :=
  ∃ type ∈ Pattern.Fortran.standardTypes, Pattern.begins type.toList component.name = true

namespace Specification

theorem mapM_readObject (components : List Component) :
    (components.map Component.written).mapM readObject = .ok (components.map Component.object) := by
  induction components with
  | nil => rfl
  | cons component components ih =>
    rw [map_cons, mapM_cons, component.readObject_text, ih]
    rfl

theorem readObjects_listing (objects : List Component) (last : Component) {tail : Letters}
    (isTail : IsTail tail) (alone : objects = [] ∨ tail = []) :
    readObjects (String.ofList (' ' :: (listing (objects ++ [last]) ++ tail))) =
      .ok ((objects ++ [last]).map Component.object, String.ofList (Text.Letters.strip tail)) := by
  have read := @Text.componentsAndRemainder_listing [' '] tail objects last
    (by simp [Spaces]; decide) isTail
  have fits : ¬ (((objects ++ [last]).map Component.written).length > 1 &&
      !Text.isBlankText (String.ofList (Text.Letters.strip tail))) = true := by
    rcases alone with rfl | rfl
    · simp
    · simp [Text.isBlankText, Text.Letters.strip, dropBlanks, Text.Letters.dropBlanksRight]
  rw [singleton_append] at read
  rw [readObjects, read]
  simp only [bind, Except.bind, mapM_readObject]
  rw [if_neg (by simp), if_neg fits]
  rfl

theorem read?_listing {type : Component} {attributes : List Component} (standard : type.IsType)
    (plain : ∀ component ∈ type :: attributes, Colonless component.text) (objects : List Component)
    (last : Component) {tail : Letters} (isTail : IsTail tail) (alone : objects = [] ∨ tail = []) :
    read? (String.ofList (listing (type :: attributes) ++ [' '] ++ ':' :: ':' ::
      (' ' :: (listing (objects ++ [last]) ++ tail)))) =
        .ok (some ⟨(type :: attributes).map Component.written,
          (objects ++ [last]).map Component.object, String.ofList (Text.Letters.strip tail)⟩) := by
  obtain ⟨name, member, named⟩ := standard
  have typed : Pattern.begins name.toList type.text = true := Pattern.begins_of_append named
  have starts : ∃ more, listing (type :: attributes) ++ [' '] = type.text ++ more := by
    by_cases others : attributes = []
    · exact ⟨[' '], by rw [others, listing_singleton]⟩
    · exact ⟨_, by rw [listing_cons type others, append_assoc]⟩
  obtain ⟨more, starts⟩ := starts
  have nothing : doublePrecision? (String.ofList (listing (type :: attributes) ++ [' '])) = none := by
    have begun : Pattern.begins name.toList (listing (type :: attributes) ++ [' ']) = true := by
      rw [starts]
      exact Pattern.begins_of_append typed
    rw [doublePrecision?, Pattern.Fortran.doublePrecision_eq_none member begun]
    rfl
  have space : IsTail [' '] := ⟨by decide, rfl, by decide, by rintro _ ⟨⟩⟩
  have read : Text.componentsAndRemainder (String.ofList (listing (type :: attributes) ++ [' '])) =
      .ok ((type :: attributes).map Component.written, "") := by
    obtain ⟨front, final, shape⟩ := (eq_nil_or_concat' (type :: attributes)).resolve_left (by simp)
    rw [shape]
    exact @Text.componentsAndRemainder_listing [] [' '] front final (by simp [Spaces]) space
  have left : '\n' ∉ listing (type :: attributes) ++ [' '] := by
    simp [single_listing]
  have right : '\n' ∉ ' ' :: (listing (objects ++ [last]) ++ tail) := by
    simp [single_listing, isTail.single]
  have colonless : Colonless (listing (type :: attributes) ++ [' '] ++ [':']) := by
    rw [append_assoc]
    exact colonless_listing plain
  rw [read?, Pattern.Fortran.doubleColon_match colonless left right]
  change readWithColons (String.ofList (listing (type :: attributes) ++ [' ']))
    (String.ofList (' ' :: (listing (objects ++ [last]) ++ tail))) = _
  have accepted : startsWithType ((type :: attributes).map Component.written) = true :=
    Pattern.Fortran.standardType_accepts member typed
  simp only [readWithColons, nothing, read, bind, Except.bind, pure, Except.pure, accepted, Bool.not_true,
    Bool.false_eq_true, if_false, readObjects_listing objects last isTail alone]

/-- The line declares the objects with the attributes, and something stands behind them. -/
def Declares (line : Letters) (attributes objects : List Component) (remainder : String) : Prop :=
  ∃ specification, read? (String.ofList line) = .ok (some specification) ∧
    specification.declaration = String.ofList (listing attributes) ∧
    specification.objects = objects.map Component.object ∧ specification.remainder = remainder

/-- Attributes, objects and the value of a single object are read as they are written. -/
theorem declarations_read (type : Component) (attributes : List Component) (standard : type.IsType)
    (plain : ∀ component ∈ type :: attributes, Colonless component.text) :
    (∀ objects : List Component, objects ≠ [] →
      Declares (listing (type :: attributes) ++ " :: ".toList ++ listing objects) (type :: attributes)
        objects "") ∧
    ∀ (object : Component) (value : Letters), IsTail value →
      Declares (listing (type :: attributes) ++ " :: ".toList ++ (object.text ++ value))
        (type :: attributes) [object] (String.ofList (Text.Letters.strip value)) := by
  have colons : " :: ".toList = [' ', ':', ':', ' '] := by decide
  have line : ∀ text, listing (type :: attributes) ++ [' '] ++ ':' :: ':' :: ' ' :: text =
      listing (type :: attributes) ++ " :: ".toList ++ text := by
    simp [colons]
  have declared : Text.join ", " ((type :: attributes).map Component.written) =
      String.ofList (listing (type :: attributes)) := by
    rw [Text.join, ← String.toList_inj, String.toList_intercalate, map_map, listing]
    simp [Function.comp_def, Component.written]
  refine ⟨fun objects some => ?_, fun object value isTail => ?_⟩
  · obtain ⟨front, last, rfl⟩ := (eq_nil_or_concat' objects).resolve_left some
    have read := read?_listing standard plain front last isTail_nil (.inr rfl)
    rw [line, append_nil] at read
    exact ⟨_, read, declared, rfl, rfl⟩
  · have read := read?_listing standard plain [] object isTail (.inl rfl)
    rw [line, nil_append, listing_singleton] at read
    exact ⟨_, read, declared, rfl, rfl⟩

def fieldType : Component where
  name := "Real".toList
  content := some "8".toList

def fieldIntent : Component where
  name := "intent".toList
  content := some "in".toList

def fieldObject : Component where
  name := "field".toList
  content := some "NX, size(2)".toList

theorem declarations_read_field :
    Declares "Real(8), intent(in) :: field(NX, size(2)), n".toList [fieldType, fieldIntent]
      [fieldObject, { name := "n".toList }] "" ∧
    Declares "Real(8), intent(in) :: field(NX, size(2)) = max(0, 1)".toList [fieldType, fieldIntent]
      [fieldObject] "= max(0, 1)" := by
  have read := declarations_read fieldType [fieldIntent] ⟨"real", by decide, by decide⟩ (by decide)
  exact ⟨read.1 [fieldObject, { name := "n".toList }] (cons_ne_nil _ _),
    read.2 fieldObject " = max(0, 1)".toList ⟨by decide, by decide, by decide, by rintro _ ⟨⟩; rfl⟩⟩

/-- An object that goes over two lines is not read. -/
theorem read?_two_lines :
    Balanced "1,\n2".toList ∧ read? "real :: a(1,\n2)" = .error (.text .noDataObjects) :=
  ⟨by decide, by rfl⟩

end Specification

end ParallelFortran
