import ParallelFortran.Proofs.BracketLevels
import ParallelFortran.Proofs.SettingText
import ParallelFortran.Text.Specification

/-! Lists of words, each with or without a text in brackets behind it: they are read back, and so is what
stands behind them. -/

namespace ParallelFortran

open List
open Text (Letters isBlank isWord isItemCharacter joinParts cutItem separate)
open Text.Letters (strip dropBlanks dropBlanksRight Tight)
open CallGraph (Spaces blank_facts word_facts)

namespace Brackets

variable {text : Letters} {level next : Nat}

theorem levelAfter?_succ (counted : levelAfter? level text = some next) :
    levelAfter? (level + 1) text = some (next + 1) := by
  induction text generalizing level with
  | nil =>
    cases counted
    rfl
  | cons letter text ih =>
    rw [levelAfter?_cons] at counted
    split at counted
    · next isOpen =>
      have higher : (((level + 1 : Nat) : Int) + weight letter).toNat =
          ((level : Int) + weight letter).toNat + 1 := by omega
      rw [levelAfter?_cons, if_pos (by omega), higher]
      exact ih counted
    · cases counted

theorem splits {front back before after : Letters} {letter : Char}
    (whole : front ++ back = before ++ letter :: after) :
    (∃ more, front = before ++ letter :: more) ∨
      ∃ more, before = front ++ more ∧ back = more ++ letter :: after := by
  rcases append_eq_append_iff.mp whole with ⟨more, rfl, rfl⟩ | ⟨more, rfl, shape⟩
  · exact .inr ⟨more, rfl, rfl⟩
  · cases more with
    | nil => exact .inr ⟨[], by simp, shape.symm⟩
    | cons first more =>
      cases shape
      exact .inl ⟨more, rfl⟩

end Brackets

open Brackets

/-- A word with or without a text in brackets behind it. -/
structure Component where
  name : Letters
  content : Option Letters := none
  named : name ≠ [] := by decide
  isWord : name.all isWord = true := by decide
  filled : ∀ inner ∈ content, inner ≠ [] ∧ Balanced inner ∧ '\n' ∉ inner := by decide

namespace Component

variable (component : Component)

def text : Letters :=
  component.name ++ component.content.elim [] fun inner => '(' :: (inner ++ [')'])

def written : String := String.ofList component.text

theorem letters {letter : Char} (member : letter ∈ component.name) :
    Text.isWord letter = true ∧ isBlank letter = false ∧ isRound letter = false ∧ letter ≠ ',' ∧
      letter ≠ '\n' := by
  have isWord := all_eq_true.mp component.isWord letter member
  obtain ⟨visible, comma, feed, opening⟩ := word_facts isWord
  have closing : letter ≠ ')' := by
    rintro rfl
    exact absurd isWord (by decide)
  exact ⟨isWord, visible, by simp [isRound, opening, closing], comma, feed⟩

theorem levelAfter?_name (level : Nat) : levelAfter? level component.name = some level :=
  levelAfter?_unbracketed (fun _ member => (component.letters member).2.2.1) level

theorem balanced : Balanced component.text := by
  rw [Brackets.Balanced, text, levelAfter?_append, levelAfter?_name, Option.bind_some]
  cases shape : component.content with
  | none => rfl
  | some inner =>
    have counted := levelAfter?_succ (component.filled inner shape).2.1
    rw [Option.elim_some, levelAfter?, if_pos rfl, levelAfter?_append, counted]
    rfl

/-- What can be at a place of a component: a letter of its word, the bracket behind the word, or something
in brackets. -/
theorem place {component : Component} {before after : Letters} {letter : Char}
    (whole : component.text = before ++ letter :: after) :
    letter ∈ component.name ∨ letter = '(' ∨ levelAfter? 0 before ≠ some 0 := by
  rcases splits whole with ⟨more, shape⟩ | ⟨more, rfl, rest⟩
  · exact .inl (by simp [shape])
  · rw [levelAfter?_append, levelAfter?_name, Option.bind_some]
    cases content : component.content with
    | none =>
      rw [content] at rest
      simp at rest
    | some inner =>
      rw [content, Option.elim_some] at rest
      cases more with
      | nil => exact .inr (.inl (cons.inj rest).1.symm)
      | cons first inside =>
        obtain ⟨rfl, inBrackets⟩ := cons.inj rest
        have within : inside <+: inner := by
          have part : inside <+: inner ++ [')'] := ⟨_, inBrackets.symm⟩
          refine (prefix_concat_iff.mp part).resolve_left ?_
          rintro rfl
          simp at inBrackets
        obtain ⟨others, rfl⟩ := within
        have closes := (component.filled _ content).2.1
        rw [Brackets.Balanced, levelAfter?_append] at closes
        obtain ⟨level, counted, _⟩ := Option.bind_eq_some_iff.mp closes
        refine .inr (.inr ?_)
        rw [levelAfter?, if_pos rfl, levelAfter?_succ counted]
        simp

theorem visible : component.text ≠ [] := by
  simp [text, component.named]

theorem tight : Tight component.text := by
  obtain ⟨first, others, shape⟩ := exists_cons_of_ne_nil component.named
  constructor
  · intro letter head
    rw [text, shape] at head
    cases head
    exact (component.letters (by simp [shape])).2.1
  · intro letter last
    rw [text] at last
    cases content : component.content with
    | none =>
      rw [content, Option.elim_none, append_nil] at last
      exact (component.letters (mem_of_getLast? last)).2.1
    | some inner =>
      rw [content, Option.elim_some, ← cons_append, ← append_assoc, getLast?_concat] at last
      cases last
      rfl

theorem single : '\n' ∉ component.text := by
  rw [text]
  have name : '\n' ∉ component.name := fun feed => (component.letters feed).2.2.2.2 rfl
  cases content : component.content with
  | none => simpa using name
  | some inner =>
    simp [name, (component.filled inner content).2.2]

theorem undivided : Undivided component.text := by
  refine undivided_iff.mpr fun front back whole => ?_
  rcases place whole with name | opens | isOpen
  · exact absurd rfl (component.letters name).2.2.2.1
  · cases opens
  · exact isOpen

theorem isArgument : IsArgument component.text :=
  ⟨component.visible, component.tight, component.single, component.balanced, component.undivided⟩

end Component

/-- What can stand behind the last component of a list: its first visible letter is none that an item can
hold, as that of a value which is assigned. -/
structure IsTail (tail : Letters) : Prop where
  single : '\n' ∉ tail
  balanced : Balanced tail
  undivided : Undivided tail
  begins : ∀ letter ∈ (dropBlanks tail).head?, isItemCharacter letter = false

theorem isTail_nil : IsTail [] :=
  ⟨by simp, rfl, by decide, by simp [dropBlanks]⟩

def listing (components : List Component) : Letters :=
  [',', ' '].intercalate (components.map Component.text)

theorem listing_singleton (component : Component) : listing [component] = component.text :=
  intercalate_singleton

theorem listing_cons (first : Component) {components : List Component} (others : components ≠ []) :
    listing (first :: components) = first.text ++ ',' :: ' ' :: listing components := by
  rw [listing, map_cons, intercalate_cons_of_ne_nil (by simpa using others), append_assoc]
  rfl

theorem listing_ne_nil {components : List Component} (some : components ≠ []) :
    listing components ≠ [] := by
  obtain ⟨first, components, rfl⟩ := exists_cons_of_ne_nil some
  by_cases others : components = []
  · simp [others, listing_singleton, first.visible]
  · simp [listing_cons first others]

theorem tight_listing (components : List Component) : Tight (listing components) := by
  induction components with
  | nil => exact ⟨nofun, nofun⟩
  | cons first components ih =>
    by_cases others : components = []
    · simpa [others, listing_singleton] using first.tight
    · rw [listing_cons first others]
      constructor
      · rw [head?_append_of_ne_nil _ first.visible]
        exact first.tight.first
      · rw [getLast?_append_of_ne_nil _ (cons_ne_nil _ _), getLast?_cons_cons,
          getLast?_cons_of_ne_nil (listing_ne_nil others)]
        exact ih.last

namespace Text

/-! Items between commas -/

theorem run_joinParts {parts : List Letters} (more : List Letters) (parted : parts ≠ []) {level : Nat}
    {current : Letters} (single : '\n' ∉ [','].intercalate parts)
    (closes : levelAfter? level ([','].intercalate parts) = some 0)
    (undivided : ∀ front back, [','].intercalate parts = front ++ ',' :: back →
      levelAfter? level front ≠ some 0) (ever : Bool) :
    ∃ opened, ExceptT.run (joinParts (parts ++ more) current) ⟨level, ever⟩ =
      ExceptT.run (do
        let (items, unfinished) ← joinParts more []
        return (Letters.strip (current ++ [','].intercalate parts) :: items, unfinished)) ⟨0, opened⟩ := by
  induction parts generalizing level current ever with
  | nil => exact absurd rfl parted
  | cons part parts ih =>
    rw [cons_append, joinParts]
    cases parts with
    | nil =>
      rw [intercalate_singleton] at single closes ⊢
      obtain ⟨opened, run⟩ := run_levelAfter_some single closes ever
      refine ⟨opened, ?_⟩
      dsimp only
      rw [run_bind, run]
      rfl
    | cons second parts =>
      rw [intercalate_cons_cons, append_assoc, singleton_append] at single closes undivided
      rw [mem_append, not_or, mem_cons, not_or] at single
      rw [levelAfter?_append] at closes
      obtain ⟨next, counted, closes⟩ := Option.bind_eq_some_iff.mp closes
      have inside : next ≠ 0 := fun zero => undivided part _ rfl (by rw [counted, zero])
      obtain ⟨opened, run⟩ := run_levelAfter_some single.1 counted ever
      have later : ∀ front back, [','].intercalate (second :: parts) = front ++ ',' :: back →
          levelAfter? next front ≠ some 0 := by
        intro front back whole
        have before := undivided (part ++ ',' :: front) back (by simp [whole])
        rw [levelAfter?_append, counted] at before
        exact before
      obtain ⟨closed, rest⟩ := @ih (cons_ne_nil _ _) next (current ++ part ++ [',']) single.2.2 closes
        later opened
      refine ⟨closed, ?_⟩
      dsimp only
      have positive : ((next : Int) == 0) = false := by simpa using inside
      rw [run_bind, run]
      dsimp only
      rw [positive, if_neg Bool.false_ne_true, cons_append, isEmpty_cons,
        if_neg Bool.false_ne_true, ← cons_append, rest, intercalate_cons_cons]
      simp only [append_assoc]

theorem strip_append {front text : Letters} (blank : ∀ letter ∈ front, isBlank letter = true)
    (tight : Tight text) (visible : text ≠ []) (tail : Letters) :
    Letters.strip (front ++ (text ++ tail)) = text ++ dropBlanksRight tail := by
  have leading : dropBlanks (front ++ (text ++ tail)) = text ++ tail := by
    refine Pattern.dropBlanks_eq blank ?_
    obtain ⟨first, others, rfl⟩ := exists_cons_of_ne_nil visible
    exact tight.first
  have last : dropWhile isBlank text.reverse = text.reverse :=
    Letters.dropBlanks_eq_self tight.reverse.first
  rw [Letters.strip, leading, dropBlanksRight, reverse_append, dropWhile_append, last]
  split
  · next blank =>
    rw [List.isEmpty_iff] at blank
    rw [dropBlanksRight, blank, reverse_reverse, reverse_nil, append_nil]
  · rw [reverse_append, reverse_reverse, dropBlanksRight]

variable {front tail : Letters}

theorem run_joinParts_component (more : List Letters) (spaces : Spaces front) (component : Component)
    (behind : IsTail tail) (ever : Bool) :
    ∃ opened, ExceptT.run (joinParts ((front ++ (component.text ++ tail)).splitOn ',' ++ more) [])
        ⟨0, ever⟩ =
      ExceptT.run (do
        let (items, unfinished) ← joinParts more []
        return ((component.text ++ dropBlanksRight tail) :: items, unfinished)) ⟨0, opened⟩ := by
  have plain : Balanced front := levelAfter?_unbracketed
    (fun letter member => (blank_facts (spaces letter member).1).2.1) 0
  have joined := @run_joinParts _ more (splitOn_ne_nil ',' (front ++ (component.text ++ tail))) 0 []
  rw [intercalate_splitOn, nil_append,
    strip_append (fun letter member => (spaces letter member).1) component.tight component.visible]
    at joined
  refine joined ?_ (plain.append (component.balanced.append behind.balanced)) ?_ ever
  · simp only [mem_append, not_or]
    exact ⟨fun feed => (spaces _ feed).2 rfl, component.single, behind.single⟩
  · intro before after whole
    rcases splits whole with ⟨more, rfl⟩ | ⟨more, rfl, rest⟩
    · exact absurd rfl (blank_facts (spaces ',' (by simp)).1).2.2
    · rw [levelAfter?_append, plain, Option.bind_some]
      rcases splits rest with ⟨more, inside⟩ | ⟨more, rfl, inTail⟩
      · exact undivided_iff.mp component.undivided _ _ inside
      · rw [levelAfter?_append, component.balanced]
        exact undivided_iff.mp behind.undivided _ _ inTail

theorem run_joinParts_listing (components : List Component) (last : Component) (spaces : Spaces front)
    (behind : IsTail tail) (ever : Bool) :
    ∃ opened, ExceptT.run (joinParts ((front ++ (listing (components ++ [last]) ++ tail)).splitOn ',') [])
      ⟨0, ever⟩ =
        (.ok (components.map Component.text ++ [last.text ++ dropBlanksRight tail], []),
          ⟨0, opened⟩) := by
  induction components generalizing front ever with
  | nil =>
    obtain ⟨opened, run⟩ := run_joinParts_component [] spaces last behind ever
    rw [append_nil] at run
    exact ⟨opened, by rwa [nil_append, listing_singleton]⟩
  | cons first components ih =>
    obtain ⟨opened, run⟩ := run_joinParts_component
      ((' ' :: (listing (components ++ [last]) ++ tail)).splitOn ',') spaces first isTail_nil ever
    obtain ⟨closed, rest⟩ := @ih [' '] (by simp [Spaces]; decide) opened
    refine ⟨closed, ?_⟩
    have parts : front ++ (listing (first :: components ++ [last]) ++ tail) =
        front ++ (first.text ++ []) ++ ',' :: ' ' :: (listing (components ++ [last]) ++ tail) := by
      rw [cons_append, listing_cons first (by simp)]
      simp
    rw [singleton_append] at rest
    rw [parts, splitOn_append_cons_self, run, run_bind, rest]
    simp [dropBlanksRight]
    rfl

/-! The last item -/

theorem flatten_separate (isSeparator : Char → Bool) (text part : Letters) :
    (separate isSeparator text part).flatten = part.reverse ++ text := by
  induction text generalizing part with
  | nil => simp [separate]
  | cons letter text ih =>
    rw [separate]
    split <;> simp [ih]

theorem head?_strip (text : Letters) :
    (Letters.strip text).head? = (dropBlanks text).head? := by
  cases seen : dropBlanks text with
  | nil => rw [Letters.strip, seen]; rfl
  | cons first rest =>
    have visible : isBlank first = false := by
      have head := head?_dropWhile_not isBlank text
      rw [← dropBlanks, seen] at head
      exact head
    have begins := @strip_append [] [first] (by simp) ⟨by simpa using visible, by simpa using visible⟩
      (by simp) rest
    rw [Letters.strip, nil_append, Letters.dropBlanks_eq_self (by simpa using visible)] at begins
    rw [Letters.strip, seen, ← singleton_append, begins]
    rfl

theorem firstVisible?_eq (parts : List Letters) :
    firstVisible? parts = (dropBlanks parts.flatten).head? := by
  induction parts with
  | nil => rfl
  | cons part parts ih =>
    rw [firstVisible?, findSome?_cons, ← firstVisible?, ih, head?_strip, flatten_cons,
      dropBlanks, dropBlanks, dropBlanks, dropWhile_append]
    cases dropWhile isBlank part <;> rfl

theorem run_cutItem {part : Letters} (parts : List Letters) {level next : Nat} (single : '\n' ∉ part)
    (counted : levelAfter? level part = some next) (done : Letters) (ever : Bool) :
    ∃ opened, ExceptT.run (cutItem (part :: parts) done) ⟨level, ever⟩ =
      ExceptT.run (if (dropBlanks parts.flatten).head? != some '(' && (next : Int) == 0 then
        return some (Letters.strip (done ++ part), parts.flatten)
      else cutItem parts (done ++ part)) ⟨next, opened⟩ := by
  obtain ⟨opened, run⟩ := run_levelAfter_some single counted ever
  refine ⟨opened, ?_⟩
  rw [cutItem, run_bind, run, ← firstVisible?_eq]

/-- An item does not end in brackets. -/
theorem run_cutItem_inside {part : Letters} (parts : List Letters) {level next : Nat} {letter : Char}
    (single : '\n' ∉ part) (counted : levelAfter? level part = some next) (isOpen : next ≠ 0)
    (stays : levelAfter? next [letter] = some next) (other : '\n' ≠ letter) (done : Letters)
    (ever : Bool) :
    ∃ opened, ExceptT.run (cutItem (part :: [letter] :: parts) done) ⟨level, ever⟩ =
      ExceptT.run (cutItem parts (done ++ part ++ [letter])) ⟨next, opened⟩ := by
  have goesOn : ((next : Int) == 0) = false := by simpa using isOpen
  obtain ⟨first, before⟩ := run_cutItem ([letter] :: parts) single counted done ever
  obtain ⟨second, behind⟩ := run_cutItem parts (by simpa using other) stays (done ++ part) first
  rw [goesOn, Bool.and_false] at before behind
  exact ⟨second, before.trans behind⟩

theorem separate_of_head {isSeparator : Char → Bool} {text : Letters}
    (separates : ∀ letter ∈ text.head?, isSeparator letter = true) (part : Letters) :
    ∃ parts, separate isSeparator text part = part.reverse :: parts ∧ parts.flatten = text := by
  cases text with
  | nil => exact ⟨[], rfl, rfl⟩
  | cons letter text =>
    refine ⟨_, by rw [separate, if_pos (separates letter rfl)], ?_⟩
    rw [flatten_cons, flatten_separate]
    rfl

/-- Where a letter that no item holds stands in a text, a bracket is open. -/
def Attached (before text : Letters) : Prop :=
  ∀ front letter back, text = front ++ letter :: back → isItemCharacter letter = false →
    levelAfter? 0 (before ++ front) ≠ some 0

theorem Attached.behind {before text : Letters} {letter : Char} (attached : Attached before (letter :: text)) :
    Attached (before ++ [letter]) text := by
  intro front other back whole outside
  rw [append_assoc]
  exact attached (letter :: front) other back (by rw [whole]; rfl) outside

theorem not_item_of_blank {letter : Char} (blank : isBlank letter = true) :
    isItemCharacter letter = false := by
  have other : ∀ sign, isBlank sign = false → letter ≠ sign := by
    rintro sign visible rfl
    rw [visible] at blank
    cases blank
  have signs : [',', ':', '+', '-', '*', '/', '(', ')'].all (!isBlank ·) = true := by decide
  simp only [all_cons, Bool.and_eq_true, Bool.not_eq_true'] at signs
  simp [isItemCharacter, (blank_facts blank).1, other, signs]

theorem head_not_item (begins : ∀ letter ∈ (dropBlanks tail).head?, isItemCharacter letter = false) :
    ∀ letter ∈ tail.head?, isItemCharacter letter = false := by
  intro letter head
  by_cases blank : isBlank letter = true
  · exact not_item_of_blank blank
  · refine begins letter ?_
    rwa [Letters.dropBlanks_eq_self]
    rintro _ first
    cases Option.mem_unique head first
    simpa using blank

theorem run_cutItem_text {text done part : Letters}
    (begins : ∀ letter ∈ (dropBlanks tail).head?, isItemCharacter letter = false) {level : Nat}
    (single : '\n' ∉ part.reverse ++ text) (counted : levelAfter? 0 done = some level)
    (balanced : Balanced (done ++ (part.reverse ++ text)))
    (attached : Attached (done ++ part.reverse) text) (ever : Bool) :
    ∃ opened, ExceptT.run (cutItem (separate (!isItemCharacter ·) (text ++ tail) part) done)
      ⟨level, ever⟩ = (.ok (some (Letters.strip (done ++ (part.reverse ++ text)), tail)), ⟨0, opened⟩) := by
  induction text generalizing done part level ever with
  | nil =>
    obtain ⟨parts, parted, rfl⟩ := @separate_of_head (!isItemCharacter ·) tail
      (by simpa using head_not_item begins) part
    rw [append_nil] at single balanced ⊢
    rw [Brackets.Balanced, levelAfter?_append, counted] at balanced
    obtain ⟨opened, run⟩ := run_cutItem parts single balanced done ever
    have other : (dropBlanks parts.flatten).head? ≠ some '(' := fun opens =>
      absurd (begins '(' opens) (by decide)
    rw [nil_append, parted, run]
    exact ⟨opened, by simp [other]; rfl⟩
  | cons letter text ih =>
    by_cases holds : isItemCharacter letter = true
    · have joined : ∀ more, (letter :: part).reverse ++ more = part.reverse ++ letter :: more := by
        simp
      have rest := @ih done (letter :: part) level (by rwa [joined]) counted (by rwa [joined])
        (by simpa using attached.behind) ever
      rw [joined] at rest
      rw [cons_append, separate, if_neg (by simpa using holds)]
      exact rest
    · rw [Bool.not_eq_true] at holds
      have here := attached [] letter text rfl holds
      rw [append_nil, levelAfter?_append, counted, Option.bind_some] at here
      rw [Brackets.Balanced, levelAfter?_append, counted, Option.bind_some, levelAfter?_append] at balanced
      obtain ⟨next, inside, closes⟩ := Option.bind_eq_some_iff.mp balanced
      rw [inside, ne_eq, Option.some.injEq] at here
      have plain : isRound letter = false := by
        simp only [isItemCharacter, Bool.or_eq_false_iff] at holds
        simp [isRound, holds]
      have stays := @levelAfter?_unbracketed [letter] (by simpa using plain) next
      rw [← singleton_append, levelAfter?_append, stays, Option.bind_some] at closes
      rw [mem_append, mem_cons, not_or, not_or] at single
      have counted : levelAfter? 0 (done ++ part.reverse ++ [letter]) = some next := by
        rw [levelAfter?_append, levelAfter?_append, counted, Option.bind_some, inside]
        exact stays
      obtain ⟨between, passed⟩ := run_cutItem_inside (separate (!isItemCharacter ·) (text ++ tail) [])
        single.1 inside here stays single.2.1 done ever
      obtain ⟨opened, rest⟩ := @ih (done ++ part.reverse ++ [letter]) [] next single.2.2 counted
        (by rw [Brackets.Balanced, levelAfter?_append, counted]; exact closes)
        (by simpa using attached.behind) between
      rw [cons_append, separate, if_pos (by simpa using holds)]
      exact ⟨opened, passed.trans (by simpa using rest)⟩

end Text

open Text (Attached)

theorem Component.attached (component : Component) : Attached [] component.text := by
  intro front letter back whole outside
  rcases place whole with name | rfl | isOpen
  · rw [isItemCharacter, (component.letters name).1] at outside
    cases outside
  · cases outside
  · exact isOpen

namespace Text

/-- The components of a list are read back, and what stands behind them. -/
theorem componentsAndRemainder_listing {front tail : Letters} (components : List Component)
    (last : Component) (spaces : Spaces front) (isTail : IsTail tail) :
    componentsAndRemainder (String.ofList (front ++ (listing (components ++ [last]) ++ tail))) =
      .ok ((components ++ [last]).map Component.written,
        String.ofList (Letters.strip tail)) := by
  obtain ⟨_, joined⟩ := run_joinParts_listing components last spaces isTail false
  have begins : ∀ letter ∈ (dropBlanks (dropBlanksRight tail)).head?,
      isItemCharacter letter = false := by
    rw [← head?_strip, strip_dropBlanksRight, head?_strip]
    exact isTail.begins
  obtain ⟨_, cut⟩ := @run_cutItem_text _ last.text [] [] begins 0 last.single rfl last.balanced
    last.attached false
  have visible : ¬ (front ++ (listing (components ++ [last]) ++ tail)).all isBlank = true := by
    obtain ⟨first, others, shape⟩ := exists_cons_of_ne_nil (listing_ne_nil (by simp) :
      listing (components ++ [last]) ≠ [])
    have visible := (tight_listing (components ++ [last])).first first (by rw [shape]; rfl)
    rw [all_eq_true]
    intro blank
    rw [blank first (by simp [shape])] at visible
    cases visible
  rw [Int.ofNat_zero] at cut
  simp only [componentsAndRemainder, String.toList_ofList, if_neg visible, Letters.split_single,
    BracketCount.run', joined, bind, Except.bind, getLast?_concat, cut, dropLast_concat, Text.strip,
    strip_dropBlanksRight]
  simp [last.tight.strip_eq_self, pure, Except.pure, Component.written]

end Text

namespace Specification

open Text (lower startsWith)

theorem joinComponents_listing (components : List Component) :
    joinComponents (components.map Component.written) = String.ofList (listing components) := by
  induction components using reverseRecOn with
  | nil => rfl
  | append_singleton components last ih =>
    rw [joinComponents] at ih ⊢
    rw [map_append, map_singleton, foldl_concat, ih]
    by_cases none : components = []
    · simp [none, listing_singleton]; rfl
    · have visible : (String.ofList (listing components)).isEmpty = false := by
        simpa [String.isEmpty_eq_false_iff] using listing_ne_nil none
      apply String.toList_inj.mp
      rw [visible, listing, listing, map_append, map_singleton,
        Letters.intercalate_concat (by simpa using none)]
      simp [Component.written]

theorem componentsAndRemainder_whole (components : List Component) :
    Text.componentsAndRemainder (String.ofList (listing components)) =
      .ok (components.map Component.written, "") := by
  rcases eq_nil_or_concat' components with rfl | ⟨front, last, rfl⟩
  · have blank : (listing []).all isBlank = true := rfl
    simp only [Text.componentsAndRemainder, String.toList_ofList, blank, if_true]
    rfl
  · have read := @Text.componentsAndRemainder_listing [] [] front last (by simp [Spaces]) isTail_nil
    rw [nil_append, append_nil] at read
    exact read

/-- The component, in small letters, begins with none of the keywords. -/
def isKept (keywords : List String) (component : Component) : Bool :=
  keywords.all fun keyword => !startsWith (lower component.written) keyword

theorem purge_listing (components : List Component) (keywords : List String) :
    purge keywords (String.ofList (listing components)) =
      .ok (String.ofList (listing (components.filter (isKept keywords)))) := by
  have blank : ∀ letter ∈ [' '], isBlank letter = true := by simp [isBlank]
  have around := Text.Letters.strip_around blank (forall_mem_nil _)
    (tight_listing (components.filter (isKept keywords)))
  have empty : Text.strip "" = "" := rfl
  have kept : Text.strip (String.ofList (listing (components.filter (isKept keywords))) ++ " " ++
      Text.strip "") = String.ofList (listing (components.filter (isKept keywords))) := by
    rw [empty, Text.strip]
    simpa using congrArg String.ofList around
  rw [purge, componentsAndRemainder_whole]
  refine Eq.trans ?_ (congrArg Except.ok kept)
  rw [← joinComponents_listing]
  simp only [bind, Except.bind, filter_map, Function.comp_def, not_any_eq_all_not]
  rfl

/-- Of a list of components those remain that begin with none of the keywords, in their order, and it is
the same whether keywords are taken away together or one after the other. -/
theorem purge_components (components : List Component) (keywords others : List String) :
    purge keywords (String.ofList (listing components)) =
      .ok (String.ofList (listing (components.filter (isKept keywords)))) ∧
    (purge keywords (String.ofList (listing components)) >>= purge others) =
      purge (keywords ++ others) (String.ofList (listing components)) := by
  refine ⟨purge_listing components keywords, ?_⟩
  have both : ∀ component, (isKept keywords component && isKept others component) =
      isKept (keywords ++ others) component := by
    intro component
    rw [isKept, isKept, isKept, all_append]
  rw [purge_listing, purge_listing]
  refine (purge_listing _ others).trans ?_
  rw [filter_filter]
  simp only [Bool.and_comm, both]

/-- A line break in brackets hides what follows it, and the attribute is lost. -/
theorem purge_two_lines :
    (purge ["intent"] "real, dimension(1,\n2)").toOption = some "real" := by
  decide +kernel

end Specification

end ParallelFortran
