import ParallelFortran.Proofs.Brackets
import ParallelFortran.Proofs.EndLines

/-! Specifications as they are written: a list of settings, each a name with its entries in brackets.
A reader takes one setting after the other off a specification. -/

namespace ParallelFortran

open List
open Text (Letters isBlank isWord)

namespace CallGraph

open Brackets Text.Letters

/-- A setting of a specification: a name, and the entries in the brackets behind it. -/
structure Setting where
  name : String
  entries : List String
deriving DecidableEq

structure IsEntry (entry : String) : Prop where
  visible : entry.toList ≠ []
  tight : Tight entry.toList
  undivided : ',' ∉ entry.toList
  single : '\n' ∉ entry.toList
  balanced : Balanced entry.toList
  ordinary : entry ≠ Xml.found

instance (entry : String) : Decidable (IsEntry entry) :=
  decidable_of_iff (entry.toList ≠ [] ∧ Tight entry.toList ∧ ',' ∉ entry.toList ∧
      '\n' ∉ entry.toList ∧ Balanced entry.toList ∧ entry ≠ Xml.found)
    ⟨fun is => ⟨is.1, is.2.1, is.2.2.1, is.2.2.2.1, is.2.2.2.2.1, is.2.2.2.2.2⟩,
      fun is => ⟨is.visible, is.tight, is.undivided, is.single, is.balanced, is.ordinary⟩⟩

structure Setting.Proper (setting : Setting) : Prop where
  named : setting.name.toList ≠ []
  isWord : ∀ letter ∈ setting.name.toList, isWord letter = true
  some : setting.entries ≠ []
  entries : ∀ entry ∈ setting.entries, IsEntry entry

variable {setting : Setting}

instance (setting : Setting) : Decidable setting.Proper :=
  decidable_of_iff (setting.name.toList ≠ [] ∧ setting.name.toList.all isWord = true ∧
      setting.entries ≠ [] ∧ ∀ entry ∈ setting.entries, IsEntry entry)
    ⟨fun is => ⟨is.1, all_eq_true.mp is.2.1, is.2.2.1, is.2.2.2⟩,
      fun is => ⟨is.named, all_eq_true.mpr is.isWord, is.some, is.entries⟩⟩

variable (text : Letters)

def Spaces : Prop :=
  ∀ letter ∈ text, isBlank letter = true ∧ letter ≠ '\n'

/-- What may stand between two settings: commas and blanks within a line. -/
def Separators : Prop :=
  ∀ letter ∈ text, (letter == ',' || isBlank letter) = true ∧ letter ≠ '\n'

instance : Decidable (Separators text) :=
  decidable_of_iff ((text.all fun letter =>
    (letter == ',' || isBlank letter) && letter != '\n') = true) (by simp [Separators])

/-- Entries as they are written: one comma between two of them, and any blanks around each. -/
inductive ListsEntries : List String → Letters → Prop
  | last {front back : Letters} (entry : String) : Spaces front → Spaces back →
      ListsEntries [entry] (front ++ entry.toList ++ back)
  | next {front back rest : Letters} {entries : List String} (entry : String) :
      Spaces front → Spaces back → ListsEntries entries rest →
      ListsEntries (entry :: entries) (front ++ entry.toList ++ back ++ ',' :: rest)

inductive Spells : List Setting → Letters → Prop
  | nothing {text : Letters} : Separators text → Spells [] text
  | setting {lead gap inner rest : Letters} {settings : List Setting} (setting : Setting) :
      Separators lead → Spaces gap → ListsEntries setting.entries inner → Spells settings rest →
      Spells (setting :: settings)
        (lead ++ (setting.name.toList ++ (gap ++ '(' :: (inner ++ ')' :: rest))))

def plainEntries : List String → Letters
  | [] => []
  | [entry] => entry.toList
  | entry :: entries => entry.toList ++ ',' :: plainEntries entries

def Setting.plain (setting : Setting) : Letters :=
  setting.name.toList ++ '(' :: (plainEntries setting.entries ++ [')'])

def plainSettings : List Setting → Letters
  | [] => []
  | setting :: settings => setting.plain ++ settings.flatMap fun other => ',' :: ' ' :: other.plain

variable {entries : List String}

theorem listsEntries_plain (some : entries ≠ []) :
    ListsEntries entries (plainEntries entries) := by
  have nothing : Spaces [] := forall_mem_nil _
  induction entries with
  | nil => exact absurd rfl some
  | cons entry entries ih =>
    cases entries with
    | nil =>
      have last := ListsEntries.last entry nothing nothing
      rwa [append_nil] at last
    | cons second entries =>
      have next := ListsEntries.next entry nothing nothing (ih (cons_ne_nil _ _))
      rwa [append_nil] at next

variable {settings : List Setting}

theorem spells_plain (some : ∀ setting ∈ settings, setting.entries ≠ []) :
    Spells settings (plainSettings settings) := by
  have one : ∀ {lead rest : Letters} {setting : Setting} {others : List Setting}, Separators lead →
      setting.entries ≠ [] → Spells others rest →
      Spells (setting :: others) (lead ++ (setting.plain ++ rest)) := by
    intro lead rest setting others separators some spelled
    have next := Spells.setting setting separators (forall_mem_nil _)
      (listsEntries_plain some) spelled
    simpa [Setting.plain] using next
  have others : ∀ {settings : List Setting}, (∀ setting ∈ settings, setting.entries ≠ []) →
      Spells settings (settings.flatMap fun other => ',' :: ' ' :: other.plain) := by
    intro settings some
    induction settings with
    | nil => exact .nothing (forall_mem_nil _)
    | cons setting settings ih =>
      have rest := ih fun other member => some other (.tail _ member)
      have comma : Separators [',', ' '] := by decide
      exact one comma (some setting mem_cons_self) rest
  cases settings with
  | nil => exact .nothing (forall_mem_nil _)
  | cons setting settings =>
    have rest := others fun other member => some other (.tail _ member)
    exact one (forall_mem_nil _) (some setting mem_cons_self) rest

example : String.ofList (plainSettings [⟨"domName", ["x", "y"]⟩, ⟨"domSize", ["NX"]⟩]) =
    "domName(x,y), domSize(NX)" := by
  decide +kernel

variable {letter : Char}

theorem not_isWord_of_blank (blank : isBlank letter = true) :
    isWord letter = false := by
  have member := Text.mem_blankLetters blank
  unfold isWord
  split
  · have each : Text.blankLetters.all (fun letter => !(letter.isAlphanum || letter == '_')) = true := by
      decide +kernel
    simpa using all_eq_true.mp each letter member
  · next beyond =>
    -- the table is looked through as a list, which the kernel evaluates much faster
    have each : Text.blankLetters.all (fun letter => letter.toNat < 128 ||
        !(Text.wordRanges.toList.any fun range =>
          decide (range.1 ≤ letter.toNat) && decide (letter.toNat ≤ range.2))) = true := by
      decide +kernel
    have outside := all_eq_true.mp each letter member
    rw [Text.inRanges]
    simpa [beyond] using outside

theorem blank_facts (blank : isBlank letter = true) :
    isWord letter = false ∧ isRound letter = false ∧ letter ≠ ',' := by
  have each : Text.blankLetters.all (fun letter => !isRound letter && letter != ',') = true := by
    decide +kernel
  have facts := all_eq_true.mp each letter (Text.mem_blankLetters blank)
  exact ⟨not_isWord_of_blank blank, by simpa using facts⟩

theorem word_facts (isWord : isWord letter = true) :
    isBlank letter = false ∧ letter ≠ ',' ∧ letter ≠ '\n' ∧ letter ≠ '(' := by
  have plain : ∀ other, Text.isWord other = false → letter ≠ other := by
    rintro other no rfl
    rw [no] at isWord
    cases isWord
  refine ⟨?_, plain _ (by decide), plain _ (by decide), plain _ (by decide)⟩
  by_contra blank
  rw [Bool.not_eq_false] at blank
  rw [(blank_facts blank).1] at isWord
  cases isWord

namespace ListsEntries

variable {text : Letters}

variable (lists : ListsEntries entries text) (proper : ∀ entry ∈ entries, IsEntry entry)

include lists proper

theorem balanced : Balanced text := by
  have space : ∀ {text}, Spaces text → Balanced text := fun spaces =>
    levelAfter?_unbracketed (fun letter member => (blank_facts (spaces letter member).1).2.1) 0
  have comma : Balanced [','] := rfl
  induction lists with
  | last entry front back =>
    exact ((space front).append (proper entry mem_cons_self).balanced).append (space back)
  | next entry front back _ ih =>
    have rest := ih fun other member => proper other (.tail _ member)
    exact (((space front).append (proper entry mem_cons_self).balanced).append
      (space back)).append (comma.append rest)

theorem single : '\n' ∉ text := by
  have space : ∀ {text}, Spaces text → '\n' ∉ text := fun spaces member =>
    (spaces _ member).2 rfl
  induction lists with
  | last entry front back =>
    simp [space front, space back, (proper entry mem_cons_self).single]
  | next entry front back _ ih =>
    have rest := ih fun other member => proper other (.tail _ member)
    simp [space front, space back, (proper entry mem_cons_self).single, rest]

theorem stripped : ListsEntries entries (strip text) := by
  have begins : ∀ {front rest : Letters} {entry : String}, Spaces front → IsEntry entry →
      dropBlanks (front ++ (entry.toList ++ rest)) = entry.toList ++ rest := by
    intro front rest entry spaces isEntry
    refine Pattern.dropBlanks_eq (fun letter member => (spaces letter member).1) ?_
    intro letter first
    rw [head?_append_of_ne_nil _ isEntry.visible] at first
    exact isEntry.tight.first letter first
  have nothing : Spaces [] := forall_mem_nil _
  have left : ListsEntries entries (dropBlanks text) := by
    cases lists with
    | last entry front back =>
      have kept := ListsEntries.last entry nothing back
      rw [append_assoc, begins front (proper entry mem_cons_self)]
      exact kept
    | next entry front back rest =>
      have kept := ListsEntries.next entry nothing back rest
      rw [append_assoc, append_assoc, begins front (proper entry mem_cons_self),
        ← append_assoc]
      exact kept
  rw [strip]
  generalize dropBlanks text = shortened at left
  clear lists
  induction left with
  | @last front back entry spaces blanks =>
    have kept := ListsEntries.last entry spaces nothing
    have cut : dropBlanksRight (front ++ entry.toList ++ back) = front ++ entry.toList ++ [] := by
      have isEntry := proper entry mem_cons_self
      rw [dropBlanksRight_append fun letter member => (blanks letter member).1, append_nil]
      refine dropBlanksRight_eq_self ?_
      rw [getLast?_append_of_ne_nil _ isEntry.visible]
      exact isEntry.tight.last
    rw [cut]
    exact kept
  | @next front back rest others entry spaces blanks _ ih =>
    have kept := ListsEntries.next entry spaces blanks
      (ih fun other member => proper other (.tail _ member))
    rw [dropBlanksRight_append_cons (by decide)]
    exact kept

theorem split : (text.splitOn ',').map strip = entries.map String.toList := by
  have space : ∀ {text}, Spaces text → ',' ∉ text := fun spaces member =>
    (blank_facts (spaces _ member).1).2.2 rfl
  have alone : ∀ {front back : Letters} {entry : String}, Spaces front → Spaces back →
      IsEntry entry → ',' ∉ front ++ entry.toList ++ back ∧
        strip (front ++ entry.toList ++ back) = entry.toList := by
    intro front back entry before behind isEntry
    refine ⟨by simp [space before, space behind, isEntry.undivided], ?_⟩
    exact strip_around (fun letter member => (behind letter member).1)
      (fun letter member => (before letter member).1) isEntry.tight
  induction lists with
  | last entry front back =>
    obtain ⟨undivided, stripped⟩ := alone front back (proper entry mem_cons_self)
    rw [splitOn_eq_singleton undivided, map_singleton, stripped]
    rfl
  | next entry front back _ ih =>
    obtain ⟨undivided, stripped⟩ := alone front back (proper entry mem_cons_self)
    have rest := ih fun other member => proper other (.tail _ member)
    rw [splitOn_append_cons_self_of_not_mem undivided, map_cons, stripped, rest]
    rfl

end ListsEntries

theorem Setting.Proper.strip_name (proper : setting.Proper) :
    Text.strip setting.name = setting.name := by
  have tight : Tight setting.name.toList :=
    ⟨fun letter first => (word_facts (proper.isWord letter (mem_of_mem_head? first))).1,
      fun letter last => (word_facts (proper.isWord letter (mem_of_mem_getLast? last))).1⟩
  rw [Text.strip, tight.strip_eq_self, String.ofList_toList]

variable {text : Letters}

theorem entries_read (lists : ListsEntries entries text)
    (proper : ∀ entry ∈ entries, IsEntry entry) :
    (Text.strip (String.ofList text)).isEmpty = false ∧
      ((Text.split "," (Text.strip (String.ofList text))).map Text.strip).filter (! ·.isEmpty) =
        entries := by
  have stripped := lists.stripped proper
  have letters : (Text.strip (String.ofList text)).toList = strip text := by
    rw [Text.strip, String.toList_ofList, String.toList_ofList]
  refine ⟨?_, ?_⟩
  · rw [← Bool.not_eq_true, String.isEmpty_iff, ← String.toList_eq_nil_iff, letters]
    generalize strip text = shortened at stripped
    cases stripped with
    | last entry => simp [(proper entry mem_cons_self).visible]
    | next entry => simp
  · have comma : ",".toList = [','] := rfl
    have parts : (Text.split "," (Text.strip (String.ofList text))).map Text.strip = entries := by
      have divided := congrArg (map String.ofList) (stripped.split proper)
      rw [Text.split, comma, split_single]
      simpa [Text.strip, Function.comp_def] using divided
    rw [parts, filter_eq_self]
    intro entry member
    have visible := (proper entry member).visible
    rw [Bool.not_eq_true', ← Bool.not_eq_true, String.isEmpty_iff, ← String.toList_eq_nil_iff]
    exact visible

theorem Spells.single (spells : Spells settings text)
    (proper : ∀ setting ∈ settings, setting.Proper) : '\n' ∉ text := by
  induction spells with
  | nothing separators => exact fun member => (separators _ member).2 rfl
  | setting setting separators spaces lists _ ih =>
    obtain ⟨_, isWord, _, isEntry⟩ := proper setting mem_cons_self
    have inner := lists.single isEntry
    have rest := ih fun other member => proper other (.tail _ member)
    simp only [mem_append, mem_cons, not_or]
    refine ⟨fun member => (separators _ member).2 rfl,
      fun member => (word_facts (isWord _ member)).2.2.1 rfl,
      fun member => (spaces _ member).2 rfl, by decide, inner, by decide, rest⟩

open Pattern in
theorem setting_match? {lead name gap tail : Letters} (separators : Separators lead)
    (named : name ≠ []) (isWord : ∀ letter ∈ name, isWord letter = true) (spaces : Spaces gap)
    (single : '\n' ∉ tail) :
    ∃ found, Fortran.setting.match? (String.ofList (lead ++ (name ++ (gap ++ '(' :: tail)))) =
        some found ∧ found.group 1 = String.ofList name ∧
      found.group 2 = String.ofList ('(' :: tail) := by
  obtain ⟨first, others, shape⟩ := exists_cons_of_ne_nil named
  have behindLead : ∀ letter ∈ (name ++ (gap ++ '(' :: tail)).head?,
      (fun letter => letter == ',' || isBlank letter) letter = false := by
    rintro letter begins
    rw [shape] at begins isWord
    cases begins
    have facts := word_facts (isWord first mem_cons_self)
    simp [facts]
  have behindName : ∀ letter ∈ (gap ++ '(' :: tail).head?, Text.isWord letter = false := by
    cases gap with
    | nil =>
      rintro letter ⟨⟩
      decide
    | cons blank gap =>
      rintro letter ⟨⟩
      exact (blank_facts (spaces blank mem_cons_self).1).1
  let whole := lead ++ (name ++ (gap ++ '(' :: tail))
  have bracket : ∀ (position : Nat) (captures : Captures) (next : Continuation Found) result,
      next ⟨position + 1 + tail.length, []⟩ ((2, '(' :: tail) :: captures) = some result →
      (group 2 (both (literal "(") anything)).matchWith ⟨position, '(' :: tail⟩ captures next =
        some result := by
    intro position captures next result holds
    have literalRound : literal "(" = one (caseless '(') := rfl
    have same : caseless '(' '(' = true := rfl
    rw [matchWith, matchWith, literalRound, matchWith]
    refine runGreedy_all (onLine single) ?_
    have taken : ('(' :: tail).take (position + 1 + tail.length - position) = '(' :: tail :=
      take_of_length_le (by simp; omega)
    simp only [taken]
    exact holds
  refine ⟨⟨whole, [], [(2, '(' :: tail), (1, name)]⟩, ?_, rfl, rfl⟩
  change (both (run (fun letter => letter == ',' || isBlank letter) 0 true)
    (both (group 1 word) (both blanks (group 2 (both (literal "(") anything))))).matchWith
      ⟨0, (String.ofList whole).toList⟩ [] _ = _
  rw [String.toList_ofList, matchWith, matchWith, if_pos rfl]
  refine runGreedy_stop (fun letter member => (separators letter member).1) behindLead ?_
  refine runGreedy_stop isWord behindName ?_
  refine runGreedy_stop (fun letter member => (spaces letter member).1) (by
    rintro letter ⟨⟩
    decide) ?_
  refine bracket _ _ _ _ ?_
  have takenAll : whole.take (0 + lead.length + name.length + gap.length + 1 + tail.length) = whole :=
    take_of_length_le (by simp [whole]; omega)
  have takenName : (name ++ (gap ++ '(' :: tail)).take
      (0 + lead.length + name.length - (0 + lead.length)) = name := by
    rw [Nat.add_sub_cancel_left, take_left]
  simp only [takenAll, takenName]

open Pattern in
theorem setting_match?_eq_none (separators : Separators text) :
    Fortran.setting.match? (String.ofList text) = none := by
  rw [← Option.not_isSome_iff_eq_none]
  intro matched
  change ((both (run (fun letter => letter == ',' || isBlank letter) 0 true)
    (both (group 1 word) (both blanks (group 2 (both (literal "(") anything))))).matchWith
      ⟨0, (String.ofList text).toList⟩ [] _).isSome = true at matched
  rw [String.toList_ofList, matchWith, matchWith, if_pos rfl, runGreedy_isSome_iff] at matched
  obtain ⟨lead, _, rfl, _, matched⟩ := matched
  rw [matchWith, matchWith, word, matchWith, if_pos rfl, runGreedy_isSome_iff] at matched
  obtain ⟨name, _, rfl, _, matched⟩ := matched
  rw [matchWith, blanks, matchWith, if_pos rfl, runGreedy_isSome_iff] at matched
  obtain ⟨gap, rest, rfl, _, matched⟩ := matched
  have bracket : literal "(" = one (· == '(') := rfl
  rw [matchWith, matchWith, bracket, matchWith] at matched
  cases rest with
  | nil => cases matched
  | cons letter rest =>
    have separates := (separators letter (by simp)).1
    simp only at matched
    split at matched
    · next opens =>
      rw [beq_iff_eq] at opens
      subst opens
      cases separates
    · cases matched

end CallGraph

end ParallelFortran
