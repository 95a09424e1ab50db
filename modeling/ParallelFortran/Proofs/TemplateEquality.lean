import Mathlib.Data.List.Perm.Subperm
import ParallelFortran.Proofs.Duplicate
import ParallelFortran.Proofs.TemplateContent

/-! When two templates count as equal. The search for a duplicate compares texts, entries, settings and
templates in turn; on templates with proper settings it finds those with the same settings, whose order
does not matter, with the same entries in the same order. -/

namespace ParallelFortran.CallGraph

open Xml List

variable {left right settings : List Setting} {entry : String}

theorem IsEntry.ne_empty (isEntry : IsEntry entry) : entry ≠ "" := by
  rintro rfl
  exact isEntry.visible rfl

variable {known : String}

theorem firstDuplicate?_text (visible : known ≠ "") (isEntry : IsEntry entry) :
    firstDuplicate? true [.text known] (.text entry) = .ok ([known].findIdx? (· == entry)) := by
  rw [firstDuplicate?]
  · refine @search_eq String [known] Tree.text (fun _ => true) (· == entry) _ _ (some entry) _
      (by simp [sameAttributes, Tree.isElement, Tree.attributes]) rfl ?_
    intro item member place
    rw [mem_singleton] at member
    subst member
    have agree := textsAgree_texts isEntry.ne_empty visible isEntry.ordinary
    rw [textsAgree, begin_texts isEntry.ne_empty visible, Option.any_some] at agree
    have texts : mergedValue (.text item) = .ok (some item) := rfl
    simp only [texts,
      bind, Except.bind, begin_texts isEntry.ne_empty visible, agree]
    rfl
  · simp

theorem compareChildren_text (visible : known ≠ "") (isEntry : IsEntry entry)
    (comparison : Comparison) : compareChildren [.text known] comparison [.text entry] =
      .ok (comparison.note false (known == entry)) := by
  have isSome : ([known].findIdx? (· == entry)).isSome = (known == entry) := by
    by_cases same : known = entry <;> simp [same]
  rw [compareChildren, firstDuplicate?_text visible isEntry]
  change compareChildren [.text known] (Comparison.note _ false _) [] = _
  rw [compareChildren, isSome]

theorem firstDuplicate?_entry {known : List String} (visible : ∀ text ∈ known, text ≠ "")
    (isEntry : IsEntry entry) : firstDuplicate? true (known.map entryTree) (entryTree entry) =
      .ok (known.findIdx? (· == entry)) := by
  refine @search_eq String known entryTree (fun _ => true) (· == entry) _ _ (some entry) _
    (by simp [sameAttributes, entryTree, Tree.tag?, Tree.attributes]) rfl ?_
  intro item member place
  have shape : (entryTree item).children = [.text item] := rfl
  have texts : mergedValue (entryTree item) = .ok (some item) := rfl
  simp only [shape, texts, bind, Except.bind,
    begin_texts isEntry.ne_empty (visible item member),
    compareChildren_text (visible item member) isEntry]
  have noted : ∀ comparison : Comparison, comparison.elements = true →
      (comparison.note false (item == entry)).holds = (item == entry) := by
    intro comparison whole
    have apart : missing ≠ found := by decide
    by_cases same : item = entry <;> simp [Comparison.note, Comparison.holds, whole, apart]
  rw [noted _ rfl]
  rfl

def mergedEntries (entries : List String) : Option String :=
  if entries.length = 1 then none else some (Text.join "," entries)

variable {setting : Setting}

theorem mergedValue_setting (proper : setting.Proper) :
    mergedValue setting.tree = .ok (mergedEntries setting.entries) := by
  have each : (setting.entries.map entryTree).mapM entryValue = .ok setting.entries := by
    rw [mapM_eq_ok_iff, forall₂_map_left_iff, forall₂_same]
    intro entry member
    change Except.ok (Text.strip entry) = _
    rw [Text.strip, (proper.entries entry member).tight.strip_eq_self, String.ofList_toList]
  have some := proper.some
  rw [Setting.tree, mergedEntries]
  generalize setting.entries = entries at each some
  rcases entries with _ | ⟨first, _ | ⟨second, rest⟩⟩
  · exact absurd rfl some
  · rfl
  · have elements : ((first :: second :: rest).map entryTree).all Tree.isElement = true := by
      simp [entryTree, Tree.isElement]
    have entries : ((first :: second :: rest).map entryTree).all
        (fun child => child.tag? == Option.some "entry") = true := by
      simp [entryTree, Tree.tag?]
    rw [map_cons, map_cons] at *
    simp only [mergedValue, Tree.data?, Tree.children]
    rw [elements, entries, each]
    rfl

theorem toList_join (entries : List String) :
    (Text.join "," entries).toList = [','].intercalate (entries.map String.toList) :=
  String.toList_intercalate

theorem join_injective {left right : List String} (proper : ∀ entry ∈ left, IsEntry entry)
    (properRight : ∀ entry ∈ right, IsEntry entry) (some : left ≠ []) (someRight : right ≠ [])
    (same : Text.join "," left = Text.join "," right) : left = right := by
  have parts : ∀ {entries : List String}, (∀ entry ∈ entries, IsEntry entry) → entries ≠ [] →
      ((Text.join "," entries).toList.splitOn ',').map String.ofList = entries := by
    intro entries isEntry some
    have undivided : ∀ part ∈ entries.map String.toList, ',' ∉ part := by
      intro part member
      obtain ⟨entry, inside, rfl⟩ := mem_map.mp member
      exact (isEntry entry inside).undivided
    rw [toList_join, splitOn_intercalate _ undivided (by simpa using some)]
    simp [Function.comp_def]
  rw [← parts proper some, ← parts properRight someRight, same]

theorem entries_agree {known new : List String} (proper : ∀ entry ∈ new, IsEntry entry)
    (properKnown : ∀ entry ∈ known, IsEntry entry) (some : new ≠ []) :
    (known.length == new.length && textsAgree (mergedEntries new) (mergedEntries known) &&
      new.all fun entry => known.contains entry) = (known == new) := by
  by_cases sizes : known.length = new.length
  · have someKnown : known ≠ [] := by
      rintro rfl
      exact some (eq_nil_of_length_eq_zero sizes.symm)
    by_cases single : new.length = 1
    · obtain ⟨entry, rfl⟩ := length_eq_one_iff.mp single
      obtain ⟨other, rfl⟩ := length_eq_one_iff.mp (sizes.trans single)
      have texts : textsAgree none none = true := rfl
      have members : ([entry].all fun text => [other].contains text) = ([other] == [entry]) := by
        by_cases same : other = entry
        · simp [same]
        · have different : [other] ≠ [entry] := by simpa using same
          rw [beq_eq_false_iff_ne.mpr different]
          simpa using Ne.symm same
      have alone : ∀ text, mergedEntries [text] = none := fun _ => rfl
      have size : ([other].length == [entry].length) = true := rfl
      rw [members, size, alone, alone, texts, Bool.true_and, Bool.true_and]
    · have several : ∀ {entries : List String}, entries ≠ [] → entries.length ≠ 1 →
          ',' ∈ (Text.join "," entries).toList := by
        intro entries some several
        match entries with
        | [] => exact absurd rfl some
        | [entry] => exact absurd rfl several
        | first :: second :: rest =>
          rw [toList_join, map_cons, map_cons]
          simp
      have visible : ∀ {text : String}, ',' ∈ text.toList → text ≠ "" ∧ text ≠ found := by
        rintro text inside
        refine ⟨?_, ?_⟩
        · rintro rfl
          revert inside
          decide
        · rintro rfl
          revert inside
          decide
      have own := visible (several some single)
      have other := visible (several someKnown (by rwa [sizes]))
      rw [mergedEntries, mergedEntries, if_neg single, if_neg (by rwa [sizes]),
        textsAgree_texts own.1 other.1 own.2]
      by_cases same : known = new
      · subst same
        simp
      · have different := fun joined =>
          same (join_injective properKnown proper someKnown some joined)
        rw [beq_eq_false_iff_ne.mpr different, beq_eq_false_iff_ne.mpr same, Bool.and_false,
          Bool.false_and]
  · have different : known ≠ new := by
      rintro rfl
      exact sizes rfl
    rw [beq_eq_false_iff_ne.mpr sizes, beq_eq_false_iff_ne.mpr different, Bool.false_and,
      Bool.false_and]

theorem firstDuplicate?_setting {known : List Setting} (proper : setting.Proper)
    (properKnown : ∀ other ∈ known, other.Proper) :
    firstDuplicate? true (known.map Setting.tree) setting.tree =
      .ok (known.findIdx? (· == setting)) := by
  have search := @firstDuplicate?_elements Setting String known Setting.tree
    (fun other => other.name == setting.name) setting.entries entryTree setting.name []
    (mergedEntries setting.entries) (fun other => mergedEntries other.entries)
    (fun other entry => other.entries.contains entry) (fun _ _ => rfl) ?_
    (mergedValue_setting proper) (fun other member => mergedValue_setting (properKnown other member)) ?_
  · rw [Setting.tree, search]
    have equal : ∀ other ∈ known, (other.name == setting.name &&
        (other.tree.children.length == setting.entries.length &&
          textsAgree (mergedEntries setting.entries) (mergedEntries other.entries) &&
          setting.entries.all fun entry => other.entries.contains entry)) = (other == setting) := by
      intro other member
      have size : other.tree.children.length = other.entries.length := length_map _
      rw [size, entries_agree proper.entries (properKnown other member).entries proper.some]
      by_cases same : other = setting
      · simp [same]
      · rw [beq_eq_false_iff_ne.mpr same]
        by_contra both
        cases other
        simp_all
    rw [findIdx?_congr equal]
  · intro other member
    by_cases same : other.name = setting.name
    · simp [sameAttributes, Setting.tree, Tree.tag?, Tree.attributes, same]
    · simp [sameAttributes, Setting.tree, Tree.isElement, Tree.tag?, same]
  · intro other member entry inside
    refine ⟨_, firstDuplicate?_entry ?_ (proper.entries entry inside), ?_⟩
    · intro text listed
      exact ((properKnown other member).entries text listed).ne_empty
    · rw [findIdx?_isSome, any_beq']

/-- Settings that a specification can give: proper ones, no two of the same name. -/
structure ProperSettings (settings : List Setting) : Prop where
  each : ∀ setting ∈ settings, setting.Proper
  distinct : (settings.map Setting.name).Nodup

instance (settings : List Setting) : Decidable (ProperSettings settings) :=
  decidable_of_iff ((∀ setting ∈ settings, setting.Proper) ∧ (settings.map Setting.name).Nodup)
    ⟨fun is => ⟨is.1, is.2⟩, fun is => ⟨is.each, is.distinct⟩⟩

/-- The same settings with the same entries, in whatever order the settings stand. -/
def SameSettings (left right : List Setting) : Prop :=
  ∀ setting, setting ∈ left ↔ setting ∈ right

instance (left right : List Setting) : Decidable (SameSettings left right) :=
  decidable_of_iff ((left.all right.contains) = true ∧ (right.all left.contains) = true) <| by
    simp only [all_eq_true, contains_iff_mem]
    exact ⟨fun both setting => ⟨both.1 setting, both.2 setting⟩,
      fun same => ⟨fun setting => (same setting).mp, fun setting => (same setting).mpr⟩⟩

theorem SameSettings.symm (same : SameSettings left right) : SameSettings right left :=
  fun setting => (same setting).symm

theorem SameSettings.trans {middle : List Setting} (first : SameSettings left middle)
    (second : SameSettings middle right) : SameSettings left right :=
  fun setting => (first setting).trans (second setting)

theorem ProperSettings.nodup (proper : ProperSettings settings) : settings.Nodup :=
  proper.distinct.of_map _

theorem settings_agree {known new : List Setting} (nodupKnown : known.Nodup) (nodup : new.Nodup) :
    (known.length == new.length && new.all fun setting => known.contains setting) =
      decide (SameSettings known new) := by
  rw [Bool.eq_iff_iff]
  simp only [Bool.and_eq_true, beq_iff_eq, all_eq_true, contains_iff_mem,
    decide_eq_true_eq]
  constructor
  · rintro ⟨sizes, found⟩
    have inside : new ⊆ known := fun setting member => found setting member
    have perm := (nodup.subperm inside).perm_of_length_le (Nat.le_of_eq sizes)
    exact fun setting => perm.mem_iff.symm
  · intro same
    have perm := (perm_ext_iff_of_nodup nodupKnown nodup).mpr same
    exact ⟨perm.length_eq, fun setting member => (same setting).mpr member⟩

theorem mergedValue_template (proper : ProperSettings settings) (tag id : String) :
    mergedValue (templateTree tag id settings) =
      .ok (if settings.isEmpty then some "" else none) := by
  match settings with
  | [] => rfl
  | [setting] => rfl
  | first :: second :: rest =>
    have elements : ((first :: second :: rest).map Setting.tree).all Tree.isElement = true := by
      simp [Setting.tree, Tree.isElement]
    have mixed : ((first :: second :: rest).map Setting.tree).all
        (fun child => child.tag? == Option.some "entry") = false := by
      have apart : first.name ≠ second.name := by
        have distinct := proper.distinct
        simp only [map_cons, nodup_cons, mem_cons, not_or] at distinct
        exact distinct.1.1
      by_cases isEntry : first.name = "entry"
      · rw [isEntry] at apart
        simp [Setting.tree, Tree.tag?, Ne.symm apart]
      · simp [Setting.tree, Tree.tag?, isEntry]
    rw [map_cons, map_cons] at elements mixed
    simp only [templateTree, mergedValue, Tree.data?, Tree.children, map_cons]
    rw [elements, mixed]
    rfl

variable {ι : Type} {shelf : List ι} {idOf : ι → String} {settingsOf : ι → List Setting}

theorem firstDuplicate?_template (proper : ProperSettings settings)
    (properKnown : ∀ item ∈ shelf, ProperSettings (settingsOf item)) (tag id : String) :
    firstDuplicate? true (shelf.map fun item => templateTree tag (idOf item) (settingsOf item))
      (templateTree tag id settings) =
      .ok (shelf.findIdx? fun item => decide (SameSettings (settingsOf item) settings)) := by
  have search := @firstDuplicate?_elements ι Setting shelf
    (fun item => templateTree tag (idOf item) (settingsOf item)) (fun _ => true) settings Setting.tree
    tag [("id", some id)] (if settings.isEmpty then some "" else none)
    (fun item => if (settingsOf item).isEmpty then some "" else none)
    (fun item setting => (settingsOf item).contains setting) (fun _ _ => rfl) ?_
    (mergedValue_template proper tag id)
    (fun item member => mergedValue_template (properKnown item member) tag (idOf item)) ?_
  · have agree : ∀ known,
        textsAgree (if settings.isEmpty then some "" else none) known = true := by
      intro known
      cases settings <;> rfl
    rw [templateTree, search]
    refine congrArg Except.ok (findIdx?_congr fun item member => ?_)
    have size : (templateTree tag (idOf item) (settingsOf item)).children.length =
        (settingsOf item).length := length_map _
    rw [Bool.true_and, size, agree, Bool.and_true,
      settings_agree (properKnown item member).nodup proper.nodup]
  · simp [sameAttributes, templateTree, Tree.isElement, Tree.tag?, Tree.attributes]
  · intro item member setting inside
    refine ⟨_, firstDuplicate?_setting (proper.each setting inside) (properKnown item member).each, ?_⟩
    rw [findIdx?_isSome, any_beq']

end ParallelFortran.CallGraph
