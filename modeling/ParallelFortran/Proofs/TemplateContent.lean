import ParallelFortran.Proofs.Growth
import ParallelFortran.Proofs.SettingText

/-! What a template is filled with: one element for every setting of its specification, and in it one
for every entry. -/

open List

namespace ParallelFortran.CallGraph

open Xml Xml.Store

def entryTree (entry : String) : Tree :=
  .element "entry" [] [.text entry]

def Setting.tree (setting : Setting) : Tree :=
  .element setting.name [] (setting.entries.map entryTree)

def templateTree (tag id : String) (settings : List Setting) : Tree :=
  .element tag [("id", some id)] (settings.map Setting.tree)

theorem Setting.elements_tree (setting : Setting) {element : String × Attributes}
    (member : element ∈ setting.tree.elements) :
    element = (setting.name, []) ∨ element = ("entry", []) := by
  simp only [Setting.tree, Tree.elements, elementsOf_eq_flatMap, flatMap_map, entryTree] at member
  rcases mem_cons.mp member with own | entry
  · exact .inl own
  · obtain ⟨_, _, inside⟩ := mem_flatMap.mp entry
    exact .inr (mem_singleton.mp inside)

theorem Setting.inside_tree (setting : Setting) {tag : String} (entry : tag ≠ "entry")
    (named : setting.name ≠ tag) : setting.tree.inside tag = [] := by
  rw [Tree.inside, map_eq_nil_iff, filter_eq_nil_iff]
  intro element member
  rcases setting.elements_tree member with rfl | rfl
  · simpa using named
  · simpa using Ne.symm entry

section Filling

variable {store : Store} {document : Document} {parent : NodeId}
  (unfrozen : document.frozen = false) (arranged : Arranged store)
  (tagged : (store.tag? parent).isSome)

include unfrozen arranged tagged

theorem addEntries_yields {entries : List String} {text : Text.Letters}
    (lists : ListsEntries entries text) (proper : ∀ entry ∈ entries, IsEntry entry) :
    Yields (addEntries document parent (some (String.ofList text))) store fun ids after =>
      Filled store after parent ids (entries.map entryTree) := by
  obtain ⟨visible, read⟩ := entries_read lists proper
  unfold addEntries addSeparated
  simp only [visible, read]
  exact addTextElements_yields unfrozen arranged tagged "entry" entries

theorem addSettings_yields {settings : List Setting} {text : Text.Letters}
    (spells : Spells settings text) (proper : ∀ setting ∈ settings, setting.Proper) {fuel : Nat}
    (enough : text.length < fuel) :
    Yields (addSettings document parent fuel (String.ofList text)) store fun _ after =>
      ∃ ids, Filled store after parent ids (settings.map Setting.tree) := by
  have known := bound_of_tag tagged
  induction spells generalizing store fuel with
  | nothing separators =>
    obtain ⟨fuel, rfl⟩ : ∃ less, fuel = less + 1 := ⟨fuel - 1, by omega⟩
    rw [addSettings, setting_match?_eq_none separators]
    exact .pure ⟨[], .nil arranged parent⟩
  | @setting lead gap inner rest settings setting separators spaces lists spelled ih =>
    obtain ⟨fuel, rfl⟩ : ∃ less, fuel = less + 1 := ⟨fuel - 1, by omega⟩
    have own := proper setting mem_cons_self
    have others : ∀ other ∈ settings, other.Proper := fun other member =>
      proper other (.tail _ member)
    have single : '\n' ∉ inner ++ ')' :: rest := by
      simp [lists.single own.entries, spelled.single others]
    obtain ⟨found, matched, first, second⟩ := setting_match? separators own.named own.isWord spaces
      single
    have name : Text.strip (found.group 1) = setting.name := by
      rw [first, String.ofList_toList, own.strip_name]
    have bracket : (Brackets.textWithin .round (found.group 2).toList).run' = .ok (inner, rest) := by
      rw [second, String.toList_ofList]
      exact Brackets.textWithin_round (lists.balanced own.entries) single
    rw [addSettings, matched]
    simp only [name]
    refine Leads.yields (sprout_leads (fun frozen => by simp [unfrozen] at frozen) arranged known
      (fun untagged => by simp [untagged] at tagged) fun element placed filled => ?_)
    have isElement : (placed.tag? element).isSome := by simp [tag?, filled.label]
    rw [bracket]
    refine Yields.leads (.step (run_outcome rfl placed) ?_) _
    refine (addEntries_yields unfrozen filled.grown.arranged isElement lists own.entries).bind ?_
    intro _ listed inside
    have whole := filled.inner inside known
    have size := whole.grown.size
    refine (ih whole.grown.arranged (whole.grown.tagged tagged) others (by simp at enough; omega)
      (by omega)).weaken ?_
    rintro _ after ⟨ids, remaining⟩
    exact ⟨element :: ids, whole.trans remaining known⟩

end Filling

end ParallelFortran.CallGraph
