import ParallelFortran.Proofs.CodeFrame
import ParallelFortran.Proofs.Session
import ParallelFortran.Proofs.Text

/-! Where the code of a part of a routine stands in the code of its module: what is written for a
header or for a region is stripped, framed and joined, but it is not taken apart. -/

namespace ParallelFortran

open Xml List
open Text (Letters)
open Text.Letters (Tight dropBlanks dropBlanksRight)

namespace Text

variable {part text : String}

def Shows (text part : String) : Prop :=
  part.toList <:+: text.toList

theorem infix_dropBlanks {part text : Letters} (some : part ≠ [])
    (first : ∀ letter ∈ part.head?, isBlank letter = false) (inside : part <:+: text) :
    part <:+: dropBlanks text := by
  obtain ⟨front, back, rfl⟩ := inside
  obtain ⟨letter, rest, rfl⟩ := exists_cons_of_ne_nil some
  have begins : dropBlanks (letter :: rest ++ back) = letter :: rest ++ back :=
    Letters.dropBlanks_eq_self first
  rw [dropBlanks] at begins ⊢
  rw [append_assoc, dropWhile_append, begins]
  split
  · exact (prefix_append _ _).isInfix
  · exact ⟨_, back, append_assoc _ _ _⟩

theorem Shows.strip (tight : Tight part.toList) (shown : Shows text part) :
    Shows (strip text) part := by
  rw [Shows, Text.strip, String.toList_ofList]
  by_cases empty : part.toList = []
  · rw [empty]
    exact nil_infix
  · have front := infix_dropBlanks empty tight.first shown
    have back := infix_dropBlanks (by simpa using empty) tight.reverse.first
      ( reverse_infix.mpr front)
    have stripped := reverse_infix.mpr back
    rw [reverse_reverse] at stripped
    exact stripped

theorem strip_begins (text : Letters) : Letters.strip text <+: dropBlanks text := by
  rw [Letters.strip, dropBlanksRight, ← reverse_suffix, reverse_reverse]
  exact dropWhile_suffix _

theorem tight_strip (text : String) : Tight (strip text).toList := by
  have begins : ∀ letters, ∀ letter ∈ (dropBlanks letters).head?, isBlank letter = false := by
    intro letters letter first
    have seen := head?_dropWhile_not isBlank letters
    rw [dropBlanks] at first
    rwa [first] at seen
  rw [strip, String.toList_ofList]
  refine ⟨fun letter first => ?_, fun letter last => ?_⟩
  · obtain ⟨rest, same⟩ := strip_begins text.toList
    refine begins text.toList letter ?_
    rw [← same]
    exact mem_head?_append_of_mem_head? first
  · rw [Letters.strip, dropBlanksRight, getLast?_reverse] at last
    exact begins _ letter last

theorem shows_strip (text : String) : Shows text (strip text) := by
  rw [Shows, strip, String.toList_ofList]
  exact (strip_begins text.toList).isInfix.trans (dropWhile_suffix _).isInfix

theorem Shows.append (shown : Shows text part) (before behind : String) :
    Shows (before ++ text ++ behind) part := by
  rw [Shows, String.toList_append, String.toList_append]
  exact shown.trans (infix_append _ _ _)

theorem infix_intercalate {separator member : Letters} {parts : List Letters}
    (inside : member ∈ parts) : member <:+: separator.intercalate parts := by
  induction parts with
  | nil => cases inside
  | cons first rest ih =>
    cases rest with
    | nil =>
      rw [mem_singleton] at inside
      simp [inside]
    | cons second rest =>
      rw [intercalate_cons_cons]
      rcases mem_cons.mp inside with rfl | later
      · exact ⟨[], separator ++ separator.intercalate (second :: rest), by simp⟩
      · exact (ih later).trans (suffix_append _ _).isInfix

theorem Shows.joined (shown : Shows text part) (separator : String) {parts : List String}
    (inside : text ∈ parts) : Shows (join separator parts) part := by
  rw [Shows, join, String.toList_intercalate]
  exact shown.trans (infix_intercalate (mem_map_of_mem inside))

theorem shows_of_empty (empty : part.toList = []) (text : String) : Shows text part := by
  rw [Shows, empty]
  exact nil_infix

theorem Shows.not_isEmpty (shown : Shows text part) (some : part.toList ≠ []) :
    (!text.isEmpty) = true := by
  have visible : text.toList ≠ [] := by
    intro nothing
    rw [Shows, nothing] at shown
    exact some (infix_nil.mp shown)
  simpa using visible

end Text

theorem Text.Shows.framed {text part : String} (shown : Text.Shows text part)
    (tight : Tight part.toList) (isMarked : Bool) (kind : RegionKind) :
    Text.Shows (Region.framed isMarked kind text) part := by
  have stripped := shown.strip tight
  rw [Region.framed]
  split
  · exact stripped.append _ _
  · simpa using stripped.append "" "\n"

namespace Work

open Session (Steady)
open Text (Shows)

variable {region : Region}

/-- A part of the text meets the condition, and it is not changed when the text is stripped. -/
def Showing (condition : String → Prop) (text : String) : Prop :=
  ∃ part, Tight part.toList ∧ condition part ∧ Shows text part

namespace Showing

variable {parts : List String} {condition : String → Prop} {text : String}

variable (showing : Showing condition text)

include showing

theorem onward {other : String}
    (stays : ∀ part : String, Tight part.toList → Shows text part → Shows other part) :
    Showing condition other := by
  obtain ⟨part, tight, holds, shown⟩ := showing
  exact ⟨part, tight, holds, stays part tight shown⟩

theorem stripped : Showing condition (Text.strip text) :=
  showing.onward fun _ tight shown => shown.strip tight

theorem append (before behind : String) : Showing condition (before ++ text ++ behind) :=
  showing.onward fun _ _ shown => shown.append before behind

variable (separator : String)

section

variable (inside : text ∈ parts)

include inside

theorem joined : Showing condition (Text.join separator parts) :=
  showing.onward fun _ _ shown => shown.joined separator inside

theorem kept : Showing condition (Text.join separator (parts.filter (! ·.isEmpty))) := by
  refine showing.onward fun part _ shown => ?_
  by_cases empty : part.toList = []
  · exact Text.shows_of_empty empty _
  · exact shown.joined separator (mem_filter.mpr ⟨inside, shown.not_isEmpty empty⟩)

theorem joinParts : Showing condition (joinParts parts) := by
  refine showing.onward fun part _ shown => ?_
  by_cases empty : part.toList = []
  · exact Text.shows_of_empty empty _
  · have ended : Shows (text ++ "\n") part := by simpa using shown.append "" "\n"
    refine ended.joined "\n" (mem_map_of_mem ?_)
    exact mem_filter.mpr ⟨inside, shown.not_isEmpty empty⟩

end

theorem framed (isMarked : Bool) (kind : RegionKind) :
    Showing condition (Region.framed isMarked kind text) :=
  showing.onward fun _ tight shown => shown.framed tight isMarked kind

end Showing

variable {prepared : Session} {id : RoutineId} {isMarked : Bool} {condition : String → Prop}

def ShownBy (prepared : Session) (id : RoutineId) (isMarked : Bool) (condition : String → Prop)
    (region : Region) : Prop :=
  ∀ template state, Steady prepared state →
    Ensures (regionCode id isMarked template region) state fun text _ => Showing condition text

theorem regionCodes_shows (shown : ShownBy prepared id isMarked condition region)
    {regions : List Region} (inside : region ∈ regions) (template : Option NodeId) (state : Session)
    (follows : Steady prepared state) :
    Ensures (regionCodes id isMarked template regions) state fun texts _ =>
      ∃ text ∈ texts, Showing condition text := by
  induction regions generalizing state with
  | nil => cases inside
  | cons first rest ih =>
    rcases mem_cons.mp inside with rfl | later
    · refine .bind (shown template state follows) fun text _ showing => .skip fun texts _ => .pure ?_
      exact ⟨text, mem_cons_self, showing⟩
    · refine (regionCode_firm id isMarked template first).steady.onward follows fun _ _ follows => ?_
      refine .bind (ih later _ follows) ?_
      rintro texts _ ⟨text, member, showing⟩
      exact .pure ⟨text, mem_cons_of_mem _ member, showing⟩

/-- A text that is written for a region in a state that a session has come to. -/
abbrev WrittenIn (prepared : Session) (id : RoutineId) (isMarked : Bool) (template : Option NodeId)
    (region : Region) (text : String) : Prop :=
  ∃ state after, Steady prepared state ∧
    (regionCode id isMarked template region).run state = (.ok text, after)

/-- A text that was written for a region while the code of a routine was generated. -/
def Written (prepared : Session) (id : RoutineId) (region : Region) (text : String) : Prop :=
  ∃ isMarked template, WrittenIn prepared id isMarked template region text

theorem shownBy_written (prepared : Session) (id : RoutineId) (isMarked : Bool) (region : Region) :
    ShownBy prepared id isMarked
      (fun part => ∃ text, Written prepared id region text ∧ part = Text.strip text) region := by
  intro template state follows text after run
  exact ⟨Text.strip text, Text.tight_strip text,
    ⟨text, ⟨isMarked, template, state, after, follows, run⟩, rfl⟩, Text.shows_strip text⟩

variable {part : Region}

theorem shownBy_of_part (inside : part ∈ region.parts)
    (shown : ShownBy prepared id isMarked condition part) :
    ShownBy prepared id isMarked condition region := by
  cases region with
  | parallel own parts =>
    intro template state follows
    refine (surround_advances id _ own).onward follows fun around _ follows => ?_
    refine .bind (regionCodes_shows shown inside own _ follows) ?_
    rintro texts _ ⟨text, member, showing⟩
    refine .skip fun behind _ => .pure ?_
    exact ((showing.joined "\n" member).append _ _).framed isMarked .parallel
  | _ =>
    rw [mem_singleton.mp inside] at shown
    exact shown

section

variable (prepared : Session) (id : RoutineId)

def PartsShow (condition : String → Prop) : Prop :=
  ∀ state, Steady prepared state →
    Ensures (routineParts id) state fun parts _ => ∃ text ∈ parts, Showing condition text

def HeaderWritten (text : String) : Prop :=
  ∃ state after, Steady prepared state ∧ (headerCode id).run state = (.ok text, after)

theorem partsShow_header : PartsShow prepared id fun part =>
      ∃ text, HeaderWritten prepared id text ∧ part = Text.strip text := by
  intro state follows
  refine (updateSymbols_firm id).steady.onward follows fun _ _ follows => ?_
  refine (checkSymbols_advances id).onward follows fun _ state follows => ?_
  refine .bind (fun _ _ run => run) fun text after run => ?_
  refine .skip fun _ _ => .skip fun _ _ => .skip fun _ _ => .skip fun _ _ => .skip fun _ _ => .pure ?_
  exact ⟨text, mem_cons_self, _, Text.tight_strip text, ⟨text, ⟨state, after, follows, run⟩, rfl⟩,
    Text.shows_strip text⟩

end

theorem partsShow_region {body : RoutineBody}
    (found : (prepared.routine id).body = some body) (within : region ∈ body.regions)
    (inside : part ∈ region.parts) : PartsShow prepared id fun shown =>
      ∃ text, Written prepared id part text ∧ shown = Text.strip text := by
  intro state follows
  refine (updateSymbols_firm id).steady.onward follows fun _ _ follows => ?_
  refine (checkSymbols_advances id).onward follows fun _ _ follows => ?_
  refine (headerCode_firm id).steady.onward follows fun _ _ follows => ?_
  refine (additionalImportCode_firm id).steady.onward follows fun _ between follows => ?_
  obtain ⟨symbols, current⟩ := follows.body found
  refine .step (run_get between) (.step (run_body current) ?_)
  refine .bind (regionCodes_shows
    (shownBy_of_part inside (shownBy_written prepared id _ part)) within none between follows) ?_
  rintro texts _ ⟨text, member, showing⟩
  refine .skip fun _ _ => .pure ⟨text, ?_, showing⟩
  simp [member]

theorem routineCode_shows (shown : PartsShow prepared id condition) (state : Session)
    (follows : Steady prepared state) :
    Ensures (routineCode id) state fun code _ => Showing condition code := by
  refine (routine_advances id).looked fun _ => ?_
  refine .bind (.rethrown (shown state follows)) ?_
  rintro parts _ ⟨text, member, showing⟩
  exact .pure (showing.kept "\n" member)

variable (module : ModuleId) (session : Session)

theorem moduleCode_shows : Ensures (moduleCode module) session fun code _ => ∃ prepared,
      (prepareRoutines (session.module module).generated).run session = (.ok (), prepared) ∧
      ∀ id ∈ (session.module module).generated, ∀ condition,
        PartsShow prepared id condition → Showing condition code := by
  refine .step (run_pure _ session) ?_
  refine .bind (fun _ _ run => run) fun _ prepared run => ?_
  refine (changeModule_firm module _).steady.onward (refl_of Steady prepared) fun _ _ follows => ?_
  refine .bind (.map (Steady prepared) (fun id text =>
    ∀ condition, PartsShow prepared id condition → Showing condition text) ?_ follows) ?_
  · intro id _ state follows
    have written : Ensures (routineCode id) state fun code after => Steady prepared after ∧
        ∀ condition, PartsShow prepared id condition → Showing condition code :=
      fun code after run =>
        ⟨trans_of Steady follows ((routineCode_firm id).steady.ensures state code after run),
          fun condition shown => routineCode_shows shown state follows code after run⟩
    refine .bind written fun code after ⟨follows, shows⟩ => ?_
    refine (module_advances module).looked fun _ => (routine_advances id).looked fun _ => .pure ?_
    refine ⟨follows, fun condition shown => Showing.stripped ?_⟩
    simpa [String.append_assoc] using (shows condition shown).append "" _
  · rintro codes after ⟨_, related⟩
    refine .skip fun _ _ => .pure ⟨prepared, run, fun id inside condition shown => ?_⟩
    obtain ⟨code, member, shows⟩ := Ensures.related_mem related inside
    exact (shows condition shown).joinParts (by simp [member])

theorem moduleCode_shows_parts : Ensures (moduleCode module) session fun code _ => ∃ prepared,
      (prepareRoutines (session.module module).generated).run session = (.ok (), prepared) ∧
      ∀ id ∈ (session.module module).generated,
        (∃ text, HeaderWritten prepared id text ∧ Shows code (Text.strip text)) ∧
        ∀ body, (prepared.routine id).body = some body → ∀ region ∈ body.regions,
          ∀ part ∈ region.parts,
            ∃ text, Written prepared id part text ∧ Shows code (Text.strip text) := by
  refine (moduleCode_shows module session).weaken ?_
  rintro code _ ⟨prepared, run, shows⟩
  refine ⟨prepared, run, fun id inside => ⟨?_, fun body found region within part among => ?_⟩⟩
  · obtain ⟨_, _, ⟨text, written, rfl⟩, shown⟩ := shows id inside _ (partsShow_header prepared id)
    exact ⟨text, written, shown⟩
  · obtain ⟨_, _, ⟨text, written, rfl⟩, shown⟩ :=
      shows id inside _ (partsShow_region found within among)
    exact ⟨text, written, shown⟩

end Work

end ParallelFortran
