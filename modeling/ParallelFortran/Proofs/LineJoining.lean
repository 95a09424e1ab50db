import ParallelFortran.Proofs.LineBreaking
import ParallelFortran.Proofs.QuoteSearch
import ParallelFortran.Proofs.RoutineNames
import ParallelFortran.Text.Continuation

/-! A line that has been broken is joined again: the marks and indentations of its pieces go, and a
blank is left at every cut. -/

namespace ParallelFortran

open List

namespace Text

open Letters

def directiveMarks : List String := ["!$OMP", "!$ACC"]

/-! Lines without comments -/

theorem withoutComment_directive {front rest : Letters} {mark : String}
    (blank : ∀ letter ∈ front, isBlank letter = true) (known : mark ∈ directiveMarks)
    (found : Pattern.begins mark.toList rest = true) :
    withoutComment (.ofList (front ++ rest)) = .ok (.ofList (front ++ rest)) := by
  rw [withoutComment, if_pos]
  rw [isCompilerDirective, any_eq_true]
  refine ⟨.both .blanks (.literal mark), ?_, ?_⟩
  · refine mem_map_of_mem (f := fun mark => Pattern.both .blanks (.literal mark)) ?_
    exact mem_append_left ["!PGI"] known
  · rw [Pattern.accepts, Pattern.match?, String.toList_ofList, Pattern.matchLetters?,
      Pattern.matchWith, Pattern.blanks, Pattern.matchWith, if_pos rfl, Pattern.runGreedy_isSome_iff]
    refine ⟨front, rest, rfl, blank, ?_⟩
    rw [Pattern.literal, Pattern.matchWith_lettersOf, if_pos found]
    rfl

theorem withoutComment_plain {text : Letters} (absent : '!' ∉ text) :
    withoutComment (.ofList text) = .ok (.ofList text) := by
  have nowhere : occurrences ['!'] text 0 = [] := by
    rw [eq_nil_iff_forall_not_mem]
    intro position member
    obtain ⟨_, _, occurs⟩ := mem_occurrences.mp member
    exact absent (mem_of_mem_drop (occurs.subset mem_cons_self))
  have none : findFirstOutsideQuotes "!" (.ofList text) (-1) false = .ok none := by
    have search := @findFirstOutside_eq ['!'] text (cons_ne_nil _ _) false searchLimit 0
    rw [nowhere] at search
    rw [findFirstOutsideQuotes_eq]
    simp only [String.toList_ofList]
    exact search
  rw [withoutComment, none]
  split <;> rfl

/-! Ends of lines -/

theorem isLineBreak_of_space {letter : Char} (space : isBlank letter = true → letter = ' ') :
    isLineBreak letter = false := by
  by_contra isBreak
  simp only [isLineBreak, Bool.not_eq_false, Bool.or_eq_true, beq_iff_eq] at isBreak
  rcases isBreak with ((rfl | rfl) | rfl) | rfl <;> exact absurd (space (by decide)) (by decide)

theorem linesKeepingEnds_ended {lines : List Letters} (single : ∀ line ∈ lines, '\n' ∉ line) :
    linesKeepingEnds (.ofList (lines.flatMap (· ++ ['\n']))) =
      lines.map fun line => .ofList (line ++ ['\n']) := by
  have parts : (lines.flatMap (· ++ ['\n'])).splitOn '\n' = lines ++ [[]] := by
    rw [flatMap_ended, splitOn_intercalate '\n' _ (by simp)]
    exact forall_mem_append.mpr ⟨single, by simp⟩
  have split : split "\n" (.ofList (lines.flatMap (· ++ ['\n']))) = lines.map .ofList ++ [""] := by
    rw [Text.split, String.toList_ofList, String.toList_ofList, split_single, parts, map_append]
    rfl
  simp [linesKeepingEnds, split]

theorem squeezeLines_tabs (depth : Nat) (rest : Letters) :
    squeezeLines true (replicate depth '\t' ++ rest) = squeezeLines true rest := by
  induction depth with
  | zero => rfl
  | succ depth ih => exact ih

theorem squeezeLines_line {line : Letters} (single : ∀ letter ∈ line, isLineBreak letter = false)
    (behind : Bool) (first : behind = true → ∃ letter ∈ line.head?, isBlank letter = false)
    (rest : Letters) :
    squeezeLines behind (line ++ '\n' :: rest) = line ++ '\n' :: squeezeLines true rest := by
  induction line generalizing behind with
  | nil =>
    cases behind with
    | false => rfl
    | true => simp at first
  | cons letter line ih =>
    rw [forall_mem_cons] at single
    have visible : (behind && isSpace letter) = false := by
      cases behind with
      | false => rfl
      | true =>
        obtain ⟨_, ⟨⟩, solid⟩ := first rfl
        by_contra space
        simp only [isSpace, Bool.true_and, Bool.not_eq_false, Bool.or_eq_true, beq_iff_eq] at space
        rcases space with rfl | rfl <;> exact absurd solid (by decide)
    have later : squeezeLines false (line ++ '\n' :: rest) = line ++ '\n' :: squeezeLines true rest :=
      ih single.2 false (by simp)
    simp [squeezeLines, single.1, visible, later]

theorem joinContinuations_ended {lines : List Letters} (single : ∀ line ∈ lines, '\n' ∉ line)
    (plain : ∀ line ∈ lines,
      withoutComment (.ofList (line ++ ['\n'])) = .ok (.ofList (line ++ ['\n']))) :
    joinContinuations (.ofList (lines.flatMap (· ++ ['\n']))) =
      .ok (.ofList (joinPieces (squeezeLines false (lines.flatMap (· ++ ['\n']))))) := by
  have kept : (lines.map fun line => String.ofList (line ++ ['\n'])).mapM withoutComment =
      .ok (lines.map fun line => .ofList (line ++ ['\n'])) := by
    simpa [mapM_eq_ok_iff, forall₂_same] using plain
  have joined : (join "" (lines.map fun line => String.ofList (line ++ ['\n']))).toList =
      lines.flatMap (· ++ ['\n']) := by
    rw [join, String.toList_intercalate, map_map]
    clear single plain kept
    induction lines with
    | nil => rfl
    | cons line lines ih =>
      rw [flatMap_cons, ← ih]
      cases lines <;> simp [intercalate_cons_cons]
  rw [joinContinuations, linesKeepingEnds_ended single, kept]
  change Except.ok (String.ofList (joinPieces (squeezeLines false (join "" _).toList))) = _
  rw [joined]

/-! Marks -/

theorem cutContinuation?_other {letter : Char} (other : '&' ≠ letter) (text : Letters) :
    cutContinuation? (letter :: text) =
      (cutContinuation? text).map fun parts => (letter :: parts.1, parts.2) := by
  cases text with
  | nil => rfl
  | cons next text => simp [cutContinuation?, Ne.symm other]

section

variable {text : Letters} (unmarked : '&' ∉ text)

include unmarked

theorem cutContinuation?_plain : cutContinuation? text = none := by
  induction text with
  | nil => rfl
  | cons letter text ih =>
    rw [mem_cons, not_or] at unmarked
    rw [cutContinuation?_other unmarked.1, ih unmarked.2]
    rfl

theorem cutContinuation?_mark (rest : Letters) :
    cutContinuation? (text ++ '&' :: '\n' :: rest) = some (text, continuationText rest) := by
  induction text with
  | nil => simp [cutContinuation?, isBlank_lineFeed]
  | cons letter text ih =>
    rw [mem_cons, not_or] at unmarked
    rw [cons_append, cutContinuation?_other unmarked.1, ih unmarked.2]
    rfl

theorem joinPieces_plain : joinPieces text = text := by
  rw [joinPieces]
  split
  · rfl
  · next cut => simp [cutContinuation?_plain unmarked] at cut

theorem joinPieces_mark (rest : Letters) : joinPieces (text ++ '&' :: '\n' :: rest) =
    dropBlanksRight text ++ ' ' :: joinPieces (continuationText rest) := by
  have cut := cutContinuation?_mark unmarked rest
  rw [joinPieces]
  split
  · next uncut => simp [uncut] at cut
  · next found =>
    rw [cut] at found
    cases found
    rfl

end

end Text

namespace Layout

open Text hiding strip
open Text.Letters

theorem continuationText_lead (sentinel : Sentinel) (rest : Letters) :
    continuationText (sentinel.lead.toList ++ rest) = dropBlanks rest := by
  cases sentinel <;> rfl

variable {sentinel : Sentinel} {within : Bool} {pieces lines : List Letters}

theorem dropBlanks_ended {text : Letters} (last : ∃ letter ∈ text.getLast?, isBlank letter = false) :
    dropBlanks (text ++ ['\n']) = strip text ++ ['\n'] := by
  obtain ⟨letter, final, solid⟩ := last
  obtain ⟨front, rfl⟩ := getLast?_eq_some_iff.mp final
  rw [strip, dropBlanks_append_cons solid, dropBlanksRight_append_cons solid, append_assoc,
    singleton_append, dropBlanks_append_cons solid]
  simp [dropBlanksRight]

def resumed (within : Bool) (text : Letters) : Letters :=
  if within then continuationText text else dropBlanks text

theorem resumed_leading (sentinel : Sentinel) (within : Bool) (text : Letters) :
    resumed within (sentinel.leading within ++ text) = dropBlanks text := by
  cases within with
  | false => rfl
  | true => exact continuationText_lead sentinel text

theorem dropBlanks_continued (piece rest : Letters) :
    dropBlanks (piece ++ continued.toList ++ '\n' :: rest) =
      dropBlanks (piece ++ [' ']) ++ '&' :: '\n' :: rest := by
  have mark : continued.toList = [' '] ++ ['&'] := by decide
  have visible : isBlank '&' = false := by decide
  rw [mark, ← append_assoc, append_assoc, singleton_append, dropBlanks_append_cons visible]

theorem dropBlanksRight_behind {front piece : Letters}
    (first : front = [] ∨ ∃ letter ∈ piece.head?, isBlank letter = false) :
    dropBlanksRight (front ++ dropBlanks (piece ++ [' '])) = front ++ strip piece := by
  have stripped := @strip_blanks [] [' '] (all_eq_true.mp (by decide)) nofun piece
  rw [nil_append, strip] at stripped
  rw [← stripped]
  rcases first with rfl | ⟨letter, head, visible⟩
  · rfl
  · obtain ⟨more, rfl⟩ := head?_eq_some_iff.mp head
    rw [cons_append, dropBlanks_eq_self (by simpa using visible), dropBlanksRight_append_cons visible]
    exact congrArg (front ++ ·) (dropBlanksRight_append_cons visible [] _).symm

theorem Marked.joined (marked : Marked sentinel within pieces lines) {front : Letters}
    (unmarked : '&' ∉ front ∧ ∀ piece ∈ pieces, '&' ∉ piece) (solid : [] ∉ pieces)
    (first : front = [] ∨ ∃ letter ∈ pieces.flatten.head?, isBlank letter = false)
    (last : ∃ letter ∈ pieces.flatten.getLast?, isBlank letter = false) :
    joinPieces (front ++ resumed within (lines.flatMap (· ++ ['\n']))) =
      front ++ [' '].intercalate (pieces.map strip) ++ ['\n'] := by
  have dropped : ∀ text : Letters, dropBlanks text ⊆ text := fun _ => (dropWhile_suffix _).subset
  induction marked generalizing front with
  | last within piece =>
    rw [flatten_singleton] at last
    rw [flatMap_singleton, append_assoc, resumed_leading, joinPieces_plain, dropBlanks_ended last]
    · simp
    · intro mark
      rcases mem_append.mp mark with inside | text
      · exact unmarked.1 inside
      · simpa [unmarked.2 piece mem_cons_self] using dropped _ text
  | @next within piece pieces lines marked ih =>
    rw [forall_mem_cons] at unmarked
    rw [mem_cons, not_or] at solid
    have some := marked.flatten_ne_nil solid.2
    rw [flatten_cons, getLast?_append_of_ne_nil _ some] at last
    rw [flatten_cons, head?_append_of_ne_nil _ (Ne.symm solid.1)] at first
    have behind := ih ⟨not_mem_nil, unmarked.2.2⟩ solid.2 (.inl rfl) last
    have plain : '&' ∉ front ++ dropBlanks (piece ++ [' ']) := by
      intro mark
      rcases mem_append.mp mark with inside | text
      · exact unmarked.1 inside
      · simpa [unmarked.2.1] using dropped _ text
    have filled : pieces.map strip ≠ [] := by
      intro none
      rw [map_eq_nil_iff.mp none] at some
      exact some rfl
    rw [flatMap_cons, append_assoc, append_assoc, append_assoc, resumed_leading, ← append_assoc piece,
      singleton_append, dropBlanks_continued, ← append_assoc, joinPieces_mark plain,
      dropBlanksRight_behind first, map_cons, intercalate_cons_of_ne_nil filled]
    simpa [resumed] using behind

variable {texts placed : List String}

theorem squeezeLines_placed (indented : Forall₂ Indented texts placed)
    (single : ∀ text ∈ texts, ∀ letter ∈ text.toList, isLineBreak letter = false)
    (first : ∀ text ∈ texts, ∃ letter ∈ text.toList.head?, isBlank letter = false) (behind : Bool) :
    ∃ depth, (behind = true → depth = 0) ∧
      squeezeLines behind ((placed.map String.toList).flatMap (· ++ ['\n'])) =
        replicate depth '\t' ++ (texts.map String.toList).flatMap (· ++ ['\n']) := by
  induction indented generalizing behind with
  | nil => exact ⟨0, fun _ => rfl, rfl⟩
  | @cons text written _ _ place _ ih =>
    obtain ⟨tabs, shape⟩ := place
    rw [forall_mem_cons] at single first
    obtain ⟨_, none, rest⟩ := ih single.2 first.2 true
    rw [none rfl, replicate_zero, nil_append] at rest
    rw [map_cons, flatMap_cons, shape, append_assoc, singleton_append, map_cons, flatMap_cons]
    cases behind with
    | false =>
      have inside : ∀ letter ∈ replicate tabs '\t' ++ text.toList, isLineBreak letter = false := by
        refine forall_mem_append.mpr ⟨fun letter tab => ?_, single.1⟩
        rw [eq_of_mem_replicate tab]
        decide
      exact ⟨tabs, nofun, by rw [squeezeLines_line inside false nofun, rest]; simp⟩
    | true =>
      refine ⟨0, fun _ => rfl, ?_⟩
      rw [append_assoc, squeezeLines_tabs, squeezeLines_line single.1 true fun _ => first.1, rest]
      simp

theorem begins_of_blank_behind {part text rest : Letters}
    (visible : ∀ wanted ∈ part, Pattern.caseless wanted ' ' = false)
    (blank : ∀ letter ∈ rest.head?, letter = ' ')
    (found : Pattern.begins part (text ++ rest) = true) : Pattern.begins part text = true := by
  induction part generalizing text with
  | nil => rfl
  | cons wanted part ih =>
    rw [forall_mem_cons] at visible
    cases text with
    | nil =>
      cases rest with
      | nil => exact found
      | cons letter rest =>
        rw [nil_append, Pattern.begins, blank letter rfl, visible.1] at found
        cases found
    | cons letter text =>
      rw [cons_append, Pattern.begins, Bool.and_eq_true] at found
      rw [Pattern.begins, found.1, ih visible.2 found.2]
      rfl

/-- A line with nothing but spaces between its words, and without marks and comments. Only a directive
begins with the mark of a comment. -/
structure IsPlain (line : Letters) : Prop where
  tight : Tight line
  printable : ∀ letter ∈ line, isBlank letter = true → letter = ' '
  unmarked : '&' ∉ line
  paired : Even (line.countP isQuote)
  uncommented : '!' ∉ line ∨ '!' ∉ line.tail ∧
    ∃ mark ∈ directiveMarks, Pattern.begins mark.toList line = true

theorem Broken.uncommented {line piece : Letters} (pieced : Broken line (piece :: pieces))
    (solid : piece ≠ []) (plain : IsPlain line) :
    ('!' ∉ piece ∨ ∃ mark ∈ directiveMarks, Pattern.begins mark.toList piece = true) ∧
      ∀ other ∈ pieces, '!' ∉ other := by
  rcases plain.uncommented with absent | ⟨absent, mark, known, found⟩
  · exact ⟨.inl fun present => absent (pieced.subset mem_cons_self present),
      fun other member present => absent (pieced.subset (.tail _ member) present)⟩
  · have whole := pieced.whole
    rw [flatten_cons] at whole
    have visible : mark.toList.any (Pattern.caseless · ' ') = false := by
      rcases mem_pair.mp known with rfl | rfl <;> decide
    refine ⟨.inr ⟨mark, known, begins_of_blank_behind (by simpa using visible) ?_ (whole ▸ found)⟩, ?_⟩
    · intro letter head
      have behind : pieces ≠ [] := by
        rintro rfl
        cases head
      cases head.symm.trans (pieced.cuts plain.paired [piece] pieces rfl nofun behind).1
      rfl
    · intro other member present
      obtain ⟨letter, more, rfl⟩ := exists_cons_of_ne_nil solid
      rw [← whole] at absent
      exact absent (mem_append_right _ (mem_flatten.mpr ⟨other, member, present⟩))

theorem Marked.uncommented {line : Letters} (marked : Marked sentinel false pieces lines)
    (pieced : Broken line pieces) (solid : [] ∉ pieces) (plain : IsPlain line) :
    ∀ part ∈ lines, ∀ depth, withoutComment (.ofList (replicate depth '\t' ++ part ++ ['\n'])) =
      .ok (.ofList (replicate depth '\t' ++ part ++ ['\n'])) := by
  obtain ⟨piece, pieces, rfl⟩ : ∃ piece rest, pieces = piece :: rest := by
    cases marked <;> exact ⟨_, _, rfl⟩
  obtain ⟨first, others⟩ := pieced.uncommented (fun empty => solid (by simp [empty])) plain
  intro part member depth
  have blank : ∀ letter ∈ replicate depth '\t', isBlank letter = true := by
    intro letter tab
    rw [eq_of_mem_replicate tab]
    decide
  obtain ⟨inner, other, _, ending, short, rfl, led, opens⟩ := marked.parts part member
  have unmarked : '!' ∉ ending := fun present => absurd (short present) (by decide)
  rw [append_assoc, append_assoc, append_assoc]
  cases inner with
  | true =>
    have absent : '!' ∉ other ++ (ending ++ ['\n']) := by
      simp [others other ((led rfl).resolve_left nofun), unmarked]
    cases sentinel with
    | none => exact withoutComment_plain (by simpa [Sentinel.leading, Sentinel.lead] using absent)
    | openMP =>
      have begins := Pattern.begins_append "!$OMP".toList ("& ".toList ++ (other ++ (ending ++ ['\n'])))
      exact withoutComment_directive blank (by decide) begins
    | openACC => exact withoutComment_directive blank (.tail _ (.head _)) rfl
  | false =>
    obtain ⟨_, ⟨⟩⟩ := opens rfl
    rcases first with absent | ⟨mark, known, found⟩
    · exact withoutComment_plain (by simp [Sentinel.leading, absent, unmarked])
    · rw [Sentinel.leading, if_neg nofun, nil_append]
      exact withoutComment_directive blank known (Pattern.begins_of_append found)

theorem join_ended (some : placed ≠ []) : Text.join "\n" placed ++ "\n" =
    .ofList ((placed.map String.toList).flatMap (· ++ ['\n'])) := by
  have lineFeed : "\n".toList = ['\n'] := by decide
  rw [← String.toList_inj, String.toList_append, Text.join, String.toList_intercalate, lineFeed,
    String.toList_ofList, flatMap_ended, intercalate_concat (by simpa using some), append_nil]

theorem Marked.joinContinuations {line : Letters}
    (marked : Marked sentinel false pieces (texts.map String.toList)) (pieced : Broken line pieces)
    (plain : IsPlain line) (some : line ≠ []) (tight : ∀ part ∈ texts.map String.toList, Tight part)
    (indented : Forall₂ Indented texts placed) :
    ∃ depth, Text.joinContinuations (Text.join "\n" placed ++ "\n") =
      .ok (.ofList (replicate depth '\t' ++ [' '].intercalate (pieces.map strip) ++ ['\n'])) := by
  have filled := pieced.solid some
  have unbroken : ∀ text ∈ texts, ∀ letter ∈ text.toList, isLineBreak letter = false := by
    intro text member
    obtain ⟨inner, piece, listed, ending, short, shape, _⟩ :=
      marked.parts _ (mem_map_of_mem member)
    -- Decided by Booleans: a quantifier could be decided over all characters.
    have leads : (sentinel.leading inner).any isLineBreak = false := by
      cases sentinel <;> cases inner <;> decide
    have ends : continued.toList.any isLineBreak = false := by decide
    simp only [any_eq_false, Bool.not_eq_true] at leads ends
    rw [shape, forall_mem_append, forall_mem_append]
    exact ⟨leads, fun letter inside =>
      isLineBreak_of_space (plain.printable letter (pieced.subset listed inside)),
      fun letter present => ends letter (short present)⟩
  have opening : ∀ text ∈ texts, ∃ letter ∈ text.toList.head?, isBlank letter = false := by
    intro text member
    have inside := mem_map_of_mem (f := String.toList) member
    have begins := head?_eq_some_head fun empty => marked.solid filled (empty ▸ inside)
    exact ⟨_, begins, (tight _ inside).first _ begins⟩
  obtain ⟨depth, _, squeezed⟩ := squeezeLines_placed indented unbroken opening false
  have resumes : resumed false ((texts.map String.toList).flatMap (· ++ ['\n'])) =
      (texts.map String.toList).flatMap (· ++ ['\n']) := by
    cases texts with
    | nil => cases marked
    | cons text _ =>
      obtain ⟨letter, head, visible⟩ := opening text mem_cons_self
      exact dropBlanks_eq_self (by simp [Option.mem_def.mp head, visible])
  have first := head?_eq_some_head (marked.flatten_ne_nil filled)
  have last := getLast?_eq_some_getLast (marked.flatten_ne_nil filled)
  have joined := @Marked.joined _ _ _ _ marked (replicate depth '\t')
    ⟨by simp, fun piece member mark => plain.unmarked (pieced.subset member mark)⟩ filled
    (.inr ⟨_, first, plain.tight.first _ (pieced.whole ▸ first)⟩)
    ⟨_, last, plain.tight.last _ (pieced.whole ▸ last)⟩
  have source : ∀ part ∈ placed.map String.toList,
      ∃ text ∈ texts, ∃ depth, part = replicate depth '\t' ++ text.toList := by
    intro part member
    obtain ⟨written, listed, rfl⟩ := mem_map.mp member
    exact Ensures.related_mem indented.flip listed
  refine ⟨depth, ?_⟩
  rw [join_ended, joinContinuations_ended, squeezed, ← resumes, joined]
  · intro part member feed
    obtain ⟨text, listed, depth, rfl⟩ := source part member
    rcases mem_append.mp feed with tab | inside
    · exact absurd (eq_of_mem_replicate tab) (by decide)
    · exact absurd (unbroken text listed _ inside) (by decide)
  · intro part member
    obtain ⟨text, listed, depth, rfl⟩ := source part member
    exact marked.uncommented pieced filled plain _ (mem_map_of_mem listed) depth
  · rintro rfl
    cases indented
    cases marked

theorem write_empty {style : Style} {layout after : Layout} {output : String}
    (returned : ExceptT.run (write style false "") layout = (.ok output, after)) :
    output = "" ∨ output = "\n" := by
  rw [write, if_pos (by decide), run_bind, run_get] at returned
  dsimp only at returned
  split at returned
  · cases returned
    exact .inl rfl
  · cases returned
    exact .inr rfl

/-- A line that has been broken is joined again, up to the blanks at which it has been cut. -/
theorem joinContinuations_write (style : Style) (layout after : Layout) (line output : String)
    (wide : 3 ≤ style.width) (plain : IsPlain line.toList)
    (returned : ExceptT.run (write style false line) layout = (.ok output, after)) :
    ∃ pieces depth feeds, pieces.flatten = line.toList ∧ CutOutsideQuotes pieces ∧ feeds ≤ 1 ∧
      joinContinuations output = .ok (.ofList (replicate depth '\t' ++
        [' '].intercalate (pieces.map strip) ++ replicate feeds '\n')) := by
  by_cases some : line.toList = []
  · have empty : line = "" := String.toList_eq_nil_iff.mp some
    subst empty
    refine ⟨[], 0, output.length, rfl, ?_, ?_⟩
    · exact fun front back parts frontSome => absurd (append_eq_nil_iff.mp parts.symm).1 frontSome
    · rcases write_empty returned with rfl | rfl
      · refine ⟨by decide, ?_⟩
        change Except.ok (String.ofList (joinPieces [])) = _
        rw [joinPieces_plain not_mem_nil]
        rfl
      · refine ⟨by decide, ?_⟩
        change Except.ok (String.ofList (joinPieces ['\n'])) = _
        rw [joinPieces_plain (by decide)]
        rfl
  · have single : '\n' ∉ line.toList :=
      fun feed => absurd (plain.printable _ feed (by decide)) (by decide)
    have solid := plain.tight.strip_eq_self
    obtain ⟨written, placed, broken, run, rfl⟩ := write_parts (by rwa [solid]) returned
    rw [lines_strip (by rw [solid, splitOn_eq_singleton single]), map_singleton,
      String.ofList_toList] at broken
    obtain ⟨⟨parts, ever⟩, first, broken⟩ := parts_of_bind_eq_ok broken
    cases broken
    obtain ⟨pieces, sentinel, pieced, marked, tight⟩ := breakLine_broken wide plain.tight first
    rw [append_nil] at run
    have indented := (mapM_place_yields parts (by simpa using tight) _).returned run
    obtain ⟨depth, joined⟩ := marked.joinContinuations pieced plain some tight indented
    exact ⟨pieces, depth, 1, pieced.whole, pieced.cuts plain.paired, Nat.le_refl 1, joined⟩

def longDirective : String := "!$OMP parallel do  private(i, j)"

theorem joinContinuations_write_longDirective :
    IsPlain longDirective.toList ∧
      (ExceptT.run (write ⟨20, "!"⟩ false longDirective) ⟨1, 0⟩).1.toOption =
        some "!$OMP parallel do &\n!$OMP&   private(i, &\n!$OMP&  j)\n" ∧
      ∃ pieces depth feeds, pieces.flatten = longDirective.toList ∧ CutOutsideQuotes pieces ∧
        feeds ≤ 1 ∧
        joinContinuations "!$OMP parallel do &\n!$OMP&   private(i, &\n!$OMP&  j)\n" =
          .ok (.ofList (replicate depth '\t' ++ [' '].intercalate (pieces.map strip) ++
            replicate feeds '\n')) := by
  have printable : longDirective.toList.all fun letter => isBlank letter → letter = ' ' := by decide
  have plain : IsPlain longDirective.toList :=
    ⟨by decide, by simpa only [all_eq_true, decide_eq_true_eq] using printable, by decide, by decide,
      .inr ⟨by decide, "!$OMP", .head _, by decide⟩⟩
  have returned : ((write ⟨20, "!"⟩ false longDirective).run ⟨1, 0⟩).1.toOption =
      some "!$OMP parallel do &\n!$OMP&   private(i, &\n!$OMP&  j)\n" := by decide +kernel
  exact ⟨plain, returned, joinContinuations_write ⟨20, "!"⟩ ⟨1, 0⟩ _ longDirective _ (by decide) plain
    (run_of_toOption returned)⟩

end Layout

end ParallelFortran
