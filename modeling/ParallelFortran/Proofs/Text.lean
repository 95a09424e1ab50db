import Mathlib.Algebra.Group.Nat.Even
import Mathlib.Data.List.DropRight
import ParallelFortran.Text.Quotes

/-! Lines and the white space around them, the last occurrence of a text, and quoted parts. -/

namespace ParallelFortran.Text

open List

namespace Letters

variable {text line : Letters} {lines : List Letters}

variable (separator : Char)

theorem splitLoop_single (text part : Letters) : splitLoop [separator] 0 text part =
      (text.splitOn separator).modifyHead (part.reverse ++ ·) := by
  induction text generalizing part with
  | nil => simp [splitLoop]
  | cons letter rest ih =>
    rw [splitOn_cons_eq_if_modifyHead]
    by_cases separates : letter = separator
    · subst separates
      have whole : (rest.splitOn letter).modifyHead (fun part => part) = rest.splitOn letter :=
        congrFun modifyHead_id _
      simp [splitLoop, ih, whole]
    · have other : separator ≠ letter := fun same => separates same.symm
      simp [splitLoop, ih, separates, other, Function.comp_def]

theorem split_single (text : Letters) : split [separator] text = text.splitOn separator := by
  rw [split, splitLoop_single]
  exact congrFun modifyHead_id _

theorem findLast?_isPrefix (needle : Letters) : ∀ text position,
    findLast? needle text = some position → needle <+: text.drop position := by
  intro text
  induction text with
  | nil =>
    by_cases empty : needle = [] <;> simp_all [findLast?]
  | cons letter rest ih =>
    intro position found
    rw [findLast?] at found
    cases later : findLast? needle rest with
    | some behind =>
      simp only [later, Option.some.injEq] at found
      subst found
      exact ih behind later
    | none =>
      simp only [later] at found
      split at found
      · next starts =>
        cases found
        exact isPrefixOf_iff_prefix.mp starts
      · cases found

theorem strip_eq_nil_iff : strip text = [] ↔ ∀ letter ∈ text, isBlank letter := by
  rw [strip, dropBlanksRight, reverse_eq_nil_iff, dropWhile_eq_nil_iff]
  constructor
  · intro behind letter member
    rw [← @takeWhile_append_dropWhile _ isBlank text, mem_append] at member
    rcases member with front | back
    · exact mem_takeWhile_imp front
    · exact behind letter (mem_reverse.mpr back)
  · intro blank letter member
    exact blank letter ((dropWhile_suffix _).subset (mem_reverse.mp member))

structure Tight (text : Letters) : Prop where
  first : ∀ letter ∈ text.head?, isBlank letter = false
  last : ∀ letter ∈ text.getLast?, isBlank letter = false

instance (text : Letters) : Decidable (Tight text) :=
  decidable_of_iff (text.head?.all (!isBlank ·) = true ∧ text.getLast?.all (!isBlank ·) = true) <| by
    simp only [Option.all_eq_true, Bool.not_eq_true']
    exact ⟨fun ends => ⟨ends.1, ends.2⟩, fun tight => ⟨tight.first, tight.last⟩⟩

theorem Tight.reverse (tight : Tight text) : Tight text.reverse where
  first := by simpa using tight.last
  last := by simpa using tight.first

theorem dropBlanks_eq_self (first : ∀ letter ∈ text.head?, isBlank letter = false) :
    dropBlanks text = text := by
  cases text with
  | nil => rfl
  | cons letter rest => simp [dropBlanks, first letter rfl]

theorem dropBlanksRight_eq_self (last : ∀ letter ∈ text.getLast?, isBlank letter = false) :
    dropBlanksRight text = text := by
  have mirrored := @dropBlanks_eq_self text.reverse (by simpa using last)
  rw [dropBlanksRight, ← dropBlanks, mirrored, reverse_reverse]

theorem Tight.strip_eq_self (tight : Tight text) : strip text = text := by
  rw [strip, dropBlanks_eq_self tight.first, dropBlanksRight_eq_self tight.last]

section

variable {letter : Char} (solid : isBlank letter = false) (front rest : Letters)

include solid

theorem dropBlanks_append_cons :
    dropBlanks (front ++ letter :: rest) = dropBlanks front ++ letter :: rest := by
  rw [dropBlanks, dropWhile_append, dropWhile_cons_of_neg (by simp [solid])]
  split
  · next gone => rw [dropBlanks, List.isEmpty_iff.mp gone, nil_append]
  · rfl

theorem dropBlanksRight_append_cons :
    dropBlanksRight (front ++ letter :: rest) = front ++ letter :: dropBlanksRight rest := by
  have stays : (letter :: front.reverse).dropWhile isBlank = letter :: front.reverse :=
    dropWhile_cons_of_neg (by simp [solid])
  rw [dropBlanksRight, dropBlanksRight, reverse_append, reverse_cons, append_assoc,
    singleton_append, dropWhile_append, stays]
  split
  · next gone =>
    rw [List.isEmpty_iff] at gone
    simp [gone]
  · simp

end

def withoutOuterEmpty (lines : List Letters) : List Letters :=
  (lines.dropWhile isEmpty).rdropWhile isEmpty

theorem withoutOuterEmpty_subset (lines : List Letters) : withoutOuterEmpty lines ⊆ lines :=
  Subset.trans ( rdropWhile_prefix _ _).subset (dropWhile_suffix _).subset

section

variable {front back : Letters} (blankBack : ∀ letter ∈ back, isBlank letter = true)

include blankBack

theorem dropBlanksRight_append (text : Letters) :
    dropBlanksRight (text ++ back) = dropBlanksRight text := by
  rw [dropBlanksRight, reverse_append, dropWhile_append_of_pos (by simpa using blankBack),
    dropBlanksRight]

variable (blankFront : ∀ letter ∈ front, isBlank letter = true)

include blankFront

theorem strip_blanks (text : Letters) : strip (front ++ text ++ back) = strip text := by
  rw [strip, dropBlanks, append_assoc, dropWhile_append_of_pos blankFront,
    dropWhile_append, strip, dropBlanks]
  split
  · next empty =>
    rw [isEmpty_iff.mp empty, dropWhile_eq_nil_iff.mpr blankBack]
  · exact dropBlanksRight_append blankBack _

theorem strip_around (tight : Tight text) : strip (front ++ text ++ back) = text := by
  rw [strip_blanks blankBack blankFront, tight.strip_eq_self]

end

theorem intercalate_concat {separator : Letters} (some : lines ≠ []) :
    separator.intercalate (lines ++ [line]) = separator.intercalate lines ++ separator ++ line := by
  induction lines with
  | nil => exact absurd rfl some
  | cons first rest ih =>
    rcases rest with _ | ⟨second, rest⟩
    · simp
    · have behind := ih (cons_ne_nil second rest)
      rw [cons_append, intercalate_cons_of_ne_nil (by simp), behind]
      simp [intercalate_cons_cons]

theorem flatMap_ended (lines : List Letters) : lines.flatMap (· ++ [separator]) =
      [separator].intercalate (lines ++ [[]]) := by
  induction lines with
  | nil => rfl
  | cons first rest ih =>
    rw [flatMap_cons, ih, cons_append, intercalate_cons_of_ne_nil (by simp)]

theorem reverse_intercalate (lines : List Letters) : ([separator].intercalate lines).reverse =
      [separator].intercalate (lines.map reverse).reverse := by
  induction lines with
  | nil => rfl
  | cons first rest ih =>
    rcases rest with _ | ⟨second, rest⟩
    · simp
    · rw [map_cons, reverse_cons, intercalate_concat (by simp), ← ih]
      simp

theorem isBlank_lineFeed : isBlank '\n' = true := by
  decide

theorem dropBlanks_intercalate
    (first : ∀ line ∈ lines, ∀ letter ∈ line.head?, isBlank letter = false) :
    dropBlanks (['\n'].intercalate lines) = ['\n'].intercalate (lines.dropWhile isEmpty) := by
  induction lines with
  | nil => rfl
  | cons line rest ih =>
    have behind := ih fun other member => first other (mem_cons_of_mem _ member)
    rcases line with _ | ⟨letter, line⟩
    · rcases rest with _ | ⟨second, rest⟩
      · rfl
      · simpa [dropBlanks, isBlank_lineFeed] using behind
    · have solid := first (letter :: line) mem_cons_self letter rfl
      simp [dropBlanks, solid]

theorem dropBlanksRight_intercalate
    (last : ∀ line ∈ lines, ∀ letter ∈ line.getLast?, isBlank letter = false) :
    dropBlanksRight (['\n'].intercalate lines) = ['\n'].intercalate (lines.rdropWhile isEmpty) := by
  have mirrored : ∀ line ∈ lines.reverse.map reverse, ∀ letter ∈ line.head?,
      isBlank letter = false := by
    intro line member letter begins
    obtain ⟨original, inside, rfl⟩ := mem_map.mp member
    exact last original (mem_reverse.mp inside) letter (by simpa using begins)
  have front := dropBlanks_intercalate mirrored
  rw [dropBlanksRight, ← dropBlanks, reverse_intercalate, ← map_reverse, front,
    reverse_intercalate, dropWhile_map, rdropWhile]
  simp [Function.comp_def]

theorem not_mem_of_mem_splitOn {separator : Char} (member : line ∈ text.splitOn separator) :
    separator ∉ line := by
  induction text generalizing line with
  | nil =>
    rw [splitOn_nil, mem_singleton] at member
    simp [member]
  | cons letter rest ih =>
    rw [splitOn_cons_eq_if_modifyHead] at member
    by_cases separates : letter = separator
    · rw [if_pos (by simpa using separates), mem_cons] at member
      rcases member with rfl | member
      · exact not_mem_nil
      · exact ih member
    · rw [if_neg (by simpa using separates)] at member
      cases parts : rest.splitOn separator with
      | nil => simp [parts] at member
      | cons first others =>
        rw [parts, modifyHead_cons, mem_cons] at member
        rcases member with rfl | member
        · have absent : separator ∉ first := ih (by simp [parts])
          simp [absent, Ne.symm separates]
        · exact ih (by simp [parts, member])

theorem subset_intercalate {separator : Letters} (member : line ∈ lines) :
    line ⊆ separator.intercalate lines := by
  induction lines with
  | nil => cases member
  | cons first rest ih =>
    rcases rest with _ | ⟨second, rest⟩
    · simp_all
    · rcases mem_cons.mp member with rfl | member
      · exact subset_append_left _ _
      · exact subset_append_of_subset_right _ (subset_append_of_subset_right _ (ih member))

theorem subset_of_mem_splitOn {separator : Char} (member : line ∈ text.splitOn separator) :
    line ⊆ text := by
  rw [← @intercalate_splitOn _ text _ _ separator]
  exact subset_intercalate member

theorem splitOn_strip (tight : ∀ line ∈ text.splitOn '\n', Tight line) (solid : strip text ≠ []) :
    (strip text).splitOn '\n' = withoutOuterEmpty (text.splitOn '\n') := by
  have stripped : strip text = ['\n'].intercalate (withoutOuterEmpty (text.splitOn '\n')) := by
    calc strip text
        = dropBlanksRight (dropBlanks (['\n'].intercalate (text.splitOn '\n'))) := by
          rw [intercalate_splitOn, strip]
      _ = dropBlanksRight (['\n'].intercalate ((text.splitOn '\n').dropWhile isEmpty)) := by
          rw [dropBlanks_intercalate fun line member => (tight line member).first]
      _ = _ := dropBlanksRight_intercalate fun line member =>
          (tight line ((dropWhile_suffix _).subset member)).last
  rw [stripped, splitOn_intercalate]
  · exact fun line member => not_mem_of_mem_splitOn (withoutOuterEmpty_subset _ member)
  · intro none
    rw [stripped, none] at solid
    exact solid rfl

end Letters

/-- Marks of the characters, a quotation mark switching between outside and inside; both marks of a
pair count as inside. -/
def alternating : Bool → Letters → List Bool
  | _, [] => []
  | inside, letter :: rest =>
    if isQuote letter then true :: alternating (!inside) rest
    else inside :: alternating inside rest

def quotedMarks (text : Letters) : List Bool :=
  if text.countP isQuote % 2 == 1 then text.map fun _ => false
  else alternating false text

theorem alternating_getElem? (inside : Bool) (text : Letters) (position : Nat) :
    (alternating inside text)[position]? = text[position]?.map fun letter =>
      isQuote letter || (inside ^^ decide ((text.take position).countP isQuote % 2 = 1)) := by
  induction text generalizing inside position with
  | nil => simp [alternating]
  | cons letter rest ih =>
    cases position with
    | zero => by_cases quote : isQuote letter <;> simp [alternating, quote]
    | succ position =>
      by_cases quote : isQuote letter
      · have flipped : decide (((rest.take position).countP isQuote + 1) % 2 = 1) =
            !decide ((rest.take position).countP isQuote % 2 = 1) := by
          rw [← decide_not, decide_eq_decide]
          omega
        simp [alternating, quote, ih, flipped]
      · simp [alternating, quote, ih]

section Parts

variable {isSeparator : Char → Bool} {plain : Letters}

section

variable (unmarked : ∀ letter ∈ plain, isSeparator letter = false) (part : Letters)
include unmarked

theorem separate_unmarked : separate isSeparator plain part = [part.reverse ++ plain] := by
  induction plain generalizing part with
  | nil => simp [separate]
  | cons letter plain ih =>
    rw [forall_mem_cons] at unmarked
    simp [separate, unmarked.1, ih unmarked.2]

theorem separate_append {letter : Char} (marked : isSeparator letter = true) (rest : Letters) :
    separate isSeparator (plain ++ letter :: rest) part =
      (part.reverse ++ plain) :: [letter] :: separate isSeparator rest [] := by
  induction plain generalizing part with
  | nil => simp [separate, marked]
  | cons letter plain ih =>
    rw [forall_mem_cons] at unmarked
    simp [separate, unmarked.1, ih unmarked.2]

end

theorem separate_length (text part : Letters) :
    (separate isSeparator text part).length = 2 * text.countP isSeparator + 1 := by
  induction text generalizing part with
  | nil => rfl
  | cons letter rest ih =>
    rw [separate]
    split
    · next marked =>
      rw [length_cons, length_cons, ih, countP_cons_of_pos marked]
      omega
    · next unmarked => rw [ih, countP_cons_of_neg unmarked]

theorem alternating_unquoted (unquoted : ∀ letter ∈ plain, isQuote letter = false) (inside : Bool)
    (rest : Letters) : alternating inside (plain ++ rest) =
      replicate plain.length inside ++ alternating inside rest := by
  induction plain with
  | nil => rfl
  | cons letter plain ih =>
    rw [forall_mem_cons] at unquoted
    simp [alternating, unquoted.1, ih unquoted.2, replicate_succ]

theorem alternating_unmarked {text : Letters} (none : text.countP isQuote = 0) :
    alternating false text = replicate text.length false := by
  have marks := @alternating_unquoted text (by simpa using none) false []
  rwa [append_nil, alternating, append_nil] at marks

theorem paint_front (mark : Bool) (part : Letters) (done : List Bool) (more : Nat) :
    paint mark part (done.length, done ++ replicate (part.length + more) false) =
      ((done ++ replicate part.length mark).length,
        done ++ replicate part.length mark ++ replicate more false) := by
  simp [paint]

theorem exists_quote {text : Letters} (some : text.countP isQuote ≠ 0) :
    ∃ plain quote rest, text = plain ++ quote :: rest ∧ isQuote quote = true ∧
      ∀ letter ∈ plain, isQuote letter = false := by
  obtain ⟨letter, member, isMark⟩ := countP_pos_iff.mp (Nat.pos_of_ne_zero some)
  obtain ⟨quote, plain, rest, unquoted, isFirst, rfl, -⟩ := exists_of_eraseP member isMark
  exact ⟨plain, quote, rest, rfl, isFirst, fun other before => by simpa using unquoted other before⟩

/-- The marks of what has been gone over are settled, and the index is behind it. -/
theorem markParts_eq (text : Letters) (paired : text.countP isQuote % 2 = 0) (done : List Bool) :
    ∃ first parts, separate isQuote text [] = first :: parts ∧
      markParts parts (paint false first (done.length, done ++ replicate text.length false)) =
        .ok (done.length + text.length, done ++ alternating false text) := by
  induction sized : text.length using Nat.strongRecOn generalizing text done with
  | ind size ih =>
    by_cases none : text.countP isQuote = 0
    · have painted := paint_front false text done 0
      rw [Nat.add_zero, replicate_zero, append_nil] at painted
      refine ⟨text, [], separate_unmarked (by simpa using none) [], ?_⟩
      rw [← sized, painted, alternating_unmarked none, length_append, length_replicate]
      rfl
    · obtain ⟨plain, opening, rest, rfl, opens, unquoted⟩ := exists_quote none
      have outside : plain.countP isQuote = 0 := by simpa using unquoted
      rw [countP_append, outside, countP_cons_of_pos opens] at paired
      obtain ⟨quoted, closing, behind, rfl, closes, inner⟩ := @exists_quote rest (by omega)
      have within : quoted.countP isQuote = 0 := by simpa using inner
      rw [countP_append, within, countP_cons_of_pos closes] at paired
      simp only [length_append, length_cons] at sized
      let settled := done ++ replicate plain.length false ++ replicate 1 true ++
        replicate quoted.length true ++ replicate 1 true
      obtain ⟨first, parts, split, marked⟩ := ih behind.length (by omega) behind (by omega) settled rfl
      refine ⟨plain, _, separate_append unquoted [] opens _, ?_⟩
      have parted : size = plain.length + ([opening].length + (quoted.length +
          ([closing].length + behind.length))) := by
        simp only [length_singleton]
        omega
      have marks : alternating false (plain ++ opening :: (quoted ++ closing :: behind)) =
          replicate plain.length false ++ true :: (replicate quoted.length true ++
            true :: alternating false behind) := by
        rw [alternating_unquoted unquoted, alternating, if_pos opens, alternating_unquoted inner,
          alternating, if_pos closes]
        rfl
      rw [separate_append inner [] closes, split, reverse_nil, nil_append, markParts, parted,
        paint_front, paint_front, paint_front, paint_front]
      refine marked.trans ?_
      rw [marks]
      simp [settled]
      omega

theorem markQuotes_eq (text : Letters) : markQuotes text = .ok (quotedMarks text) := by
  have length := @separate_length isQuote text []
  rw [markQuotes, quotedMarks]
  by_cases odd : text.countP isQuote % 2 = 1
  · rw [if_pos (beq_iff_eq.mpr odd), map_const']
    split
    · rfl
    · rfl
    · next split =>
      rw [split, length_cons] at length
      rw [if_neg (by rw [bne_iff_ne]; omega), if_pos (by rw [bne_iff_ne]; omega)]
  · obtain ⟨first, parts, split, marked⟩ := markParts_eq text (by omega) []
    rw [if_neg (by rwa [beq_iff_eq]), split]
    rw [split, length_cons] at length
    cases parts with
    | nil =>
      rw [alternating_unmarked (by rw [length_nil] at length; omega)]
    | cons second parts =>
      rw [length_nil, nil_append, nil_append, Nat.zero_add] at marked
      dsimp only
      rw [if_neg (by rw [bne_iff_ne]; omega), if_neg (by rw [bne_iff_ne]; omega), marked]
      exact if_neg (by simp)

variable (needle text : String)

theorem findLastOutsideQuotes_eq (bound : Int) : findLastOutsideQuotes needle text bound =
    findLastOutside needle.toList text.toList (quotedMarks text.toList) searchLimit
      (if bound > 0 then bound.toNat else text.toList.length) := by
  rw [findLastOutsideQuotes, markQuotes_eq]
  rfl

theorem findFirstOutsideQuotes_eq (before : Int) (whole : Bool) :
    findFirstOutsideQuotes needle text before whole = findFirstOutside needle.toList text.toList
      (quotedMarks text.toList) whole searchLimit (before + 1) := by
  rw [findFirstOutsideQuotes, markQuotes_eq]
  rfl

end Parts

variable {position : Nat}

theorem even_of_not_quoted {text : Letters} {letter : Char}
    (paired : Even (text.countP isQuote)) (found : text[position]? = some letter)
    (outside : (quotedMarks text)[position]? = some false) :
    Even ((text.take position).countP isQuote) := by
  have balanced : (text.countP isQuote % 2 == 1) = false := by
    rw [Nat.even_iff] at paired
    simp [paired]
  rw [quotedMarks, balanced, if_neg (by decide), alternating_getElem?, found] at outside
  simp only [Option.map_some, Option.some.injEq, Bool.or_eq_false_iff, Bool.false_bne,
    decide_eq_false_iff_not] at outside
  exact Nat.even_iff.mpr (by omega)

theorem findLastOutside_some {needle text : Letters} {marks : List Bool}
    (later : 0 < position) : ∀ tries bound,
    findLastOutside needle text marks tries bound = .ok (some position) →
      needle <+: text.drop position ∧ marks[position]? = some false := by
  intro tries
  induction tries with
  | zero => intro bound found; cases found
  | succ tries ih =>
    intro bound found
    rw [findLastOutside] at found
    split at found
    · cases found
    · cases found
      omega
    · next place nonzero last =>
      split at found
      · cases found
      · next outside =>
        cases found
        have occurs := Letters.findLast?_isPrefix needle _ _ last
        rw [drop_take] at occurs
        exact ⟨occurs.trans ( take_prefix _ _), outside⟩
      · exact ih place found

end ParallelFortran.Text
