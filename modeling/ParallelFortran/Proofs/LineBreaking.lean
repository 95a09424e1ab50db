import ParallelFortran.Proofs.Action
import ParallelFortran.Proofs.Text
import ParallelFortran.Text.Layout

/-! Broken lines can be read back: the written lines still hold every line of the text, and a line
is cut only at blanks outside of quotes. -/

namespace ParallelFortran.Layout

open List Text.Letters
open Text (Letters isBlank isQuote quotedMarks)

def unindented (line : Letters) : Letters :=
  line.dropWhile (· == '\t')

def continuedPart? (line : Letters) : Option Letters :=
  if continued.toList.isSuffixOf line then some (line.take (line.length - continued.length))
  else none

def withoutLead (line : Letters) : Letters :=
  match [Sentinel.none, .openMP, .openACC].find? (·.lead.toList.isPrefixOf line) with
  | some sentinel => line.drop sentinel.lead.length
  | none => line

/-- The pieces of each line. `within` tells that the line before is continued. -/
def readPieces : Bool → List Letters → List (List Letters)
  | _, [] => []
  | within, line :: rest =>
    let held := if within then withoutLead line else line
    match continuedPart? held with
    | none => [held] :: readPieces false rest
    | some piece =>
      let behind := readPieces true rest
      (piece :: behind.headD []) :: behind.tail

/-- The pieces of each line of a written text. Its last line feed ends the last line. -/
def piecesOf (written : String) : List (List Letters) :=
  readPieces false ((written.toList.splitOn '\n').dropLast.map unindented)

/-- Every cut is at a blank, and the quotes before it are closed. -/
def CutOutsideQuotes (pieces : List Letters) : Prop :=
  ∀ front back, pieces = front ++ back → front ≠ [] → back ≠ [] →
    back.flatten.head? = some ' ' ∧ Even (front.flatten.countP isQuote)

def Sentinel.leading (sentinel : Sentinel) (within : Bool) : Letters :=
  if within then sentinel.lead.toList else []

inductive Marked (sentinel : Sentinel) : Bool → List Letters → List Letters → Prop
  | last (within : Bool) (piece : Letters) :
      Marked sentinel within [piece] [sentinel.leading within ++ piece]
  | next (within : Bool) (piece : Letters) {pieces lines : List Letters} :
      Marked sentinel true pieces lines →
      Marked sentinel within (piece :: pieces)
        ((sentinel.leading within ++ piece ++ continued.toList) :: lines)

theorem continuedPart?_continued (piece : Letters) :
    continuedPart? (piece ++ continued.toList) = some piece := by
  have ends : continued.toList.isSuffixOf (piece ++ continued.toList) = true := by
    simp
  have lengths : continued.toList.length = continued.length := by decide
  rw [continuedPart?, if_pos ends, length_append, lengths, Nat.add_sub_cancel,
    take_left]

theorem continuedPart?_plain {line : Letters} (unmarked : '&' ∉ line) :
    continuedPart? line = none := by
  rw [continuedPart?, if_neg]
  intro ends
  have suffixed : continued.toList <:+ line := by simpa using ends
  exact unmarked (suffixed.subset (by decide))

variable {sentinel : Sentinel} {within : Bool} {pieces lines : List Letters}

theorem Marked.read (marked : Marked sentinel within pieces lines) (rest : List Letters)
    (unmarked : ∀ piece ∈ pieces, '&' ∉ piece) :
    readPieces within (lines ++ rest) = pieces :: readPieces false rest := by
  have held : ∀ (within : Bool) text,
      (if within then withoutLead (sentinel.leading within ++ text)
        else sentinel.leading within ++ text) = text := by
    intro within text
    cases within
    · rfl
    · cases sentinel <;> rfl
  induction marked with
  | last within piece =>
    simp [readPieces, held, continuedPart?_plain (unmarked piece mem_cons_self)]
  | next within piece _ ih =>
    have behind := ih fun other member => unmarked other (mem_cons_of_mem _ member)
    simp [readPieces, held, continuedPart?_continued, behind]

variable {line : String} {body : Letters}

theorem Sentinel.of_lead (begins : line.toList = sentinel.lead.toList ++ body) :
    Sentinel.of line = sentinel := by
  rw [Sentinel.of, isOpenMPDirective, isOpenACCDirective, Pattern.accepts, Pattern.accepts,
    Pattern.match?, Pattern.match?, begins]
  cases sentinel <;> rfl

/-- What stands on a line: a piece behind the mark of a continuation, or the first piece without one. -/
theorem Marked.parts (marked : Marked sentinel within pieces lines) :
    ∀ line ∈ lines, ∃ inner, ∃ piece ∈ pieces, ∃ ending, ending ⊆ continued.toList ∧
      line = sentinel.leading inner ++ (piece ++ ending) ∧
      (inner = true → within = true ∨ piece ∈ pieces.tail) ∧
      (inner = false → within = false ∧ pieces.head? = some piece) := by
  induction marked with
  | last within piece =>
    intro line member
    refine ⟨within, piece, mem_cons_self, [], nil_subset _, ?_, .inl, fun outer => ⟨outer, rfl⟩⟩
    rw [mem_singleton.mp member, append_nil]
  | next within piece _ ih =>
    intro line member
    rcases mem_cons.mp member with rfl | member
    · exact ⟨within, piece, mem_cons_self, _, Subset.refl _, append_assoc _ _ _, .inl,
        fun outer => ⟨outer, rfl⟩⟩
    · obtain ⟨inner, other, inside, ending, short, parts, _, outer⟩ := ih line member
      refine ⟨inner, other, .tail _ inside, ending, short, parts, fun _ => .inr inside, fun alone => ?_⟩
      cases (outer alone).1

theorem Marked.lineFeed_not_mem (marked : Marked sentinel within pieces lines)
    (single : ∀ piece ∈ pieces, '\n' ∉ piece) : ∀ line ∈ lines, '\n' ∉ line := by
  intro line member
  obtain ⟨inner, piece, listed, ending, short, rfl, _⟩ := marked.parts line member
  have leading : '\n' ∉ sentinel.leading inner := by
    cases sentinel <;> cases inner <;> decide
  have mark : '\n' ∉ ending := fun feed => absurd (short feed) (by decide)
  simp [leading, mark, single piece listed]

theorem tight_marked {text : Letters}
    (first : within = false → ∀ letter ∈ text.head?, isBlank letter = false)
    (last : ∀ letter ∈ text.getLast?, isBlank letter = false) (some : text ≠ []) :
    Tight (sentinel.leading within ++ text) where
  first := by
    cases within with
    | false => exact first rfl
    | true =>
      intro letter begins
      cases sentinel <;> cases begins <;> decide
  last := by
    rw [getLast?_append_of_ne_nil _ some]
    exact last

theorem Marked.flatten_ne_nil (marked : Marked sentinel within pieces lines) (solid : [] ∉ pieces) :
    pieces.flatten ≠ [] := by
  intro empty
  have gone := flatten_eq_nil_iff.mp empty
  cases marked with
  | last within piece | next within piece _ => exact solid (by simp [gone piece mem_cons_self])

theorem Marked.tight (marked : Marked sentinel within pieces lines) (solid : [] ∉ pieces)
    (first : within = false → ∀ letter ∈ pieces.flatten.head?, isBlank letter = false)
    (last : ∀ letter ∈ pieces.flatten.getLast?, isBlank letter = false) :
    ∀ line ∈ lines, Tight line := by
  induction marked with
  | last within piece =>
    intro line member
    rw [mem_singleton.mp member]
    rw [flatten_singleton] at first last
    exact tight_marked first last fun empty => solid (by simp [empty])
  | next within piece marked ih =>
    rw [mem_cons, not_or] at solid
    obtain ⟨some, solid⟩ := solid
    rw [flatten_cons] at first last
    intro line member
    rcases mem_cons.mp member with rfl | member
    · rw [append_assoc]
      refine tight_marked ?_ ?_ (by simp [continued])
      · intro outside letter begins
        rw [head?_append_of_ne_nil _ (Ne.symm some)] at begins
        exact first outside letter (by rwa [head?_append_of_ne_nil _ (Ne.symm some)])
      · intro letter ends
        rw [getLast?_append_of_ne_nil _ (by decide)] at ends
        cases ends
        decide
    · rw [getLast?_append_of_ne_nil _ (marked.flatten_ne_nil solid)] at last
      exact ih solid nofun last line member

variable {text : String}

theorem breakPoint_some {leadLength position : Nat} : ∀ fuel limit,
    breakPoint text leadLength limit fuel = .ok (some position) →
      0 < position ∧ text.toList[position]? = some ' ' ∧
        (quotedMarks text.toList)[position]? = some false := by
  intro fuel
  induction fuel with
  | zero => intro limit found; cases found
  | succ fuel ih =>
    intro limit found
    rw [breakPoint] at found
    split at found
    · cases found
    · cases last : Text.findLastOutsideQuotes " " text limit with
      | error fault =>
        rw [last] at found
        cases found
      | ok place =>
        rw [last] at found
        rcases place with _ | _ | place
        · exact ih _ found
        · exact ih _ found
        · cases found
          rw [Text.findLastOutsideQuotes_eq] at last
          obtain ⟨occurs, outside⟩ := Text.findLastOutside_some (Nat.succ_pos place) _ _ last
          obtain ⟨behind, whole⟩ := occurs
          refine ⟨Nat.succ_pos place, ?_, outside⟩
          rw [← head?_drop, ← whole]
          rfl

variable {style : Style}

theorem breakLoop_cases {fuel : Nat} {remainder : String} {lines : List String}
    (directive : Sentinel.of remainder = sentinel)
    (begins : remainder.toList = sentinel.leading within ++ body)
    (broken : breakLoop style (fuel + 1) within remainder = .ok lines) : lines = [remainder] ∨
      ∃ position rest more, 0 < position ∧ body[position]? = some ' ' ∧
        (quotedMarks body)[position]? = some false ∧
        rest.toList = sentinel.lead.toList ++ body.drop position ∧
        breakLoop style fuel true rest = .ok more ∧ lines.map String.toList =
          (sentinel.leading within ++ body.take position ++ continued.toList) ::
            more.map String.toList := by
  have lengths : (if within then sentinel.lead.length else 0) = (sentinel.leading within).length := by
    cases within
    · rfl
    · exact String.length_toList.symm
  have front : Text.take (sentinel.leading within).length remainder =
      String.ofList (sentinel.leading within) := by
    rw [Text.take, begins, take_left]
  have back : Text.drop (sentinel.leading within).length remainder = String.ofList body := by
    rw [Text.drop, begins, drop_left]
  simp only [breakLoop, directive, lengths, front, back] at broken
  split at broken
  · cases broken
    exact .inl rfl
  · split at broken
    · cases broken
      exact .inl rfl
    · right
      obtain ⟨_ | position, found, broken⟩ := parts_of_bind_eq_ok broken
      · cases broken
      · dsimp only at broken
        split at broken
        · cases broken
        · obtain ⟨more, rest, kept⟩ := parts_of_bind_eq_ok broken
          cases kept
          obtain ⟨positive, blank, outside⟩ := breakPoint_some _ _ found
          rw [String.toList_ofList] at blank outside
          refine ⟨position, _, more, positive, blank, outside, ?_, rest, ?_⟩
          · simp [Text.drop]
          · simp [Text.take]

theorem CutOutsideQuotes.cons {piece : Letters} (blank : pieces.flatten.head? = some ' ')
    (closed : Even (piece.countP isQuote)) (cuts : CutOutsideQuotes pieces) :
    CutOutsideQuotes (piece :: pieces) := by
  intro front back parts frontSome backSome
  rcases front with _ | ⟨first, front⟩
  · exact absurd rfl frontSome
  · obtain ⟨rfl, rfl⟩ := cons.inj parts
    by_cases alone : front = []
    · subst alone
      exact ⟨blank, by simpa using closed⟩
    · obtain ⟨behind, even⟩ := cuts front back rfl alone backSome
      rw [flatten_cons, countP_append]
      exact ⟨behind, closed.add even⟩

structure Broken (line : Letters) (pieces : List Letters) : Prop where
  whole : pieces.flatten = line
  solid : line ≠ [] → [] ∉ pieces
  cuts : Even (line.countP isQuote) → CutOutsideQuotes pieces

theorem Broken.subset {line piece : Letters} (pieced : Broken line pieces) (member : piece ∈ pieces) :
    piece ⊆ line := by
  intro letter present
  rw [← pieced.whole]
  exact mem_flatten.mpr ⟨piece, member, present⟩

theorem Broken.uncut (line : Letters) : Broken line [line] where
  whole := flatten_singleton
  solid := by
    intro some member
    exact some (mem_singleton.mp member).symm
  cuts := by
    intro _ front back parts frontSome backSome
    have lengths := congrArg length parts
    have frontLength := length_pos_iff.mpr frontSome
    have backLength := length_pos_iff.mpr backSome
    simp only [length_singleton, length_append] at lengths
    omega

theorem Broken.cut {position : Nat} (positive : 0 < position) (blank : body[position]? = some ' ')
    (outside : (quotedMarks body)[position]? = some false) (rest : Broken (body.drop position) pieces) :
    Broken body (body.take position :: pieces) where
  whole := by rw [List.flatten_cons, rest.whole, List.take_append_drop]
  solid := by
    intro some
    have bound := (List.getElem?_eq_some_iff.mp blank).1
    have behind : body.drop position ≠ [] := by
      rw [Ne, List.drop_eq_nil_iff]
      omega
    rw [List.mem_cons, not_or]
    refine ⟨?_, rest.solid behind⟩
    intro empty
    rcases List.take_eq_nil_iff.mp empty.symm with zero | none
    · omega
    · exact some none
  cuts := by
    intro paired
    have closed := Text.even_of_not_quoted paired blank outside
    have others : Even ((body.drop position).countP isQuote) := by
      rw [← List.take_append_drop position body, List.countP_append, Nat.even_add] at paired
      exact paired.mp closed
    refine CutOutsideQuotes.cons ?_ closed (rest.cuts others)
    rw [rest.whole, List.head?_drop]
    exact blank

theorem breakLoop_broken :
    ∀ fuel within remainder (body : Letters) lines,
      Sentinel.of remainder = sentinel → remainder.toList = sentinel.leading within ++ body →
      breakLoop style fuel within remainder = .ok lines →
      ∃ pieces, Broken body pieces ∧ Marked sentinel within pieces (lines.map String.toList) := by
  intro fuel
  induction fuel with
  | zero =>
    intro within remainder body lines _ begins broken
    cases broken
    refine ⟨[body], .uncut body, ?_⟩
    rw [map_singleton, begins]
    exact .last within body
  | succ fuel ih =>
    intro within remainder body lines directive begins broken
    rcases breakLoop_cases directive begins broken with
      rfl | ⟨position, rest, more, positive, blank, outside, follows, brokenRest, split⟩
    · refine ⟨[body], .uncut body, ?_⟩
      rw [map_singleton, begins]
      exact .last within body
    · obtain ⟨pieces, pieced, marked⟩ := ih true rest _ more (Sentinel.of_lead follows) follows
        brokenRest
      refine ⟨_, .cut positive blank outside pieced, ?_⟩
      rw [split]
      exact .next within _ marked

theorem Marked.solid (marked : Marked sentinel within pieces lines) (solid : [] ∉ pieces) :
    [] ∉ lines := by
  intro empty
  obtain ⟨_, piece, listed, _, _, parts, _⟩ := marked.parts [] empty
  have gone := (append_eq_nil_iff.mp (append_eq_nil_iff.mp parts.symm).2).1
  exact solid (gone ▸ listed)

theorem breakLine_broken {ever broken : Bool} {lines : List String} (wide : 3 ≤ style.width)
    (tight : Tight line.toList) (returned : breakLine style false ever line = .ok (lines, broken)) :
    ∃ pieces sentinel, Broken line.toList pieces ∧
      Marked sentinel false pieces (lines.map String.toList) ∧
      ∀ written ∈ lines.map String.toList, Tight written := by
  rw [breakLine] at returned
  split at returned
  · cases returned
    refine ⟨[line.toList], .none, .uncut _, .last false line.toList, ?_⟩
    simpa using tight
  · next long =>
    obtain ⟨parts, loop, kept⟩ := parts_of_bind_eq_ok returned
    obtain ⟨pieces, pieced, marked⟩ := breakLoop_broken _ false line line.toList parts rfl rfl loop
    have some : line.toList ≠ [] := by
      intro empty
      rw [← String.length_toList, empty] at long
      simp only [length_nil] at long
      omega
    have solid := pieced.solid some
    have nonempty : parts.filter (! ·.isEmpty) = parts := by
      rw [filter_eq_self]
      intro part member
      have written := mem_map_of_mem (f := String.toList) member
      by_cases empty : part = ""
      · subst empty
        exact absurd written (marked.solid solid)
      · simpa using empty
    simp only [nonempty] at kept
    cases kept
    refine ⟨pieces, _, pieced, marked, marked.tight solid ?_ ?_⟩
    · rw [pieced.whole]
      exact fun _ => tight.first
    · rw [pieced.whole]
      exact tight.last

/-- The written lines can be read back as the lines, and stand on lines of their own. -/
structure Readable (lines written : List Letters) : Prop where
  whole : (readPieces false written).map flatten = lines
  cuts : ∀ pieces ∈ readPieces false written, Even (pieces.flatten.countP isQuote) →
    CutOutsideQuotes pieces
  tight : ∀ line ∈ written, Tight line
  single : ∀ line ∈ written, '\n' ∉ line

theorem Readable.add {line : Letters} {written others : List Letters} (pieced : Broken line pieces)
    (marked : Marked sentinel false pieces written) (tight : ∀ part ∈ written, Tight part)
    (unmarked : '&' ∉ line) (single : '\n' ∉ line) (rest : Readable lines others) :
    Readable (line :: lines) (written ++ others) := by
  have read := marked.read others fun piece member mark => unmarked (pieced.subset member mark)
  refine ⟨?_, ?_, ?_, ?_⟩
  · rw [read, map_cons, pieced.whole, rest.whole]
  · rw [read]
    intro other member paired
    rcases mem_cons.mp member with rfl | member
    · rw [pieced.whole] at paired
      exact pieced.cuts paired
    · exact rest.cuts other member paired
  · intro part member
    exact (mem_append.mp member).elim (tight part) (rest.tight part)
  · intro part member
    refine (mem_append.mp member).elim ?_ (rest.single part)
    exact marked.lineFeed_not_mem (fun piece member feed => single (pieced.subset member feed)) part

theorem breakLines_readable (wide : 3 ≤ style.width) :
    ∀ lines ever written,
      (∀ line ∈ lines, Tight line.toList ∧ '&' ∉ line.toList ∧ '\n' ∉ line.toList) →
      breakLines style false ever lines = .ok written →
      Readable (lines.map String.toList) (written.map String.toList) := by
  intro lines
  induction lines with
  | nil =>
    intro ever written _ returned
    cases returned
    exact ⟨rfl, nofun, nofun, nofun⟩
  | cons line lines ih =>
    intro ever written plain returned
    obtain ⟨⟨broken, after⟩, first, returned⟩ := parts_of_bind_eq_ok returned
    obtain ⟨rest, others, returned⟩ := parts_of_bind_eq_ok returned
    cases returned
    obtain ⟨tight, unmarked, single⟩ := plain line mem_cons_self
    obtain ⟨pieces, sentinel, pieced, marked, tightParts⟩ := breakLine_broken wide tight first
    rw [map_append]
    exact .add pieced marked tightParts unmarked single
      (ih after rest (fun other member => plain other (mem_cons_of_mem _ member)) others)

def Indented (line written : String) : Prop :=
  ∃ depth, written.toList = replicate depth '\t' ++ line.toList

theorem Indented.unchanged (line : String) : Indented line line :=
  ⟨0, rfl⟩

theorem Indented.behind (depth : Nat) (line : String) :
    Indented line (Text.repeated depth "\t" ++ line) := by
  refine ⟨depth, ?_⟩
  have tab : "\t".toList = ['\t'] := by decide
  rw [String.toList_append, Text.repeated, String.toList_join, flatMap_replicate, tab,
    flatten_replicate_singleton]

theorem place_indented (tight : Tight line.toList) (layout : Layout) :
    Indented line ((place line).run layout).1 := by
  have stripped : Text.strip line = line := by
    rw [Text.strip, tight.strip_eq_self, String.ofList_toList]
  rw [place, stripped]
  by_cases empty : line.isEmpty
  · have nothing : line = "" := by simpa using empty
    subst nothing
    exact .unchanged ""
  · rw [if_neg empty]
    by_cases mark : startsWithMark "!" line || startsWithMark "#" line
    · simp only [mark]
      exact .unchanged line
    · simp only [mark]
      by_cases closes : blockEnd.accepts line
      · simp only [closes]
        exact .behind (layout.depth - 1) line
      · by_cases opens : blockBegin.accepts line
        · simp only [closes, opens]
          exact .behind layout.depth line
        · simp only [closes, opens]
          exact .behind layout.depth line

theorem Indented.unindented {written : String} (tight : Tight line.toList)
    (indented : Indented line written) : unindented written.toList = line.toList := by
  obtain ⟨depth, tabs⟩ := indented
  have first : ∀ letter ∈ line.toList.head?, (letter == '\t') = false := by
    intro letter begins
    by_contra tab
    have same : letter = '\t' := by simpa using tab
    subst same
    exact absurd (tight.first '\t' begins) (by decide)
  rw [Layout.unindented, tabs, dropWhile_append_of_pos (by simp)]
  cases letters : line.toList with
  | nil => rfl
  | cons letter rest =>
    rw [letters] at first
    simp [first letter rfl]

theorem Indented.single {written : String} (indented : Indented line written)
    (single : '\n' ∉ line.toList) : '\n' ∉ written.toList := by
  obtain ⟨depth, tabs⟩ := indented
  rw [tabs]
  simp [single]

theorem mapM_place_yields (lines : List String) (tight : ∀ line ∈ lines, Tight line.toList)
    (layout : Layout) : Yields (lines.mapM fun line => (liftM (place line) : LayoutM String)) layout
      fun placed _ => Forall₂ Indented lines placed := by
  refine .map Indented ?_ layout
  intro line member state
  exact .lifted (place_indented (tight line member) state)

variable {placed : List String}

section

variable {lines : List String} (indented : Forall₂ Indented lines placed)
include indented

theorem unindented_placed (tight : ∀ line ∈ lines.map String.toList, Tight line) :
    (placed.map String.toList).map unindented = lines.map String.toList := by
  induction indented with
  | nil => rfl
  | cons first _ ih =>
    rw [map_cons, forall_mem_cons] at tight
    rw [map_cons, map_cons, map_cons, first.unindented tight.1, ih tight.2]

theorem single_placed (single : ∀ line ∈ lines.map String.toList, '\n' ∉ line) :
    ∀ line ∈ placed.map String.toList, '\n' ∉ line := by
  intro text member
  obtain ⟨written, listed, rfl⟩ := mem_map.mp member
  obtain ⟨line, inside, place⟩ := Ensures.related_mem indented.flip listed
  exact Indented.single place (single _ (mem_map_of_mem inside))

end

theorem Readable.piecesOf {written : List String}
    (readable : Readable lines (written.map String.toList)) (some : lines ≠ [])
    (indented : Forall₂ Indented written placed) :
    piecesOf (Text.join "\n" placed ++ "\n") = readPieces false (written.map String.toList) := by
  have bare := unindented_placed indented readable.tight
  have present : placed.map String.toList ≠ [] := by
    intro none
    have whole := readable.whole
    rw [← bare, none] at whole
    exact some whole.symm
  have lineFeed : "\n".toList = ['\n'] := by decide
  rw [Layout.piecesOf, String.toList_append, Text.join, String.toList_intercalate, lineFeed,
    splitOn_append_cons_self, splitOn_nil, dropLast_concat,
    splitOn_intercalate '\n' (single_placed indented readable.single) present, bare]

theorem lines_strip (split : (strip text.toList).splitOn '\n' = lines) :
    Text.split "\n" (Text.strip text) = lines.map String.ofList := by
  rw [Text.split, Text.strip, String.toList_ofList, String.toList_ofList,
    split_single, split]

theorem write_parts {layout after : Layout} {output : String} (solid : strip text.toList ≠ [])
    (returned : (write style false text).run layout = (.ok output, after)) :
    ∃ written placed,
      breakLines style false false (Text.split "\n" (Text.strip text)) = .ok written ∧
      (written.mapM fun line => (liftM (place line) : LayoutM String)).run
        { layout with emptyLines := 0 } = (.ok placed, after) ∧
      output = Text.join "\n" placed ++ "\n" := by
  have some : ¬ (Text.strip text).isEmpty = true := by
    simpa [Text.strip] using solid
  rw [write, if_neg some, run_bind, run_modify] at returned
  cases broken : breakLines style false false (Text.split "\n" (Text.strip text)) with
  | error fault =>
    rw [broken] at returned
    cases returned
  | ok written =>
    dsimp only at returned
    rw [run_bind, run_outcome broken] at returned
    dsimp only at returned
    rw [run_bind] at returned
    split at returned
    · next placed between run =>
      cases returned
      exact ⟨written, placed, rfl, run, rfl⟩
    · cases returned

/-- The lines of a text can be read back from what is written of it, less the empty ones at its ends,
and no line has been cut within quotes. -/
theorem write_readable (style : Style) (layout after : Layout) (text output : String)
    (wide : 3 ≤ style.width) (solid : Text.isBlankText text = false)
    (unmarked : '&' ∉ text.toList) (tight : ∀ line ∈ text.toList.splitOn '\n', Tight line)
    (returned : ExceptT.run (write style false text) layout = (.ok output, after)) :
    (piecesOf output).map List.flatten = withoutOuterEmpty (text.toList.splitOn '\n') ∧
      ∀ pieces ∈ piecesOf output, Even (pieces.flatten.countP isQuote) →
        CutOutsideQuotes pieces := by
  have some : strip text.toList ≠ [] := by
    intro empty
    have blank := strip_eq_nil_iff.mp empty
    rw [Text.isBlankText, ← Bool.not_eq_true, all_eq_true] at solid
    exact solid blank
  have split := splitOn_strip tight some
  have plain : ∀ line ∈ withoutOuterEmpty (text.toList.splitOn '\n'),
      Tight line ∧ '&' ∉ line ∧ '\n' ∉ line := by
    intro line member
    have inside := withoutOuterEmpty_subset _ member
    exact ⟨tight line inside,
      fun mark => unmarked (subset_of_mem_splitOn inside mark),
      not_mem_of_mem_splitOn inside⟩
  obtain ⟨written, placed, broken, run, rfl⟩ := write_parts some returned
  rw [lines_strip split] at broken
  have readable := breakLines_readable wide _ false written (by simpa using plain) broken
  have letters : ((withoutOuterEmpty (text.toList.splitOn '\n')).map String.ofList).map
      String.toList = withoutOuterEmpty (text.toList.splitOn '\n') := by
    simp [Function.comp_def]
  rw [letters] at readable
  have indented := (mapM_place_yields written (by simpa using readable.tight) _).returned run
  rw [readable.piecesOf ?_ indented]
  · exact ⟨readable.whole, readable.cuts⟩
  · rw [← split]
    exact splitOn_ne_nil _ _

/-- An empty line, a line that opens a block, and a line with a quoted text that is cut twice. -/
def quotedText : String :=
  "\ndo i = 1, n\nprint *, 'a b c d', i + j * k"

def quotedWritten : String :=
  "\tdo i = 1, n\n\t\tprint *, &\n\t\t&  'a b c d', i &\n\t\t&  + j * k\n"

theorem write_readable_quotedText :
    (ExceptT.run (write ⟨16, "!"⟩ false quotedText) ⟨1, 0⟩).1.toOption = some quotedWritten ∧
      (piecesOf quotedWritten).map List.flatten =
        withoutOuterEmpty (quotedText.toList.splitOn '\n') ∧
      ∀ pieces ∈ piecesOf quotedWritten, Even (pieces.flatten.countP isQuote) →
        CutOutsideQuotes pieces := by
  have returned : ((write ⟨16, "!"⟩ false quotedText).run ⟨1, 0⟩).1.toOption =
      some quotedWritten := by decide +kernel
  have tight : ∀ line ∈ quotedText.toList.splitOn '\n', Tight line := by decide +kernel
  exact ⟨returned, write_readable ⟨16, "!"⟩ ⟨1, 0⟩ _ quotedText quotedWritten (by decide)
    (by decide +kernel) (by decide +kernel) tight (run_of_toOption returned)⟩

/-- The empty lines at the ends of a text are lost. -/
theorem write_loses_outer_empty_line :
    Text.isBlankText "\na" = false ∧ '&' ∉ "\na".toList ∧
      (∀ line ∈ "\na".toList.splitOn '\n', Tight line) ∧
      (ExceptT.run (write ⟨132, "!"⟩ false "\na") ⟨0, 0⟩).1.toOption = some "a\n" ∧
      (piecesOf "a\n").map List.flatten ≠ "\na".toList.splitOn '\n' := by
  decide +kernel

end ParallelFortran.Layout
