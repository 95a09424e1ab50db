import ParallelFortran.Proofs.Action
import ParallelFortran.Proofs.RoutineNames
import ParallelFortran.Proofs.Text
import ParallelFortran.Text.Brackets

/-! Brackets in a text: what a loop that goes from token to token finds of them, the text within a
pair of brackets, and the arguments that stand there. -/

namespace ParallelFortran

open List Delimiters
open Text (Letters isBlank)

namespace Pattern

variable {α : Type}

variable {captures : Captures} {position : Nat}

theorem runLazy_stop {accepts : Char → Bool} {next : Continuation α}
    {result : α} {front rest : Letters} (accepted : ∀ letter ∈ front, accepts letter = true)
    (early : ∀ count < front.length,
      next ⟨position + count, front.drop count ++ rest⟩ captures = none)
    (matched : next ⟨position + front.length, rest⟩ captures = some result) :
    runLazy accepts captures next 0 position (front ++ rest) = some result := by
  induction front generalizing position with
  | nil =>
    cases rest with
    | nil => exact matched
    | cons letter rest =>
      rw [nil_append, runLazy]
      rw [length_nil, Nat.add_zero] at matched
      rw [matched]
  | cons letter front ih =>
    have first := early 0 (by simp)
    rw [cons_append, runLazy]
    simp only [Nat.add_zero, drop_zero, cons_append] at first
    rw [first]
    simp only [accepted letter mem_cons_self]
    refine ih (fun other member => accepted other (.tail _ member)) ?_ ?_
    · intro count bound
      have later := early (count + 1) (by simpa using bound)
      rwa [Nat.add_assoc, Nat.add_comm 1]
    · rwa [Nat.add_assoc, Nat.add_comm 1]

variable {text : Letters}

theorem onLine (single : '\n' ∉ text) :
    ∀ letter ∈ text, (fun letter => !isNewline letter) letter = true := by
  intro letter member
  simp only [isNewline, Bool.not_eq_true', beq_eq_false_iff_ne]
  rintro rfl
  exact single member

/-- The pattern matches one letter, whatever stands behind it. -/
def ReadsLetter (pattern : Pattern) (accepts : Char → Bool) : Prop :=
  ∀ (α : Type) (position : Nat) (text : Letters) (captures : Captures) (next : Continuation α),
    pattern.matchWith ⟨position, text⟩ captures next =
      if text.head?.any accepts then next ⟨position + 1, text.drop 1⟩ captures else none

theorem ReadsLetter.one (accepts : Char → Bool) : ReadsLetter (.one accepts) accepts := by
  intro α position text captures next
  cases text <;> rfl

theorem ReadsLetter.either {first second : Pattern} {accepts others : Char → Bool}
    (firstReads : ReadsLetter first accepts) (secondReads : ReadsLetter second others) :
    ReadsLetter (.either first second) fun letter => accepts letter || others letter := by
  intro α position text captures next
  rw [matchWith_either, firstReads, secondReads]
  cases text with
  | nil => rfl
  | cons letter rest =>
    by_cases first : accepts letter <;> by_cases second : others letter <;> simp [first, second]

end Pattern

namespace Brackets

open Pattern Text.Letters

theorem nextToken?_eq_some {token : Pattern} {isToken : Char → Bool}
    (reads : ReadsLetter token isToken) {plain rest : Letters} {letter : Char}
    (passed : ∀ other ∈ plain, isToken other = false) (stops : isToken letter = true)
    (single : '\n' ∉ plain ++ letter :: rest) :
    nextToken? token (plain ++ letter :: rest) = some ⟨plain, [letter], rest⟩ := by
  rw [mem_append, mem_cons, not_or, not_or] at single
  obtain ⟨singlePlain, _, singleRest⟩ := single
  have matched : (sequence [.group 1 little, .group 2 token,
      .group 3 anything]).matchLetters? (plain ++ letter :: rest) =
      some ⟨plain ++ letter :: rest, [], [(3, rest), (2, [letter]), (1, plain)]⟩ := by
    change (both (.group 1 little) (both (.group 2 token)
      (.group 3 anything))).matchWith ⟨0, plain ++ letter :: rest⟩ [] _ = _
    rw [matchWith, matchWith, little, matchWith]
    refine runLazy_stop (onLine singlePlain) ?_ ?_
    · intro count bound
      have inside : plain[count] ∈ plain := getElem_mem bound
      have first : (plain.drop count ++ letter :: rest).head? = some plain[count] := by
        rw [drop_eq_getElem_cons bound]
        rfl
      rw [matchWith, matchWith, reads, first, Option.any_some, passed _ inside,
        if_neg Bool.false_ne_true]
    · rw [matchWith, matchWith, reads, head?_cons, Option.any_some, stops]
      refine runGreedy_all (onLine singleRest) ?_
      have taken : (plain ++ letter :: rest).take (plain.length + 1 + rest.length) =
          plain ++ letter :: rest :=
        take_of_length_le (by simp; omega)
      simp [taken]
  rw [nextToken?, matched]
  rfl

/-- The number of brackets that are open behind a text; none if one is closed that is not open. -/
def levelAfter? : Nat → Letters → Option Nat
  | level, [] => some level
  | level, letter :: rest =>
    if letter = '(' then levelAfter? (level + 1) rest
    else if letter = ')' then if level = 0 then none else levelAfter? (level - 1) rest
    else levelAfter? level rest

/-- Every bracket of the text is closed in it, and none other. -/
def Balanced (text : Letters) : Prop := levelAfter? 0 text = some 0

instance (text : Letters) : Decidable (Balanced text) :=
  inferInstanceAs (Decidable (_ = _))

def weight (letter : Char) : Int :=
  if letter = '(' then 1 else if letter = ')' then -1 else 0

theorem levelAfter?_cons (level : Nat) (letter : Char) (text : Letters) :
    levelAfter? level (letter :: text) =
      if 0 ≤ level + weight letter then levelAfter? (level + weight letter).toNat text else none := by
  rw [levelAfter?, weight]
  split
  · rw [if_pos (by omega)]
    rfl
  · split
    · split
      · rw [if_neg (by omega)]
      · rw [if_pos (by omega)]
        congr
        omega
    · rw [if_pos (by omega)]
      rfl

/-- A loop that goes over a text from one token to the next, with the level of the brackets, and
stops behind a token. -/
structure Scans {β : Type} (isToken : Char → Bool) (stops : Int → Char → Bool)
    (loop : Nat → Letters → Letters → Int → β) (finish : Letters → Letters → Int → β) : Prop where
  still : ∀ letter, isToken letter = false → weight letter = 0
  step : ∀ {plain rest letter} fuel read {level}, (∀ other ∈ plain, isToken other = false) →
    isToken letter = true → '\n' ∉ plain ++ letter :: rest → 0 < level →
    loop (fuel + 1) read (plain ++ letter :: rest) level =
      if stops level letter then finish (read ++ plain ++ [letter]) rest (level + weight letter)
      else loop fuel (read ++ plain ++ [letter]) rest (level + weight letter)

/-- The loop goes over a text in which it is never to stop, up to the token behind it. -/
theorem Scans.through {β : Type} {isToken : Char → Bool} {stops : Int → Char → Bool}
    {loop : Nat → Letters → Letters → Int → β} {finish : Letters → Letters → Int → β}
    (scans : Scans isToken stops loop finish) {inner rest : Letters} (plain read : Letters)
    {stop : Char} {level last fuel : Nat} (passed : ∀ other ∈ plain, isToken other = false)
    (single : '\n' ∉ plain ++ (inner ++ stop :: rest)) (enough : inner.length < fuel)
    (reaches : levelAfter? level inner = some last)
    (inside : ∀ position letter, inner[position]? = some letter → isToken letter = true →
      ∀ between : Nat, levelAfter? level (inner.take position) = some between →
        0 ≤ between + weight letter → stops (between + 1) letter = false)
    (isStop : isToken stop = true) (ends : stops (last + 1) stop = true) :
    loop fuel read (plain ++ (inner ++ stop :: rest)) (level + 1) =
      finish (read ++ plain ++ inner ++ [stop]) rest (last + 1 + weight stop) := by
  induction inner generalizing plain read level fuel with
  | nil =>
    obtain ⟨fuel, rfl⟩ : ∃ less, fuel = less + 1 := ⟨fuel - 1, by omega⟩
    cases reaches
    rw [nil_append, scans.step fuel read passed isStop single (by omega), if_pos ends, append_nil]
  | cons letter inner ih =>
    rw [length_cons] at enough
    rw [cons_append] at single ⊢
    rw [levelAfter?_cons] at reaches
    split at reaches
    · next isOpen =>
      have later : ∀ position other, inner[position]? = some other → isToken other = true →
          ∀ between : Nat, levelAfter? (level + weight letter).toNat (inner.take position) =
            some between → 0 ≤ between + weight other → stops (between + 1) other = false := by
        intro position other found token between level
        refine inside (position + 1) other found token between ?_
        rwa [take_succ_cons, levelAfter?_cons, if_pos isOpen]
      have next : (level : Int) + 1 + weight letter = ((level + weight letter).toNat : Int) + 1 := by
        omega
      by_cases token : isToken letter = true
      · obtain ⟨fuel, rfl⟩ : ∃ less, fuel = less + 1 := ⟨fuel - 1, by omega⟩
        have goesOn := inside 0 letter rfl token level rfl isOpen
        have behind := @ih [] (read ++ plain ++ [letter]) _ fuel (by simp)
          (fun feed => single (by simp_all)) (by omega) reaches later
        rw [scans.step fuel read passed token single (by omega), goesOn, next]
        simpa using behind
      · rw [Bool.not_eq_true] at token
        have behind := @ih (plain ++ [letter]) read _ fuel ?_ (by simpa using single) (by omega)
          reaches later
        · rw [← next, scans.still letter token] at behind
          simpa using behind
        · simp only [mem_append, mem_singleton]
          rintro other (member | rfl)
          · exact passed other member
          · exact token
    · cases reaches

/-! The text within brackets -/

def isRound (letter : Char) : Bool := letter == '(' || letter == ')'

theorem reads_round : ReadsLetter (either round) isRound :=
  .either (.one _) (.one _)

theorem run_count_closing {level : Int} (isOpen : level ≠ 0) (opened : Bool) :
    ExceptT.run (count round [')']) ⟨level, opened⟩ = (.ok (), ⟨level - 1, opened⟩) := by
  have opening : isMatch round.opening [')'] = false := rfl
  have closing : isMatch round.closing [')'] = true := rfl
  rw [count, opening, closing, if_neg Bool.false_ne_true, if_pos rfl, run_bind, run_get]
  simp only [beq_iff_eq, isOpen]
  rfl

theorem closeLoop_scans : Scans isRound (fun level letter => level + weight letter == 0)
    (fun fuel read text level => ExceptT.run (closeLoop round fuel read text) ⟨level, true⟩)
    fun read rest level => (.ok (read, rest), ⟨level, true⟩) where
  still letter plain := by
    simp only [isRound, Bool.or_eq_false_iff, beq_eq_false_iff_ne] at plain
    rw [weight, if_neg plain.1, if_neg plain.2]
  step := by
    intro plain rest letter fuel read level passed token single isOpen
    have counted : ExceptT.run (count round [letter]) ⟨level, true⟩ =
        (.ok (), ⟨level + weight letter, true⟩) := by
      simp only [isRound, Bool.or_eq_true, beq_iff_eq] at token
      rcases token with rfl | rfl
      · rfl
      · exact run_count_closing (by omega) true
    rw [closeLoop, nextToken?_eq_some reads_round passed token single]
    dsimp only
    rw [run_bind, counted]
    dsimp only
    rw [run_bind, run_get]
    dsimp only
    split <;> rfl

section Bracketed

variable {plain tail : Letters} (unbracketed : ∀ letter ∈ plain, isRound letter = false)

include unbracketed

theorem splitAfterClosing_opening (single : '\n' ∉ plain ++ '(' :: tail) {read rest : Letters}
    {level : Int} (closed : ExceptT.run (closeLoop round (plain ++ '(' :: tail).length
      (plain ++ ['(']) tail) ⟨1, true⟩ = (.ok (read, rest), ⟨level, true⟩)) :
    ExceptT.run (splitAfterClosing round (plain ++ '(' :: tail)) {} =
      (.ok (if level == 0 then (read, rest) else (plain ++ '(' :: tail, [])), ⟨level, true⟩) := by
  have token := nextToken?_eq_some reads_round unbracketed rfl single
  have first : ExceptT.run (closeLoop round ((plain ++ '(' :: tail).length + 1) []
      (plain ++ '(' :: tail)) {} = (.ok (read, rest), ⟨level, true⟩) := by
    rw [closeLoop, token]
    exact closed
  rw [splitAfterClosing, token]
  simp only [Option.isNone_some, Bool.false_eq_true, if_false]
  rw [run_bind, first]
  dsimp only
  rw [run_bind, run_get]
  dsimp only
  split <;> rfl

theorem splitAfterClosing_balanced {inner rest : Letters} (balanced : Balanced inner)
    (single : '\n' ∉ plain ++ '(' :: (inner ++ ')' :: rest)) :
    ExceptT.run (splitAfterClosing round (plain ++ '(' :: (inner ++ ')' :: rest))) {} =
      (.ok (plain ++ '(' :: (inner ++ [')']), rest), ⟨0, true⟩) := by
  have later : '\n' ∉ inner ++ ')' :: rest := fun feed => single (by simp_all)
  have through := closeLoop_scans.through [] (plain ++ ['(']) (forall_mem_nil _) later
    (by grind : inner.length < (plain ++ '(' :: (inner ++ ')' :: rest)).length) balanced ?_ rfl rfl
  · have split := splitAfterClosing_opening unbracketed single through
    simpa [weight] using split
  · intro position letter _ _ between _ isOpen
    rw [beq_eq_false_iff_ne]
    omega

end Bracketed

variable {inner rest : Letters}

theorem findLast?_concat (letter : Char) (text : Letters) :
    Text.Letters.findLast? [letter] (text ++ [letter]) = some text.length := by
  induction text with
  | nil => simp [Text.Letters.findLast?]
  | cons first text ih =>
    rw [cons_append, Text.Letters.findLast?, ih]
    rfl

theorem textWithin_round (balanced : Balanced inner) (single : '\n' ∉ inner ++ ')' :: rest) :
    (textWithin round ('(' :: (inner ++ ')' :: rest))).run' = .ok (inner, rest) := by
  have split := splitAfterClosing_balanced (forall_mem_nil _) balanced (by simpa using single)
  rw [nil_append, nil_append] at split
  have within : Text.beforeLast ")" (Text.after "(" (String.ofList ('(' :: (inner ++ [')'])))) =
      String.ofList inner := by
    have behind : Text.after "(" (String.ofList ('(' :: (inner ++ [')']))) =
        String.ofList (inner ++ [')']) := by
      simp [Text.after, Text.Letters.cut?, Text.Letters.find?]
    have last : Text.findLast? ")" (String.ofList (inner ++ [')'])) = some inner.length := by
      have letters : (String.ofList (inner ++ [')'])).toList = inner ++ [')'] := String.toList_ofList
      rw [Text.findLast?, letters]
      exact findLast?_concat ')' inner
    rw [behind, Text.beforeLast, last]
    simp [Text.take]
  rw [BracketCount.run', textWithin, run_bind, split]
  have opening : round.openingText = "(" := rfl
  have closing : round.closingText = ")" := rfl
  simp only [opening, closing, within, String.toList_ofList]
  rfl

theorem levelAfter?_append (level : Nat) (text more : Letters) :
    levelAfter? level (text ++ more) = (levelAfter? level text).bind (levelAfter? · more) := by
  induction text generalizing level with
  | nil => rfl
  | cons letter text ih =>
    rw [cons_append, levelAfter?_cons, levelAfter?_cons]
    split
    · exact ih _
    · rfl

theorem Balanced.append {text more : Letters} (balanced : Balanced text) (rest : Balanced more) :
    Balanced (text ++ more) := by
  rw [Balanced, levelAfter?_append, balanced]
  exact rest

theorem levelAfter?_unbracketed {text : Letters}
    (unbracketed : ∀ letter ∈ text, isRound letter = false) (level : Nat) :
    levelAfter? level text = some level := by
  induction text with
  | nil => rfl
  | cons letter text ih =>
    rw [forall_mem_cons] at unbracketed
    rw [levelAfter?_cons, closeLoop_scans.still letter unbracketed.1, if_pos (by omega)]
    exact ih unbracketed.2

/-! Arguments within brackets -/

def isSeparating (letter : Char) : Bool := letter == ',' || isRound letter

theorem reads_separating : ReadsLetter (separatorOr round ",") isSeparating :=
  .either (.one _) (.either (.one _) (.one _))

theorem splitLoop_scans : Scans isSeparating
    (fun level letter => level + weight letter < 1 ||
      (level + weight letter == 1 && level + weight letter == level))
    (fun fuel read text level => ExceptT.run (splitLoop round "," 1 fuel read text) ⟨level, true⟩)
    fun read rest level => (.ok (read, rest, false), ⟨level, true⟩) where
  still letter plain := by
    rw [isSeparating, Bool.or_eq_false_iff] at plain
    exact closeLoop_scans.still letter plain.2
  step := by
    intro plain rest letter fuel read level passed token single _
    rw [splitLoop, nextToken?_eq_some reads_separating passed token single]
    refine Eq.trans (b := ExceptT.run (if level + weight letter < 1 ||
        (level + weight letter == 1 && level + weight letter == level) then
        pure (read ++ plain ++ [letter], rest, false)
      else splitLoop round "," 1 fuel (read ++ plain ++ [letter]) rest : BracketCount _)
        ⟨level + weight letter, true⟩) ?_
      (apply_ite (fun action : BracketCount _ => action.run _) _ _ _)
    simp only [isSeparating, isRound, Bool.or_eq_true, beq_iff_eq] at token
    rcases token with rfl | rfl | rfl
    · rw [show level + weight ',' = level from Int.add_zero level]
      rfl
    · rfl
    · rfl

/-- Every comma of the text stands within brackets of the text. -/
def Undivided (text : Letters) : Prop :=
  ∀ position < text.length, text[position]? = some ',' → levelAfter? 0 (text.take position) ≠ some 0

instance (text : Letters) : Decidable (Undivided text) :=
  inferInstanceAs (Decidable (∀ position < text.length, _ → _))

theorem undivided_iff {text : Letters} : Undivided text ↔
    ∀ front back, text = front ++ ',' :: back → levelAfter? 0 front ≠ some 0 := by
  constructor
  · rintro undivided front back rfl
    have here := undivided front.length (by simp) (by simp)
    rwa [take_left] at here
  · intro inside position bound found
    refine inside (text.take position) (text.drop (position + 1)) ?_
    rw [getElem?_eq_getElem bound, Option.some.injEq] at found
    rw [← found, ← drop_eq_getElem_cons bound, take_append_drop]

structure IsArgument (text : Letters) : Prop where
  visible : text ≠ []
  tight : Tight text
  single : '\n' ∉ text
  balanced : Balanced text
  undivided : Undivided text

variable {argument whole : Letters} {stop : Char} {arguments done : List Letters}

theorem run_splitAfterSeparator (balanced : Balanced argument) (undivided : Undivided argument)
    (ends : stop = ',' ∨ stop = ')') (single : '\n' ∉ argument ++ stop :: rest) :
    ExceptT.run (splitAfterSeparator round "," (argument ++ stop :: rest)) ⟨1, true⟩ =
      (.ok (argument ++ [stop], rest, 1 + weight stop), ⟨1 + weight stop, true⟩) := by
  have loop : ExceptT.run (splitLoop round "," 1 ((argument ++ stop :: rest).length + 1) []
      (argument ++ stop :: rest)) ⟨1, true⟩ =
        (.ok (argument ++ [stop], rest, false), ⟨1 + weight stop, true⟩) := by
    refine splitLoop_scans.through [] [] (forall_mem_nil _) single (by grind) balanced ?_
      (by rcases ends with rfl | rfl <;> rfl) (by rcases ends with rfl | rfl <;> rfl)
    intro position letter found token between level isOpen
    simp only [isSeparating, isRound, Bool.or_eq_true, beq_iff_eq] at token
    rcases token with rfl | rfl | rfl
    · have bound := (List.getElem?_eq_some_iff.mp found).1
      have inside : between ≠ 0 := by
        rintro rfl
        exact undivided position bound found level
      simp [weight]
      omega
    · simp [weight]
      omega
    · simp [weight] at isOpen ⊢
      omega
  have some : (nextToken? (separatorOr round ",") (argument ++ stop :: rest)).isNone = false := by
    by_contra none
    rw [Bool.not_eq_false, Option.isNone_iff_eq_none] at none
    rw [splitLoop, none] at loop
    cases argument <;> cases loop
  rw [splitAfterSeparator, run_bind, run_get]
  simp only [some, Bool.false_eq_true, if_false]
  rw [run_bind, loop]
  rcases ends with rfl | rfl <;> rfl

/-- Of the text one argument is taken. Without one before the closing bracket the list is empty. -/
theorem run_argumentLoop_step {fuel : Nat} (balanced : Balanced argument)
    (undivided : Undivided argument) (tight : Tight argument) (ends : stop = ',' ∨ stop = ')')
    (visible : argument = [] → stop = ')') (single : '\n' ∉ argument ++ stop :: rest)
    (begins : ∀ letter ∈ (strip rest).head?, letter = ',' → stop = ')') :
    ExceptT.run (argumentLoop round whole (fuel + 1) done (argument ++ stop :: rest)) ⟨1, true⟩ =
      if argument.isEmpty then (.ok (done, strip rest), ⟨0, true⟩)
      else ExceptT.run (argumentLoop round whole fuel (done ++ [argument]) (strip rest))
        ⟨1 + weight stop, true⟩ := by
  have filled : (argument ++ stop :: rest).isEmpty = false := by simp
  have within : (decide (1 + weight stop > 1) || decide (1 + weight stop < 0)) = false := by
    rcases ends with rfl | rfl <;> rfl
  have tightRead : Tight (argument ++ [stop]) := by
    refine ⟨?_, ?_⟩
    · cases argument with
      | nil => rcases ends with rfl | rfl <;> simp <;> decide
      | cons first text => exact tight.first
    · rcases ends with rfl | rfl <;> simp <;> decide
  have trimmed : trimArgument (1 + weight stop) (strip (argument ++ [stop])) = argument := by
    rw [tightRead.strip_eq_self, trimArgument, getLast?_concat]
    rcases ends with rfl | rfl <;> simp [weight]
  rw [argumentLoop, run_bind, run_get]
  simp only [filled, Bool.false_or, Int.reduceLE, decide_false, Bool.false_eq_true, if_false]
  rw [run_bind, run_splitAfterSeparator balanced undivided ends single]
  simp only [trimmed, tight.strip_eq_self, within, Bool.false_eq_true, if_false]
  rw [run_bind, run_modify]
  cases argument with
  | nil =>
    rw [visible rfl]
    simp only [isEmpty_nil, if_true]
    rw [if_pos (show (1 + weight ')' == 0) = true from rfl)]
    split <;> rfl
  | cons first text =>
    simp only [isEmpty_cons, Bool.false_eq_true, if_false]
    split
    · next more comma =>
      have closed := begins ',' (by rw [comma]; rfl) rfl
      rw [closed]
      rfl
    · rfl

theorem IsArgument.step {fuel : Nat} (proper : IsArgument argument) (ends : stop = ',' ∨ stop = ')')
    (single : '\n' ∉ argument ++ stop :: rest)
    (begins : ∀ letter ∈ (strip rest).head?, letter = ',' → stop = ')') :
    ExceptT.run (argumentLoop round whole (fuel + 1) done (argument ++ stop :: rest)) ⟨1, true⟩ =
      ExceptT.run (argumentLoop round whole fuel (done ++ [argument]) (strip rest))
        ⟨1 + weight stop, true⟩ := by
  rw [run_argumentLoop_step proper.balanced proper.undivided proper.tight ends
    (fun empty => absurd empty proper.visible) single begins, if_neg (by simpa using proper.visible)]

theorem run_argumentLoop_closed (fuel : Nat) (text : Letters) :
    ExceptT.run (argumentLoop round whole fuel done text) ⟨0, true⟩ =
      (.ok (done, text), ⟨0, true⟩) := by
  cases fuel with
  | zero => rfl
  | succ fuel =>
    rw [argumentLoop, run_bind, run_get]
    simp [run_pure]

theorem strip_dropBlanksRight (text : Letters) : strip (dropBlanksRight text) = strip text := by
  have stripped := @strip_blanks [] (text.rtakeWhile isBlank) (fun _ => mem_rtakeWhile_imp)
    (forall_mem_nil _) (text.rdropWhile isBlank)
  rw [nil_append, rdropWhile_append_rtakeWhile] at stripped
  exact stripped.symm

theorem joined_begins (first : IsArgument argument) (others : List Letters) (rest : Letters) :
    ∃ letter text, [',', ' '].intercalate (argument :: others) ++ rest = letter :: text ∧
      isBlank letter = false ∧ letter ≠ ',' := by
  obtain ⟨letter, text, rfl⟩ := exists_cons_of_ne_nil first.visible
  have single : letter ≠ ',' := by
    rintro rfl
    exact first.undivided 0 (by simp) rfl rfl
  cases others with
  | nil => exact ⟨letter, text ++ rest, by simp, first.tight.first letter rfl, single⟩
  | cons second others => exact ⟨letter, _, rfl, first.tight.first letter rfl, single⟩

theorem strip_behind_comma (first : IsArgument argument) (others : List Letters) (rest : Letters) :
    strip (' ' :: ([',', ' '].intercalate (argument :: others) ++ ')' :: rest)) =
      [',', ' '].intercalate (argument :: others) ++ ')' :: dropBlanksRight rest := by
  have blank : isBlank ' ' = true := by decide
  obtain ⟨letter, text, begins, visible, _⟩ := joined_begins first others (')' :: rest)
  have front : dropBlanks (' ' :: ([',', ' '].intercalate (argument :: others) ++ ')' :: rest)) =
      [',', ' '].intercalate (argument :: others) ++ ')' :: rest := by
    rw [begins]
    simp [dropBlanks, blank, visible]
  rw [strip, front, dropBlanksRight_append_cons (by decide)]

theorem joined_single (proper : ∀ argument ∈ arguments, IsArgument argument) :
    '\n' ∉ [',', ' '].intercalate arguments := by
  induction arguments with
  | nil => simp
  | cons argument others ih =>
    rw [forall_mem_cons] at proper
    cases others with
    | nil => simpa using proper.1.single
    | cons second others => simpa [proper.1.single] using ih proper.2

theorem run_argumentLoop (proper : ∀ argument ∈ arguments, IsArgument argument)
    (single : '\n' ∉ rest) {fuel : Nat}
    (enough : ([',', ' '].intercalate arguments ++ ')' :: rest).length < fuel) :
    ExceptT.run (argumentLoop round whole fuel done ([',', ' '].intercalate arguments ++ ')' :: rest))
      ⟨1, true⟩ = (.ok (done ++ arguments, strip rest), ⟨0, true⟩) := by
  obtain ⟨fuel, rfl⟩ : ∃ less, fuel = less + 1 := ⟨fuel - 1, by omega⟩
  induction arguments generalizing done rest fuel with
  | nil =>
    have empty := @run_argumentLoop_step rest [] whole ')' done fuel rfl (by decide) (by decide)
      (.inr rfl) (fun _ => rfl) (by simpa using single) fun _ _ _ => rfl
    rw [append_nil]
    exact empty
  | cons argument others ih =>
    obtain ⟨first, behind⟩ := forall_mem_cons.mp proper
    cases others with
    | nil =>
      rw [intercalate_singleton, first.step (.inr rfl) (by simp [first.single, single])
        fun _ _ _ => rfl]
      exact run_argumentLoop_closed _ _
    | cons second others =>
      have isSecond := behind second mem_cons_self
      have text : [',', ' '].intercalate (argument :: second :: others) ++ ')' :: rest =
          argument ++ ',' :: (' ' :: ([',', ' '].intercalate (second :: others) ++ ')' :: rest)) := by
        simp
      have shorter := ( rdropWhile_prefix isBlank rest).length_le
      rw [text, length_append, length_cons, length_cons, length_append, length_cons] at enough
      obtain ⟨fuel, rfl⟩ : ∃ less, fuel = less + 1 := ⟨fuel - 1, by omega⟩
      rw [text, first.step (.inl rfl), strip_behind_comma isSecond,
        show (1 : Int) + weight ',' = 1 from rfl, ih behind, strip_dropBlanksRight]
      · simp
      · exact fun feed => single (( rdropWhile_prefix _ _).subset feed)
      · rw [length_append, length_cons]
        change _ + ((rest.rdropWhile isBlank).length + 1) < _
        omega
      · simp [first.single, joined_single behind, single]
      · rw [strip_behind_comma isSecond]
        obtain ⟨letter, text, begins, _, other⟩ :=
          joined_begins isSecond others (')' :: dropBlanksRight rest)
        rw [begins]
        rintro _ ⟨⟩ comma
        exact absurd comma other

/-- The arguments of a list, and what stands behind it, are read back. -/
theorem arguments_read_back (brackets : Brackets) (arguments : List Letters) (rest : Letters)
    (proper : ∀ argument ∈ arguments, IsArgument argument) (single : '\n' ∉ rest) :
    (ExceptT.run (argumentsAndRemainder round ([',', ' '].intercalate arguments ++ ')' :: rest))
      brackets).1 = .ok (arguments, strip rest) := by
  change (ExceptT.run (argumentLoop round _ _ [] _) (⟨1, true⟩ : Brackets)).1 = _
  rw [run_argumentLoop proper single (Nat.lt_succ_self _)]
  rfl

theorem arguments_read_back_sum :
    (ExceptT.run (argumentsAndRemainder round "a(1, 2), b) + c ".toList) {}).1 =
      .ok (["a(1, 2)".toList, "b".toList], "+ c".toList) := by
  have nested : IsArgument "a(1, 2)".toList := by constructor <;> decide
  have plain : IsArgument "b".toList := by constructor <;> decide
  exact arguments_read_back {} ["a(1, 2)".toList, "b".toList] " + c ".toList
    (forall_mem_cons.mpr ⟨nested, forall_mem_singleton.mpr plain⟩) (by decide)

end Brackets

end ParallelFortran
