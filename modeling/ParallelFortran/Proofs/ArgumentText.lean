import ParallelFortran.Proofs.Text

/-! Lists of arguments in statements that go over several lines: how they are read, and which ways to
write them are read as the same list. -/

open List

namespace ParallelFortran.Text.Letters

/-! Reading -/

/-- Where a reader is: in a statement, behind a mark of continuation, or at the begin of the line that
continues the statement. -/
inductive Reading where
  | statement
  | behindMark
  | lineStart

/-- A statement on one line. Behind a mark stands nothing but a comment, and the next line may begin
with another mark; without a mark the line, or a comment on it, ends the statement. -/
def unbroken : Reading → Letters → Letters
  | _, [] => []
  | .statement, letter :: rest =>
    if letter = '&' then unbroken .behindMark rest
    else if letter = '!' || letter = '\n' then []
    else letter :: unbroken .statement rest
  | .behindMark, letter :: rest =>
    if letter = '\n' then unbroken .lineStart rest else unbroken .behindMark rest
  | .lineStart, letter :: rest =>
    if letter = '&' then unbroken .statement rest
    else if isBlank letter then unbroken .lineStart rest
    else if letter = '!' then []
    else letter :: unbroken .statement rest

def levelBehind (level : Nat) (letter : Char) : Nat :=
  if letter = '(' then level + 1 else if letter = ')' then level - 1 else level

def splitOutside : Nat → Letters → List Letters
  | _, [] => [[]]
  | level, letter :: rest =>
    if letter = ',' ∧ level = 0 then [] :: splitOutside level rest
    else (splitOutside (levelBehind level letter) rest).modifyHead (letter :: ·)

def argumentsIn (text : Letters) : List Letters :=
  let line := unbroken .statement text
  if line.all isBlank then [] else (splitOutside 0 line).map strip

/-- A text that is one argument wherever it stands. -/
structure Whole (text : Letters) : Prop where
  visible : text ≠ []
  tight : Tight text
  unmarked : ∀ letter ∈ text, letter ≠ '&' ∧ letter ≠ '!' ∧ letter ≠ '\n'
  balanced : text.foldl levelBehind 0 = 0
  undivided : splitOutside 0 text = [text]

variable {text : Letters}

theorem unbroken_append (plain : ∀ letter ∈ text, letter ≠ '&' ∧ letter ≠ '!' ∧ letter ≠ '\n')
    (rest : Letters) : unbroken .statement (text ++ rest) = text ++ unbroken .statement rest := by
  induction text with
  | nil => rfl
  | cons letter text ih =>
    obtain ⟨unmarked, uncommented, single⟩ := plain letter mem_cons_self
    rw [cons_append, unbroken, if_neg unmarked, if_neg (by simp [uncommented, single]),
      ih fun other inside => plain other (.tail _ inside), cons_append]

theorem unbroken_behindMark {comment : Letters} (single : '\n' ∉ comment) (rest : Letters) :
    unbroken .behindMark (comment ++ '\n' :: rest) = unbroken .lineStart rest := by
  induction comment with
  | nil => simp [unbroken]
  | cons letter comment ih =>
    rw [mem_cons, not_or] at single
    rw [cons_append, unbroken, if_neg (Ne.symm single.1), ih single.2]

theorem splitOutside_ne_nil (level : Nat) (text : Letters) : splitOutside level text ≠ [] := by
  induction text generalizing level with
  | nil => simp [splitOutside]
  | cons letter rest ih =>
    rw [splitOutside]
    split
    · simp
    · simpa using ih _

theorem splitOutside_append {level : Nat} (undivided : splitOutside level text = [text])
    (rest : Letters) : splitOutside level (text ++ rest) =
      (splitOutside (text.foldl levelBehind level) rest).modifyHead (text ++ ·) := by
  induction text generalizing level with
  | nil =>
    exact (congrFun modifyHead_id _).symm
  | cons letter text ih =>
    rw [splitOutside] at undivided
    split at undivided
    · simp at undivided
    · next inside =>
      have behind : splitOutside (levelBehind level letter) text = [text] := by
        cases parts : splitOutside (levelBehind level letter) text with
        | nil => exact absurd parts (splitOutside_ne_nil _ _)
        | cons first others => simpa [parts] using undivided
      rw [cons_append, splitOutside, if_neg inside, ih behind, modifyHead_modifyHead]
      rfl

theorem splitOutside_blank (blank : ∀ letter ∈ text, isBlank letter = true) (level : Nat) :
    splitOutside level text = [text] ∧ text.foldl levelBehind level = level := by
  induction text with
  | nil => exact ⟨rfl, rfl⟩
  | cons letter text ih =>
    have space := blank letter mem_cons_self
    obtain ⟨undivided, same⟩ := ih fun other inside => blank other (.tail _ inside)
    have level_same : levelBehind level letter = level := by
      unfold levelBehind
      split
      · next opens =>
        subst opens
        cases space
      · split
        · next closes =>
          subst closes
          cases space
        · rfl
    have noComma : ¬(letter = ',' ∧ level = 0) := by
      rintro ⟨rfl, _⟩
      cases space
    rw [splitOutside, if_neg noComma, level_same, undivided, foldl_cons, level_same]
    exact ⟨rfl, same⟩

/-! Writing -/

/-- A text that can stand before or behind an argument without being a part of it. -/
structure Gap (text : Letters) : Prop where
  read : ∀ rest : Letters, (∀ letter ∈ rest.head?, isBlank letter = false ∧ letter ≠ '&') →
    unbroken .statement (text ++ rest) =
      unbroken .statement text ++ unbroken .statement rest
  blank : ∀ letter ∈ unbroken .statement text, isBlank letter = true

/-- A text lists arguments: one comma stands between two of them, and gaps around each. -/
inductive Listed : Letters → List Letters → Prop
  | nothing : Listed [] []
  | last {front back : Letters} (argument : Letters) : Gap front → Gap back →
      Listed (front ++ argument ++ back) [argument]
  | next {front back rest : Letters} {following : Letters} {arguments : List Letters}
      (argument : Letters) : Gap front → Gap back → Listed rest (following :: arguments) →
      Listed (front ++ argument ++ back ++ ',' :: rest) (argument :: following :: arguments)

variable {arguments : List Letters}

theorem Listed.append {more : Letters} {others : List Letters} (listed : Listed text arguments)
    (some : arguments ≠ []) (rest : Listed more others) (follow : others ≠ []) :
    Listed (text ++ ',' :: more) (arguments ++ others) := by
  obtain ⟨following, others, rfl⟩ := exists_cons_of_ne_nil follow
  induction listed with
  | nothing => exact absurd rfl some
  | last argument front back => exact .next argument front back rest
  | next argument front back _ ih =>
    rw [append_assoc]
    exact .next argument front back (ih (cons_ne_nil _ _))

theorem Whole.head (whole : Whole text) (rest : Letters) :
    ∀ letter ∈ (text ++ rest).head?, isBlank letter = false ∧ letter ≠ '&' := by
  obtain ⟨first, others, rfl⟩ := exists_cons_of_ne_nil whole.visible
  intro letter begins
  cases begins
  exact ⟨whole.tight.first first rfl, (whole.unmarked first mem_cons_self).1⟩

variable {front back : Letters}

theorem splitOutside_argument (whole : Whole text)
    (blankFront : ∀ letter ∈ front, isBlank letter = true)
    (blankBack : ∀ letter ∈ back, isBlank letter = true) (rest : Letters) :
    splitOutside 0 (front ++ text ++ back ++ rest) =
      (splitOutside 0 rest).modifyHead (front ++ text ++ back ++ ·) := by
  obtain ⟨frontWhole, frontLevel⟩ := splitOutside_blank blankFront 0
  obtain ⟨backWhole, backLevel⟩ := splitOutside_blank blankBack 0
  rw [append_assoc, append_assoc, splitOutside_append frontWhole, frontLevel,
    splitOutside_append whole.undivided, whole.balanced, splitOutside_append backWhole, backLevel]
  simp [Function.comp_def]

theorem unbroken_argument (whole : Whole text) (before : Gap front) (behind : Gap back) (rest : Letters)
    (begins : ∀ letter ∈ rest.head?, isBlank letter = false ∧ letter ≠ '&') :
    unbroken .statement (front ++ text ++ back ++ rest) =
      unbroken .statement front ++ text ++ unbroken .statement back ++ unbroken .statement rest := by
  rw [append_assoc, append_assoc, before.read _ (whole.head _),
    unbroken_append whole.unmarked, behind.read rest begins, append_assoc, append_assoc]

theorem Listed.split (listed : Listed text arguments) (some : arguments ≠ [])
    (whole : ∀ argument ∈ arguments, Whole argument) :
    (splitOutside 0 (unbroken .statement text)).map strip = arguments := by
  induction listed with
  | nothing => exact absurd rfl some
  | @last front back argument before behind =>
    have single := whole argument mem_cons_self
    have line := unbroken_argument single before behind [] (by simp)
    have parts := splitOutside_argument single before.blank behind.blank []
    have alone := strip_around behind.blank before.blank single.tight
    rw [append_nil] at line
    rw [line, show unbroken .statement [] = [] from rfl, parts]
    simp only [splitOutside, modifyHead_cons, append_nil, map_cons, alone,
      map_nil]
  | @next front back rest following arguments argument before behind _ ih =>
    have single := whole argument mem_cons_self
    have others := ih (cons_ne_nil _ _) fun other inside => whole other (.tail _ inside)
    have visible : ∀ letter ∈ (',' :: rest).head?, isBlank letter = false ∧ letter ≠ '&' := by
      rintro letter ⟨⟩
      decide
    have line := unbroken_argument single before behind (',' :: rest) visible
    have comma : unbroken .statement (',' :: rest) = ',' :: unbroken .statement rest := by
      simp [unbroken]
    have alone := strip_around behind.blank before.blank single.tight
    rw [line, comma, splitOutside_argument single before.blank behind.blank, splitOutside,
      if_pos ⟨rfl, rfl⟩, modifyHead_cons, map_cons, append_nil, alone, others]

theorem Listed.read (listed : Listed text arguments) (whole : ∀ argument ∈ arguments, Whole argument) :
    argumentsIn text = arguments := by
  by_cases empty : arguments = []
  · subst empty
    cases listed
    rfl
  · have parts := listed.split empty whole
    have visible : (unbroken .statement text).all isBlank = false := by
      by_contra blank
      rw [Bool.not_eq_false, all_eq_true] at blank
      rw [(splitOutside_blank blank 0).1, map_singleton, strip_eq_nil_iff.mpr blank] at parts
      rw [← parts] at whole
      exact (whole [] mem_cons_self).visible rfl
    rw [argumentsIn]
    simp only [visible]
    exact parts

theorem gap_nil : Gap [] :=
  ⟨fun _ _ => rfl, by simp [unbroken]⟩

theorem unbroken_lineStart {rest : Letters}
    (begins : ∀ letter ∈ rest.head?, isBlank letter = false ∧ letter ≠ '&') :
    unbroken .lineStart rest = unbroken .statement rest := by
  cases rest with
  | nil => rfl
  | cons letter rest =>
    obtain ⟨visible, unmarked⟩ := begins letter rfl
    have single : letter ≠ '\n' := by
      rintro rfl
      cases visible
    simp [unbroken, visible, unmarked, single]

section

variable {spaces : Letters} (plain : ∀ letter ∈ spaces, letter = ' ')
include plain

theorem unbroken_spaces (rest : Letters) :
    unbroken .statement (spaces ++ rest) = spaces ++ unbroken .statement rest := by
  refine unbroken_append (fun letter inside => ?_) rest
  rw [plain letter inside]
  decide

theorem gap_spaces : Gap spaces := by
  have same : unbroken .statement spaces = spaces := by
    simpa [unbroken] using unbroken_spaces plain []
  refine ⟨fun rest _ => by rw [same, unbroken_spaces plain], fun letter inside => ?_⟩
  rw [same] at inside
  rw [plain letter inside]
  decide

end

theorem gap_marked {lead comment trail : Letters} (leads : ∀ letter ∈ lead, letter = ' ')
    (single : '\n' ∉ comment) (trails : ∀ letter ∈ trail, letter = ' ') :
    Gap (lead ++ '&' :: (comment ++ '\n' :: '&' :: trail)) := by
  have read : ∀ rest, unbroken .statement (lead ++ '&' :: (comment ++ '\n' :: '&' :: trail) ++ rest) =
      lead ++ trail ++ unbroken .statement rest := by
    intro rest
    have inner : unbroken .statement ('&' :: (comment ++ '\n' :: '&' :: (trail ++ rest))) =
        unbroken .statement (trail ++ rest) := by
      rw [unbroken, if_pos rfl, unbroken_behindMark single, unbroken, if_pos rfl]
    simp only [append_assoc, cons_append] at inner ⊢
    rw [unbroken_spaces leads, inner, unbroken_spaces trails]
  have own := read []
  rw [append_nil, show unbroken .statement [] = [] from rfl, append_nil] at own
  refine ⟨fun rest _ => by rw [read, own], fun letter inside => ?_⟩
  rw [own] at inside
  rcases mem_append.mp inside with first | second
  · rw [leads letter first]
    decide
  · rw [trails letter second]
    decide

theorem gap_halfMarked : Gap [' ', '&', '\n'] := by
  refine ⟨fun rest begins => ?_, all_eq_true.mp (by decide)⟩
  simpa [unbroken] using unbroken_lineStart begins

/-! Lists -/

theorem listed_intercalate {between : Letters} (before : Gap front) (apart : Gap between)
    (some : arguments ≠ []) : Listed (front ++ (',' :: between).intercalate arguments) arguments := by
  induction arguments generalizing front with
  | nil => exact absurd rfl some
  | cons argument others ih =>
    cases others with
    | nil =>
      have listed := Listed.last argument before gap_nil
      simpa using listed
    | cons following others =>
      have listed := Listed.next argument before gap_nil (ih apart (cons_ne_nil _ _))
      simpa using listed

theorem listed_commented {tail : Letters} (before : Gap front) (trails : ∀ letter ∈ tail, letter = ' ')
    {items : List (Letters × Letters)} (some : items ≠ []) (single : ∀ item ∈ items, '\n' ∉ item.2) :
    Listed (front ++ ['&', ',', ' '].intercalate
      (items.map fun item => item.1 ++ ' ' :: '&' :: (item.2 ++ ['\n'])) ++ '&' :: tail)
      (items.map Prod.fst) := by
  induction items generalizing front with
  | nil => exact absurd rfl some
  | cons item others ih =>
    have commented := single item mem_cons_self
    have lead : ∀ letter ∈ [' '], letter = ' ' := by simp
    cases others with
    | nil =>
      have listed := Listed.last item.1 before (gap_marked lead commented trails)
      simpa using listed
    | cons following others =>
      have rest := ih (gap_spaces lead) (cons_ne_nil _ _)
        fun other inside => single other (.tail _ inside)
      have apart := gap_marked lead commented (forall_mem_nil (· = ' '))
      have listed := Listed.next item.1 before apart rest
      simpa using listed

end ParallelFortran.Text.Letters

namespace ParallelFortran

open Text (Letters)
open Text.Letters

structure ArgumentText where
  text : String
  additional : List String
  given : List String
  listed : Listed text.toList ((additional ++ given).map String.toList)

namespace ArgumentText

def arguments (list : ArgumentText) : List String :=
  list.additional ++ list.given

theorem read (list : ArgumentText) (whole : ∀ argument ∈ list.arguments, Whole argument.toList) :
    argumentsIn list.text.toList = list.arguments.map String.toList :=
  list.listed.read (forall_mem_map.mpr whole)

theorem listed_joined {front : Letters} (before : Gap front) {names : List String}
    (some : names ≠ []) :
    Listed (front ++ (Text.join ", " names).toList) (names.map String.toList) := by
  have apart : Gap [' '] := gap_spaces (by simp)
  rw [Text.join, String.toList_intercalate]
  exact listed_intercalate before apart (by simpa using some)

theorem listed_given (names : List String) :
    Listed (Text.join ", " names).toList (names.map String.toList) := by
  by_cases empty : names = []
  · subst empty
    exact .nothing
  · exact listed_joined gap_nil empty

def ofHeader (items : List (String × String)) (single : ∀ item ∈ items, '\n' ∉ item.2.toList)
    (names : List String) : ArgumentText where
  text := (if items.isEmpty then "" else
      "&\n&" ++ Text.join "&, " (items.map fun item => item.1 ++ " &" ++ item.2 ++ "\n")) ++
    (if items.isEmpty then "" else if names.isEmpty then "& " else "&, ") ++ Text.join ", " names
  additional := items.map Prod.fst
  given := names
  listed := by
    by_cases alone : items = []
    · subst alone
      simpa using listed_given names
    have front : Gap ['&', '\n', '&'] :=
      gap_marked (forall_mem_nil _) not_mem_nil (forall_mem_nil _)
    have commented : ∀ tail : Letters, (∀ letter ∈ tail, letter = ' ') →
        Listed (("&\n&" ++ Text.join "&, " (items.map fun item =>
          item.1 ++ " &" ++ item.2 ++ "\n")).toList ++ '&' :: tail)
          ((items.map Prod.fst).map String.toList) := by
      intro tail trails
      let letters := items.map fun item => (item.1.toList, item.2.toList)
      have some : letters ≠ [] := by simpa [letters] using alone
      have listed := listed_commented front trails some (forall_mem_map.mpr single)
      simpa [letters, Text.join, Function.comp_def] using listed
    by_cases none : names = []
    · subst none
      simpa [alone, Text.join] using commented [' '] (by simp)
    · have apart : Gap [' '] := gap_spaces (by simp)
      have listed := (commented [] (forall_mem_nil _)).append (by simpa using alone)
        (listed_joined apart none) (by simpa using none)
      simpa [alone, none] using listed

def ofCall (additional given : List String) : ArgumentText where
  text := (if additional.isEmpty then "" else
      " &\n" ++ Text.join ", &\n&" additional ++ (if given.isEmpty then "" else ", &\n&")) ++
    Text.join ", " given
  additional
  given
  listed := by
    by_cases alone : additional = []
    · subst alone
      simpa using listed_given given
    have space : ∀ letter ∈ [' '], letter = ' ' := by simp
    have apart : Gap [' ', '&', '\n', '&'] := gap_marked space not_mem_nil (forall_mem_nil _)
    have first : Listed (" &\n" ++ Text.join ", &\n&" additional).toList
        (additional.map String.toList) := by
      rw [String.toList_append, Text.join, String.toList_intercalate]
      exact listed_intercalate gap_halfMarked apart (by simpa using alone)
    by_cases none : given = []
    · subst none
      simpa [alone, Text.join] using first
    · have listed := first.append (by simpa using alone) (listed_joined apart none)
        (by simpa using none)
      simpa [alone, none] using listed

end ArgumentText

end ParallelFortran
