import ParallelFortran.Pattern.Basic
import ParallelFortran.Text.Quotes

/-! Joining of continued lines: comments and empty lines are taken out first, so that the pieces of a
statement stand next to each other. -/

namespace ParallelFortran.Text

def compilerDirectives : List Pattern :=
  ["!$OMP", "!$ACC", "!PGI"].map fun mark => .both .blanks (.literal mark)

def isCompilerDirective (line : String) : Bool :=
  compilerDirectives.any fun directive => directive.accepts line

def withoutComment (line : String) : Outcome String :=
  if isCompilerDirective line then .ok line
  else do
    match ← findFirstOutsideQuotes "!" line (-1) false with
    | none => return line
    | some position => if position < 0 then return line else return take position.toNat line ++ "\n"

def isLineBreak (letter : Char) : Bool :=
  letter == '\n' || letter == '\r' || letter == '\x0c' || letter == '\x0b'

def isSpace (letter : Char) : Bool :=
  letter == ' ' || letter == '\t'

/-- Line breaks that follow each other become one, and the next line loses its indentation. The flag
tells whether a line break stands before the text. -/
def squeezeLines : Bool → Letters → Letters
  | _, [] => []
  | behindBreak, letter :: rest =>
    if isLineBreak letter then
      if behindBreak then squeezeLines true rest else '\n' :: squeezeLines true rest
    else if behindBreak && isSpace letter then squeezeLines true rest
    else letter :: squeezeLines false rest

def dropMark (mark : Char) (text : Letters) : Letters :=
  match text with
  | [] => []
  | letter :: rest => if letter == mark then rest else letter :: rest

def dropSentinel (text : Letters) : Letters :=
  let head := (text.take 3).map foldCase
  if head == "omp".toList || head == "acc".toList then text.drop 3 else text

def continuationText (text : Letters) : Letters :=
  (dropMark '&' (dropSentinel (dropMark '$' (dropMark '!' (text.dropWhile isBlank))))).dropWhile
    isBlank

def cutContinuation? : Letters → Option (Letters × Letters)
  | [] => none
  | [_] => none
  | letter :: next :: rest =>
    if letter == '&' && isBlank next then some ([], continuationText rest)
    else (cutContinuation? (next :: rest)).map fun (before, after) => (letter :: before, after)

theorem dropMark_suffix (mark : Char) (text : Letters) : dropMark mark text <:+ text := by
  unfold dropMark
  split
  · simp
  · split <;> simp

theorem dropSentinel_suffix (text : Letters) : dropSentinel text <:+ text := by
  unfold dropSentinel
  dsimp only
  split
  · exact List.drop_suffix _ _
  · exact List.suffix_rfl

theorem continuationText_suffix (text : Letters) : continuationText text <:+ text :=
  (List.dropWhile_suffix _).trans <| (dropMark_suffix _ _).trans <| (dropSentinel_suffix _).trans <|
    (dropMark_suffix _ _).trans <| (dropMark_suffix _ _).trans (List.dropWhile_suffix _)

theorem cutContinuation?_length {text before after : Letters}
    (cut : cutContinuation? text = some (before, after)) : after.length < text.length := by
  induction text generalizing before after with
  | nil => simp [cutContinuation?] at cut
  | cons letter text ih =>
    cases text with
    | nil => simp [cutContinuation?] at cut
    | cons next rest =>
      simp only [cutContinuation?] at cut
      split at cut
      · simp only [Option.some.injEq, Prod.mk.injEq] at cut
        rw [← cut.2]
        have bound := (continuationText_suffix rest).length_le
        simp only [List.length_cons]
        omega
      · obtain ⟨⟨found, behind⟩, inner, same⟩ := Option.map_eq_some_iff.1 cut
        simp only [Prod.mk.injEq] at same
        have bound := ih inner
        rw [← same.2]
        simp only [List.length_cons] at bound ⊢
        omega

def joinPieces (text : Letters) : Letters :=
  match _cut : cutContinuation? text with
  | none => text
  | some (before, after) => Letters.dropBlanksRight before ++ ' ' :: joinPieces after
termination_by text.length
decreasing_by exact cutContinuation?_length _cut

def joinContinuations (text : String) : Outcome String := do
  let lines ← (linesKeepingEnds text).mapM withoutComment
  return String.ofList (joinPieces (squeezeLines false (join "" lines).toList))

end ParallelFortran.Text
