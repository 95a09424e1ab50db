import ParallelFortran.Pattern.Basic

/-! Patterns written as text, in the usual notation: `.`, `^`, `$`, classes in square brackets,
groups, alternatives, and repetitions. In the spaced notation blanks between parts are ignored and
`#` starts a comment. -/

namespace ParallelFortran.Pattern

open Text (Letters)

namespace Reader

def escapedClass : Char → Option (Char → Bool)
  | 's' => some Text.isBlank
  | 'S' => some fun letter => !Text.isBlank letter
  | 'w' => some Text.isWord
  | 'W' => some fun letter => !Text.isWord letter
  | 'd' => some Text.isDigit
  | 'D' => some fun letter => !Text.isDigit letter
  | _ => none

def escapedLetter : Char → Option Char
  | 'n' => some '\n'
  | 't' => some '\t'
  | 'r' => some '\r'
  | 'f' => some (Char.ofNat 12)
  | 'v' => some (Char.ofNat 11)
  | 'a' => some (Char.ofNat 7)
  | letter => if letter.toNat < 128 && letter.isAlphanum then none else some letter

def inSpan (first last letter : Char) : Bool :=
  let within := fun (candidate : Char) => first ≤ candidate && candidate ≤ last
  within letter || within (Text.lowerChar letter) ||
    (Text.upperLetters letter).any within

def readClassPart : Letters → Option ((Char ⊕ (Char → Bool)) × Letters)
  | '\\' :: letter :: rest =>
    match escapedClass letter with
    | some set => some (.inr set, rest)
    | none => (escapedLetter letter).map fun plain => (.inl plain, rest)
  | '\\' :: [] => none
  | letter :: rest => some (.inl letter, rest)
  | [] => none

def readClass : Nat → Bool → (Char → Bool) → Letters → Option ((Char → Bool) × Letters)
  | 0, _, _, _ => none
  | fuel + 1, first, set, text =>
    match text with
    | ']' :: rest =>
      if first then readClass fuel false (fun letter => set letter || letter == ']') rest
      else some (set, rest)
    | _ => do
      let (part, rest) ← readClassPart text
      match part, rest with
      | .inl low, '-' :: next :: more =>
        if next == ']' then
          readClass fuel false (fun letter => set letter || caseless low letter) rest
        else do
          let (high, rest) ← readClassPart (next :: more)
          match high with
          | .inl high =>
            if low ≤ high then
              readClass fuel false (fun letter => set letter || inSpan low high letter) rest
            else none
          | .inr _ => none
      | .inl low, _ =>
        readClass fuel false (fun letter => set letter || caseless low letter) rest
      | .inr more, _ => readClass fuel false (fun letter => set letter || more letter) rest

def readCounts (text : Letters) : Option (Nat × Option Nat × Letters) :=
  let number := fun (digits : Letters) => digits.foldl (fun value digit => 10 * value + (digit.toNat - 48)) 0
  let low := text.takeWhile Text.isDigit
  match text.dropWhile Text.isDigit with
  | '\x7d' :: rest => if low.isEmpty then none else some (number low, some (number low), rest)
  | ',' :: rest =>
    let high := rest.takeWhile Text.isDigit
    match rest.dropWhile Text.isDigit with
    | '\x7d' :: rest => some (number low, if high.isEmpty then none else some (number high), rest)
    | _ => none
  | _ => none

def repeatable : Pattern → Bool
  | start | finish | run _ _ _ | many _ _ _ _ => false
  | _ => true

def repeatLast (least : Nat) (most : Option Nat) (greedy : Bool) : List Pattern → Option (List Pattern)
  | [] => none
  | part :: parts =>
    if repeatable part then
      match part, most with
      | one accepts, none => some (run accepts least greedy :: parts)
      | _, _ => some (many part least most greedy :: parts)
    else none

def readMood : Letters → Bool × Letters
  | '?' :: rest => (false, rest)
  | rest => (true, rest)

structure Progress where
  alternatives : List Pattern
  parts : List Pattern
  groups : Nat

def Progress.add (progress : Progress) (part : Pattern) : Progress :=
  { progress with parts := part :: progress.parts }

def Progress.pattern (progress : Progress) : Pattern :=
  choice ((sequence progress.parts.reverse :: progress.alternatives).reverse)

def readParts (spaced : Bool) : Nat → Progress → Letters → Option (Pattern × Nat × Letters)
  | 0, _, _ => none
  | fuel + 1, progress, text =>
    let repeated := fun (least : Nat) (most : Option Nat) (after : Letters) => do
      let (greedy, rest) := readMood after
      let parts ← repeatLast least most greedy progress.parts
      readParts spaced fuel { progress with parts } rest
    let grouped := fun (index : Option Nat) (groups : Nat) (inside : Letters) => do
      let (inner, groups, after) ← readParts spaced fuel ⟨[], [], groups⟩ inside
      match after with
      | ')' :: rest =>
        let part := match index with
          | some index => group index inner
          | none => both inner nothing
        readParts spaced fuel { progress with parts := part :: progress.parts, groups } rest
      | _ => none
    match text with
    | [] => some (progress.pattern, progress.groups, [])
    | ')' :: rest => some (progress.pattern, progress.groups, ')' :: rest)
    | '|' :: rest =>
      readParts spaced fuel
        ⟨sequence progress.parts.reverse :: progress.alternatives, [], progress.groups⟩ rest
    | '*' :: rest => repeated 0 none rest
    | '+' :: rest => repeated 1 none rest
    | '?' :: rest => repeated 0 (some 1) rest
    | '\x7b' :: rest =>
      match readCounts rest with
      | some (least, most, after) => repeated least most after
      | none => readParts spaced fuel (progress.add (one (· == '\x7b'))) rest
    | '(' :: '?' :: ':' :: rest => grouped none progress.groups rest
    | '(' :: '?' :: _ => none
    | '(' :: rest => grouped (some (progress.groups + 1)) (progress.groups + 1) rest
    | '[' :: '^' :: rest => do
      let (set, after) ← readClass (rest.length + 1) true (fun _ => false) rest
      readParts spaced fuel (progress.add (one fun letter => !set letter)) after
    | '[' :: rest => do
      let (set, after) ← readClass (rest.length + 1) true (fun _ => false) rest
      readParts spaced fuel (progress.add (one set)) after
    | '.' :: rest => readParts spaced fuel (progress.add (one fun letter => !isNewline letter)) rest
    | '^' :: rest => readParts spaced fuel (progress.add start) rest
    | '$' :: rest => readParts spaced fuel (progress.add finish) rest
    | '\\' :: letter :: rest =>
      match escapedClass letter with
      | some set => readParts spaced fuel (progress.add (one set)) rest
      | none => do
        let plain ← escapedLetter letter
        readParts spaced fuel (progress.add (one (caseless plain))) rest
    | '\\' :: [] => none
    | letter :: rest =>
      if spaced && [' ', '\t', '\n', '\r', Char.ofNat 11, Char.ofNat 12].contains letter then
        readParts spaced fuel progress rest
      else if spaced && letter == '#' then
        readParts spaced fuel progress (rest.dropWhile (· != '\n'))
      else readParts spaced fuel (progress.add (one (caseless letter))) rest

end Reader

def read? (spaced : Bool) (text : String) : Option Pattern :=
  match Reader.readParts spaced (text.length + 1) ⟨[], [], 0⟩ text.toList with
  | some (pattern, _, []) => some pattern
  | _ => none

end ParallelFortran.Pattern
