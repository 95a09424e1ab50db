import ParallelFortran.Text.Basic

/-! Patterns over text with groups, and their ordered matching: alternatives are tried from left to
right, and a repetition prefers more rounds if it is greedy and fewer if it is not. -/

namespace ParallelFortran

open Text (Letters)

inductive Pattern where
  | nothing
  | one (accepts : Char → Bool)
  | start
  | finish
  | both (first second : Pattern)
  | either (first second : Pattern)
  | group (index : Nat) (inner : Pattern)
  | run (accepts : Char → Bool) (least : Nat) (greedy : Bool)
  | many (inner : Pattern) (least : Nat) (most : Option Nat) (greedy : Bool)

namespace Pattern

structure Cursor where
  position : Nat
  rest : Letters

abbrev Captures := List (Nat × Letters)

abbrev Continuation (α : Type) := Cursor → Captures → Option α

def runGreedy {α : Type} (accepts : Char → Bool) (captures : Captures) (next : Continuation α) :
    Nat → Nat → Letters → Option α
  | 0, position, [] => next ⟨position, []⟩ captures
  | _ + 1, _, [] => none
  | 0, position, letter :: rest =>
    if accepts letter then
      match runGreedy accepts captures next 0 (position + 1) rest with
      | some result => some result
      | none => next ⟨position, letter :: rest⟩ captures
    else next ⟨position, letter :: rest⟩ captures
  | least + 1, position, letter :: rest =>
    if accepts letter then runGreedy accepts captures next least (position + 1) rest else none

def runLazy {α : Type} (accepts : Char → Bool) (captures : Captures) (next : Continuation α) :
    Nat → Nat → Letters → Option α
  | 0, position, [] => next ⟨position, []⟩ captures
  | _ + 1, _, [] => none
  | 0, position, letter :: rest =>
    match next ⟨position, letter :: rest⟩ captures with
    | some result => some result
    | none =>
      if accepts letter then runLazy accepts captures next 0 (position + 1) rest else none
  | least + 1, position, letter :: rest =>
    if accepts letter then runLazy accepts captures next least (position + 1) rest else none

/-- Rounds of a repeated part. A round that consumes nothing is the last one, so `fuel` rounds with
`fuel` above the number of remaining characters and the least count are all there can be. -/
def manyRounds {α : Type} (body : Cursor → Captures → Continuation α → Option α) (greedy : Bool)
    (next : Continuation α) : Nat → Nat → Option Nat → Cursor → Captures → Option α
  | 0, _, _, cursor, captures => next cursor captures
  | fuel + 1, least + 1, most, cursor, captures =>
    body cursor captures fun after captured =>
      manyRounds body greedy next fuel least (most.map (· - 1)) after captured
  | fuel + 1, 0, most, cursor, captures =>
    let again : Unit → Option α := fun _ =>
      if most == some 0 then none
      else body cursor captures fun after captured =>
        if after.position == cursor.position then next after captured
        else manyRounds body greedy next fuel 0 (most.map (· - 1)) after captured
    if greedy then
      match again () with
      | some result => some result
      | none => next cursor captures
    else
      match next cursor captures with
      | some result => some result
      | none => again ()

def matchWith {α : Type} : Pattern → Cursor → Captures → Continuation α → Option α
  | nothing, cursor, captures, next => next cursor captures
  | one accepts, cursor, captures, next =>
    match cursor.rest with
    | [] => none
    | letter :: rest =>
      if accepts letter then next ⟨cursor.position + 1, rest⟩ captures else none
  | start, cursor, captures, next =>
    if cursor.position == 0 then next cursor captures else none
  | finish, cursor, captures, next =>
    if cursor.rest.isEmpty || cursor.rest == ['\n'] then next cursor captures else none
  | both first second, cursor, captures, next =>
    first.matchWith cursor captures fun middle captured =>
      second.matchWith middle captured next
  | either first second, cursor, captures, next =>
    match first.matchWith cursor captures next with
    | some result => some result
    | none => second.matchWith cursor captures next
  | group index inner, cursor, captures, next =>
    inner.matchWith cursor captures fun after captured =>
      next after ((index, cursor.rest.take (after.position - cursor.position)) :: captured)
  | run accepts least greedy, cursor, captures, next =>
    if greedy then runGreedy accepts captures next least cursor.position cursor.rest
    else runLazy accepts captures next least cursor.position cursor.rest
  | many inner least most greedy, cursor, captures, next =>
    manyRounds (fun place captured onward => inner.matchWith place captured onward) greedy next
      (cursor.rest.length + least + 1) least most cursor captures

structure Found where
  whole : Letters
  rest : Letters
  captures : Captures

variable (pattern : Pattern)

def matchLetters? (text : Letters) : Option Found :=
  pattern.matchWith ⟨0, text⟩ [] fun cursor captures =>
    some ⟨text.take cursor.position, cursor.rest, captures⟩

def match? (text : String) : Option Found :=
  pattern.matchLetters? text.toList

def accepts (text : String) : Bool :=
  (pattern.match? text).isSome

def Found.group? (found : Found) (index : Nat) : Option String :=
  (found.captures.find? fun capture => capture.1 == index).map fun capture =>
    String.ofList capture.2

def Found.group (found : Found) (index : Nat) : String :=
  (found.group? index).getD ""

def groupCount : Pattern → Nat
  | both first second => max first.groupCount second.groupCount
  | either first second => max first.groupCount second.groupCount
  | group index inner => max index inner.groupCount
  | many inner _ _ _ => inner.groupCount
  | _ => 0

/-! Patterns are put together from these parts. Letters are compared without regard to case. -/

def caseless (wanted : Char) : Char → Bool :=
  if wanted.toNat < 128 && !wanted.isAlpha then (· == wanted)
  else
    let folded := Text.foldCase wanted
    fun letter => Text.foldCase letter == folded

def sequence : List Pattern → Pattern
  | [] => nothing
  | [part] => part
  | part :: parts => both part (sequence parts)

def choice : List Pattern → Pattern
  | [] => nothing
  | [part] => part
  | part :: parts => either part (choice parts)

def lettersOf (text : Letters) : Pattern :=
  sequence (text.map fun letter => one (caseless letter))

def literal (text : String) : Pattern :=
  lettersOf text.toList

def optional (inner : Pattern) : Pattern :=
  either inner nothing

def isNewline (letter : Char) : Bool :=
  letter == '\n'

def blank : Pattern := one Text.isBlank
def blanks : Pattern := run Text.isBlank 0 true
def someBlanks : Pattern := run Text.isBlank 1 true
def word : Pattern := run Text.isWord 0 true
def someWord : Pattern := run Text.isWord 1 true
def nonWord : Pattern := one fun letter => !Text.isWord letter
def anything : Pattern := run (fun letter => !isNewline letter) 0 true
def little : Pattern := run (fun letter => !isNewline letter) 0 false
def oneOf (letters : String) : Pattern := one fun letter => letters.toList.contains letter

end Pattern

end ParallelFortran
