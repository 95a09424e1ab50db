import ParallelFortran.Pattern.Basic
import ParallelFortran.Text.Quotes

/-! Layout of generated lines: lines beyond the width are broken at blanks outside of quotes and
continued, blocks are indented, and runs of empty lines are shortened. -/

namespace ParallelFortran

structure Layout where
  depth : Nat := 0
  emptyLines : Nat := 0

abbrev LayoutM := ExceptT Fault (StateM Layout)

namespace Layout

open Pattern in
def blockBegin : Pattern :=
  sequence [blanks,
    either
      (choice (["module", "select", "do", "subroutine", "function", "program", "attributes"].map
        literal))
      (sequence [literal "if", nonWord, little, nonWord, literal "then"]),
    either nonWord finish, anything]

open Pattern in
def blockEnd : Pattern :=
  sequence [blanks, literal "end", blanks,
    choice (["module", "select", "do", "subroutine", "function", "program", "if"].map literal),
    either nonWord finish, anything]

open Pattern in
def isOpenMPDirective (line : String) : Bool :=
  (sequence [blanks, literal "!$OMP"]).accepts line

open Pattern in
def isOpenACCDirective (line : String) : Bool :=
  (sequence [blanks, literal "!$ACC"]).accepts line

structure Style where
  width : Int := 132
  comment : String := "!"

def continued : String := " &"

inductive Sentinel where
  | none
  | openMP
  | openACC

def Sentinel.of (line : String) : Sentinel :=
  if isOpenMPDirective line then .openMP
  else if isOpenACCDirective line then .openACC
  else .none

def Sentinel.lead : Sentinel → String
  | .none => "& "
  | .openMP => "!$OMP& "
  | .openACC => "!$acc& "

def Sentinel.isNone : Sentinel → Bool
  | .none => true
  | _ => false

def startsComment (style : Style) (line : String) : Bool :=
  match Text.find? style.comment line with
  | some position => (position : Int) ≤ style.width
  | none => false

/-- A blank to break the line at. The limit is raised in steps of five until one is found: a line
slightly too long is better than one that cannot be broken. -/
def breakPoint (text : String) (leadLength : Nat) (limit : Int) : Nat → Outcome (Option Nat)
  | 0 => .ok none
  | fuel + 1 =>
    if (text.length + leadLength : Int) ≤ limit then .ok none
    else do
      match ← Text.findLastOutsideQuotes " " text limit with
      | some (position + 1) => pure (some (position + 1))
      | _ => breakPoint text leadLength (limit + 5) fuel

/-- The lines of a line that is too long. `broken` tells that part of it stands on earlier lines. -/
def breakLoop (style : Style) : Nat → Bool → String → Outcome (List String)
  | 0, _, remainder => .ok [remainder]
  | fuel + 1, broken, remainder =>
    let limit := style.width - continued.length
    if (remainder.length : Int) ≤ limit then .ok [remainder]
    else
      let sentinel := Sentinel.of remainder
      if sentinel.isNone && startsComment style remainder then .ok [remainder]
      else do
        let leadLength := if broken then sentinel.lead.length else 0
        let lead := Text.take leadLength remainder
        let body := Text.drop leadLength remainder
        let steps := ((remainder.length : Int) - limit).toNat + 1
        match ← breakPoint body lead.length limit steps with
        | none => throw (.defect .unknownName)
        | some position =>
          let line := lead ++ Text.take position body ++ continued
          let rest := sentinel.lead ++ Text.drop position body
          if remainder.length ≤ rest.length then throw (.defect .unknownName)
          return line :: (← breakLoop style fuel true rest)

/-- Breaks a line at the width; `ever` tells that some line of the text has been broken. To comment
out lines that are never broken is refused. -/
def breakLine (style : Style) (commented ever : Bool) (line : String) :
    Outcome (List String × Bool) := do
  if (line.length : Int) ≤ style.width then return ([line], ever)
  let lines ← breakLoop style (line.length + 1) false line
  let ever := ever || lines.length > 1
  if commented && !ever then throw (.defect .unassigned)
  return (lines.filter (! ·.isEmpty), ever)

def breakLines (style : Style) (commented : Bool) : Bool → List String → Outcome (List String)
  | _, [] => .ok []
  | ever, line :: lines => do
    let (broken, ever) ← breakLine style commented ever line
    return broken ++ (← breakLines style commented ever lines)

def deepest : Nat := 5

def startsWithMark (mark : String) (line : String) : Bool :=
  Text.startsWith line mark

def place (line : String) : StateM Layout String := do
  let line := Text.strip line
  if line.isEmpty then
    modify fun layout => { layout with emptyLines := layout.emptyLines + 1 }
    return ""
  modify fun layout => { layout with emptyLines := 0 }
  let depth := (← get).depth
  if startsWithMark "!" line || startsWithMark "#" line then return line
  else if blockEnd.accepts line then
    modify fun layout => { layout with depth := depth - 1 }
    return Text.repeated (depth - 1) "\t" ++ line
  else if blockBegin.accepts line then
    modify fun layout => { layout with depth := min deepest (depth + 1) }
    return Text.repeated depth "\t" ++ line
  else return Text.repeated depth "\t" ++ line

def write (style : Style) (commented : Bool) (text : String) : LayoutM String := do
  let text := Text.strip text
  if text.isEmpty then
    if (← get).emptyLines > 1 then return ""
    modify fun layout => { layout with emptyLines := layout.emptyLines + 1 }
    return "\n"
  modify fun layout => { layout with emptyLines := 0 }
  let lines ← breakLines style commented false (Text.split "\n" text)
  let placed ← lines.mapM fun line => (place line : StateM Layout String)
  return Text.join "\n" placed ++ "\n"

end Layout

end ParallelFortran
