import ParallelFortran.Fault
import ParallelFortran.Xml.Tree

/-! Nodes with the same content, whatever their identifiers. -/

namespace ParallelFortran.Xml

def sameAttributes (ignoreIds : Bool) (known new : Tree) : Outcome Bool :=
  if known.isElement && known.tag? != new.tag? then .ok false
  else if new.attributes.isEmpty then .ok known.attributes.isEmpty
  else if !known.isElement then .error (.defect .wrongKind)
  else if known.attributes.length != new.attributes.length then .ok false
  else .ok (known.attributes.all fun entry =>
    (ignoreIds && entry.1 == "id") || entry.2 == new.attributes.value entry.1)

def simpleValue? (tree : Tree) : Option String :=
  match tree.data?, tree.children with
  | some data, _ => some data
  | none, [child] => child.data?
  | none, _ => none

def entryValue (entry : Tree) : Outcome String :=
  match simpleValue? entry with
  | some value => .ok (Text.strip value)
  | none => .error (.defect .missingPart)

def mergedValue (tree : Tree) : Outcome (Option String) :=
  match tree.data?, tree.children with
  | some data, _ => .ok (some data)
  | none, [child] => .ok child.data?
  | none, children => do
    if !children.all Tree.isElement then throw (.defect .missingPart)
    if children.all fun child => child.tag? == some "entry" then
      return some (Text.join "," (← children.mapM entryValue))
    return none

/-- What is known of the comparison with one candidate: the text still to be found, or whether the
text has been found, and whether all elements have been found. -/
structure Comparison where
  value : Option String
  elements : Bool := true

def found : String := "match!"

def missing : String := "nomatch"

def Comparison.note (comparison : Comparison) (isElement present : Bool) : Comparison :=
  if isElement then { comparison with elements := comparison.elements && present }
  else { comparison with value := some (if present then found else missing) }

def Comparison.holds (comparison : Comparison) : Bool :=
  comparison.elements && comparison.value.all (· == found)

def Comparison.begin (newValue knownValue : Option String) : Option Comparison :=
  match newValue.filter (! ·.isEmpty) with
  | none => some ⟨none, true⟩
  | some value =>
    match knownValue.filter (! ·.isEmpty) with
    | none => none
    | some known => some ⟨some (if value == known then found else value), true⟩

mutual

def firstDuplicate? (ignoreIds : Bool) (candidates : List Tree) : Tree → Outcome (Option Nat)
  | .element tag attributes children => do
    let new := Tree.element tag attributes children
    let alike ← candidates.mapM fun candidate => sameAttributes ignoreIds candidate new
    let indexed := (candidates.zip alike).zipIdx.filter fun entry => entry.1.2
    if indexed.isEmpty then return none
    let value ← mergedValue new
    indexed.findSomeM? fun entry => do
      let candidate := entry.1.1
      if candidate.children.length != children.length then return none
      match Comparison.begin value (← mergedValue candidate) with
      | none => return none
      | some comparison => do
        let comparison ← compareChildren candidate.children comparison children
        return if comparison.holds then some entry.2 else none
  | leaf => do
    let alike ← candidates.mapM fun candidate => sameAttributes ignoreIds candidate leaf
    let indexed := (candidates.zip alike).zipIdx.filter fun entry => entry.1.2
    if indexed.isEmpty then return none
    let value ← mergedValue leaf
    indexed.findSomeM? fun entry => do
      let candidate := entry.1.1
      if !candidate.children.isEmpty then return none
      match Comparison.begin value (← mergedValue candidate) with
      | none => return none
      | some comparison => return if comparison.holds then some entry.2 else none

def compareChildren (candidates : List Tree) (comparison : Comparison) :
    List Tree → Outcome Comparison
  | [] => .ok comparison
  | child :: children => do
    let duplicate ← firstDuplicate? true candidates child
    compareChildren candidates (comparison.note child.isElement duplicate.isSome) children

end

end ParallelFortran.Xml
