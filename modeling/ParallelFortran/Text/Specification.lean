import ParallelFortran.Text.Components

/-! Declaration lines: the type with its attributes, the objects that are declared, and what stands
behind them. -/

namespace ParallelFortran

open Pattern (Found)
open Text

structure DataObject where
  name : String
  size : Option String
  deriving DecidableEq, Repr, Inhabited

structure Specification where
  components : List String
  objects : List DataObject
  remainder : String
  deriving DecidableEq, Repr, Inhabited

namespace Specification

def declaration (specification : Specification) : String :=
  join ", " specification.components

def readObject (component : String) : Outcome DataObject := do
  let (name, size) ← nameAndContent component
  return ⟨name, size⟩

def readObjects (text : String) : Outcome (List DataObject × String) := do
  let (components, remainder) ← componentsAndRemainder text
  if components.isEmpty then throw (.text .noDataObjects)
  if components.length > 1 && !isBlankText remainder then
    throw (.text (.invalidRightHandSide text))
  return (← components.mapM readObject, remainder)

def startsWithType (components : List String) : Bool :=
  match components.head? with
  | some first => Pattern.Fortran.standardType.accepts first
  | none => false

def doublePrecision? (text : String) : Option String :=
  (Pattern.Fortran.doublePrecision.match? text).map fun found => found.group 1

def readWithColons (left right : String) : Outcome (Option Specification) := do
  let components ← match doublePrecision? left with
    | some attributes => do
      let (components, _) ← componentsAndRemainder attributes
      pure ("double precision" :: components)
    | none => do
      let (components, _) ← componentsAndRemainder left
      pure components
  if !startsWithType components then return none
  let (objects, remainder) ← readObjects right
  return some ⟨components, objects, remainder⟩

def splitDoublePrecision (text : String) : Outcome (List String × String) := do
  let (components, remainder) ← componentsAndRemainder text
  match components.getLast? with
  | some last =>
    if isBlankText remainder then return ("double precision" :: components.dropLast, last)
    else return ("double precision" :: components, remainder)
  | none => return (["double precision"], remainder)

def readWithoutColons (line : String) : Outcome (Option Specification) := do
  let (components, rest) ← match doublePrecision? line with
    | some attributes => splitDoublePrecision attributes
    | none => componentsAndRemainder line
  if isBlankText rest || !startsWithType components then return none
  let (objects, remainder) ← readObjects rest
  if objects.length != 1 then throw (.text .wrongObjectCount)
  return some ⟨components, objects, remainder⟩

def read? (line : String) : Outcome (Option Specification) :=
  match Pattern.Fortran.doubleColon.match? line with
  | some found => readWithColons (found.group 1) (found.group 2)
  | none => readWithoutColons line

def objectText (object : DataObject) : String :=
  match object.size with
  | some size => if size.isEmpty then object.name else object.name ++ "(" ++ size ++ ")"
  | none => object.name

def joinComponents (components : List String) : String :=
  components.foldl (fun text component =>
    if text.isEmpty then component else text ++ ", " ++ component) ""

def purge (keywords : List String) (directives : String) : Outcome String := do
  let (components, remainder) ← componentsAndRemainder directives
  let kept := components.filter fun component =>
    !keywords.any fun keyword => startsWith (lower component) keyword
  return strip (joinComponents kept ++ " " ++ strip remainder)

def splitAndPurge (keywords : List String) (line : String) : Outcome (String × String × String) := do
  match ← read? line with
  | none => throw (.text (.invalidDeclaration line))
  | some specification =>
    let objects := join ", " (specification.objects.map objectText)
    let objects :=
      if specification.remainder.isEmpty then objects
      else objects ++ " " ++ specification.remainder
    return (← purge keywords specification.declaration, specification.declaration, objects)

def display (specification : Specification) : String :=
  tupleText [quoted specification.declaration,
    tupleText (specification.objects.map fun object =>
      tupleText [quoted object.name, quotedOrAbsent object.size]),
    quoted specification.remainder]

def dimensionComponent : List String → Outcome (Option String)
  | [] => .ok none
  | component :: components => do
    let (name, content) ← nameAndContent component
    if name == "dimension" then
      match content with
      | none => throw (.text .emptyDimension)
      | some content =>
        if content.isEmpty then throw (.text .emptyDimension) else return some content
    else dimensionComponent components

def dimension (name : String) (specification : Specification) : Outcome (Option String) := do
  let shared ←
    if contains specification.declaration "dimension" then do
      let (components, _) ← componentsAndRemainder specification.declaration
      dimensionComponent components
    else pure none
  match shared with
  | some sizes => return some sizes
  | none =>
    match specification.objects.find? fun object => object.name == name with
    | some object => return object.size
    | none => throw (.text (.unknownObject name specification.display))

end Specification

end ParallelFortran
