import ParallelFortran.Text.Basic

/-! Documents as plain trees. An attribute may be present without a value. -/

namespace ParallelFortran.Xml

abbrev Attributes := List (String × Option String)

inductive Tree where
  | element (tag : String) (attributes : Attributes) (children : List Tree)
  | text (data : String)
  | verbatim (data : String)
  | comment (data : String)
  | instruction (target data : String)
  deriving Inhabited

namespace Tree

def tag? : Tree → Option String
  | element tag _ _ => some tag
  | _ => none

def attributes : Tree → Attributes
  | element _ attributes _ => attributes
  | _ => []

def children : Tree → List Tree
  | element _ _ children => children
  | _ => []

def data? : Tree → Option String
  | element _ _ _ => none
  | text data | verbatim data | comment data | instruction _ data => some data

def isElement : Tree → Bool
  | element _ _ _ => true
  | _ => false

end Tree

variable (attributes : Attributes) (name : String)

def Attributes.value : Option String :=
  match attributes.find? fun entry => entry.1 == name with
  | some entry => entry.2
  | none => some ""

def Attributes.set (value : Option String) : Attributes :=
  if attributes.any fun entry => entry.1 == name then
    attributes.map fun entry => if entry.1 == name then (name, value) else entry
  else attributes ++ [(name, value)]

def attributeOrder (left right : String × Option String) : Bool :=
  decide (left.1 ≤ right.1)

def sameAttribute (ignored : List String) (left right : String × Option String) : Bool :=
  left.1 == right.1 && (ignored.contains left.1 || left.2 == right.2)

def sameAttributeLists (ignored : List String) (left right : Attributes) : Bool :=
  left.length == right.length &&
    ((left.mergeSort attributeOrder).zip (right.mergeSort attributeOrder)).all fun (a, b) =>
      sameAttribute ignored a b

mutual

/-- Text nodes agree in their text; comments and instructions in their kind only. -/
def equalTrees (ignored : List String) : Tree → Tree → Bool
  | .element tag attributes children, .element otherTag otherAttributes others =>
    tag == otherTag && sameAttributeLists ignored attributes otherAttributes &&
      equalForests ignored children others
  | .text data, .text other => data == other
  | .verbatim _, .verbatim _ => true
  | .comment _, .comment _ => true
  | .instruction _ _, .instruction _ _ => true
  | _, _ => false

def equalForests (ignored : List String) : List Tree → List Tree → Bool
  | [], [] => true
  | tree :: trees, other :: others =>
    equalTrees ignored tree other && equalForests ignored trees others
  | _, _ => false

end

def escapedLetter (letter : Char) : String :=
  if letter == '&' then "&amp;"
  else if letter == '<' then "&lt;"
  else if letter == '"' then "&quot;"
  else if letter == '>' then "&gt;"
  else letter.toString

def escaped (text : String) : String :=
  String.join (text.toList.map escapedLetter)

def attributesText (attributes : Attributes) : String :=
  String.join (attributes.map fun entry =>
    " " ++ entry.1 ++ "=\"" ++ escaped (entry.2.getD "") ++ "\"")

structure Format where
  step : String
  newline : String

def compact : Format := ⟨"", ""⟩

def indented : Format := ⟨"\t", "\n"⟩

mutual

def Tree.write (format : Format) (margin : String) : Tree → String
  | .element tag attributes children =>
    let head := margin ++ "<" ++ tag ++ attributesText attributes
    match children with
    | [] => head ++ "/>" ++ format.newline
    | [.text data] => head ++ ">" ++ escaped data ++ "</" ++ tag ++ ">" ++ format.newline
    | [.verbatim data] =>
      head ++ "><![CDATA[" ++ data ++ "]]></" ++ tag ++ ">" ++ format.newline
    | children =>
      head ++ ">" ++ format.newline ++ writeAll format (margin ++ format.step) children ++
        margin ++ "</" ++ tag ++ ">" ++ format.newline
  | .text data => escaped (margin ++ data ++ format.newline)
  | .verbatim data => "<![CDATA[" ++ data ++ "]]>"
  | .comment data => margin ++ "<!--" ++ data ++ "-->" ++ format.newline
  | .instruction target data => margin ++ "<?" ++ target ++ " " ++ data ++ "?>" ++ format.newline

def writeAll (format : Format) (margin : String) : List Tree → String
  | [] => ""
  | tree :: trees => tree.write format margin ++ writeAll format margin trees

end

def documentText (format : Format) (children : List Tree) : String :=
  "<?xml version=\"1.0\" ?>" ++ format.newline ++ writeAll format "" children

end ParallelFortran.Xml
