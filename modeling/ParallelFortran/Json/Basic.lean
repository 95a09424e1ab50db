import ParallelFortran.Number.Binary64

/-! Values of the JSON format. The fields of an object keep their order. -/

namespace ParallelFortran

inductive Json where
  | null
  | bool (value : Bool)
  | integer (value : Int)
  | real (value : Binary64)
  | string (value : String)
  | array (items : List Json)
  | object (fields : List (String × Json))

namespace Json

instance : Inhabited Json := ⟨null⟩

def setField (fields : List (String × Json)) (name : String) (value : Json) : List (String × Json) :=
  if fields.any fun field => field.1 == name then
    fields.map fun field => if field.1 == name then (name, value) else field
  else fields ++ [(name, value)]

def field? (json : Json) (name : String) : Option Json :=
  match json with
  | object fields => (fields.find? fun field => field.1 == name).map Prod.snd
  | _ => none

def string? : Json → Option String
  | string value => some value
  | _ => none

def items : Json → List Json
  | array items => items
  | _ => []

end Json

end ParallelFortran

/-! Short ways to read fields of JSON objects. What is missing or of another kind reads as empty. -/

namespace ParallelFortran.Json

def get (json : Json) (name : String) : Json := (json.field? name).getD null

def has (json : Json) (name : String) : Bool :=
  match json.get name with
  | null => false
  | _ => true

def item (json : Json) (index : Nat) : Json := json.items[index]?.getD null

def asText : Json → String
  | string value => value
  | integer value => toString value
  | _ => ""

def asInt : Json → Int
  | integer value => value
  | _ => 0

variable (json : Json) (name : String)

def text : String := (json.get name).asText

def text? : Option String := (json.get name).string?

def flag (otherwise : Bool) : Bool :=
  match json.get name with
  | bool value => value
  | _ => otherwise

def number (otherwise : Int) : Int :=
  match json.get name with
  | integer value => value
  | _ => otherwise

def list : List Json := (json.get name).items

def texts : List String := (json.list name).map asText

def asPair : String × String := ((json.item 0).asText, (json.item 1).asText)

def pairs : List (String × String) := (json.list name).map asPair

mutual

def display : Json → String
  | null => Text.absent
  | bool value => Text.truthText value
  | integer value => toString value
  | real value => value.text
  | string value => Text.quoted value
  | array items => Text.listText (displayItems items)
  | object fields => "\x7b" ++ Text.join ", " (displayFields fields) ++ "\x7d"

def displayItems : List Json → List String
  | [] => []
  | item :: items => display item :: displayItems items

def displayFields : List (String × Json) → List String
  | [] => []
  | (name, value) :: fields => (Text.quoted name ++ ": " ++ display value) :: displayFields fields

end

instance : BEq Json := ⟨fun left right => left.display == right.display⟩

/-! Writing of JSON text, on one line or with indentation. Every character beyond ASCII is written as
an escape of its code units. -/

open Text (Letters)

def unitEscape (unit : Nat) : Letters :=
  '\\' :: 'u' :: Text.hexDigits 4 unit

def escapedLetter (letter : Char) : Letters :=
  if letter == '"' then ['\\', '"']
  else if letter == '\\' then ['\\', '\\']
  else if letter == '\n' then ['\\', 'n']
  else if letter == '\r' then ['\\', 'r']
  else if letter == '\t' then ['\\', 't']
  else if letter.toNat == 8 then ['\\', 'b']
  else if letter.toNat == 12 then ['\\', 'f']
  else if 32 ≤ letter.toNat && letter.toNat < 127 then [letter]
  else if letter.toNat < 65536 then unitEscape letter.toNat
  else
    let offset := letter.toNat - 65536
    unitEscape (0xD800 + offset / 1024) ++ unitEscape (0xDC00 + offset % 1024)

def stringText (text : String) : String :=
  String.ofList ('"' :: text.toList.flatMap escapedLetter ++ ['"'])

def realText (value : Binary64) : String :=
  if value.isNaN then "NaN"
  else if value.isInfinite then (if value.isNegative then "-Infinity" else "Infinity")
  else value.text

mutual

def compact : Json → String
  | .null => "null"
  | .bool value => if value then "true" else "false"
  | .integer value => toString value
  | .real value => realText value
  | .string value => stringText value
  | .array items => "[" ++ Text.join "," (compactItems items) ++ "]"
  | .object fields => "\x7b" ++ Text.join "," (compactFields fields) ++ "\x7d"

def compactItems : List Json → List String
  | [] => []
  | item :: items => compact item :: compactItems items

def compactFields : List (String × Json) → List String
  | [] => []
  | (name, value) :: fields =>
    (stringText name ++ ":" ++ compact value) :: compactFields fields

end

mutual

def indented (level : Nat) : Json → String
  | .array [] => "[]"
  | .array items =>
    let margin := "\n" ++ Text.repeated (level + 1) "    "
    "[" ++ margin ++ Text.join ("," ++ margin) (indentedItems (level + 1) items) ++
      "\n" ++ Text.repeated level "    " ++ "]"
  | .object [] => "\x7b\x7d"
  | .object fields =>
    let margin := "\n" ++ Text.repeated (level + 1) "    "
    let texts := (indentedFields (level + 1) fields).mergeSort fun first second =>
      decide (first.1 ≤ second.1)
    "\x7b" ++ margin ++ Text.join ("," ++ margin) (texts.map Prod.snd) ++
      "\n" ++ Text.repeated level "    " ++ "\x7d"
  | value => compact value

def indentedItems (level : Nat) : List Json → List String
  | [] => []
  | item :: items => indented level item :: indentedItems level items

def indentedFields (level : Nat) :
    List (String × Json) → List (String × String)
  | [] => []
  | (name, value) :: fields =>
    (name, stringText name ++ ": " ++ indented level value) ::
      indentedFields level fields

end

mutual

def asTexts : Json → Json
  | .null => .string Text.absent
  | .bool value => .string (Text.truthText value)
  | .integer value => .string (toString value)
  | .real value => .string value.text
  | .string value => .string value
  | .array items => .array (itemsAsTexts items)
  | .object fields => .object (fieldsAsTexts fields)

def itemsAsTexts : List Json → List Json
  | [] => []
  | item :: items => asTexts item :: itemsAsTexts items

def fieldsAsTexts : List (String × Json) → List (String × Json)
  | [] => []
  | (name, value) :: fields => (name, asTexts value) :: fieldsAsTexts fields

end

def pretty (json : Json) : String := indented 0 json.asTexts ++ "\n"

end ParallelFortran.Json
