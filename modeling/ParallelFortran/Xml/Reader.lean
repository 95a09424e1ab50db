import ParallelFortran.Fault
import ParallelFortran.Xml.Tree

/-! Reading of documents. All of the text is kept, blanks between elements included. Each step
consumes at least one character, so a fuel above the length of the text suffices everywhere. -/

namespace ParallelFortran.Xml.Reader

open Text (Letters)

variable (letter : Char)

def isSpace : Bool :=
  letter == ' ' || letter == '\t' || letter == '\n' || letter == '\r'

def isNameStart : Bool :=
  letter.isAlpha || letter == '_' || letter == ':' || letter.toNat ≥ 128

def isNameLetter : Bool :=
  isNameStart letter || letter.isDigit || letter == '-' || letter == '.'

def isAllowed : Bool :=
  letter.toNat ≥ 32 || isSpace letter

def skip (text : Letters) : Letters := text.dropWhile isSpace

def readName? : Letters → Option (String × Letters)
  | [] => none
  | first :: rest =>
    if isNameStart first then
      some (String.ofList (first :: rest.takeWhile isNameLetter), rest.dropWhile isNameLetter)
    else none

def digitValue? (base : Nat) (letter : Char) : Option Nat :=
  let value :=
    if letter.isDigit then letter.toNat - 48
    else if 'a' ≤ letter && letter ≤ 'f' then letter.toNat - 87
    else if 'A' ≤ letter && letter ≤ 'F' then letter.toNat - 55
    else base
  if value < base then some value else none

def numberOf? (base : Nat) (digits : Letters) : Option Nat :=
  if digits.isEmpty then none
  else digits.foldlM (fun value digit => (digitValue? base digit).map (base * value + ·)) 0

def entity? (name : Letters) : Option Char :=
  match name with
  | '#' :: 'x' :: digits => (numberOf? 16 digits).map Char.ofNat
  | '#' :: digits => (numberOf? 10 digits).map Char.ofNat
  | _ =>
    [("amp", '&'), ("lt", '<'), ("gt", '>'), ("quot", '"'), ("apos", '\'')].lookup
      (String.ofList name)

def readEntity? (text : Letters) : Option (Char × Letters) :=
  let name := text.takeWhile fun letter => letter != ';' && !isSpace letter
  match text.drop name.length with
  | ';' :: rest => (entity? name).map fun letter => (letter, rest)
  | _ => none

def readValue? (quote : Char) : Nat → Letters → Letters → Option (String × Letters)
  | 0, _, _ => none
  | fuel + 1, read, text =>
    match text with
    | [] => none
    | '&' :: rest => do
      let (letter, rest) ← readEntity? rest
      readValue? quote fuel (letter :: read) rest
    | '<' :: _ => none
    | letter :: rest =>
      if letter == quote then some (String.ofList read.reverse, rest)
      else if !isAllowed letter then none
      else readValue? quote fuel ((if isSpace letter then ' ' else letter) :: read) rest

def readAttributes? : Nat → Attributes → Letters → Option (Attributes × Letters)
  | 0, _, _ => none
  | fuel + 1, attributes, text =>
    let visible := skip text
    match visible with
    | '>' :: _ | '/' :: _ | '?' :: _ => some (attributes, visible)
    | _ =>
      if !(text.head?.any isSpace) then none
      else do
        let (name, rest) ← readName? visible
        if attributes.any fun entry => entry.1 == name then none
        match skip rest with
        | '=' :: rest =>
          match skip rest with
          | '"' :: rest => do
            let (value, rest) ← readValue? '"' (fuel + 1) [] rest
            readAttributes? fuel (attributes ++ [(name, some value)]) rest
          | '\'' :: rest => do
            let (value, rest) ← readValue? '\'' (fuel + 1) [] rest
            readAttributes? fuel (attributes ++ [(name, some value)]) rest
          | _ => none
        | _ => none

def readUntil? (mark : String) (text : Letters) : Option (String × Letters) :=
  (Letters.cut? mark.toList text).map fun parts => (String.ofList parts.1, parts.2)

def startsWith (mark : String) (text : Letters) : Option Letters :=
  if mark.toList.isPrefixOf text then some (text.drop mark.length) else none

def readComment? (text : Letters) : Option (Tree × Letters) := do
  let (data, rest) ← readUntil? "--" text
  match rest with
  | '>' :: rest => some (.comment data, rest)
  | _ => none

def readInstruction? (text : Letters) : Option (Tree × Letters) := do
  let (target, rest) ← readName? text
  if target.toLower == "xml" then none
  let (data, rest) ← readUntil? "?>" rest
  some (.instruction target (String.ofList (skip data.toList)), rest)

def readText? : Nat → Letters → Letters → Option (String × Letters)
  | 0, _, _ => none
  | fuel + 1, read, text =>
    match text with
    | [] => some (String.ofList read.reverse, [])
    | '<' :: _ => some (String.ofList read.reverse, text)
    | '&' :: rest => do
      let (letter, rest) ← readEntity? rest
      readText? fuel (letter :: read) rest
    | ']' :: ']' :: '>' :: _ => none
    | letter :: rest =>
      if isAllowed letter then readText? fuel (letter :: read) rest else none

mutual

def readElement? : Nat → Letters → Option (Tree × Letters)
  | 0, _ => none
  | fuel + 1, text => do
    let (tag, rest) ← readName? text
    let (attributes, rest) ← readAttributes? (fuel + 1) [] rest
    match rest with
    | '/' :: '>' :: rest => some (.element tag attributes [], rest)
    | '>' :: rest => do
      let (children, rest) ← readChildren? fuel [] rest
      let (closing, rest) ← readName? rest
      match skip rest with
      | '>' :: rest => if closing == tag then some (.element tag attributes children, rest) else none
      | _ => none
    | _ => none

def readChildren? : Nat → List Tree → Letters → Option (List Tree × Letters)
  | 0, _, _ => none
  | fuel + 1, children, text =>
    match startsWith "</" text with
    | some rest => some (children.reverse, rest)
    | none =>
      match startsWith "<!--" text with
      | some rest => do
        let (comment, rest) ← readComment? rest
        readChildren? fuel (comment :: children) rest
      | none =>
        match startsWith "<![CDATA[" text with
        | some rest => do
          let (data, rest) ← readUntil? "]]>" rest
          readChildren? fuel (if data.isEmpty then children else .verbatim data :: children) rest
        | none =>
          match startsWith "<?" text with
          | some rest => do
            let (instruction, rest) ← readInstruction? rest
            readChildren? fuel (instruction :: children) rest
          | none =>
            match text with
            | '<' :: rest => do
              let (child, rest) ← readElement? fuel rest
              readChildren? fuel (child :: children) rest
            | [] => none
            | _ => do
              let (data, rest) ← readText? (fuel + 1) [] text
              readChildren? fuel (.text data :: children) rest

end

def readProlog? : Nat → List Tree → Letters → Option (List Tree × Letters)
  | 0, _, _ => none
  | fuel + 1, nodes, text =>
    let visible := skip text
    match startsWith "<!--" visible with
    | some rest => do
      let (comment, rest) ← readComment? rest
      readProlog? fuel (comment :: nodes) rest
    | none =>
      match startsWith "<?" visible with
      | some rest => do
        let (instruction, rest) ← readInstruction? rest
        readProlog? fuel (instruction :: nodes) rest
      | none => some (nodes.reverse, visible)

def skipDeclaration? (text : Letters) : Option Letters :=
  match startsWith "<?xml" text with
  | some (letter :: rest) =>
    if isSpace letter then (readUntil? "?>" rest).map Prod.snd else some text
  | _ => some text

def readDocument? (text : Letters) : Option (List Tree) := do
  let text ← skipDeclaration? text
  let fuel := text.length + 1
  let (before, rest) ← readProlog? fuel [] text
  match rest with
  | '<' :: rest => do
    let (root, rest) ← readElement? fuel rest
    let (behind, rest) ← readProlog? fuel [] rest
    if rest.isEmpty then some (before ++ root :: behind) else none
  | _ => none

end Reader

def readDocument (text : String) : Outcome (List Tree) :=
  match Reader.readDocument? (Text.unifyLineEnds text).toList with
  | some nodes => .ok nodes
  | none => .error (.defect .malformedDocument)

end ParallelFortran.Xml
