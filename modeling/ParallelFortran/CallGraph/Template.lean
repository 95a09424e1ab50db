import ParallelFortran.Pattern.Fortran
import ParallelFortran.Text.Brackets
import ParallelFortran.Xml.Duplicate
import ParallelFortran.Xml.Store

/-! Template libraries of a call graph document. A specification such as `domName(x), domSize(NX)` is
kept once in a library, and every place that uses it refers to it by its identifier. -/

namespace ParallelFortran.CallGraph

open Xml

variable (document : Document)

def createIn (tag : String) : StoreM NodeId := do
  if document.frozen then throw (.callGraph (.frozen .createElement))
  createElement document.root tag

def firstNode (tag : String) : StoreM NodeId := do
  let store ← get
  match store.descendants document.root tag with
  | node :: _ => return node
  | [] => do
    let node ← createIn document tag
    match store.firstChild? document.root with
    | none => throw (.defect .missingPart)
    | some first => appendChild first node
    return node

/-- The first element of a tag, remembered from its first look-up on. A new one is put below the
outermost element. -/
def firstLevel (tag : String) : StoreM NodeId := do
  let store ← get
  match store.sections.get? (document, tag) with
  | some node => return node
  | none => do
    let node ← match store.descendants document.root tag with
      | node :: _ => pure node
      | [] => do
        let node ← createIn document tag
        match store.rootElement? document.root with
        | none => throw (.defect .missingPart)
        | some root => appendChild root node
        pure node
    modify fun store => { store with sections := store.sections.set (document, tag) node }
    return node

variable (parent : NodeId)

def addTextElement (tag text : String) : StoreM NodeId := do
  let element ← createIn document tag
  appendChild element (← createText document.root text)
  appendChild parent element
  return element

def addSeparated (tag separator : String) (text : Option String) : StoreM (List NodeId) := do
  match text with
  | none => throw (.callGraph .absentEntry)
  | some text => do
    let payload := Text.strip text
    if payload.isEmpty then throw (.callGraph .emptyEntry)
    if separator.isEmpty then throw (.defect .badValue)
    let parts := (Text.split separator payload).map Text.strip
    (parts.filter (! ·.isEmpty)).mapM (addTextElement document parent tag)

def addEntries (text : Option String) : StoreM (List NodeId) :=
  addSeparated document parent "entry" "," text

def addSettings (document : Document) (template : NodeId) : Nat → String → StoreM Unit
  | 0, _ => pure ()
  | fuel + 1, specification => do
    match Pattern.Fortran.setting.match? specification with
    | none => pure ()
    | some found => do
      let element ← createIn document (Text.strip (found.group 1))
      appendChild template element
      let (text, rest) ← (Brackets.textWithin .round (found.group 2).toList).run'
      let _ ← addEntries document element (some (String.ofList text))
      addSettings document template fuel (String.ofList rest)

def identifier (number : Nat) : String :=
  let digits := toString number
  "00000000-0000-4000-8000-" ++ Text.repeated (12 - digits.length) "0" ++ digits

def freshIdentifier : StoreM String := do
  let store ← get
  let taken := (List.range store.nodes.size).filterMap fun index => store.value? ⟨index⟩ "id"
  let isFree := fun number => !taken.contains (identifier number)
  let numbers := (List.range (taken.length + 1)).map (store.identifiers + 1 + ·)
  let number := (numbers.find? isFree).getD (store.identifiers + 1)
  set { store with identifiers := number }
  return identifier number

structure TemplateKind where
  library : String
  tag : String
  references : String

def TemplateKind.domainDependant : TemplateKind :=
  ⟨"domainDependantTemplates", "domainDependantTemplate", "domainDependants"⟩

def TemplateKind.parallelRegion : TemplateKind :=
  ⟨"parallelRegionTemplates", "parallelRegionTemplate", "parallelRegions"⟩

variable (kind : TemplateKind)

/-- Puts a template into its library, unless the library has one of the same content; gives the
template that the library has now. -/
def shelve (library template : NodeId) : StoreM NodeId := do
  let store ← get
  let shelf := store.children library
  match ← firstDuplicate? true (shelf.map store.tree) (store.tree template) with
  | some place => return shelf[place]?.getD template
  | none => do
    appendChild library template
    let key := (document, kind.tag)
    let known := (store.libraries.get? key).getD .empty
    let known := known.set (store.value template "id") template
    modify fun store => { store with libraries := store.libraries.set key known }
    return template

def referenceElement (parent : NodeId) : StoreM NodeId := do
  match (← get).descendants parent kind.references with
  | element :: _ => return element
  | [] => do
    let element ← createIn document kind.references
    appendChild parent element
    return element

def recordTemplate (parent : Option NodeId) (specification : String) : StoreM (NodeId × NodeId) := do
  match parent with
  | none => throw (.callGraph (.noParent specification))
  | some parent => do
    let library ← firstLevel document kind.library
    let template ← createIn document kind.tag
    setAttribute template "id" (← freshIdentifier)
    addSettings document template (specification.length + 1) specification
    let template ← shelve document kind library template
    let references ← referenceElement document kind parent
    let relation ← createIn document "templateRelation"
    setAttributeValue relation "id" ((← get).value? template "id")
    appendChild references relation
    return (relation, template)

variable (parent : Option NodeId) (specification : String)

def recordDependants (entries : Option String) : StoreM (NodeId × NodeId × List NodeId) := do
  let (relation, template) ← recordTemplate document .domainDependant parent specification
  return (relation, template, ← addEntries document relation entries)

def recordRegion (line : Int) : StoreM (NodeId × NodeId) := do
  let (relation, template) ← recordTemplate document .parallelRegion parent specification
  setAttribute relation "startLine" (toString line)
  return (relation, template)

end ParallelFortran.CallGraph
