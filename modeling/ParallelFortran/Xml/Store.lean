import ParallelFortran.Table
import ParallelFortran.Xml.Reader

/-! Documents whose nodes are shared: nodes are kept in one store and named by their place in it, so
that a node can be changed wherever it is known. -/

namespace ParallelFortran.Xml

structure NodeId where
  index : Nat
  deriving DecidableEq, Repr, Inhabited

inductive Label where
  | document
  | element (tag : String) (attributes : Attributes)
  | text (data : String)
  | verbatim (data : String)
  | comment (data : String)
  | instruction (target data : String)
  deriving Inhabited

structure Node where
  label : Label
  owner : NodeId
  parent : Option NodeId := none
  children : Array NodeId := #[]
  deriving Inhabited

/-- A document by its root, seen through a view. The view 0 is the document itself; through every
other view the document is frozen, that is it can be read but not changed. -/
structure Document where
  root : NodeId
  view : Nat := 0
  deriving DecidableEq, Inhabited

def Document.frozen (document : Document) : Bool := document.view != 0

structure Store where
  nodes : Array Node := #[]
  identifiers : Nat := 0
  views : Nat := 0
  sections : Table (Document × String) NodeId := .empty
  libraries : Table (Document × String) (Table String NodeId) := .empty
  deriving Inhabited

abbrev StoreM := ExceptT Fault (StateM Store)

namespace Store

variable (store : Store) (id : NodeId)

def node? : Option Node :=
  store.nodes[id.index]?

def label : Label :=
  ((store.node? id).map Node.label).getD .document

def children : List NodeId :=
  ((store.node? id).map fun node => node.children.toList).getD []

def parent? : Option NodeId :=
  (store.node? id).bind Node.parent

def owner : Document :=
  ⟨((store.node? id).map Node.owner).getD id, 0⟩

def tag? : Option String :=
  match store.label id with
  | .element tag _ => some tag
  | _ => none

def attributes : Attributes :=
  match store.label id with
  | .element _ attributes => attributes
  | _ => []

def value? (name : String) : Option String :=
  (store.attributes id).value name

def value (name : String) : String :=
  (store.value? id name).getD ""

def data? : Option String :=
  match store.label id with
  | .document | .element _ _ => none
  | .text data | .verbatim data | .comment data | .instruction _ data => some data

def firstChild? : Option NodeId :=
  (store.children id).head?

def descendantsLoop (store : Store) (tag : String) : Nat → NodeId → List NodeId
  | 0, _ => []
  | fuel + 1, id =>
    (store.children id).flatMap fun child =>
      match store.tag? child with
      | some found =>
        let below := descendantsLoop store tag fuel child
        if found == tag || tag == "*" then child :: below else below
      | none => []

def descendants (tag : String) : List NodeId :=
  descendantsLoop store tag store.nodes.size id

def treeLoop (store : Store) : Nat → NodeId → Tree
  | 0, _ => default
  | fuel + 1, id =>
    match store.label id with
    | .document => .element "" [] ((store.children id).map (treeLoop store fuel))
    | .element tag attributes =>
      .element tag attributes ((store.children id).map (treeLoop store fuel))
    | .text data => .text data
    | .verbatim data => .verbatim data
    | .comment data => .comment data
    | .instruction target data => .instruction target data

def tree : Tree :=
  treeLoop store (store.nodes.size + 1) id

def write (format : Format) (id : NodeId) : String :=
  match store.label id with
  | .document => documentText format ((store.children id).map store.tree)
  | _ => (store.tree id).write format ""

def toText : String := store.write compact id

def toIndented : String := store.write indented id

def rootElement? (root : NodeId) : Option NodeId :=
  (store.children root).find? fun child => (store.tag? child).isSome

end Store

def addNode (label : Label) (owner : NodeId) : StoreM NodeId := do
  let store ← get
  set { store with nodes := store.nodes.push { label, owner } }
  return ⟨store.nodes.size⟩

def modifyNode (id : NodeId) (change : Node → Node) : StoreM Unit :=
  modify fun store => { store with nodes := store.nodes.modify id.index change }

def createElement (owner : NodeId) (tag : String) : StoreM NodeId :=
  addNode (.element tag []) owner

def createText (owner : NodeId) (data : String) : StoreM NodeId :=
  addNode (.text data) owner

def setAttributeValue (id : NodeId) (name : String) (value : Option String) : StoreM Unit :=
  modifyNode id fun node =>
    match node.label with
    | .element tag attributes => { node with label := .element tag (attributes.set name value) }
    | _ => node

def setAttribute (id : NodeId) (name value : String) : StoreM Unit :=
  setAttributeValue id name (some value)

def detach (child : NodeId) : StoreM Unit := do
  match (← get).parent? child with
  | none => pure ()
  | some parent => do
    modifyNode parent fun node => { node with children := node.children.filter (· != child) }
    modifyNode child fun node => { node with parent := none }

def appendChild (parent child : NodeId) : StoreM Unit := do
  let store ← get
  match store.label parent, store.label child with
  | .element _ _, _ => pure ()
  | .document, .element _ _ =>
    if (store.rootElement? parent).isSome then throw (.defect .misplacedNode)
  | .document, .comment _ => pure ()
  | .document, .instruction _ _ => pure ()
  | _, _ => throw (.defect .misplacedNode)
  detach child
  modifyNode parent fun node => { node with children := node.children.push child }
  modifyNode child fun node => { node with parent := some parent }

def removeChild (parent child : NodeId) : StoreM Unit := do
  if ((← get).children parent).contains child then detach child
  else throw (.defect .foreignNode)

mutual

def addTree (owner : NodeId) : Tree → StoreM NodeId
  | .element tag attributes children => do
    let id ← addNode (.element tag attributes) owner
    addTrees owner id children
    return id
  | .text data => addNode (.text data) owner
  | .verbatim data => addNode (.verbatim data) owner
  | .comment data => addNode (.comment data) owner
  | .instruction target data => addNode (.instruction target data) owner

def addTrees (owner parent : NodeId) : List Tree → StoreM Unit
  | [] => pure ()
  | tree :: trees => do
    let child ← addTree owner tree
    modifyNode parent fun node => { node with children := node.children.push child }
    modifyNode child fun node => { node with parent := some parent }
    addTrees owner parent trees

end

def addDocument (trees : List Tree) : StoreM Document := do
  let root := ⟨(← get).nodes.size⟩
  let _ ← addNode .document root
  addTrees root root trees
  return ⟨root, 0⟩

def parseDocument (text : String) : StoreM Document := do
  addDocument (← readDocument text)

/-- A new frozen view of a document. Look-ups through it are remembered apart from those through
other views. -/
def freeze (document : Document) : StoreM Document := do
  modify fun store => { store with views := store.views + 1 }
  return { document with view := (← get).views }

def cloneNode (id : NodeId) : StoreM NodeId := do
  let store ← get
  addTree (store.owner id).root (store.tree id)

def cloneDocument (document : Document) : StoreM Document := do
  let store ← get
  addDocument ((store.children document.root).map store.tree)

end ParallelFortran.Xml
