import ParallelFortran.Backend.Declarations
import ParallelFortran.Session
import ParallelFortran.Source.Context
import ParallelFortran.Symbol.Merge

/-! What is known of the program while the lines of a source are read with their symbols. -/

namespace ParallelFortran.Source

open Xml CallGraph

structure Scope where
  session : Session
  document : Document
  backends : Table String BackendId
  moduleNodes : Table String NodeId
  regions : RegionData
  analysis : AnalysisTable := .empty
  globalDomains : List String := []
  context : Context := {}
  lineNumber : Nat := 1
  symbols : Table String SymbolId := .empty
  lineSymbols : List SymbolId := []
  lineImports : List SymbolId := []
  moduleImports : Option Imports := none
  routineImports : Option Imports := none
  deriving Inhabited

abbrev ScopeM := ExceptT Fault (StateM Scope)

namespace Scope

def onSession {α : Type} (work : Work α) : ScopeM α := fun scope =>
  let session := scope.session
  let scope := { scope with session := {} }
  let (result, session) := ExceptT.run work session
  (result, { scope with session })

instance : MonadLiftT Work ScopeM := ⟨onSession⟩

instance : MonadLiftT RegistryM ScopeM := ⟨fun action => onSession (Work.onRegistry action)⟩

instance : MonadLiftT StoreM ScopeM := ⟨fun action => onSession (Work.onStore action)⟩

def store : ScopeM Store := do return (← get).session.store

def symbol (id : SymbolId) : ScopeM Symbol := do return (← get).session.symbol id

def here : ScopeM Context := do return (← get).context

def changeContext (change : Context → Context) : ScopeM Unit :=
  modify fun scope => { scope with context := change scope.context }

def moveTo (place : Place) : ScopeM Unit :=
  changeContext (Context.moveTo place)

def setSymbol (name : String) (id : SymbolId) : ScopeM Unit :=
  modify fun scope => { scope with symbols := scope.symbols.set name id }

def dropSymbol (name : String) : ScopeM Unit :=
  modify fun scope => { scope with symbols := scope.symbols.erase name }

def routineNode (name : Option String) : ScopeM NodeId := do
  match name.bind (← get).regions.routines.get? with
  | some node => return node
  | none => throw (.defect .missingKey)

def moduleNode (name : Option String) : ScopeM NodeId := do
  match name.bind (← get).moduleNodes.get? with
  | some node => return node
  | none => throw (.defect .missingKey)

def templatesOf (routine : Option String) : ScopeM (Option (List NodeId)) := do
  return routine.bind (← get).regions.templates.get?

def backendFor (scheme : Option String) : ScopeM BackendId := do
  let backends := (← get).backends
  match (scheme.bind backends.get?).or (backends.get? "default") with
  | some id => return id
  | none => throw (.scope .noBackend)

def backend : ScopeM BackendId := do backendFor (← here).schemeName

def isInModule (context : Context) : Bool := !isGiven context.routineName

def scopeName (context : Context) : Option String :=
  if isInModule context then context.moduleName else context.routineName

def uniqueIn (name : String) (scope : Option String) : Outcome String :=
  match scope with
  | some scope => .ok (Naming.unique name scope)
  | none => .error (.defect .wrongKind)

def loadSymbols (node : NodeId) (regions : List NodeId) : ScopeM Unit := do
  let scope ← get
  let loaded ← (Registry.loadScope
    { document := scope.document, regions, moduleName := scope.context.moduleName
      symbols := scope.symbols, analysis := scope.analysis
      globalDomains := scope.globalDomains } node : RegistryM _)
  modify fun scope => { scope with symbols := scope.symbols.update loaded.entries }

def scopeNode (context : Context) : ScopeM NodeId :=
  if isGiven context.routineName then routineNode context.routineName
  else if isGiven context.moduleName then moduleNode context.moduleName
  else throw (.scope .noContext)

def createSymbols (names : List String) : ScopeM (List SymbolId) := do
  let scope ← get
  let context := scope.context
  let parent ← scopeNode context
  if scope.document.frozen then throw (.scope (.cannotCreate names))
  let regions := ((← templatesOf context.routineName).getD [])
  let (_, template, entries) ← (recordDependants scope.document (some parent) "attribute(autoDom)"
    (some (Text.join "," names)) : StoreM _)
  entries.mapM fun entry => do
    let name ← (entryText (← store) entry : Outcome _)
    Registry.newSymbol name (some template) (some ⟨entry, some parent⟩) none regions
      scope.globalDomains

def updateTypeParameter (id : SymbolId) : ScopeM Unit := do
  Registry.updateTypeParameter id (← get).symbols.values

structure ImportItem where
  parent : Option NodeId
  moduleName : String
  names : Option (String × String)

def noteImport (item : ImportItem) : ScopeM Unit := do
  let key := (item.moduleName, item.names.map Prod.fst)
  let source := item.names.map Prod.snd
  match (← get).routineImports, (← get).moduleImports with
  | some imports, _ => modify fun scope => { scope with routineImports := some (imports.set key source) }
  | none, some imports =>
    modify fun scope => { scope with moduleImports := some (imports.set key source) }
  | none, none => throw (.scope .unexpectedImport)

def importNames (text : String) : String × String :=
  let stripped := Text.strip text
  match Pattern.Fortran.mappedImport.match? stripped with
  | some found => (found.group 1, found.group 2)
  | none => (stripped, stripped)

def splitNames (names : Option String) : List String :=
  match names with
  | none => []
  | some names => if names.isEmpty then [] else Text.split "," names

def importParent (context : Context) : ScopeM (Option NodeId) := do
  if isInModule context then return some (← moduleNode context.moduleName)
  else return context.routineName.bind (← get).regions.routines.get?

def readImport (read : ImportItem → ScopeM (Option SymbolId)) (moduleName : String)
    (names : Option String) : ScopeM (List SymbolId) := do
  if moduleName.isEmpty then throw (.scope .importWithoutModule)
  let context ← here
  let parent ← importParent context
  match splitNames names with
  | [] => do
    let _ ← read ⟨parent, moduleName, none⟩
    return []
  | names => do
    let found ← names.mapM fun name => do
      let (here, source) := importNames name
      let _ ← (uniqueIn here (scopeName context) : Outcome _)
      read ⟨parent, moduleName, some (here, source)⟩
    return found.filterMap id

/-! The symbols of a line -/

inductive LineKind where
  | moduleSpecification
  | declaration
  | statement
  deriving DecidableEq, Repr

def keywords : List String :=
  ["intent", "dimension", "__device", "device", "type", "double precision", "real", "integer",
    "character", "logical", "complex"]

def isKeyword (name : String) : Bool :=
  keywords.contains (Text.lower name) || !name.toList.all Text.isWord

def declaredSymbols (specification : Specification) (scopeName : Option String) :
    ScopeM (List SymbolId) := do
  let names := specification.objects.map DataObject.name
  let keyed ← names.mapM fun name => do return (name, ← (uniqueIn name scopeName : Outcome _))
  let symbols := (← get).symbols
  let unknown := (keyed.filter fun entry => !symbols.contains entry.2).map fun entry =>
    Text.strip entry.1
  match unknown.find? isKeyword with
  | some name =>
    throw (.scope (.keywordAsName name specification.declaration
      (specification.objects.map fun object => (object.name, object.size))))
  | none => pure ()
  if !unknown.isEmpty then
    let created ← createSymbols unknown
    created.forM fun id => do setSymbol (← Registry.ask id Symbol.uniqueName) id
  return keyed.filterMap fun entry => symbols.get? entry.2

def candidates (read : ImportItem → ScopeM (Option SymbolId)) (kind : LineKind) (line : String)
    (scopeName : Option String) : ScopeM (List SymbolId) := do
  if kind == .statement then return []
  match Pattern.Fortran.importNames.match? line, Pattern.Fortran.importAll.match? line with
  | some found, _ => readImport read (found.group 1) (found.group? 2)
  | none, some found => readImport read (found.group 1) none
  | none, none => do
    match ← (Specification.read? line : Outcome _) with
    | none => return []
    | some specification =>
      if Text.contains specification.declaration "device" then return []
      declaredSymbols specification scopeName

inductive Role where
  | declared (specification : Specification)
  | imported
  | used

def roleIn (kind : LineKind) (line : String) (symbol : Symbol) : Outcome (Option Role) := do
  if kind == .statement then
    let (_, name, _) ← Text.splitAtName [symbol.name] line
    return if name.isEmpty then none else some .used
  match ← symbol.specification? line with
  | some specification => return some (.declared specification)
  | none =>
    return if symbol.importLine.accepts line then some .imported else none

/-- Keeps the role of a symbol. A symbol of the routine goes before one of the module of that name. -/
def addRole (kind : LineKind) (line : String) (context : Context) (scope : Option String)
    (number : Nat) (store : Store) (roles : Table String (Table String (SymbolId × Role)))
    (id : SymbolId) (symbol : Symbol) : Outcome (Table String (Table String (SymbolId × Role))) := do
  let symbolScope ← symbol.scopeName store
  if some symbolScope != context.routineName && some symbolScope != context.moduleName then
    throw (.scope (.foreignScope symbolScope number scope context.moduleName symbol.name))
  let byScope := (roles.get? symbol.name).getD .empty
  if (context.routineName.bind byScope.get?).isSome then return roles
  match ← roleIn kind line symbol with
  | none => return roles
  | some role => return roles.set symbol.name (byScope.set symbolScope (id, role))

def loadDeclared (id : SymbolId) (specification : Specification) : ScopeM Unit := do
  let context ← here
  Registry.change id fun symbol => { symbol with isMatched := true }
  Registry.loadDeclaration id (some specification) (context.arguments.getD [])
    ((scopeName context).getD "")
  updateTypeParameter id

def loadImported (id : SymbolId) (line : String) : ScopeM Unit := do
  Registry.change id fun symbol => { symbol with isMatched := true }
  match ← ((← symbol id).importedFrom? line : Outcome _) with
  | none => pure ()
  | some (moduleName, source) => do
    match (← get).moduleNodes.get? moduleName with
    | some node => Registry.loadImport id (← get).document node (some source)
    | none => pure ()
  updateTypeParameter id

def takeRole (line : String) (id : SymbolId) (role : Role) : ScopeM Unit := do
  match role with
  | .declared specification => do
    modify fun scope => { scope with lineSymbols := scope.lineSymbols ++ [id] }
    loadDeclared id specification
  | .imported => do
    modify fun scope => { scope with lineImports := scope.lineImports ++ [id] }
    loadImported id line
  | .used => modify fun scope => { scope with lineSymbols := scope.lineSymbols ++ [id] }
  Registry.change id fun symbol => { symbol with isUserSpecified := true }

def analyseLine (read : ImportItem → ScopeM (Option SymbolId)) (kind : LineKind) (line : String) :
    ScopeM Unit := do
  let context ← here
  let name := if kind == .moduleSpecification then context.moduleName else context.routineName
  let found ← candidates read kind line name
  let scope ← get
  let ids := if found.isEmpty then scope.symbols.values else found
  let roles ← (ids.foldlM (fun roles id =>
    addRole kind line context name scope.lineNumber scope.session.store roles id
      (scope.session.symbol id)) .empty : Outcome _)
  roles.values.forM fun byScope =>
    match (context.routineName.bind byScope.get?).or (context.moduleName.bind byScope.get?) with
    | some (id, role) => takeRole line id role
    | none => pure ()

def isKept (key value : String) : ScopeM Bool := do
  match key with
  | "parallelRegion" => do
    let context ← here
    if !isGiven context.routineName then throw (.scope .branchOutsideRoutine)
    let node ← routineNode context.routineName
    return value == Text.strip ((← store).value node "parallelRegionPosition")
  | "architecture" => do
    let id ← backend
    return ((← get).session.backend id).kind.architecture.contains (Text.lower value)
  | _ => throw (.scope .branchKind)

def enterBranch (settings : String) : ScopeM Unit := do
  match Text.split "," (Text.strip settings) with
  | [setting] => do
    match Pattern.Fortran.branchSetting.match? (Text.strip setting) with
    | none => throw (.scope .branchSetting)
    | some found => do
      if (← here).place == .branch then throw (.scope .nestedBranch)
      changeContext fun context => { context with around := some context.place }
      let isKept ← isKept (found.group 1) (found.group 2)
      changeContext fun context =>
        { context with place := if isKept then .branch else .ignored }
  | _ => throw (.scope .branchCount)

def leaveBranch : ScopeM Unit :=
  changeContext fun context => { context with place := context.around.getD .outside, around := none }

/-! Modules and routines -/

def enterScheme (settings : String) : ScopeM Unit := do
  let name ← (schemeName settings : Outcome _)
  changeContext fun context => { context with schemeName := name }

def loadModule (name : String) : ScopeM Unit := do
  match (← get).moduleNodes.get? name with
  | none => pure ()
  | some node => do
    loadSymbols node []
    modify fun scope => { scope with moduleImports := some .empty }

def enterModule (name : String) : ScopeM Unit := do
  changeContext fun context => { context with moduleName := some name, place := .module }
  loadModule name

def leaveModule : ScopeM Unit := do
  changeContext Context.leaveRoutine
  let scope ← get
  let entries := scope.symbols.entries.map fun entry => (entry.1, scope.session.symbol entry.2)
  match entries.find? fun entry => !entry.2.isModuleSymbol with
  | some entry => throw (.scope (.neverMatched entry.1))
  | none => pure ()
  match entries.filter fun entry => !entry.2.isMatched with
  | [] => modify fun scope => { scope with symbols := .empty, moduleImports := none }
  | unmatched@(first :: _) =>
    throw (.scope (.unmatchedInModule scope.context.moduleName (unmatched.map Prod.fst)
      first.2.domains.value))

def enterRoutine (text name : String) : ScopeM Unit := do
  changeContext fun context => { context with routineName := some name }
  let arguments ← (Text.argumentsOf? text : Outcome _)
  changeContext (Context.enterRoutine (arguments.getD []))
  match (← get).regions.routines.get? name with
  | none => pure ()
  | some node => do
    loadSymbols node ((← templatesOf (some name)).getD [])
    modify fun scope => { scope with routineImports := some .empty }

def belongsToModule (symbol : Symbol) : ScopeM Bool := do
  if symbol.isModuleSymbol then
    return some (← (symbol.scopeName (← store) : Outcome _)) == (← here).moduleName
  else return false

def forgetSymbol (hasRegions : Bool) (name : String) : ScopeM Bool := do
  match (← get).symbols.get? name with
  | none => return false
  | some id => do
    let symbol ← symbol id
    if ← belongsToModule symbol then return false
    if symbol.isMatched || !hasRegions then
      dropSymbol name
      return false
    if symbol.domains.value.isEmpty then
      Registry.change id fun symbol =>
        { symbol with sourceModuleName := some localModule, isModuleSymbol := true }
      dropSymbol name
      return false
    return true

def leaveRoutine : ScopeM Unit := do
  let scope ← get
  let node := scope.context.routineName.bind scope.regions.routines.get?
  changeContext Context.leaveRoutine
  let hasRegions := node.all fun node =>
    !(scope.session.store.value node "parallelRegionPosition").isEmpty
  let unmatched ← scope.symbols.keys.filterM (forgetSymbol hasRegions)
  match node with
  | none => pure ()
  | some node => do
    if hasRegions then
      match unmatched.head?.bind (← get).symbols.get? with
      | some first =>
        throw (.scope (.unmatchedInRoutine ((← store).value node "name") unmatched
          (← symbol first).domains.value))
      | none => modify fun scope => { scope with routineImports := none }

def matchListed (line : String) : ScopeM Unit := do
  match (← here).routineName with
  | none => pure ()
  | some routine =>
    (Text.split "," line).forM fun entry => do
      let name := Text.strip entry
      if !name.isEmpty then
        match (← get).symbols.get? (Naming.unique name routine) with
        | some id => Registry.change id fun symbol => { symbol with isMatched := true }
        | none => throw (.scope (.notInScope name routine))

def enterCall (call : CallLine) : ScopeM Unit := do
  if call.callee.isEmpty then throw (.source .callWithoutName)
  let arguments ← (Text.argumentsOf? call.text : Outcome _)
  changeContext (Context.enterCall call.callee (arguments.getD []))

def begin (document : Document) (backends : Table String BackendId) : Work Scope := do
  let moduleNodes ← (modulesByName (← Work.store) document.root : Outcome _)
  let regions ← (regionData document : StoreM _)
  return { session := ← get, document, backends, moduleNodes, regions }

def nextLine (scope : Scope) : Scope :=
  { scope with lineNumber := scope.lineNumber + 1 }

def forgetLine : ScopeM Unit :=
  modify fun scope => { scope with lineSymbols := [], lineImports := [] }

end Scope

end ParallelFortran.Source
