import ParallelFortran.Source.Scope

/-! The second pass over the sources: what declarations and imports say of the symbols is stored in
the call graph document. -/

namespace ParallelFortran.Source

open Xml CallGraph

abbrev ForeignSymbols := Option (Table String (Table String SymbolId))

namespace Declarations

open Scope

def specifyImport (parent : Option NodeId) (moduleName name source : String) : ScopeM SymbolId := do
  let document := (← get).document
  let (relation, template) ← (recordTemplate document .domainDependant parent "attribute(autoDom)" :
    StoreM _)
  match ← (addEntries document relation (some name) : StoreM _), parent with
  | [entry], some parent => do
    let id ← (Registry.foreignSymbol moduleName name source (some template) : RegistryM _)
    Registry.change id fun symbol => { symbol with isMatched := true }
    Registry.loadEntry id entry
    if isInModule (← here) then Registry.loadModule id parent
    else Registry.loadRoutine id parent ((← templatesOf (← here).routineName).getD []) none
    return id
  | _, _ => throw (.defect .unknownName)

def renameImported (id : SymbolId) (moduleName name source : String) : ScopeM Unit :=
  Registry.change id fun symbol =>
    { symbol with
      scopedName := some name, sourceModuleName := some moduleName, sourceName := some source }

def joinImported (id foreign : SymbolId) (keyHere keySource : String) : ScopeM SymbolId := do
  Registry.merge id foreign
  let isInModule := isInModule (← here)
  Registry.change id fun symbol =>
    { symbol with
      isModuleSymbol := isInModule, isMarkedHost := symbol.isMarkedHost || isInModule }
  let key ← Registry.ask id Symbol.uniqueName
  if key != keyHere && key != keySource then
    throw (.scope (.unexpectedName keyHere keySource key))
  setSymbol key id
  return id

def readForeign (foreign : ForeignSymbols) (item : ImportItem) : ScopeM (Option SymbolId) := do
  noteImport item
  match item.names with
  | none => return none
  | some (name, source) => do
    if name.isEmpty || source.isEmpty then return none
    let keySource := Naming.unique source item.moduleName
    match (foreign.bind (Table.get? · item.moduleName)).bind (Table.get? · keySource) with
    | none => return none
    | some moduleSymbol => do
      let keyHere ← (uniqueIn name (scopeName (← here)) : Outcome _)
      let id ← match (← get).symbols.get? keyHere with
        | some id => do
          renameImported id item.moduleName name source
          pure id
        | none => specifyImport item.parent item.moduleName name source
      some <$> joinImported id moduleSymbol keyHere keySource

/-! Storing symbols in the document -/

structure Active where
  symbols : List SymbolId := []
  entries : Table String NodeId := .empty

def activeSymbols (inModule : Bool) : ScopeM Active := do
  let scope ← get
  let symbols := scope.symbols.values.filter fun id =>
    (scope.session.symbol id).isModuleSymbol == inModule
  if symbols.isEmpty then return {}
  let names := symbols.map fun id => (scope.session.symbol id).name
  let name := if inModule then scope.context.moduleName else scope.context.routineName
  let parent ← if inModule then moduleNode name else routineNode name
  let store ← store
  match (store.descendants parent "domainDependants").head? with
  | none => throw (.scope (.noRelation names name))
  | some relation => do
    let entries := store.descendants relation "entry"
    if entries.isEmpty then throw (.scope (.noEntries names name))
    let named ← entries.mapM fun entry => do
      return (Text.strip (← (entryText store entry : Outcome _)), entry)
    return { symbols, entries := Table.ofList named }

def isModuleKind (kind : DeclarationKind) : Bool :=
  kind == .localModuleScalar || kind == .foreignModuleScalar || kind == .moduleArray ||
    kind == .passedModuleArray

def checkRemaining : ScopeM Unit := do
  let scope ← get
  let store := scope.session.store
  scope.symbols.values.forM fun id => do
    let symbol := scope.session.symbol id
    let name ← (symbol.scopeName store : Outcome _)
    if some name != scope.context.routineName then
      let kind ← (symbol.declarationKind store : Outcome _)
      if !isModuleKind kind then
        throw (.scope (.activeElsewhere symbol.name kind.number name scope.context.routineName))

def checkEntries (active : Active) : ScopeM Unit :=
  active.symbols.forM fun id => do
    let name := (← symbol id).name
    if !active.entries.contains name then throw (.scope (.withoutEntry name))

def storeSymbols (inModule : Bool) (active : Active) : ScopeM Unit :=
  active.symbols.forM fun id => do
    let symbol ← symbol id
    if !symbol.isModuleSymbol || inModule then
      match active.entries.get? symbol.name with
      | some entry => let _ ← (Registry.storeEntry id (some entry) : RegistryM _)
      | none => pure ()

def endModule : ScopeM Unit := do
  let active ← activeSymbols true
  leaveModule
  checkEntries active
  storeSymbols true active

def endRoutine : ScopeM Unit := do
  let active ← activeSymbols false
  leaveRoutine
  checkRemaining
  checkEntries active
  storeSymbols false active

def perform (place : Place) : Event → ScopeM Unit
  | .branch settings => enterBranch settings
  | .scheme settings => enterScheme settings
  | .schemeEnd => changeContext fun context => { context with schemeName := none }
  | .moduleBegin _ name => enterModule name
  | .moduleEnd text => do
    endModule
    changeContext fun context => { context with moduleName := none }
    moveTo (place.after (.moduleEnd text))
  | .routineBegin text name => do
    enterRoutine text name
    moveTo (place.after (.routineBegin text name))
  | .routineEnd text => do
    endRoutine
    moveTo (place.after (.routineEnd text))
  | .call call => do
    enterCall call
    changeContext Context.leaveCall
  | event => moveTo (place.after event)

def remainsAt (place : Place) : ScopeM Bool := do
  let context ← here
  return context.place != .ignored && context.effective == place

variable (foreign : ForeignSymbols)

def readAt (place : Place) (line : String) : ScopeM Unit := do
  perform place (← (place.read line : Outcome _))
  if place == .declarations then changeContext Context.leaveDeclarations
  if ← remainsAt place then
    match place with
    | .module => analyseLine (readForeign foreign) .moduleSpecification line
    | .declarations => analyseLine (readForeign foreign) .declaration line
    | .dependants => matchListed line
    | _ => pure ()

def readLine (line : String) : ScopeM Unit := do
  let (counted, branches) := countConditionals line (← here).branches
  changeContext fun context => { context with branches }
  (counted : Outcome _)
  let context ← here
  let isBranchEnd := Pattern.Fortran.branchEnd.accepts line
  match context.place with
  | .ignored => if isBranchEnd then leaveBranch
  | .branch =>
    if isBranchEnd then leaveBranch
    else
      match context.around with
      | some place => readAt foreign place line
      | none => throw (.source (.undefinedPlace context.place.name))
  | place => readAt foreign place line
  forgetLine

def pass : Pass Fault Scope :=
  ⟨readLine foreign, id, nextLine, Scope.lineNumber, Scope.context⟩

def readFile (document : Document) (backends : Table String BackendId) (path text : String) :
    Work Unit := do
  let scope ← Scope.begin document backends
  let (scope, refused) := (pass foreign).readFile path text scope
  set scope.session
  match refused with
  | none => pure ()
  | some entry => Work.stop entry

end Declarations

end ParallelFortran.Source
