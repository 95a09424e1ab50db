import ParallelFortran.Symbol.Properties

/-! The symbols of a program. A symbol is named by its place in the registry, so that a change of it
is seen wherever it is known. -/

namespace ParallelFortran

open Xml

structure Registry where
  store : Store := {}
  symbols : Array Symbol := #[]
  marks : Nat := 0
  initialDomains : List Domain := []
  initialSizes : List String := []
  log : Array LogEntry := #[]
  deriving Inhabited

abbrev RegistryM := ExceptT Fault (StateM Registry)

namespace Registry

def symbol (registry : Registry) (id : SymbolId) : Symbol :=
  registry.symbols[id.index]?.getD default

def onStore {α : Type} (action : StoreM α) : RegistryM α := fun registry =>
  let store := registry.store
  let registry := { registry with store := {} }
  let (result, store) := ExceptT.run action store
  (result, { registry with store })

instance : MonadLiftT StoreM RegistryM := ⟨onStore⟩

def report (level : LogLevel) (content : String) : RegistryM Unit :=
  modify fun registry => { registry with log := registry.log.push (.plain level content) }

def find (id : SymbolId) : RegistryM Symbol := do
  return (← get).symbol id

def ask {α : Type} (id : SymbolId) (query : Store → Symbol → Outcome α) : RegistryM α := do
  let registry ← get
  query registry.store (registry.symbol id)

def change (id : SymbolId) (update : Symbol → Symbol) : RegistryM Unit :=
  modify fun registry => { registry with symbols := registry.symbols.modify id.index update }

def add (symbol : Symbol) : RegistryM SymbolId := do
  let id := ⟨(← get).symbols.size⟩
  modify fun registry => { registry with symbols := registry.symbols.push symbol }
  return id

def fresh {α : Type} (value : α) : RegistryM (Shared α) := do
  modify fun registry => { registry with marks := registry.marks + 1 }
  return ⟨(← get).marks, value⟩

variable (id : SymbolId)

def setDomains (domains : List Domain) : RegistryM Unit := do
  let domains ← fresh domains
  change id fun symbol => { symbol with domains }

def setInactiveSizes (sizes : List String) : RegistryM Unit := do
  let inactiveSizes ← fresh sizes
  change id fun symbol => { symbol with inactiveSizes }

def addDomain (domain : Domain) : RegistryM Unit := do
  let mark := (← find id).domains.mark
  modify fun registry =>
    { registry with
      initialDomains :=
        if mark = 0 then registry.initialDomains ++ [domain] else registry.initialDomains
      symbols := registry.symbols.map fun symbol =>
        if symbol.domains.mark = mark then
          { symbol with domains := ⟨mark, symbol.domains.value ++ [domain]⟩ }
        else symbol }

def addInactiveSize (size : String) : RegistryM Unit := do
  let mark := (← find id).inactiveSizes.mark
  modify fun registry =>
    { registry with
      initialSizes := if mark = 0 then registry.initialSizes ++ [size] else registry.initialSizes
      symbols := registry.symbols.map fun symbol =>
        if symbol.inactiveSizes.mark = mark then
          { symbol with inactiveSizes := ⟨mark, symbol.inactiveSizes.value ++ [size]⟩ }
        else symbol }

def nameInScope : RegistryM String :=
  ask id Symbol.nameInScope

def scopedName : RegistryM String :=
  ask id fun store symbol => symbol.nameInScopeFor store false

def insertByName (entry : String × SymbolId) :
    List (String × SymbolId) → List (String × SymbolId)
  | [] => [entry]
  | other :: rest =>
    if other.1 < entry.1 then other :: insertByName entry rest else entry :: other :: rest

/-- Symbols in the order of their names in the scope. A single symbol needs no name; of several the
second is asked for its name first. -/
def sorted (ids : List SymbolId) : RegistryM (List SymbolId) := do
  match ids with
  | [] | [_] => return ids
  | first :: second :: rest => do
    let withName := fun (id : SymbolId) => do return (← nameInScope id, id)
    let second ← withName second
    let first ← withName first
    let named := first :: second :: (← rest.mapM withName)
    return (named.foldr insertByName []).map Prod.snd

def isFiled (name : String) (member : String × SymbolId) : RegistryM Bool := do
  if member.1 != name then return false
  if member.2 == id then return true
  return (← nameInScope member.2) == name

def addTypeParameter (id parameter : SymbolId) : RegistryM Unit := do
  let name ← nameInScope parameter
  let known := (← find id).typeParameters
  if ← known.value.anyM (isFiled parameter name) then return
  modify fun registry =>
    { registry with
      symbols := registry.symbols.map fun symbol =>
        if symbol.typeParameters.mark = known.mark then
          { symbol with typeParameters := ⟨known.mark, symbol.typeParameters.value ++ [(name, parameter)]⟩ }
        else symbol }

def refileTypeParameters : RegistryM Unit := do
  let parameters := (← find id).typeParameters.value
  let filed ← parameters.foldlM (fun filed (_, parameter) => do
    let name ← nameInScope parameter
    if ← filed.anyM (isFiled parameter name) then return filed
    return filed ++ [(name, parameter)]) []
  let typeParameters ← fresh filed
  change id fun symbol => { symbol with typeParameters }

end Registry

end ParallelFortran
