import ParallelFortran.Backend.Frame
import ParallelFortran.Routine.Context

/-! The code of the specification of a routine: imports, declarations, and what is added to them. -/

namespace ParallelFortran

open Xml

namespace Region

def framed (isMarked : Bool) (kind : RegionKind) (text : String) : String :=
  if isMarked then "!<--- " ++ kind.mark ++ "\n" ++ Text.strip text ++ "\n!--->\n"
  else Text.strip text ++ "\n"

end Region

structure SpecificationSite where
  id : RoutineId
  routine : Routine
  body : RoutineBody
  isMarked : Bool
  place : DeclarationPlace
  position : String
  wholeModules : List String

structure KeptLines where
  importsFound : Bool := false
  first : String := ""
  before : String := ""
  behind : String := ""
  declared : Table String SymbolId := .empty

namespace Work

def wholeModules (imports : Option Imports) : List String :=
  (imports.getD .empty).keys.filterMap fun key => if key.2.isNone then some key.1 else none

def specificationSite (id : RoutineId) (isMarked : Bool) : Work SpecificationSite := do
  let session ← get
  let body ← body id
  return {
    id, routine := session.routine id, body, isMarked
    place := session.declarationPlace body
    position := session.position body
    wholeModules := wholeModules body.imports }

variable (site : SpecificationSite)

def headed (isNeeded : Bool) (heading text : String) : String :=
  if site.isMarked && isNeeded then heading ++ text else text

def importOf (ids : List SymbolId) : Work String := do
  let backend ← backend site.body.backend
  onRegistry (backend.importSymbols ⟨none, site.place, site.position, false⟩ ids)

def kindImports (parameters : Table String SymbolId) : Work String := do
  let texts ← parameters.values.mapM fun id => do
    let symbol ← symbol id
    let isKnown := (symbol.sourceModule (← store)).any site.wholeModules.contains
    if isKnown || symbol.isDimensionParameter then return ""
    importOf site [id]
  return headed site (!parameters.isEmpty) "!<----- type parameters --\n" (Text.join "" texts)

def namedImport (module name source : String) : String :=
  let calleeNames := site.body.calleeNames.getD .empty
  let source := (calleeNames.get? source).getD source
  let name := (calleeNames.get? name).getD name
  let text := "use " ++ module ++ ", only: " ++
    (if name == source then name else name ++ " => " ++ source)
  text ++ (if site.isMarked then
    " ! resynthesizing user input - no associated HF aware symbol found" else "") ++ "\n"

variable (parameters : Table String SymbolId)

def importedName (module name : String) (source : Option String) : Work String := do
  if site.wholeModules.contains module then return ""
  let session ← get
  let isKind := (parameters.get? name).any fun id => !(session.symbol id).isDimensionParameter
  if isKind then return ""
  match source.bind ((site.body.symbols.getD .empty).get? ·) with
  | some id =>
    if (session.symbol id).sourceModule session.store == site.routine.moduleName then return ""
    importOf site [id]
  | none => return namedImport site module name (source.getD Text.absent)

def importCode (imports : Option Imports) : Work String := do
  match imports with
  | none => return ""
  | some imports => do
    let texts ← imports.entries.mapM fun ((module, name), source) => do
      match name.filter (! ·.isEmpty) with
      | none => return Backend.importModule module
      | some name => importedName site parameters module name source
    return headed site (!imports.isEmpty) "!<----- synthesized imports --\n" (Text.join "" texts)

def isImport (line : String) : Bool :=
  Pattern.Fortran.importAll.accepts line || Pattern.Fortran.importNames.accepts line

def keepLine (kept : KeptLines) (line : String) : KeptLines :=
  let text := Text.strip line ++ "\n"
  if isImport line then { kept with importsFound := true }
  else if !kept.importsFound then { kept with first := kept.first ++ text }
  else if kept.declared.isEmpty then { kept with before := kept.before ++ text }
  else { kept with behind := kept.behind ++ text }

def readSymbol (added : List String) (iterators : List String) (line : String) (kept : KeptLines)
    (id : SymbolId) : Work KeptLines := do
  if added.contains (← onRegistry (Registry.nameInScope id)) then return kept
  let symbol ← symbol id
  if symbol.isCompacted || iterators.contains symbol.name then return kept
  match ← (symbol.specification? line : Outcome _) with
  | some specification => do
    let declared := kept.declared.set (← scopedName id) id
    let arguments ← (Session.sourceArguments site.routine : Outcome _)
    Registry.loadDeclaration id (some specification) arguments site.routine.name
    return { kept with declared }
  | none =>
    if symbol.importLine.accepts line || symbol.mappedImportLine.accepts line then
      return { kept with importsFound := true }
    throw (.routine (.unmatchedSymbol symbol.name line))

def readSpecification (added : List SymbolId) (lines : List RegionLine) : Work KeptLines := do
  let names ← added.mapM fun id => onRegistry (Registry.nameInScope id)
  let architectures := (← backend site.body.backend).kind.architecture
  let iterators ← (CallGraph.iterators (← store) site.body.node
    (site.body.regionTemplates.getD []) architectures : Outcome _)
  lines.foldlM (fun kept line =>
    if line.symbols.isEmpty then pure (keepLine kept line.text)
    else line.symbols.foldlM (readSymbol site names iterators line.text) kept) {}

def declarationCode (backend : BackendId) (id : SymbolId) (purged : Option (List String))
    (isStripped : Bool) : Work String := do
  let parent ← parentOf site.id
  let registry := (← get).registry
  let line ← ((registry.symbol id).declarationLine registry (some parent) { purged } : Outcome _)
  let line := if isStripped then Text.strip line else line
  let backend ← Work.backend backend
  onRegistry (backend.adjustDeclaration
    ⟨some parent, some site.body.kernelUses.keys, site.place, site.position⟩ line [id])

def declaredCode (declared : Table String SymbolId) : Work String := do
  if declared.isEmpty then return ""
  let lines ← declared.values.mapM fun id => do
    return Text.strip (← declarationCode site site.body.backend id (some []) false)
  return headed site true "!<----- declarations: -------\n"
    (Text.strip (Text.join "\n" lines) ++ "\n")

def kindNumber (id : SymbolId) : Work Nat := do
  let kind ← onRegistry (Registry.ask id Symbol.declarationKind)
  return kind.number

def reduceArray (body : RoutineBody) (id : SymbolId) : Work Unit := do
  match (← symbol id).form with
  | .plain => pure ()
  | .framework callee compacted => do
    let ids ← loadedSymbols compacted
    let session ← get
    let used := ids.filter fun id => body.uses (session.symbol id)
    Registry.change id fun symbol => { symbol with form := .framework callee (some used) }
    Registry.setDomains id [⟨"hfauto", toString used.length⟩]
where
  loadedSymbols (ids : Option (List SymbolId)) : Work (List SymbolId) :=
    match ids with
    | some ids => return ids
    | none => throw (.defect .wrongKind)

def addedPurge : List String := ["public", "parameter", "allocatable", "save"]

def addedCode (added : List SymbolId) : Work String := do
  let texts ← added.mapM fun id => do
    let known ← symbol id
    if !site.body.uses known || (known.isTypeParameter && !known.isDimensionParameter) then
      return ""
    reduceArray site.body id
    let purged := if known.isCompacted then "intent" :: addedPurge else addedPurge
    let text ← declarationCode site site.body.backend id (some purged) true
    return Text.stripRight text ++ " ! type " ++ toString (← kindNumber id) ++
      " symbol added for this subroutine\n"
  return Text.join "" texts

def renameSizes (imports : List SymbolId) (id : SymbolId) : Work Unit := do
  let session ← get
  let byName := Table.ofList (imports.map fun id => ((session.symbol id).name, id))
  let domains ← (session.symbol id).domains.value.mapM fun domain => do
    match byName.get? domain.size with
    | none => return domain
    | some size => return ⟨domain.name, ← onRegistry (Registry.nameInScope size)⟩
  Registry.setDomains id domains

def calleeSymbolCode (declared : Table String SymbolId) (imports : List SymbolId)
    (callee : RoutineId) (backend : BackendId) (id : SymbolId) : Work String := do
  let kind ← onRegistry (Registry.ask id Symbol.declarationKind)
  if kind != .localArray && kind != .localScalar then return ""
  let known ← symbol id
  if !site.body.uses known || (known.isTypeParameter && !known.isDimensionParameter) then return ""
  if declared.contains (← scopedName id) then return ""
  renameSizes imports id
  let text ← declarationCode site backend id (some ("intent" :: addedPurge)) true
  return Text.stripRight text ++ " ! type " ++ toString (← kindNumber id) ++
    " symbol added for callee " ++ (← routine callee).name ++ "\n"

def compactionArray (declarations : Table String (Option String)) (callee : RoutineId)
    (calleeBody : RoutineBody) : Work String := do
  let name := (← routine callee).name
  let session ← get
  let packed := ((site.body.packed.get? name).getD []).filter fun id =>
    calleeBody.uses (session.symbol id)
  if packed.isEmpty then return ""
  match declarations.get? name with
  | none => throw (.defect .missingKey)
  | some declaration => do
    let domains ← onRegistry (Registry.fresh
      [(⟨"hfauto", toString packed.length⟩ : Domain)])
    let id ← onRegistry (Registry.frameworkArray name (declaration.getD "") domains true)
    let text ← declarationCode site calleeBody.backend id none true
    return Text.stripRight text ++ " ! compaction array added for callee " ++ name ++ "\n"

def calleeCode (context : SpecificationContext) (declared : Table String SymbolId) : Work String := do
  let texts ← site.body.callees.mapM fun callee => do
    match (← routine callee).body with
    | none => return ""
    | some calleeBody => do
      let (imports, declarations) :=
        (context.kernelParameters.get? (← routine callee).name).getD ([], [])
      let symbols ← notAlive site.id declarations
      let added ← symbols.mapM
        (calleeSymbolCode site declared imports callee calleeBody.backend)
      return Text.join "" added ++
        (← compactionArray site context.compactionDeclarations callee calleeBody)
  return Text.join "" texts

def declarationEnd : Work String := do
  let imports ← match site.body.additionalImports with
    | some imports => pure imports
    | none => throw (.defect .wrongKind)
  let session ← get
  let ids := ((← symbolsOf site.id).values ++ imports).filter fun id =>
    let symbol := session.symbol id
    symbol.isTransferred || site.body.uses symbol
  let text ← endDeclarations site.body.backend site.id ids
  return if text.isEmpty then "" else "!<----- impl. specific decl end : --\n" ++ text

def unpacking (compacted : List SymbolId) : Work String := do
  let sorted ← onRegistry (Registry.sorted compacted)
  let session ← get
  let used := sorted.filter fun id => site.body.uses (session.symbol id)
  let lines ← used.zipIdx.mapM fun (id, index) => do
    let name ← onRegistry (Registry.nameInScope id)
    return name ++ " = " ++ Naming.limited (Naming.frameworkArray site.routine.name) ++ "(" ++
      toString (index + 1) ++ ") ! additional type " ++ toString (← kindNumber id) ++
      " symbol compaction\n"
  return Text.join "" lines

def specificationCode (id : RoutineId) (isMarked : Bool) (lines : List RegionLine)
    (dataLines : List String) (context : Option SpecificationContext)
    (typeParameters : Option (Table String SymbolId)) : Work String := do
  let site ← specificationSite id isMarked
  match context with
  | none => throw (.routine (.specificationNotLoaded site.routine.name))
  | some context => do
    let kept ← readSpecification site context.added lines
    let parameters ← match typeParameters with
      | some parameters => pure parameters
      | none => throw (.defect .missingPart)
    let kinds ← kindImports site parameters
    let imports ← importCode site parameters context.imports
    let declared ← declaredCode site kept.declared
    let dataText := if dataLines.isEmpty then "" else Text.join "\n" dataLines ++ "\n"
    let count := (context.kernelParameters.values.flatMap Prod.snd).length +
      context.added.length + site.body.packed.size
    let added ← addedCode site context.added
    let forCallees ← calleeCode site context kept.declared
    let finish ← declarationEnd site
    let unpacked ← unpacking site context.compacted
    return Region.framed isMarked .specification (kinds ++ imports ++
      headed site (!kept.first.isEmpty) "!<----- other imports and specs: ------\n" kept.first ++
      headed site (!kept.before.isEmpty) "!<----- before declarations: --\n" kept.before ++
      declared ++
      headed site (!dataLines.isEmpty) "!<----- data specifications: --\n" dataText ++
      headed site (!kept.behind.isEmpty) "!<----- after declarations: --\n" kept.behind ++
      headed site (count > 0) "!<----- auto emul symbols : --\n" added ++
      forCallees ++ finish ++ unpacked)

end Work

end ParallelFortran
