import ParallelFortran.CallGraph.Query
import ParallelFortran.CallGraph.Template
import ParallelFortran.Log

/-! Analysis of symbols along the call graph: what is known of a symbol in a routine, and under which
names it is passed on to other routines. -/

namespace ParallelFortran.CallGraph

open Xml

inductive SymbolKind where
  | undefined
  | dependantArgument
  | argument
  | calleeModuleData
  | moduleData
  | dependantCalleeModuleData
  | dependantModuleData
  | dependant
  deriving DecidableEq, Repr, Inhabited

namespace SymbolKind

def number : SymbolKind → Nat
  | undefined => 0
  | dependantArgument => 1
  | argument => 2
  | calleeModuleData => 3
  | moduleData => 4
  | dependantCalleeModuleData => 5
  | dependantModuleData => 6
  | dependant => 7

def isModuleSymbol : SymbolKind → Bool
  | calleeModuleData | moduleData | dependantCalleeModuleData | dependantModuleData => true
  | _ => false

def isDomainDependant : SymbolKind → Bool
  | dependantArgument | dependantCalleeModuleData | dependantModuleData | dependant => true
  | _ => false

end SymbolKind

structure SymbolAnalysis where
  name : String
  kind : SymbolKind := .undefined
  sourceModule : Option String := some ""
  sourceSymbol : Option String := some ""
  aliases : Table String String := .empty
  positions : Table String Nat := .empty
  deriving Inhabited

namespace SymbolAnalysis

def display (analysis : SymbolAnalysis) : String :=
  let pairs := fun (entries : List (String × String)) =>
    "\x7b" ++ Text.join ", " (entries.map fun entry => Text.quoted entry.1 ++ ": " ++ entry.2) ++ "\x7d"
  "[Symbol " ++ analysis.name ++ s!" (Type {analysis.kind.number}, from " ++
    Text.orAbsent analysis.sourceModule ++ ":" ++ Text.orAbsent analysis.sourceSymbol ++
    "); Aliases: " ++ pairs (analysis.aliases.entries.map fun entry => (entry.1, Text.quoted entry.2)) ++
    "; Argument Indices: " ++
    pairs (analysis.positions.entries.map fun entry => (entry.1, toString entry.2)) ++ "]"

def isGiven (text : Option String) : Bool :=
  text.any fun text => !text.isEmpty

def unexpectedSource (name routine what : String) : LogEntry :=
  .plain .warning (s!"Symbol {name} is imported from a module downstream in a callgraph (" ++
    routine ++ ") while not being a module symbol earlier in the stream. " ++ what ++
    " found where not expected.\n")

def addDownstream (known new : SymbolAnalysis) (routine : String) :
    SymbolAnalysis × List LogEntry :=
  let named := ((new.aliases.keys ++ new.positions.keys).getLast?).getD routine
  let warnings :=
    (if !isGiven known.sourceModule && isGiven new.sourceModule then
      [unexpectedSource known.name named "SourceModule"] else []) ++
    (if !isGiven known.sourceSymbol && isGiven new.sourceSymbol then
      [unexpectedSource known.name named "SourceSymbol"] else [])
  ({ known with
    aliases := known.aliases.update new.aliases.entries
    positions := known.positions.update new.positions.entries
    kind := if known.kind == .undefined then new.kind else known.kind }, warnings)

end SymbolAnalysis

structure CallIndex where
  document : Document
  routines : Table String NodeId
  byCallee : Table String (List NodeId)
  byCaller : Table String (List NodeId)
  edges : Table String (List (String × String)) := .empty

namespace CallIndex

variable (index : CallIndex)

def callsFrom (routine : String) : List NodeId :=
  (index.byCaller.get? routine).getD []

def callsTo (routine : String) : List NodeId :=
  (index.byCallee.get? routine).getD []

def depth : Nat :=
  index.byCaller.values.flatten.length + 2

def roots : List String :=
  index.routines.keys.filter fun name => (index.callsTo name).isEmpty

def addEdges (store : Store) (index : CallIndex) :
    Nat → String → Table String (List (String × String)) →
      Outcome (Table String (List (String × String)))
  | 0, _, _ => .error (.defect .tooDeep)
  | fuel + 1, routine, edges =>
    (index.callsFrom routine).foldlM (fun edges call =>
      let callee := store.value call "callee"
      addEdges store index fuel callee
        (edges.set routine ((edges.get? routine).getD [] ++ [(routine, callee)]))) edges

def routinesByName (store : Store) (document : Document) : Outcome (Table String NodeId) :=
  (store.descendants document.root "routine").foldlM (fun routines routine =>
    let name := store.value routine "name"
    if routines.contains name then .error (.callGraph (.duplicateRoutine name))
    else .ok (routines.set name routine)) .empty

def ofDocument (document : Document) : StoreM CallIndex := do
  let store ← get
  let routines ← routinesByName store document
  let calls := store.descendants document.root "call"
  let index : CallIndex := ⟨document, routines, groupByAttribute store "callee" calls,
    groupByAttribute store "caller" calls, .empty⟩
  let edges ← (index.roots.foldlM (fun edges root => addEdges store index index.depth root edges)
    .empty : Outcome _)
  let _ ← firstNode document "symbols"
  return { index with edges }

def firstIndex? (name : String) (names : List String) : Option Nat :=
  names.findIdx? (· == name)

def addAliasesBelow (store : Store) (index : CallIndex) :
    Nat → String → String → Table String String → Outcome (Table String String)
  | 0, _, _, _ => .error (.defect .tooDeep)
  | fuel + 1, symbol, routine, aliases =>
    (index.callsFrom routine).foldlM (fun aliases call => do
      let passed := argumentNames store call
      match firstIndex? symbol passed with
      | none => return aliases
      | some position => do
        let callee := store.value call "callee"
        if aliases.contains callee then throw (.callGraph (.severalPaths symbol callee))
        match index.routines.get? callee with
        | none => throw (.defect .missingKey)
        | some node => do
          let received := argumentNames store node
          if passed.length != received.length then
            throw (.callGraph (.argumentCount callee routine))
          let other := received[position]?.getD ""
          addAliasesBelow store index fuel other callee (aliases.set callee other)) aliases

variable (store : Store) (index : CallIndex) (symbol routine : String)

def checkAliasesAbove : Outcome Unit :=
  match index.routines.get? routine with
  | none => .error (.defect .missingKey)
  | some node =>
    let received := argumentNames store node
    match received.contains symbol, index.callsTo routine with
    | false, _ | true, [] => .ok ()
    | true, [call] =>
      if (argumentNames store call).length != received.length then
        .error (.callGraph (.argumentCount routine (store.value call "caller")))
      else .error (.defect .unknownName)
    | true, _ => .error (.callGraph (.severalPaths symbol routine))

def aliases : Outcome (Table String String) := do
  let found ← addAliasesBelow store index (index.routines.size + 2) symbol routine
    (Table.ofList [(routine, symbol)])
  checkAliasesAbove store index symbol routine
  return found

end CallIndex

/-! The analysis. Analyses are shared between the routines that pass a symbol on, and are therefore
kept in one list and named by their place in it. -/

structure AnalysisId where
  index : Nat
  deriving DecidableEq, Repr, Inhabited

structure Mismatch where
  caller : String
  passed : Nat
  expected : Nat

structure Analysing where
  store : Store
  objects : Array SymbolAnalysis := #[]
  found : Table (String × String) (List AnalysisId) := .empty
  bySource : Table (Option String × Option String) AnalysisId := .empty
  mismatches : Table String (List Mismatch) := .empty
  log : List LogEntry := []

abbrev AnalysisM := ExceptT Fault (StateM Analysing)

namespace Analysing

def onStore {α : Type} (action : StoreM α) : AnalysisM α := do
  let analysing ← get
  let (result, store) := ExceptT.run action analysing.store
  set { analysing with store }
  match result with
  | .ok value => return value
  | .error fault => throw fault

instance : MonadLiftT StoreM AnalysisM := ⟨onStore⟩

def addObject (analysis : SymbolAnalysis) : AnalysisM AnalysisId := do
  let analysing ← get
  set { analysing with objects := analysing.objects.push analysis }
  return ⟨analysing.objects.size⟩

def object (analysing : Analysing) (id : AnalysisId) : SymbolAnalysis :=
  analysing.objects[id.index]?.getD default

variable (store : Store) (routine : String) (arguments : List String)

def ofEntry (entry : NodeId) : Outcome SymbolAnalysis := do
  let name ← entryText store entry
  let sourceModule := store.value? entry "sourceModule"
  let position := CallIndex.firstIndex? name arguments
  return {
    name, sourceModule
    sourceSymbol := store.value? entry "sourceSymbol"
    aliases := Table.ofList [(routine, name)]
    positions := Table.ofList (position.toList.map fun position => (routine, position))
    kind := if position.isSome then .dependantArgument
      else if SymbolAnalysis.isGiven sourceModule then .dependantModuleData
      else .dependant }

def localAnalyses (entries : List NodeId) : Outcome (Table String SymbolAnalysis) := do
  let listed ← entries.foldlM (fun (table : Table String SymbolAnalysis) entry => do
    let analysis ← ofEntry store routine arguments entry
    return table.set analysis.name analysis) .empty
  return arguments.zipIdx.foldl (fun table (argument, position) =>
    if table.contains argument then table
    else table.set argument { name := argument, kind := .argument,
                              positions := Table.ofList [(routine, position)] }) listed

def putAside : AnalysisM (Table String (List AnalysisId)) :=
  arguments.foldlM (fun aside argument => do
    let analysing ← get
    match analysing.found.get? (routine, argument) with
    | none => return aside
    | some ids => do
      set { analysing with found := analysing.found.erase (routine, argument) }
      return aside.set argument ids) .empty

def knownFor (analysing : Analysing) (routine : String) (call : Option (String × List String))
    (current : AnalysisId) : List AnalysisId :=
  let analysis := analysing.object current
  match analysis.positions.get? routine, call with
  | some position, some (caller, first :: rest) =>
    (analysing.found.get? (caller, (first :: rest)[position]?.getD "")).getD []
  | _, _ =>
    if analysis.kind.isModuleSymbol then
      (analysing.bySource.get? (analysis.sourceSymbol, analysis.sourceModule)).toList
    else [current]

def enter (call : Option (String × List String)) (name : String) (analysis : SymbolAnalysis) :
    AnalysisM Unit := do
  let current ← addObject analysis
  let known := (← get).knownFor routine call current
  if known.isEmpty || known == [current] then
    modify fun analysing => { analysing with found := analysing.found.set (routine, name) [current] }
    if analysis.kind.isModuleSymbol then
      modify fun analysing =>
        { analysing with
          bySource := analysing.bySource.set (analysis.sourceSymbol, analysis.sourceModule) current }
  else
    for id in known do
      modify fun analysing =>
        let (joined, warnings) := (analysing.object id).addDownstream analysis routine
        { analysing with
          objects := analysing.objects.modify id.index fun _ => joined
          log := analysing.log ++ warnings }
    modify fun analysing => { analysing with found := analysing.found.set (routine, name) known }

def noteMismatch (mismatch : Mismatch) : AnalysisM Unit :=
  modify fun analysing =>
    { analysing with
      mismatches := analysing.mismatches.set routine
        ((analysing.mismatches.get? routine).getD [] ++ [mismatch]) }

def analyseRoutine (index : CallIndex) : Nat → String → Option NodeId → AnalysisM Unit
  | 0, _, _ => throw (.defect .tooDeep)
  | fuel + 1, routine, call => do
    let store := (← get).store
    match index.routines.get? routine with
    | none => pure ()
    | some node => do
      let arguments := argumentNames store node
      let passed := call.map fun call => (store.value call "caller", argumentNames store call)
      if call.any fun call => store.value call "callee" != routine then
        throw (.callGraph (.foreignCall routine))
      match passed with
      | some (caller, names) =>
        if names.length != arguments.length then
          noteMismatch routine ⟨caller, names.length, arguments.length⟩
          return
      | none => pure ()
      let listed ← dependants index.document node
      let aside ← if passed.isSome then putAside routine arguments else pure .empty
      let own ← localAnalyses (← get).store routine arguments (listed.map Prod.snd)
      for (name, analysis) in own.entries do
        enter routine passed name analysis
      for call in index.callsFrom routine do
        analyseRoutine index fuel (store.value call "callee") (some call)
      for (name, ids) in aside.entries do
        modify fun analysing =>
          { analysing with
            found := analysing.found.set (routine, name)
              (ids ++ (analysing.found.get? (routine, name)).getD []) }

def mismatchWarning (mismatches : List Mismatch) : List LogEntry :=
  match mismatches with
  | [] => []
  | first :: _ =>
    [.plain .warning
      ("Cannot fully analyze symbol dependencies since argument list from callers " ++
        Text.quotedList (mismatches.map Mismatch.caller) ++ " has different length (e.g. " ++
        toString first.passed ++ ") than routine argument list (" ++ toString first.expected ++
        s!") for routine {routine}.\n")]

def analyseAll (index : CallIndex) : AnalysisM Unit := do
  for root in index.roots do
    modify fun analysing => { analysing with bySource := .empty }
    analyseRoutine index index.depth root none
  modify fun analysing =>
    { analysing with
      log := analysing.log ++
        analysing.mismatches.entries.flatMap fun entry => mismatchWarning entry.1 entry.2 }

def resolved (analysing : Analysing) (ids : List AnalysisId) : List SymbolAnalysis :=
  ids.map analysing.object

end Analysing

abbrev AnalysisTable := Table String (Table String (List SymbolAnalysis))

namespace AnalysisTable

def ofFound (analysing : Analysing) : AnalysisTable :=
  analysing.found.entries.foldl (fun table ((routine, symbol), ids) =>
    let symbols := (Table.get? table routine).getD .empty
    Table.set table routine (symbols.set symbol (analysing.resolved ids))) Table.empty

def first? (table : AnalysisTable) (routine symbol : String) : Option SymbolAnalysis := do
  let symbols ← Table.get? table routine
  let analyses ← symbols.get? symbol
  analyses.head?

def ofIndex (index : CallIndex) (store : Store) : Outcome AnalysisTable × Store × List LogEntry :=
  let (result, analysing) := ExceptT.run (Analysing.analyseAll index) { store }
  (result.map fun _ => ofFound analysing, analysing.store, analysing.log)

end AnalysisTable

end ParallelFortran.CallGraph
