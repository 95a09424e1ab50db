import ParallelFortran.Xml.Store

/-! What a call graph document says about routines, calls and templates. -/

namespace ParallelFortran.CallGraph

open Xml

/-- The calls between routines that lead to a routine, and the routines on the way. A call path that
is longer than there are calls never ends. -/
structure Reach where
  edges : OrderedSet (String × String) := .empty
  routines : OrderedSet String := .empty

def Reach.add (reach : Reach) (caller callee : String) : Reach :=
  { edges := reach.edges.insert (caller, callee)
    routines := (reach.routines.insert caller).insert callee }

structure Call where
  caller : String
  callee : String
  deriving DecidableEq

def callsOf (store : Store) (nodes : List NodeId) : List Call :=
  nodes.map fun node => ⟨store.value node "caller", store.value node "callee"⟩

def addCallersLoop (calls : List Call) : Nat → String → Reach → Outcome Reach
  | 0, _, _ => .error (.defect .tooDeep)
  | fuel + 1, routine, reach =>
    (calls.filter fun call => call.callee == routine).foldlM
      (fun reach call => addCallersLoop calls fuel call.caller (reach.add call.caller call.callee))
      reach

section

variable (calls : List Call) (routine : String) (reach : Reach)

def addCallers : Outcome Reach :=
  addCallersLoop calls (calls.length + 2) routine reach

def addCalleesLoop (calls : List Call) : Nat → String → Reach → Outcome Reach
  | 0, _, _ => .error (.defect .tooDeep)
  | fuel + 1, routine, reach =>
    (calls.filter fun call => call.caller == routine).foldlM
      (fun reach call => addCalleesLoop calls fuel call.callee (reach.add call.caller call.callee))
      reach

def addCallees : Outcome Reach :=
  addCalleesLoop calls (calls.length + 2) routine reach

end

def groupByAttribute (store : Store) (name : String) (nodes : List NodeId) :
    Table String (List NodeId) :=
  nodes.foldl (fun table node =>
    let key := store.value node name
    table.set key ((table.get? key).getD [] ++ [node])) .empty

def regionPosition (store : Store) (routine : String) (routines : List NodeId) : Option String :=
  (routines.find? fun node => store.value node "name" == routine).map fun node =>
    (store.value? node "parallelRegionPosition").getD "unspecified"

def modulesByName (store : Store) (root : NodeId) : Outcome (Table String NodeId) :=
  (store.descendants root "module").foldlM (fun table node =>
    let name := store.value node "name"
    if name.isEmpty then .error (.callGraph .moduleWithoutName) else .ok (table.set name node)) .empty

inductive Stage where
  | noDirectives
  | positioned
  | notPositioned
  deriving DecidableEq, Repr

def Stage.number : Stage → Nat
  | noDirectives => 0
  | positioned => 1
  | notPositioned => 2

variable (store : Store)

def hasRelations (node : NodeId) (tag : String) : Bool :=
  match store.descendants node tag with
  | parent :: _ => !(store.descendants parent "templateRelation").isEmpty
  | [] => false

def stage (routine : NodeId) : Stage :=
  if !hasRelations store routine "activeParallelRegions" &&
      !hasRelations store routine "domainDependants" then .noDirectives
  else if Text.isBlankText (store.value routine "parallelRegionPosition") then .notPositioned
  else .positioned

def argumentNames (parent : NodeId) : List String :=
  (store.descendants parent "argument").map fun node => store.value node "symbolName"

def entryText (entry : NodeId) : Outcome String :=
  match (store.firstChild? entry).bind store.data? with
  | some text => .ok text
  | none => .error (.defect .missingPart)

variable (template : NodeId)

def settingEntries? (name : String) : Outcome (Option (List String)) :=
  match store.descendants template name with
  | [] => .ok none
  | setting :: _ => do
    return some (← (store.descendants setting "entry").mapM (entryText store))

def property? (name : String) : Outcome (Option String) := do
  match ← settingEntries? store template name with
  | none => return none
  | some [] => throw (.defect .outOfRange)
  | some (value :: _) => return some value

def attributesOf : Outcome (List String) := do
  return (← settingEntries? store template "attribute").getD []

def dependantDomains : Outcome (List Domain) := do
  match ← settingEntries? store template "domSize" with
  | none => return []
  | some sizes => do
    match ← settingEntries? store template "domName" with
    | none => return []
    | some names => do
      if names.length != sizes.length then throw (.callGraph (.domainMismatch names sizes))
      return (names.zip sizes).map fun pair => ⟨pair.1, pair.2⟩

structure LoopDomain where
  name : String
  size : String
  startsAt : Option String
  endsAt : Option String
  deriving DecidableEq, Repr, Inhabited

def requiredEntries (format : Format) (store : Store) (template : NodeId) (name : String)
    (expected : Option Nat) : Outcome (List String) := do
  match store.descendants template name with
  | [setting] => do
    let entries := store.descendants setting "entry"
    match expected with
    | some count =>
      if entries.length != count then
        throw (.callGraph (.wrongEntryCount name entries.length count))
    | none => pure ()
    entries.mapM (entryText store)
  | _ => throw (.callGraph (.invalidSetting name (store.write format template)))

def optionalEntries (name : String) (expected : Nat) : Outcome (Option (List String)) := do
  match store.descendants template name with
  | [] => return none
  | setting :: _ => do
    let entries := store.descendants setting "entry"
    if entries.length != expected then
      throw (.callGraph (.wrongEntryCount name entries.length expected))
    return some (← entries.mapM (entryText store))

def loopDomainsOf (format : Format) (store : Store) (template : NodeId) :
    Outcome (List LoopDomain) := do
  let names ← requiredEntries format store template "domName" none
  let sizes ← requiredEntries format store template "domSize" (some names.length)
  let starts ← optionalEntries store template "startAt" names.length
  let ends ← optionalEntries store template "endAt" names.length
  return (names.zip sizes).zipIdx.map fun (pair, index) =>
    ⟨pair.1, pair.2, starts.bind (·[index]?), ends.bind (·[index]?)⟩

def loopDomains : Outcome (List LoopDomain) :=
  loopDomainsOf indented store template

/-- Whether a region is parallel on one of the architectures; without a setting it is on all. -/
def appliesTo (architectures : List String) (template : NodeId) : Outcome Bool := do
  match store.descendants template "appliesTo" with
  | [] => return true
  | setting :: _ => do
    let entries := store.descendants setting "entry"
    if entries.isEmpty then throw (.callGraph .noArchitecture)
    if architectures.isEmpty then return false
    entries.anyM fun entry => do
      let wanted := Text.lower (← entryText store entry)
      return architectures.any fun architecture => Text.lower architecture == wanted

def blockTemplate : Outcome String := do
  match store.descendants template "template" with
  | [] => return ""
  | [setting] => do
    match store.descendants setting "entry" with
    | [] => throw (.callGraph .emptyTemplate)
    | [entry] => return Text.strip (← entryText store entry)
    | _ => throw (.callGraph .multipleTemplates)
  | _ => throw (.callGraph .multipleTemplates)

def blockSizeNames : Outcome (List String) := do
  let name ← blockTemplate store template
  let suffix := if name.isEmpty then "" else "_" ++ name
  return ["CUDA_BLOCKSIZE_X", "CUDA_BLOCKSIZE_Y", "CUDA_BLOCKSIZE_Z"].map (· ++ suffix)

def reductionOperators : List String :=
  ["MAX", "MIN", "IAND", "IOR", "IEOR", "+", "*", "-", ".AND.", ".OR.", ".EQV.", ".NEQV."]

def readReduction (text : String) : Outcome (String × String) :=
  match Text.split ":" text with
  | [operator, scalar] =>
    let operator := Text.strip (Text.upper operator)
    let scalar := Text.strip scalar
    if !reductionOperators.contains operator then
      .error (.callGraph (.reductionOperator reductionOperators))
    else if scalar.isEmpty then .error (.callGraph .emptyReductionScalar)
    else .ok (operator, scalar)
  | _ => .error (.callGraph .reductionForm)

def reductionText (setting : NodeId) : Outcome String := do
  match store.descendants setting "entry" with
  | [] => throw (.callGraph .emptyReduction)
  | [entry] => return Text.strip (← entryText store entry)
  | _ => throw (.callGraph .multipleReductionScalars)

def reductions : Outcome (Table String (List String)) := do
  let texts ← (store.descendants template "reduction").mapM (reductionText store)
  texts.foldlM (fun table text => do
    let (operator, scalar) ← readReduction text
    return table.set operator ((table.get? operator).getD [] ++ [scalar])) .empty

def reductionClause : Outcome String := do
  let table ← reductions store template
  return Text.join ", " (table.entries.map fun entry =>
    "reduction(" ++ entry.1 ++ ": " ++ Text.join ", " entry.2 ++ ")")

structure Combined where
  attributes : List String
  domains : List Domain
  declaration : Option String
  accessMacro : Option String
  domainMacro : Option String

/-- The procedure takes precedence over the module, except that domains come from whichever template
gives them without asking for their completion. -/
def combine (ofModule ofProcedure : NodeId) : Outcome Combined := do
  let moduleAttributes ← attributesOf store ofModule
  let procedureAttributes ← attributesOf store ofProcedure
  let auto := "autoDom"
  let both := moduleAttributes.contains auto && procedureAttributes.contains auto
  let domains ←
    if both || !procedureAttributes.contains auto then dependantDomains store ofProcedure
    else dependantDomains store ofModule
  let kept := ["present", "transferHere"].filter procedureAttributes.contains
  let preferred := fun (name : String) => do
    let ofModule ← property? store ofModule name
    let ofProcedure ← property? store ofProcedure name
    return ofProcedure.or ofModule
  let declaration ← preferred "declarationPrefix"
  let accessMacro ← preferred "accPP"
  let domainMacro ← preferred "domPP"
  return ⟨(if both then [auto] else []) ++ kept, domains, declaration, accessMacro, domainMacro⟩

def templatesById (document : Document) (tag : String) : StoreM (Table String NodeId) := do
  let store ← get
  let known := (store.libraries.get? (document, tag)).getD .empty
  if !known.isEmpty then return known
  let table ← (store.descendants document.root tag).foldlM (fun table node => do
    let id := store.value node "id"
    if id.isEmpty then throw (.callGraph .templateWithoutId)
    pure (table.set id node)) Table.empty
  modify fun store => { store with libraries := store.libraries.set (document, tag) table }
  return table

/-- The symbols that a routine or module names in its directives, each with its template. An entry
without a name is refused where the document can still be changed. -/
def dependants (document : Document) (scope : NodeId) : StoreM (List (NodeId × NodeId)) := do
  let templates ← templatesById document "domainDependantTemplate"
  let store ← get
  match store.descendants scope "domainDependants" with
  | [] => return []
  | parent :: _ => do
    let perRelation ← (store.descendants parent "templateRelation").mapM fun relation => do
      let entries := store.descendants relation "entry"
      let id := store.value relation "id"
      match templates.get? id with
      | none => do
        let symbols ← (entries.mapM (entryText store) : Outcome (List String))
        throw (.callGraph (.dependantTemplateNotFound id symbols (store.value scope "name")))
      | some template =>
        entries.mapM fun entry => do
          if !document.frozen && (store.firstChild? entry).isNone then
            throw (.defect .unknownName)
          return (template, entry)
    return perRelation.flatten

def iterators (routine : NodeId) (templates : List NodeId) (architectures : List String) :
    Outcome (List String) := do
  if templates.isEmpty || store.value routine "parallelRegionPosition" != "within" then return []
  let perTemplate ← templates.mapM fun template => do
    if ← appliesTo store architectures template then
      return (← loopDomains store template).map LoopDomain.name
    else return []
  return (OrderedSet.ofList perTemplate.flatten).members

def parallelDomainNames (document : Document) : StoreM (List String) := do
  let templates ← templatesById document "parallelRegionTemplate"
  let store ← get
  let names ← templates.values.mapM fun template => do
    return (← loopDomains store template).map LoopDomain.name
  return (OrderedSet.ofList names.flatten).members

structure RegionData where
  relations : Table String (List NodeId) := .empty
  templates : Table String (List NodeId) := .empty
  routines : Table String NodeId := .empty
  byModule : Table String (List NodeId) := .empty
  deriving Inhabited

def RegionData.addRoutine (regions : Table String NodeId) (data : RegionData) (routine : NodeId) :
    Outcome RegionData := do
  let name := store.value routine "name"
  if name.isEmpty then throw (.callGraph .procedureWithoutName)
  let module := store.value routine "module"
  let data := { data with routines := data.routines.set name routine }
  let data :=
    if module.isEmpty then data
    else { data with
      byModule := data.byModule.set module ((data.byModule.get? module).getD [] ++ [routine]) }
  match store.descendants routine "activeParallelRegions" with
  | [] => return data
  | parent :: _ => do
    let relations := store.descendants parent "templateRelation"
    let templates ← relations.mapM fun relation => do
      let id := store.value relation "id"
      if id.isEmpty then throw (.callGraph .relationWithoutId)
      match regions.get? id with
      | none => throw (.callGraph (.unmatchedRelation id name))
      | some template => pure template
    if relations.isEmpty then return data
    return { data with
      relations := data.relations.set name relations
      templates := data.templates.set name templates }

def regionData (document : Document) : StoreM RegionData := do
  let regions ← templatesById document "parallelRegionTemplate"
  let store ← get
  (store.descendants document.root "routine").foldlM
    (fun data routine => RegionData.addRoutine store regions data routine) {}

end ParallelFortran.CallGraph
