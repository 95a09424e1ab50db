import ParallelFortran.Pattern.Reader
import ParallelFortran.Symbol.Registry
import ParallelFortran.Text.Quotes

/-! Macros that put the dimensions of an array into storage order. -/

namespace ParallelFortran.Symbol

open Xml

def templateEntries? (store : Store) (symbol : Symbol) (setting : String) :
    Outcome (Option (List String)) :=
  match symbol.template with
  | none => .ok none
  | some template =>
    match store.descendants template setting with
    | [] => .ok none
    | node :: _ => do
      return some (← (store.children node).mapM (CallGraph.entryText store))

structure OrderingMacro where
  name : String
  isExplicit : Bool
  deriving DecidableEq, Repr

variable (store : Store) (symbol : Symbol)

def orderingMacro (setting : String) (known : Option String) (automatic : String) :
    Outcome OrderingMacro := do
  match ← symbol.templateEntries? store setting with
  | some (name :: _) => return ⟨name, true⟩
  | _ =>
    match known.filter (! ·.isEmpty) with
    | some name => return ⟨name, true⟩
    | none =>
      let count := symbol.domains.value.length
      if !symbol.isAutoDom || count < 3 then return ⟨"", false⟩
      else return ⟨if count == 3 then automatic else automatic ++ toString count, false⟩

def domainMacroOf : Outcome OrderingMacro :=
  symbol.orderingMacro store "domPP" symbol.domainMacro "DOM"

def accessMacroOf : Outcome OrderingMacro :=
  symbol.orderingMacro store "accPP" symbol.accessMacro "AT"

def usesMacro (reorders : Bool) (orderingMacro : OrderingMacro) (count : Nat) : Bool :=
  reorders && orderingMacro.name != "" && count ≥ 3 &&
    (symbol.parallelDomainCount > 0 || orderingMacro.isExplicit) && symbol.matchesSpecification

end ParallelFortran.Symbol

/-! How a symbol is written where it is used. The accessors that stand in the source are completed
with the iterators of the parallel region, or with slices where an array is passed on. -/

namespace ParallelFortran

open Xml

structure CalleeView where
  node : Option NodeId
  isGenerated : Bool

structure AccessContext where
  iterators : List String := []
  region : Option NodeId := none
  reorders : Bool := true
  isPointerAssignment : Bool := false
  isInsideRegion : Bool := false
  callee : Option CalleeView := none
  prefersDevice : Bool := true

namespace Symbol

abbrev Placed := List (String × Nat)

def texts (placed : Placed) : List String := placed.map Prod.fst

def inOrder (placed : Placed) : List String :=
  texts (placed.mergeSort fun left right => left.2 ≤ right.2)

def wordOccurs (name text : String) : Outcome Bool :=
  match Pattern.read? true (".*?(?:^|\\W)" ++ name ++ "(?:$|\\W).*") with
  | none => .error (.defect .malformedPattern)
  | some pattern => .ok (pattern.accepts text)

def firstOccurring? (text : String) : List String → Outcome (Option String)
  | [] => .ok none
  | name :: names => do
    if ← wordOccurs name text then return some name else firstOccurring? text names

def firstHolding? (name : String) (texts : List String) : Outcome (Option String) :=
  match Pattern.read? true (".*?(?:^|\\W)" ++ name ++ "(?:$|\\W).*") with
  | none => .error (.defect .malformedPattern)
  | some pattern => .ok (texts.find? pattern.accepts)

def mergeByDomain (symbol : Symbol) (iterators offsets : List String) :
    Nat → Nat → List Domain → Outcome (List String)
  | _, _, [] => .ok []
  | index, taken, domain :: domains => do
    let count := symbol.domains.value.length
    match (← firstHolding? domain.name iterators).filter (! ·.isEmpty) with
    | some iterator =>
      return iterator :: (← mergeByDomain symbol iterators offsets (index + 1) taken domains)
    | none =>
      match offsets[taken]? with
      | some offset =>
        return offset :: (← mergeByDomain symbol iterators offsets (index + 1) (taken + 1) domains)
      | none =>
        let fallback :=
          if offsets.length + iterators.length != count then none
          else if index - taken < iterators.length then iterators[index - taken]?
          else offsets[index - iterators.length]?
        match fallback with
        | some text =>
          return text :: (← mergeByDomain symbol iterators offsets (index + 1) taken domains)
        | none =>
          throw (.symbol (.unknownIterators symbol.name iterators offsets
            symbol.domains.value))

def mergeIterators (symbol : Symbol) (iterators offsets : Placed) : Outcome (List String) :=
  let all := iterators ++ offsets
  if (all.map Prod.snd).eraseDups.length == all.length then .ok (inOrder all)
  else if iterators.isEmpty then .ok (texts offsets)
  else if offsets.isEmpty then .ok (texts iterators)
  else symbol.mergeByDomain (texts iterators) (texts offsets) 0 0 symbol.domains.value

structure Accessors where
  iterators : Placed
  others : Placed

def without (placed : Placed) (removed : List String) : Placed :=
  placed.filter fun accessor => !removed.contains accessor.1

/-- The names of parallel domains that accessors can hold. Where the regions are not in the scope
itself, any domain of the program can be one. -/
def knownParallelDomains (symbol : Symbol) : List String :=
  if !symbol.activeKernelDomains.isEmpty then symbol.activeKernelDomains
  else if symbol.position == some "outside" || symbol.position == some "inside" then
    symbol.globalDomains
  else []

variable (store : Store) (symbol : Symbol) (context : AccessContext)

def separate (accessors : List String) : Outcome Accessors := do
  let iterators := context.iterators.zipIdx
  let others := accessors.zipIdx
  if symbol.domains.value.isEmpty then return ⟨iterators, others⟩
  let found ← others.filterM fun accessor => do
    return isGiven (← firstOccurring? accessor.1 symbol.knownParallelDomains)
  let active := symbol.parallelDomainCount
  let parallel :=
    if !iterators.isEmpty && iterators.length == active && found.length != active then iterators
    else found
  let isPassedOn := (context.callee.bind CalleeView.node).any fun node =>
    store.value node "parallelRegionPosition" != "outside"
  if isPassedOn then return ⟨[], without others (texts parallel)⟩
  if !parallel.isEmpty then return ⟨parallel, without others (texts parallel)⟩
  if active == 0 then return ⟨[], others⟩
  return ⟨iterators, others⟩

def slices (accessors : Accessors) : Outcome Placed := do
  match context.callee with
  | none => return []
  | some ⟨none, _⟩ => throw (.defect .missingPart)
  | some ⟨some node, _⟩ =>
    let iterated :=
      if store.value node "parallelRegionPosition" == "outside" then accessors.iterators.length
      else 0
    let count := symbol.domains.value.length - iterated - accessors.others.length
    return (List.range count).map fun index => (":", index)

def unmatchedIterators (iterators offsets : Placed) : Outcome (List String) := do
  let count := symbol.domains.value.length
  if offsets.length == count then return inOrder offsets
  if offsets.length > count then
    let isLoose ←
      if symbol.position == some "outside" then pure true
      else
        match symbol.declaration with
        | none => throw (.defect .wrongKind)
        | some declaration => pure (Text.contains declaration "character")
    if isLoose then return inOrder offsets
    if count == 0 then return []
    return texts (offsets.drop (offsets.length - count))
  if iterators.length == count then return inOrder iterators
  return []

def sliceParallel (iterators : List String) : List String :=
  iterators.zipIdx.map fun (iterator, index) =>
    if index < symbol.parallelDomainCount then ":" else iterator

def resolve (accessors : List String) : Outcome (List String × List String) := do
  let separated ← symbol.separate store context accessors
  let offsets := (← symbol.slices store context separated) ++ separated.others
  if separated.iterators.length + offsets.length != symbol.domains.value.length then
    return (← symbol.unmatchedIterators separated.iterators offsets, texts offsets)
  let merged ← symbol.mergeIterators separated.iterators offsets
  let needsSlices := symbol.position != some "within" && symbol.position != some "outside" &&
    (context.callee.bind CalleeView.node).any fun node =>
      store.value node "parallelRegionPosition" == "within, inside"
  return (if needsSlices then symbol.sliceParallel merged else merged, texts offsets)

def areSlices (iterators : List String) : Bool :=
  iterators.all (· == ":")

def isPlainAccess (accessors : List String) : Bool :=
  context.isPointerAssignment || (symbol.domains.value.isEmpty && accessors.isEmpty) ||
    (!context.isInsideRegion && context.callee.isNone && !symbol.isModuleSymbol &&
      !symbol.isHost && accessors.isEmpty)

def keepsAccessors (accessors : List String) : Bool :=
  symbol.isHost || (accessors.length == symbol.domains.value.length &&
    symbol.domains.value.all fun domain =>
      Text.contains domain.name "GENERIC" && domain.size == ":")

def withoutBlanks (text : String) : String :=
  String.ofList (text.toList.filter fun letter => !Text.isBlank letter)

def accessMacroName (region : Option NodeId) (orderingMacro : OrderingMacro) : Outcome String := do
  match orderingMacro.isExplicit, region with
  | false, some region => do
    let template ← CallGraph.blockTemplate store region
    return if template.isEmpty then orderingMacro.name else orderingMacro.name ++ "_" ++ template
  | _, _ => return orderingMacro.name

def accessText (iterators offsets : List String) : Outcome String := do
  let isOnHost :=
    (!symbol.usesDeviceName && offsets.length == symbol.domains.value.length &&
      !areSlices iterators) || context.callee.any fun callee => !callee.isGenerated
  let name ← symbol.nameInScopeFor store (!isOnHost && context.prefersDevice)
  if iterators.isEmpty || (context.callee.isSome && areSlices iterators) then return name
  let orderingMacro ← symbol.accessMacroOf store
  let inner := Text.join "," iterators
  if symbol.usesMacro context.reorders orderingMacro iterators.length then
    let macroName ← accessMacroName store context.region orderingMacro
    return name ++ "( " ++ macroName ++ "(" ++ inner ++ ") )"
  return name ++ "( " ++ inner ++ " )"

def access (accessors : List String) : Outcome String := do
  if symbol.isPlainAccess context accessors then symbol.nameInScope store
  else
    let (iterators, offsets) ←
      if symbol.keepsAccessors accessors then pure (accessors, accessors)
      else symbol.resolve store context accessors
    symbol.accessText store context (iterators.map withoutBlanks) offsets

end Symbol

end ParallelFortran

namespace ParallelFortran

open Xml

/-- A name and what is written instead of it: from the text in which the name was found and the text
behind the name, the replacement and the text behind that. -/
structure Replacement where
  name : String
  replace : String → String → Outcome (String × String)

namespace Replacement

/-- The text before each occurrence with its replacement, and the text behind the last occurrence.
Every occurrence is longer than nothing, so `fuel` above the length of the text is enough. -/
def sections (replacement : Replacement) : Nat → String → Outcome (List String × String)
  | 0, text => .ok ([], text)
  | fuel + 1, text => do
    if !Text.contains text replacement.name then return ([], text)
    let (before, found, behind) ← Text.splitAtName [replacement.name] text
    if found.isEmpty then return ([], text)
    let (written, rest) ← replacement.replace text behind
    let (parts, trailer) ← sections replacement fuel rest
    return (before :: written :: parts, trailer)

def apply (replacement : Replacement) (line : String) : Outcome String := do
  let (parts, trailer) ← replacement.sections (line.length + 1) line
  if parts.isEmpty then return line
  return Text.strip (Text.join "" parts ++ trailer)

end Replacement

def substitute (line : String) (replacements : List Replacement) : Outcome String :=
  replacements.foldlM (fun line replacement => replacement.apply line) line

namespace Symbol

def accessReplacement (store : Store) (context : AccessContext) (symbol : Symbol) : Replacement where
  name := symbol.name
  replace := fun line behind => do
    let (accessors, rest) ← Text.accessorsAndRemainder behind
    let context := { context with
      isPointerAssignment := Pattern.Fortran.pointerAssignment.accepts line
      isInsideRegion := context.region.isSome }
    return (← symbol.access store context accessors, rest)

def nameReplacement (store : Store) (symbol : Symbol) : Replacement where
  name := symbol.name
  replace := fun _ behind => do return (← symbol.nameInScope store, behind)

end Symbol

end ParallelFortran
