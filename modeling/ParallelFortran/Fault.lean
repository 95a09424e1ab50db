import ParallelFortran.Symbol.Domain
import ParallelFortran.Text.Basic

/-! Everything that can end an operation early. -/

namespace ParallelFortran

open Text

inductive Defect where
  | missingKey
  | missingPart
  | outOfRange
  | wrongKind
  | unknownName
  | unassigned
  | badValue
  | tooDeep
  | divisionByZero
  | overflow
  | changedWhileWalking
  | malformedDocument
  | misplacedNode
  | foreignNode
  | missingFile
  | malformedJson
  | malformedPattern
  | truncatedData
  | malformedExpression
  | malformedText
  | circularDependency
  deriving DecidableEq, Repr, Inhabited

inductive Refusal where
  | general
  | usage
  | scope
  deriving DecidableEq, Repr, Inhabited

inductive RecordFault where
  | oddLength (length : Int) (size : Nat)
  | shortData (length : Int) (found : Nat)
  | noTrailer
  | markMismatch
  | wrongSize (target format : String) (needed : Nat)
  | negativeLength

namespace RecordFault

def refusal (_ : RecordFault) : Refusal := .general

def message : RecordFault → String
  | oddLength length size =>
    s!"Odd record length: {length}, modulo {size} == 0 expected. Is the file endian correct?"
  | shortData length found =>
    s!"Could not read {length} bytes as expected. Only {found} bytes read."
  | noTrailer => "Could not read trailer."
  | markMismatch => "Header and trailer do not match."
  | wrongSize target format needed =>
    s!"Error when trying to unpack {target} using {format} format: unpack requires a buffer of " ++
      s!"{needed} bytes"
  | negativeLength => "read length must be non-negative or -1"

end RecordFault

inductive TextFault where
  | unevenSplit
  | longOpening
  | longClosing
  | wrongEnd (index length : Nat)
  | searchTooLong
  | closingFirst
  | lostDelimiter
  | lostDelimiterIn (text : String)
  | unbalancedArguments (remainder : String)
  | emptyArgument (text : String) (level : Int) (arguments : List String) (remainder : String)
  | invalidComponent (component : String)
  | noDataObjects
  | invalidRightHandSide (text : String)
  | wrongObjectCount
  | noDeclaration
  | emptyDimension
  | unknownObject (name specification : String)
  | invalidDeclaration (line : String)

namespace TextFault

def refusal : TextFault → Refusal
  | noDataObjects | invalidRightHandSide _ | wrongObjectCount => .usage
  | _ => .general

def message : TextFault → String
  | unevenSplit => "Unexpected behavior of regex split. Please check your python version."
  | longOpening => "Quote begin marker with strange number of characters"
  | longClosing => "Quote end marker with strange number of characters"
  | wrongEnd index length => s!"Index at the end of quotes search is {index}. Expected: {length}"
  | searchTooLong => "Could not find the string even after 100 tries."
  | closingFirst => "Closing bracket before opening one."
  | lostDelimiter =>
    "Something went wrong in the bracket analysis - cannot rematch a search character"
  | lostDelimiterIn text =>
    "Something went wrong in the bracket analysis for string " ++ text ++
      " - cannot rematch a search character"
  | unbalancedArguments remainder =>
    s!"Something went wrong when trying to split arguments from '{remainder}'"
  | emptyArgument text level arguments remainder =>
    s!"Invalid empty argument. Analyzed string: {text}; Bracket Level: {level}; Arguments so " ++
      s!"far: {quotedList arguments}; Remainder: {remainder}"
  | invalidComponent component => "invalid component: " ++ component
  | noDataObjects => "no data objects defined on this line"
  | invalidRightHandSide text => s!"invalid right hand side specification in '{text}'"
  | wrongObjectCount => "invalid number of data objects specified on this declaration line"
  | noDeclaration => "no declaration found"
  | emptyDimension => "dimension attribute without content"
  | unknownObject name specification =>
    s!"symbol {name} not found in specification tuple {specification}"
  | invalidDeclaration line =>
    "When trying to extract a device declaration: This is not a valid declaration: " ++ line

end TextFault

/-! Refusals of source lines for the place at which they stand. -/

inductive PreparationFault where
  | preparedTwice (step place : String) (around : Option String)
  | neverPrepared (place : String) (around : Option String)

def PreparationFault.message : PreparationFault → String
  | preparedTwice step place around =>
    s!"Line has already been prepared by {step}{ending place around}"
  | neverPrepared place around => "Line has never been prepared" ++ ending place around
where
  ending (place : String) (around : Option String) : String :=
    " - there is an error in the transpiler logic. Please contact the Hybrid Fortran " ++
      s!"maintainers. Parser state: {place}; before branch: " ++ orAbsent around

inductive SourceFault where
  | routineOutsideModule
  | routineWithoutName
  | callWithoutName
  | unmatchedRoutineEnd
  | nestedRoutine (refusal : Refusal)
  | schemeInRoutine
  | nestedRegion (refusal : Refusal)
  | routineEndInRegion (refusal : Refusal)
  | earlyReturn
  | callInDependants
  | regionInDependants
  | routineEndInDependants
  | schemeInDependants
  | undefinedPlace (place : String)
  | dataStatementPlace
  | noActiveTemplate
  | invalidStartLine (relation : String) (relations : List String) (routine : String)
  | preparation (cause : PreparationFault)

namespace SourceFault

def refusal : SourceFault → Refusal
  | nestedRoutine refusal | nestedRegion refusal | routineEndInRegion refusal => refusal
  | undefinedPlace _ | dataStatementPlace | noActiveTemplate | invalidStartLine _ _ _
  | preparation _ => .general
  | _ => .usage

def message : SourceFault → String
  | routineOutsideModule => "please put this Hybrid Fortran subroutine into a module"
  | routineWithoutName => "subprocedure begin without matching subprocedure name"
  | callWithoutName => "subprocedure call without matching subprocedure name"
  | unmatchedRoutineEnd => "end subprocedure without matching begin subprocedure"
  | nestedRoutine _ => "subprocedure within subprocedure not allowed"
  | schemeInRoutine => "template directives are only allowed outside of subroutines"
  | nestedRegion _ => "parallelRegion within parallelRegion not allowed"
  | routineEndInRegion _ => "subprocedure end before @end parallelRegion"
  | earlyReturn => "early return not allowed here"
  | callInDependants => "subprocedure call within domainDependants not allowed"
  | regionInDependants => "parallelRegion within domainDependants not allowed"
  | routineEndInDependants => "subprocedure end before @end domainDependant"
  | schemeInDependants => "template directives not allowed here"
  | undefinedPlace place => "unexpected undefined parser state: " ++ place
  | dataStatementPlace => "invalid place for a data statement"
  | noActiveTemplate => "No parallel region template has matched the active template ID."
  | invalidStartLine relation relations routine =>
    s!"Invalid startLine definition for parallel region template relation: {relation}\n. All " ++
      s!"active template relations: {quotedList relations}\nRoutine node: {routine}"
  | preparation cause => cause.message

end SourceFault

inductive RoutineFault where
  | noName
  | noDefinition (routine : String)
  | noBackend (routine : String)
  | argumentsNotLoaded (routine : String)
  | additionalArgumentsNotLoaded (routine : String)
  | noTemplates (routine : String)
  | severalTemplates (routine backend : String)
  | noUserNames (routine : String)
  | programNotLoaded (routine : String)
  | notInContext (name : String) (keys : List String)
  | argumentNotInContext (name : String) (keys names : List String)
  | inconsistentSymbol (symbol routine : String)
  | invalidSymbol (symbol routine : String)
  | callOutsideRegion (callee routine : String)
  | nonScalarAccess
  | noCalleeTemplates (callee : String)
  | specificationNotLoaded (routine : String)
  | unmatchedSymbol (symbol line : String)
  | accessInLine (reason line : String)
  | inRoutine (refusal : Refusal) (routine reason : String)

namespace RoutineFault

def refusal : RoutineFault → Refusal
  | invalidSymbol _ _ => .scope
  | accessInLine _ _ => .usage
  | inRoutine refusal _ _ => refusal
  | _ => .general

def message : RoutineFault → String
  | noName => "no valid name passed when trying to initialize routine"
  | noDefinition routine => s!"no definition passed when trying to initialize routine '{routine}'"
  | noBackend routine => s!"no implementation passed when trying to initialize routine '{routine}'"
  | argumentsNotLoaded routine => "programmer arguments not yet loaded for " ++ routine
  | additionalArgumentsNotLoaded routine => "additional arguments not yet loaded for " ++ routine
  | noTemplates routine =>
    s!"Unexpected: no parallel template definition found for routine '{routine}'"
  | severalTemplates routine backend =>
    "Unexpected: more than one parallel region templates found for subroutine '" ++ routine ++
      "' containing a parallelRegion directive. This is not allowed for implementations using " ++
      backend ++ ".\t\t\t\t"
  | noUserNames routine => routine ++ " has no _userSpecifiedSymbolNames"
  | programNotLoaded routine => "global context not loaded correctly for routine " ++ routine
  | notInContext name keys =>
    name ++ " not found in context, cannot update references. All context keys: " ++
      quotedList keys
  | argumentNotInContext name keys names =>
    s!"{name} not found in context. All context keys: {quotedList keys}; Names in Scope: " ++
      s!"{quotedList names}"
  | inconsistentSymbol symbol routine =>
    s!"Symbol {symbol} has an inconsistent context loaded in routine {routine}"
  | invalidSymbol symbol routine => s!"invalid symbol {symbol} added to {routine}"
  | callOutsideRegion callee routine =>
    s!"cannot load call {callee} for {routine} outside a callregion"
  | nonScalarAccess => "non scalars not supported for this operation"
  | noCalleeTemplates callee => s!"No parallel region templates found for subroutine {callee}"
  | specificationNotLoaded routine =>
    "additional context not properly loaded for routine specification region in " ++ routine
  | unmatchedSymbol symbol line =>
    s!"symbol {symbol} expected to be referenced in line '{line}', but all matchings have failed"
  | accessInLine reason line => s!"{reason}; Print of Line: {line}"
  | inRoutine _ routine reason => s!"In {routine}: {reason}"

end RoutineFault

inductive BackendFault where
  | invalidPosition (position : String)
  | regionDimensions
  | tooManyDimensions (count : Nat)
  | sizeComponents (components : List String)
  | noDomainSizes
  | debugDomainSize (size : String)
  | noActiveRegion (number : Nat) (regions : List String)
  | routineWithoutName
  | noRoutineName
  | noIterators
  | presentMix (present : List (String × Bool))
  | exclusive (one other : String) (listed : List (String × List String))
  | typeParameterMix (names : List String) (flags : List Bool)
  | nonconforming (line reason : String) (symbols : List String)
  | noSymbolsToAdjust
  | cannotAllocate (name : String) (domains : List Domain) (isCallingKernel isTransferred : Bool)
  | deviceImport (symbols : List String) (routine : String)
  | foreignKernel (name : String)
  | illegalArgument (argument : String)
  | moduleDummies (names : List String) (kind : Nat)

namespace BackendFault

def refusal : BackendFault → Refusal
  | noDomainSizes | noActiveRegion _ _ | routineWithoutName | noRoutineName | noSymbolsToAdjust
  | cannotAllocate _ _ _ _ | foreignKernel _ | moduleDummies _ _ | sizeComponents _ => .general
  | _ => .usage

def unnamedDomains (count : Nat) : String :=
  listText (List.replicate count "<tools.metadata.ParallelRegionDomain object at 0x>")

def message : BackendFault → String
  | invalidPosition position =>
    "invalid parallel region position defined for this routine: " ++ position
  | regionDimensions => "Invalid number of parallel domains in parallel region definition."
  | tooManyDimensions count =>
    s!"Only up to 3 parallel dimensions supported. {count} are specified: {unnamedDomains count}."
  | sizeComponents components =>
    "invalid domain size component specification: " ++ quotedList components
  | noDomainSizes => "cannot generate domain size conditional from empty domain sizes list"
  | debugDomainSize size => "Unexpected domain size specification: " ++ size
  | noActiveRegion number regions =>
    s!"cannot find active parallel region for kernel number {number} in regions " ++
      s!"{quotedList regions}"
  | routineWithoutName => "Routine node without name"
  | noRoutineName => "Routine name undefined."
  | noIterators => "No iterators in kernel."
  | presentMix present =>
    "line contains a mix of device present, non-device-present arrays. " ++
      "Symbols vs present attributes:\n" ++
      listText (present.map fun symbol =>
        tupleText [quoted symbol.1, truthText symbol.2])
  | exclusive one other listed =>
    s!"Symbols with '{one}' attribute cannot appear on the same specification line as symbols with " ++
      s!"'{other}' attribute.\n" ++
      join "\n" (listed.map fun symbols => s!"{symbols.1} Symbols: {quotedList symbols.2}")
  | typeParameterMix names flags =>
    "line contains a mix of type parameter / non type parameter symbols: " ++
      listText names ++ "; is type parameter: " ++ listText (flags.map truthText)
  | nonconforming line reason symbols => s!"In {line}: {reason}; symbols: {listText symbols}"
  | noSymbolsToAdjust => "no symbols to adjust"
  | cannotAllocate name domains isCallingKernel isTransferred =>
    s!"Cannot allocate symbol {name} (domains " ++
      pairList (domains.map fun domain => (domain.name, domain.size)) ++
      ") here. Routine is kernel caller: " ++ truthText isCallingKernel ++
      ", symbol to be transferred: " ++ truthText isTransferred
  | deviceImport symbols routine =>
    s!"Importing symbols {listText symbols} to device routine {routine} (routine called " ++
      "within kernel) is not supported. Please pass as argument instead."
  | foreignKernel name =>
    "calling a kernel " ++ name ++
      " directly from a foreign module is not supported. Use splitting instead."
  | illegalArgument argument => "illegal argument: " ++ argument
  | moduleDummies names kind =>
    s!"dummies are not supposed to be added for module scope symbols: {listText names}; " ++
      s!"type of first: {kind}"

end BackendFault

/-! Refusals that concern the symbols of a scope while a source is read. -/

inductive ScopeFault where
  | parentWithoutName
  | noBackend
  | cannotCreate (names : List String)
  | noContext
  | keywordAsName (name declaration : String) (objects : List (String × Option String))
  | foreignScope (symbolScope : String) (line : Nat) (scope moduleName : Option String) (name : String)
  | unexpectedImport
  | importWithoutModule
  | branchCount
  | branchSetting
  | branchKind
  | nestedBranch
  | branchOutsideRoutine
  | notInScope (name scope : String)
  | neverMatched (name : String)
  | unmatchedInModule (moduleName : Option String) (names : List String) (domains : List Domain)
  | unmatchedInRoutine (routine : String) (names : List String) (domains : List Domain)
  | noRelation (symbols : List String) (parent : Option String)
  | noEntries (symbols : List String) (parent : Option String)
  | activeElsewhere (name : String) (kind : Nat) (scope : String) (routine : Option String)
  | withoutEntry (name : String)
  | unexpectedName (here source found : String)

namespace ScopeFault

def refusal : ScopeFault → Refusal
  | importWithoutModule | branchOutsideRoutine | neverMatched _ | unmatchedInModule _ _ _ => .usage
  | _ => .general

def objectText (object : String × Option String) : String :=
  tupleText [quoted object.1, quotedOrAbsent object.2]

def domainsOfFirst (domains : List Domain) : String :=
  ";\n                domains of first unmatched: " ++
    pairList (domains.map fun domain => (domain.name, domain.size))

def message : ScopeFault → String
  | parentWithoutName => "parent node without identifier"
  | noBackend => "no default implementation defined"
  | cannotCreate names => s!"Cannot create new symbols ({quotedList names}) at this point"
  | noContext => "no valid context for symbol creation"
  | keywordAsName name declaration objects =>
    "Either Hybrid Fortran's declaration parser is broken or you have used a Fortran intrinsic " ++
      s!"keyword as a symbol name: {name}; Matched specification: {declaration}; Matched symbol " ++
      s!"list: {tupleText (objects.map objectText)}"
  | foreignScope symbolScope line scope moduleName name =>
    s!"symbol with invalid scope ({symbolScope}) present on line " ++ toString line ++
      " in " ++ orAbsent scope ++ " (" ++ orAbsent moduleName ++ "): " ++ name
  | unexpectedImport => "unexpected import on this line"
  | importWithoutModule => "import without module specified"
  | branchCount => "Invalid number of branch settings."
  | branchSetting => "Invalid branch setting definition."
  | branchKind =>
    "Invalid branch setting definition: Currently only parallelRegion and architecture setting " ++
      "accepted."
  | nestedBranch => "Nested @if branches are not allowed in Hybrid Fortran"
  | branchOutsideRoutine => "Cannot branch on parallelRegion outside a routine"
  | notInScope name scope => s!"symbol {name} not found in scope {scope}"
  | neverMatched name =>
    s!"Dependant {name} has been referenced in a domain dependant region inside a module, but " ++
      "has never been matched."
  | unmatchedInModule moduleName names domains =>
    "The following non-scalar domain dependant declarations could not be found within module " ++
      s!"{orAbsent moduleName}: {quotedList names}{domainsOfFirst domains}"
  | unmatchedInRoutine routine names domains =>
    "The following non-scalar domain dependant declarations could not be found within " ++
      s!"subroutine {routine}: {quotedList names}{domainsOfFirst domains}"
  | noRelation symbols parent =>
    s!"we have active symbols ({listText symbols}) loaded in {orAbsent parent} but no " ++
      "domain dependant relation node can be found"
  | noEntries symbols parent =>
    s!"we have active symbols ({listText symbols}) loaded in {orAbsent parent} but no " ++
      "entry node can be found"
  | activeElsewhere name kind scope routine =>
    s!"symbol {name} (type {kind}) from scope {scope}, created by  is active in scope " ++
      s!"{orAbsent routine} - something went wrong"
  | withoutEntry name =>
    s!"symbol {name} is active but no information has been found in the codebase meta information"
  | unexpectedName here source found =>
    s!"unique identifiers ({here}, {source}) does not match expectation ({found})"

end ScopeFault

inductive FrozenAction where
  | append
  | remove
  | clone
  | createElement
  | createText
  | createAttribute

inductive CallGraphFault where
  | frozen (action : FrozenAction)
  | moduleWithoutName
  | absentEntry
  | emptyEntry
  | noParent (specification : String)
  | templateWithoutId
  | domainMismatch (names sizes : List String)
  | dependantTemplateNotFound (id : String) (symbols : List String) (routine : String)
  | invalidSetting (name template : String)
  | wrongEntryCount (name : String) (found expected : Nat)
  | noArchitecture
  | multipleTemplates
  | emptyTemplate
  | multipleReductionScalars
  | emptyReduction
  | reductionForm
  | reductionOperator (operators : List String)
  | emptyReductionScalar
  | procedureWithoutName
  | relationWithoutId
  | unmatchedRelation (id procedure : String)
  | unknownRegionTemplate (id : String)
  | multipleRegionElements (routine : String)
  | regionOutsideRoutine
  | detachedRegions (regions routine : String)
  | routineWithoutSource (routine : String)
  | invalidRoutine (routine : String)
  | routineTwice (name source : String)
  | routineWithoutName (routine : String)
  | invalidModule (moduleText : String)
  | invalidEntry (entry : String)
  | missingOptions
  | duplicateRoutine (name : String)
  | severalPaths (symbol routine : String)
  | argumentCount (callee caller : String)
  | foreignCall (routine : String)

namespace CallGraphFault

def refusal : CallGraphFault → Refusal
  | duplicateRoutine _ => .usage
  | _ => .general

def message : CallGraphFault → String
  | frozen .append => "cannot append child to immutable node"
  | frozen .remove => "cannot remove child from immutable node"
  | frozen .clone => "clone node not implemented"
  | frozen .createElement => "cannot create element for immutable node"
  | frozen .createText => "cannot create text node for immutable node"
  | frozen .createAttribute => "cannot create attribute for immutable node"
  | moduleWithoutName => "Module without name."
  | absentEntry => "cannot append None as entry"
  | emptyEntry => "cannot append empty node"
  | noParent specification => s!"cannot add template info '{specification}' to nonexisting parent"
  | templateWithoutId => "Template definition without id attribute."
  | domainMismatch names sizes =>
    "Number of domain names does not match number of domain sizes specified; Domain names: " ++
      s!"{quotedList names}, domain sizes: {quotedList sizes}"
  | dependantTemplateNotFound id symbols routine =>
    s!"domain dependant template with ID {id} not found, referenced by symbols " ++
      s!"{quotedList symbols} in routine {routine}"
  | invalidSetting name template =>
    s!"{name} definition is invalid in parallelRegion\nTemplate:{template}"
  | wrongEntryCount name found expected =>
    s!"invalid {name} definition: has {found} entries - {expected} are expected"
  | noArchitecture =>
    "Unexpected parallel region template definition: AppliesTo node without entry."
  | multipleTemplates => "Multiple templates are not supported."
  | emptyTemplate => "Empty template attribute is not allowed."
  | multipleReductionScalars =>
    "Multiple scalars per reduction specification are not supported. " ++
      "Please split into multiple reduction attributes."
  | emptyReduction => "Empty reduction attribute is not allowed."
  | reductionForm => "Reduction must be of form [operator]:[scalar symbol]"
  | reductionOperator operators =>
    "Reduction operator must be one of " ++ join ", " operators ++ "."
  | emptyReductionScalar => "Empty scalar in reduction not allowed."
  | procedureWithoutName => "Procedure without name."
  | relationWithoutId => "Template relation without id attribute."
  | unmatchedRelation id procedure =>
    s!"Template relation id {id} could not be matched in procedure '{procedure}'"
  | unknownRegionTemplate id => s!"Parallel region template id {id} cannot be matched\n"
  | multipleRegionElements routine => "Multiple GPU parallel regions in subroutine " ++ routine
  | regionOutsideRoutine => "Parallel region not within routine."
  | detachedRegions regions routine => s!"region node {regions} not found in routine node {routine}"
  | routineWithoutSource routine => "invalid source name definition in routine node " ++ routine
  | invalidRoutine routine => "invalid routine node " ++ routine
  | routineTwice name source =>
    s!"routine name {name} is used twice in source {source} - Hybrid Fortran needs distinct " ++
      "routine names per source."
  | routineWithoutName routine => "invalid name definition in reference routine node " ++ routine
  | invalidModule moduleText => "invalid module definition: " ++ moduleText
  | invalidEntry entry => "invalid entry: " ++ entry
  | missingOptions => "Missing options. Please use '-h' option to see usage."
  | duplicateRoutine name =>
    "Duplicate subroutines found with name " ++ name ++
      ". Subroutines need to have unique names in Hybrid Fortran."
  | severalPaths symbol routine =>
    s!"unsupported case: symbol {symbol} is passed into routine {routine} in multiple paths in " ++
      "the callgraph"
  | argumentCount callee caller =>
    s!"call to {callee} in {caller} doesn't have the expected number of arguments"
  | foreignCall routine =>
    s!"call passed to analysis of {routine} is not a call to this routine: {absent}"

end CallGraphFault

def Domain.listText (domains : List Domain) : String :=
  pairList (domains.map fun domain => (domain.name, domain.size))

inductive SymbolFault where
  | noName
  | noFrameworkName
  | noFrameworkDeclaration
  | frameworkShape
  | noResidingModule (name : String)
  | noScopeName (name : String)
  | noScopeForKind (name : String)
  | noScopeForUniqueName (name : String)
  | noNameInScope (name scope : String)
  | notTheSame (name other : String)
  | lateTemplate (name : String) (stage : Nat)
  | noEntry (name : String)
  | invalidSize (name size : String)
  | duplicateDomains (name : String) (domains : List Domain)
  | manualDomains (name : String) (template domains : List Domain)
  | autoDomains (name : String) (template : Option (List Domain)) (declared : Option (List String))
      (domains : List Domain) (kernel inactive : List String)
  | noDimensions (name : String)
  | noTentativeDomains (name : String)
  | earlyTemplate (name : String) (stage : Nat)
  | scopeBeforeEntry (name : String)
  | scopeWithoutName (routine : String)
  | earlyDeclaration (name : String) (stage : Nat)
  | pointerShape (name : String) (domains : List Domain) (sizes kernel inactive : List String)
  | unmatchedSizes (name : String) (sizes : List String) (domains : List Domain)
      (kernel inactive : List String) (position : Option String) (template : String)
  | earlyImport (name : String) (stage : Nat)
  | noSource (name : String)
  | cannotDeclare (name : String)
  | earlySelection (name : String)
  | earlyAllocation (name : String)
  | unknownAllocationSize (name : String) (domains : List Domain)
  | invalidDomainSize (name size : String)
  | unknownIterators (name : String) (iterators offsets : List String) (domains : List Domain)
  | noDeclarationForDependency (name : String)
  | dependencyWithoutDeclaration

namespace SymbolFault

def refusal : SymbolFault → Refusal
  | noNameInScope _ _ | cannotDeclare _ => .scope
  | _ => .general

def message : SymbolFault → String
  | noName => "Name required for initializing symbol"
  | noFrameworkName => "Name required for initializing framework array"
  | noFrameworkDeclaration => "Declaration prefix required for initializing framework array"
  | frameworkShape => "Currently unsupported non-1D-array specified as framework array"
  | noResidingModule name => s!"cannot determine residing module for {name} at this point"
  | noScopeName name => "undefined name of scope for " ++ name
  | noScopeForKind name =>
    s!"Cannot define declaration type for symbol {name} without a routine or module node loaded"
  | noScopeForUniqueName name =>
    "routine node needs to be loaded at this point; Missing for " ++ name
  | noNameInScope name scope =>
    s!"name in scope undefined at this point for {name}; scope name: {scope}"
  | notTheSame name other =>
    s!"cannot merge {name} with {other} - doesn't seem to be be the same symbol"
  | lateTemplate name stage =>
    s!"Cannot load a new template for symbol {name} at init level {stage}"
  | noEntry name => s!"no entry node specified for {name} - cannot store attributes"
  | invalidSize name size => s!"Invalid definition of dimension size in symbol {name}: {size}"
  | duplicateDomains name domains =>
    s!"There are duplicate domain names present for symbol {name}: {Domain.listText domains}"
  | manualDomains name template domains =>
    s!"Wrong number of domains for manual dom symbol {name}: || template: " ++
      s!"{Domain.listText template}; || actual: {Domain.listText domains}"
  | autoDomains name template declared domains kernel inactive =>
    s!"Wrong number of domains for autoDom symbol {name}: || template: " ++
      s!"{(template.map Domain.listText).getD absent}; || declared: " ++
      s!"{(declared.map quotedList).getD absent} || actual: {Domain.listText domains} " ++
      s!"|| kernel: {quotedList kernel} || non-kernel: {quotedList inactive}"
  | noDimensions name =>
    s!"symbol {name} is in declaration loaded state, but dimensions are not initialized"
  | noTentativeDomains name => "no tentative domains for symbol " ++ name
  | earlyTemplate name stage => s!"Cannot load template attributes for {name} at init level {stage}"
  | scopeBeforeEntry name =>
    "Symbol " ++ name ++
      "'s routine node attributes are loaded without loading the entry node attributes first."
  | scopeWithoutName routine => "Routine node without name: " ++ routine
  | earlyDeclaration name stage => s!"Cannot load declaration for {name} at init level {stage}"
  | pointerShape name domains sizes kernel inactive =>
    s!"Symbol {name}'s declared shape does not match its domainDependant directive. Automatic " ++
      "reshaping is not supported since this is a pointer type. Domains in Directive: " ++
      s!"{Domain.listText domains} || dimensions in declaration: {quotedList sizes} || " ++
      s!"kernel domains: {quotedList kernel} || kernel inactive domain sizes: " ++
      s!"{quotedList inactive}"
  | unmatchedSizes name sizes domains kernel inactive position template =>
    s!"Something is wrong with autoDom Symbol {name}'s declaration: Cannot match its dimension " ++
      "sizes to the parallel regions it is being used in. Please make sure to use the same " ++
      "string names for its dimensions both in the parallel region as well as in its " ++
      "declarations -or- declare its dimensions explicitely (without autoDom).Declared domain: " ++
      s!"{quotedList sizes}, Domain after init: {Domain.listText domains}, Parallel dims: " ++
      s!"{quotedList kernel}, Independant dims: {quotedList inactive}, Parallel " ++
      s!"region position: {orAbsent position}, Current template: {template}"
  | earlyImport name stage => s!"Cannot load import information for {name} at init level {stage}"
  | noSource name => "no source symbol name defined for " ++ name
  | cannotDeclare name => "cannot generate declaration for " ++ name
  | earlySelection name =>
    "Symbol " ++ name ++
      "'s selection representation is accessed without loading the routine node attributes first"
  | earlyAllocation name =>
    "Symbol " ++ name ++
      "'s allocation representation is accessed without loading the routine node attributes first"
  | unknownAllocationSize name domains =>
    "Cannot generate allocation call for symbol " ++ name ++
      " on the device - one or more dimension sizes (" ++ Domain.listText domains ++
      ") are unknown at this point. Please specify the domains and their sizes with domName " ++
      "and domSize attributes in the corresponding @domainDependant directive."
  | invalidDomainSize name size => s!"invalid domain size for symbol {name}: {size}"
  | unknownIterators name iterators offsets domains =>
    "Cannot generate access representation for symbol " ++ name ++
      ": Unknown parallel iterators specified (" ++ quotedList iterators ++
      ") or not enough offsets (" ++ quotedList offsets ++ "). Loaded domains: " ++
      Domain.listText domains
  | noDeclarationForDependency name =>
    "cannot check type dependencies, declaration of symbol " ++ name ++
      " has not been loaded at this point"
  | dependencyWithoutDeclaration =>
    "cannot check type dependencies against " ++ absent ++
      ", declaration has not been loaded at this point"

end SymbolFault

inductive Fault where
  | defect (cause : Defect)
  | text (cause : TextFault)
  | callGraph (cause : CallGraphFault)
  | source (cause : SourceFault)
  | symbol (cause : SymbolFault)
  | backend (cause : BackendFault)
  | routine (cause : RoutineFault)
  | scope (cause : ScopeFault)
  | record (cause : RecordFault)
  | exit (status : Nat)
  | during (outer inner : Fault)

namespace Fault

def refusal? : Fault → Option Refusal
  | text cause => some cause.refusal
  | callGraph cause => some cause.refusal
  | source cause => some cause.refusal
  | symbol cause => some cause.refusal
  | backend cause => some cause.refusal
  | routine cause => some cause.refusal
  | scope cause => some cause.refusal
  | record cause => some cause.refusal
  | during outer _ => outer.refusal?
  | _ => none

def message : Fault → String
  | text cause => cause.message
  | callGraph cause => cause.message
  | source cause => cause.message
  | symbol cause => cause.message
  | backend cause => cause.message
  | routine cause => cause.message
  | scope cause => cause.message
  | record cause => cause.message
  | during outer _ => outer.message
  | exit status => toString status
  | defect _ => ""

def defect? : Fault → Option Defect
  | defect cause => some cause
  | during outer inner => outer.defect?.or inner.defect?
  | _ => none

end Fault

abbrev Outcome := Except Fault

end ParallelFortran
