import ParallelFortran.Text.Specification

/-! Places in a source file and what a line means at each of them. -/

namespace ParallelFortran.Source

open Pattern

inductive Place where
  | outside
  | module
  | interface
  | typeDefinition
  | moduleDependants
  | moduleBody
  | declarations
  | parallelRegion
  | dependants
  | routineBody
  /-- Behind an `@if` whose condition holds; another place tells what is around it. -/
  | branch
  /-- Behind an `@if` whose condition does not hold. -/
  | ignored
  deriving DecidableEq, Repr, Inhabited

namespace Place

def name : Place → String
  | outside => "none"
  | module => "inside_module"
  | interface => "inside_interface"
  | typeDefinition => "inside_type"
  | moduleDependants => "inside_moduleDomainDependantRegion"
  | moduleBody => "inside_module_body"
  | declarations => "inside_declarations"
  | parallelRegion => "inside_parallelRegion"
  | dependants => "inside_domainDependantRegion"
  | routineBody => "inside_subroutine_body"
  | branch => "inside_branch"
  | ignored => "inside_ignore"

end Place

structure CallLine where
  text : String
  callee : String
  rest : String

inductive Event where
  | branch (settings : String)
  | scheme (settings : String)
  | schemeEnd
  | moduleBegin (text name : String)
  | moduleEnd (text : String)
  | interfaceBegin (text : String)
  | interfaceEnd (text : String)
  | typeBegin (text : String)
  | typeEnd (text : String)
  | containsLine (text : String)
  | routineBegin (text name : String)
  | routineEnd (text : String)
  | call (line : CallLine)
  | dependants (settings : String)
  | dependantsEnd
  | region (settings : String)
  | regionEnd
  | firstStatement
  | dataStatement (text : String)
  | earlyReturn
  | branchEnd
  | other

/-! Each reader tries one kind of line. -/

namespace Event

def whole (found : Found) : String := String.ofList found.whole

variable (line : String)

def branch? : Option Event :=
  (Fortran.branchBegin.match? line).map fun found => branch (found.group 1)

def scheme? : Option Event :=
  (Fortran.schemeBegin.match? line).map fun found => scheme (found.group 1)

def schemeEnd? : Option Event :=
  (Fortran.schemeEnd.match? line).map fun _ => schemeEnd

def moduleBegin? : Option Event :=
  (Fortran.moduleBegin.match? line).map fun found => moduleBegin (whole found) (found.group 1)

def moduleEnd? : Option Event :=
  (Fortran.moduleEnd.match? line).map fun found => moduleEnd (whole found)

def interfaceBegin? : Option Event :=
  (Fortran.interfaceBegin.match? line).map fun found => interfaceBegin (whole found)

def interfaceEnd? : Option Event :=
  (Fortran.interfaceEnd.match? line).map fun found => interfaceEnd (whole found)

def typeBegin? : Option Event :=
  (Fortran.typeBegin.match? line).map fun found => typeBegin (whole found)

def typeEnd? : Option Event :=
  (Fortran.typeEnd.match? line).map fun found => typeEnd (whole found)

def containsLine? : Option Event :=
  (Fortran.containsLine.match? line).map fun found => containsLine (whole found)

def routineBegin? : Option Event :=
  (Fortran.routineBegin.match? line).map fun found => routineBegin (whole found) (found.group 1)

def routineEnd? : Option Event :=
  (Fortran.routineEnd.match? line).map fun found => routineEnd (whole found)

def call? : Option Event :=
  (Fortran.routineCall.match? line).map fun found => call ⟨whole found, found.group 1, found.group 2⟩

def dependants? : Option Event :=
  (Fortran.domainDependantBegin.match? line).map fun found => dependants (found.group 1)

def dependantsEnd? : Option Event :=
  (Fortran.domainDependantEnd.match? line).map fun _ => dependantsEnd

def region? : Option Event :=
  (Fortran.parallelRegionBegin.match? line).map fun found => region (found.group 1)

def regionEnd? : Option Event :=
  (Fortran.parallelRegionEnd.match? line).map fun _ => regionEnd

def dataStatement? : Option Event :=
  (Fortran.dataStatement.match? line).map fun found => dataStatement (whole found)

def earlyReturn? : Option Event :=
  (Fortran.earlyReturn.match? line).map fun _ => earlyReturn

def branchEnd? : Option Event :=
  (Fortran.branchEnd.match? line).map fun _ => branchEnd

end Event

open Event

def firstOf (readers : List (String → Option Event)) (line : String) : Event :=
  (readers.findSome? fun reader => reader line).getD .other

def refuse (cause : SourceFault) : Outcome Event := .error (.source cause)

variable (line : String)

def isDeclaration : Outcome Bool := do
  let specification ← Specification.read? line
  let stripped := Text.strip line
  return stripped.isEmpty || Text.startsWith stripped "#" ||
    Fortran.importNames.accepts line || Fortran.mappedImport.accepts line ||
    Fortran.importAll.accepts line || specification.isSome ||
    Fortran.specificationStatement.accepts line

def readOutside : Outcome Event :=
  match firstOf [branch?, scheme?, schemeEnd?, moduleBegin?, routineBegin?] line with
  | .routineBegin _ _ => refuse .routineOutsideModule
  | event => .ok event

def readInModule : Outcome Event :=
  .ok (firstOf [branch?, interfaceBegin?, typeBegin?, scheme?, schemeEnd?, dependants?, moduleEnd?,
    containsLine?] line)

def readInModuleBody : Outcome Event :=
  match firstOf [branch?, scheme?, schemeEnd?, moduleEnd?, routineBegin?, routineEnd?] line with
  | .routineBegin text name =>
    if name.isEmpty then refuse .routineWithoutName else .ok (.routineBegin text name)
  | .routineEnd _ => refuse .unmatchedRoutineEnd
  | event => .ok event

def readInDeclarations : Outcome Event :=
  match firstOf [branch?, dependants?, call?, routineEnd?, region?, routineBegin?, scheme?,
      schemeEnd?] line with
  | .routineBegin _ _ => refuse (.nestedRoutine .usage)
  | .scheme _ | .schemeEnd => refuse .schemeInRoutine
  | .other => do
    if ← isDeclaration line then return .other else return .firstStatement
  | event => .ok event

def readInRoutineBody : Outcome Event :=
  match firstOf [branch?, dependants?, call?, routineEnd?, region?, routineBegin?, scheme?,
      schemeEnd?] line with
  | .routineBegin _ _ => refuse (.nestedRoutine .usage)
  | .scheme _ | .schemeEnd => refuse .schemeInRoutine
  | event => .ok event

def readInRegion : Outcome Event :=
  match firstOf [branch?, call?, regionEnd?, region?, routineEnd?, routineBegin?, scheme?,
      schemeEnd?] line with
  | .region _ => refuse (.nestedRegion .usage)
  | .routineEnd _ => refuse (.routineEndInRegion .usage)
  | .routineBegin _ _ => refuse (.nestedRoutine .usage)
  | .scheme _ | .schemeEnd => refuse .schemeInRoutine
  | event => .ok event

def readInDependants : Outcome Event :=
  match firstOf [branch?, dependantsEnd?] line with
  | .other =>
    if Fortran.earlyReturn.accepts line then refuse .earlyReturn
    else
      match firstOf [call?, regionEnd?, region?, routineEnd?, routineBegin?, scheme?,
          schemeEnd?] line with
      | .call _ => refuse .callInDependants
      | .regionEnd | .region _ => refuse .regionInDependants
      | .routineEnd _ => refuse .routineEndInDependants
      | .routineBegin _ _ => refuse (.nestedRoutine .usage)
      | .scheme _ | .schemeEnd => refuse .schemeInDependants
      | _ => .ok .other
  | event => .ok event

def Place.read : Place → String → Outcome Event
  | outside, line => readOutside line
  | module, line => readInModule line
  | interface, line => .ok (firstOf [interfaceEnd?] line)
  | typeDefinition, line => .ok (firstOf [typeEnd?] line)
  | moduleBody, line => readInModuleBody line
  | declarations, line => readInDeclarations line
  | routineBody, line => readInRoutineBody line
  | parallelRegion, line => readInRegion line
  | moduleDependants, line | dependants, line => readInDependants line
  | branch, _ | ignored, _ => .ok .other

def readDeclarationCode : Outcome Event :=
  match firstOf [dataStatement?, branch?, call?, routineEnd?, region?, routineBegin?, scheme?,
      schemeEnd?, dependants?] line with
  | .routineBegin _ _ => refuse (.nestedRoutine .usage)
  | .scheme _ | .schemeEnd => refuse .schemeInRoutine
  | .other => do
    if ← isDeclaration line then return .other else return .firstStatement
  | event => .ok event

def readStatementCode : Outcome Event :=
  match firstOf [branch?, branchEnd?, call?, routineEnd?, earlyReturn?, region?, regionEnd?,
      dependants?, routineBegin?] line with
  | .routineBegin _ _ => refuse (.nestedRoutine .general)
  | event => .ok event

def readRegionCode : Outcome Event :=
  match firstOf [branch?, call?, regionEnd?, region?, routineEnd?, routineBegin?] line with
  | .region _ => refuse (.nestedRegion .general)
  | .routineEnd _ => refuse (.routineEndInRegion .general)
  | .routineBegin _ _ => refuse (.nestedRoutine .general)
  | event => .ok event

def Place.readCode : Place → String → Outcome Event
  | declarations, line => readDeclarationCode line
  | routineBody, line => readStatementCode line
  | parallelRegion, line => readRegionCode line
  | place, line => place.read line

def Place.after : Place → Event → Place
  | outside, .moduleBegin _ _ => module
  | module, .interfaceBegin _ => interface
  | module, .typeBegin _ => typeDefinition
  | module, .dependants _ => moduleDependants
  | module, .moduleEnd _ => outside
  | module, .containsLine _ => moduleBody
  | interface, .interfaceEnd _ => module
  | typeDefinition, .typeEnd _ => module
  | moduleBody, .moduleEnd _ => outside
  | moduleBody, .routineBegin _ _ => declarations
  | declarations, .dependants _ | routineBody, .dependants _ => dependants
  | declarations, .routineEnd _ | routineBody, .routineEnd _ => moduleBody
  | declarations, .region _ | routineBody, .region _ => parallelRegion
  | declarations, .firstStatement => routineBody
  | parallelRegion, .regionEnd => routineBody
  | moduleDependants, .dependantsEnd => module
  | dependants, .dependantsEnd => routineBody
  | place, _ => place

end ParallelFortran.Source
