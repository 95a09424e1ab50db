import ParallelFortran.Backend.Loops
import ParallelFortran.Symbol.Rendering

/-! Statements that print values of arrays while a program runs. -/

namespace ParallelFortran

open Xml

namespace Backend

def boundsOf (size : String) : Option String × String :=
  match Text.split ":" size with
  | [] => (none, "")
  | [upper] => (none, upper)
  | lower :: rest => (some lower, rest.getLast?.getD "")

def arrayCheck (symbol : Symbol) (offsets : Option (List String)) : Outcome String := do
  let bounds := symbol.domains.value.map fun domain => boundsOf domain.size
  if bounds.isEmpty then throw (.backend .noDomainSizes)
  let isAllocatable ←
    if symbol.hasUndecidedSizes then
      match symbol.declaration with
      | none => throw (.defect .wrongKind)
      | some declaration => pure !(Text.contains declaration "pointer")
    else pure false
  let allocation := if isAllocatable then s!"allocated({symbol.name}) .and. " else ""
  let lengths := bounds.map fun bound =>
    bound.2 ++ " - " ++ ((bound.1.map (· ++ " + 1")).getD "0") ++ " .gt. 0"
  let inside := match offsets with
    | none => []
    | some offsets =>
      if offsets.length != bounds.length then []
      else
        (bounds.zip offsets).map (fun (bound, offset) => bound.2 ++ " .ge. " ++ offset) ++
          (bounds.zip offsets).map fun (bound, offset) =>
            bound.1.getD "1" ++ " .le. " ++ offset
  return "if ( " ++ allocation ++ Text.join " .and. " (lengths ++ inside) ++ " ) then"

def printedDomains : List String :=
  ["x", "y", "z", "nz", "i", "j", "vertical", "verticalPlus", "KMAX_CONST", "KMP1_CONST", "ntlm",
    "ngm", "nth", "id_qa_e", "id_mp_prc_e", "1", "2", "3", "4"]

def wordsBetween : List Char → List Char → List String
  | [], word => [String.ofList word.reverse]
  | letter :: rest, word =>
    if Text.isWord letter then wordsBetween rest (letter :: word)
    else String.ofList word.reverse :: wordsBetween (rest.dropWhile fun next => !Text.isWord next) []
termination_by text _ => text.length
decreasing_by
  · simp
  · exact Nat.lt_succ_of_le (List.dropWhile_sublist _).length_le

def upperBound (size : String) : Outcome String :=
  match Text.split ":" size with
  | [upper] => .ok (Text.strip upper)
  | [_, upper] => .ok (Text.strip upper)
  | _ => .error (.backend (.debugDomainSize size))

def debugOffset (domain : Domain) (previous : List String) : Outcome String := do
  let upper ← upperBound domain.size
  let offset :=
    if printedDomains.contains domain.name then "DEBUG_OUT_" ++ Text.strip domain.name
    else
      match (wordsBetween upper.toList []).find? printedDomains.contains with
      | some word => "DEBUG_OUT_" ++ word
      | none => "DEBUG_OUT_x"
  return if previous.contains offset then offset ++ "_2" else offset

def debugOffsets (symbol : Symbol) : Outcome (List String) :=
  symbol.domains.value.foldlM (fun offsets domain => do
    return offsets ++ [← debugOffset domain offsets]) []

def isPrinted (symbol : Symbol) : Outcome Bool :=
  match symbol.declaration with
  | none => .error (.defect .wrongKind)
  | some declaration =>
    .ok (Text.contains declaration "real" || Text.contains symbol.name "%")

def printFormat (offsets : List String) : String × String :=
  if offsets.isEmpty then ("'(A,E16.8)'", "scalar")
  else
    ("'(A," ++ Text.join ",A," (offsets.map fun _ => "I3") ++ ",A,E19.11)'",
      "('," ++ Text.join ",', '," offsets ++ ",'):")

def printSymbol (store : Store) (region : Option NodeId) (symbol : Symbol) (offsets : List String) :
    Outcome String := do
  if (← symbol.declarationKind store) == .localScalar then return ""
  let isArray := !symbol.domains.value.isEmpty
  let check ← if isArray then do pure ((← arrayCheck symbol (some offsets)) ++ "\n") else pure ""
  let element ← symbol.access store { region } offsets
  let (format, place) := printFormat offsets
  return check ++ s!"hf_output_temp = {element}\nwrite(0,{format}) '" ++ symbol.name ++
    s!"@{place}', hf_output_temp\n" ++ (if isArray then "end if\n" else "")

def debugPrints (store : Store) (kernel : String) (symbols : List Symbol) (position : String)
    (region : Option NodeId) : Outcome String := do
  let printed ← symbols.filterM isPrinted
  let printed := printed.mergeSort fun left right => decide (left.name ≤ right.name)
  let offsets ← printed.foldlM (fun table symbol => do
    return Table.set table symbol.name (← debugOffsets symbol)) Table.empty
  let offsetsOf := fun (symbol : Symbol) => (offsets.get? symbol.name).getD []
  (printed.filter fun symbol => !symbol.domains.value.isEmpty).forM fun symbol => do
    let slices := (offsetsOf symbol).map fun offset => offset ++ ":" ++ offset
    let _ ← symbol.access store { region } slices
  let lines ← printed.mapM fun symbol => printSymbol store region symbol (offsetsOf symbol)
  let isOutside := position == "outside"
  return (if isOutside then "#ifndef GPU\nif (hf_debug_print_iterator == 0) then\n" else "") ++
    s!"write(0,*) '*********** kernel {kernel} finished *************** '\n" ++
    Text.join "" lines ++
    "write(0,*) '**********************************************'\nwrite(0,*) ''\n" ++
    (if isOutside then "end if\n#endif\n" else "")

end Backend

end ParallelFortran

namespace ParallelFortran

open Xml

namespace Backend

structure TracePoint where
  moduleName : String
  routine : String
  moment : String

variable (point : TracePoint) (symbol : Symbol)

def traceFile : String :=
  let ending :=
    match symbol.intent with
    | some "inout" => if point.moment == "begin" then "in_" else "out_"
    | some "" | none => point.moment ++ "_"
    | some intent => intent ++ "_"
  point.moduleName ++ s!"_{point.routine}_{symbol.name}_" ++ ending

def traceWrite : String :=
  "write(hf_tracing_current_path, '(A,I3.3,A)') './datatrace/" ++ traceFile point symbol ++
    "', hf_tracing_counter, '.dat'\ncall writeToFile(hf_tracing_current_path, hf_tracing_temp_" ++
    symbol.name ++ ")\n"

def valueLoop (name inner : String) : String :=
  let count := symbol.domains.value.length
  let dimensions := (List.range count).reverse.map (· + 1)
  let heads := dimensions.map fun number =>
    s!"do hf_tracing_enum{number} = lbound(hf_tracing_temp_{symbol.name}," ++
      toString number ++ s!"), ubound(hf_tracing_temp_{symbol.name},{number})\n"
  if count == 0 then inner
  else
    s!"hf_tracing_outer_{name}: " ++ Text.join "" heads ++ inner ++
      Text.join "\n" (dimensions.map fun _ => "end do") ++ s!" hf_tracing_outer_{name}\n"

def traceCompare (aborts : Bool) (checkpoint : String) (symbol : Symbol) : Outcome String := do
  match symbol.declaration with
  | none => throw (.defect .wrongKind)
  | some declaration => do
    if Text.contains declaration "real" then throw (.defect .wrongKind)
    let name := symbol.name
    let elements := (List.range symbol.domains.value.length).map fun index =>
      let number := toString (index + 1)
      "(ubound(hf_tracing_comparison_" ++ name ++ "," ++ number ++
        s!") - lbound(hf_tracing_comparison_{name},{number}) + 1)"
    return "call findNewFileHandle(hf_tracing_imt)\n" ++
      "write(hf_tracing_current_path, '(A,I3.3,A)') './datatrace/" ++ traceFile point symbol ++
      "', hf_tracing_counter, '.dat'\n" ++
      "open(hf_tracing_imt, file=trim(hf_tracing_current_path), form='unformatted', " ++
      "status='old', action='read', iostat=hf_tracing_ierr)\n" ++
      "if (hf_tracing_ierr .ne. 0) then\nwrite(0,*) 'symbol " ++ name ++
      " trace n/a'\nclose(hf_tracing_imt)\n" ++
      (if aborts then "hf_tracing_counter = hf_tracing_counter + 1\nreturn\n" else "") ++
      s!"else\nread(hf_tracing_imt) hf_tracing_comparison_{name}\nhf_num_of_elements = " ++
      Text.join " * " elements ++ "\nif (hf_num_of_elements <= 0) then\nwrite(0,*) '" ++
      point.routine ++ s!": symbol {name} ok. (array has no elements)'\nelse\n" ++
      s!"if (any(hf_tracing_comparison_{name} .ne. hf_tracing_temp_" ++ name ++
      s!")) then\nwrite(0,*) 'In module {point.moduleName}, subroutine " ++ point.routine ++
      s!", checkpoint {checkpoint}::', 'Array " ++ name ++
      " does not match the data found in ./datatrace.'\n" ++
      "write(0,*) 'GPU version shape:'\nwrite(0,*) shape(hf_tracing_temp_" ++ name ++
      ")\nwrite(0,*) 'Reference version shape:'\nwrite(0,*) shape(hf_tracing_comparison_" ++ name ++
      ")\nhf_tracing_error_found = .true.\nelse\nwrite(0,*) 'symbol " ++ name ++
      " ok. nRMSE: ', hf_tracing_error\nend if\nend if\nend if\nclose(hf_tracing_imt)\n"

/-- The statements of a trace. Symbols cannot be traced here, so that only the counter remains. -/
def traceStatements (position : String) (symbols : List Symbol) (counts : Bool) : Outcome String := do
  if !symbols.isEmpty && position != "outside" then throw (.defect .wrongKind)
  return if counts then "hf_tracing_counter = hf_tracing_counter + 1\n" else ""

end Backend

end ParallelFortran
