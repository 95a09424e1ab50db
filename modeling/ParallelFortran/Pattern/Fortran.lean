import ParallelFortran.Pattern.Basic

/-! The patterns of Fortran lines and of the directives that extend them. Each is matched from the
beginning of a line, without regard to case. -/

namespace ParallelFortran.Pattern.Fortran

/-- A directive with settings between braces: `@name{settings}`. -/
def directive (name : String) : Pattern :=
  sequence [blanks, literal name, blanks, literal "\x7b", group 1 anything, literal "\x7d", anything]

/-- A line that closes something: `end what` or `@end what`. -/
def ending (mark what : String) : Pattern :=
  sequence [blanks, literal mark, blanks, literal what, anything]

def atStart (parts : List Pattern) : Pattern :=
  sequence (start :: parts)

def blankCharacter : Pattern := blank

def quotationMark : Pattern := group 1 (oneOf "\"'")

def routineBegin : Pattern :=
  sequence [blanks, word, blanks, literal "subroutine", blanks, group 1 word, anything]

def routineEnd : Pattern := ending "end" "subroutine"

def routineCall : Pattern :=
  sequence [blanks, literal "call", blanks, group 1 word, group 2 anything]

def parallelRegionBegin : Pattern := directive "@parallelRegion"

def domainDependantBegin : Pattern := directive "@domainDependant"

def branchBegin : Pattern := directive "@if"

def parallelRegionEnd : Pattern := ending "@end" "parallelRegion"

def domainDependantEnd : Pattern := ending "@end" "domainDependant"

def branchEnd : Pattern := ending "@end" "if"

def intent : Pattern :=
  sequence [little, literal "intent", blanks, literal "(", blanks,
    group 1 (choice [literal "in", literal "out", literal "inout"]), blanks, literal ")", anything]

def dimension : Pattern :=
  sequence [group 1 little, optional (literal ","), blanks, literal "dimension", blanks, literal "(",
    blanks, group 2 little, blanks, literal ")", group 3 anything]

def doubleColon : Pattern :=
  atStart [group 1 little, literal "::", group 2 anything]

def doublePrecision : Pattern :=
  atStart [blanks, literal "double", someBlanks, literal "precision", someBlanks, group 1 anything]

def standardType : Pattern :=
  atStart [blanks,
    group 1 (sequence [
      choice [sequence [literal "double", someBlanks, literal "precision"], literal "real",
        literal "integer", literal "character", literal "logical", literal "complex",
        literal "type"],
      blanks,
      optional (sequence [literal "(", blanks,
        run (fun letter => Text.isWord letter || Text.isBlank letter || letter == ',' ||
          letter == '=' || letter == '*' || letter == ':') 0 true,
        blanks, literal ")"])]),
    anything]

def dataStatement : Pattern :=
  atStart [blanks, literal "data", nonWord, anything]

def declarationKind : Pattern :=
  sequence [group 1 little, blanks, literal "kind", blanks, literal "=", blanks, group 2 word,
    blanks, group 3 anything]

def pointerAssignment : Pattern :=
  atStart [blanks, someWord, blanks, literal "=>", blanks, someWord, anything]

def whileLoop : Pattern :=
  atStart [blanks, literal "do", blanks, literal "while", nonWord, anything]

def loop : Pattern :=
  atStart [blanks, literal "do", nonWord, anything]

def interfaceBegin : Pattern :=
  atStart [blanks, literal "interface", someBlanks, anything]

def interfaceEnd : Pattern :=
  atStart [blanks, literal "end", blanks, literal "interface", someBlanks, anything]

def typeBegin : Pattern :=
  atStart [blanks, literal "type", blanks, someWord, blanks, finish]

def typeEnd : Pattern :=
  atStart [blanks, literal "end", blanks, literal "type", blanks, finish]

def typeUsage : Pattern :=
  sequence [group 1 (both little (either start nonWord)), literal "type", blanks, literal "(",
    blanks, group 2 someWord, blanks, literal ")", group 3 anything, finish]

def moduleBegin : Pattern :=
  atStart [blanks, literal "module", blanks, group 1 word, anything]

def moduleEnd : Pattern :=
  atStart [blanks, literal "end", blanks, literal "module", anything]

def earlyReturn : Pattern :=
  either (atStart [blanks, literal "return"])
    (both (literal "@exit") (either (both blank anything) finish))

def schemeBegin : Pattern := both start (directive "@scheme")

def schemeEnd : Pattern := both start (ending "@end" "scheme")

def symbolAccess : Pattern :=
  sequence [blanks, literal "(", group 1 anything]

def argumentList : Pattern :=
  sequence [blanks, optional (either (literal "subroutine") (literal "call")), blanks, word, blanks,
    literal "(", group 1 anything]

def importNames : Pattern :=
  atStart [blanks, literal "use", someBlanks, group 1 word,
    run (fun letter => letter == ',' || Text.isBlank letter) 0 true,
    literal "only", blanks, literal ":", blanks,
    group 2 (run (fun letter => letter == '=' || letter == '>' || letter == ',' ||
      Text.isBlank letter || Text.isWord letter) 0 true),
    either (both blank anything) finish]

def importAll : Pattern :=
  atStart [blanks, literal "use", someBlanks, group 1 word, blanks, finish]

def mappedImport : Pattern :=
  sequence [blanks, group 1 word, blanks, literal "=>", blanks, group 2 word, blanks]

def callArgument : Pattern :=
  sequence [blanks, group 1 word, blanks, group 2 anything]

def containsLine : Pattern :=
  sequence [blanks, literal "contains", blanks]

def routineName : Pattern :=
  both
    (optional (either (literal "hfd_")
      (sequence [literal "hfk", run Text.isDigit 0 true, literal "_"])))
    (group 1 word)

def specificationStatement : Pattern :=
  atStart [blanks,
    group 1 (choice (["procedure", "external", "intrinsic", "public", "private", "allocatable",
      "asynchronous", "bind", "data", "dimension", "intent", "optional", "parameter", "pointer",
      "protected", "save", "target", "value", "volatile", "implicit", "namelist", "equivalence",
      "common"].map literal)),
    optional (both someBlanks (group 2 anything)), blanks, finish]

def setting : Pattern :=
  sequence [run (fun letter => letter == ',' || Text.isBlank letter) 0 true, group 1 word, blanks,
    group 2 (both (literal "(") anything)]

/-- The setting of an `@if`: a name and a value in brackets. -/
def branchSetting : Pattern :=
  sequence [group 1 word, blanks, literal "(", blanks, group 2 word, blanks, literal ")"]

def named? (name : String) : Option Pattern :=
  List.lookup name [
    ("blank", blankCharacter), ("quotedString", quotationMark), ("subprocBegin", routineBegin),
    ("subprocEnd", routineEnd), ("subprocCall", routineCall),
    ("parallelRegion", parallelRegionBegin), ("domainDependant", domainDependantBegin),
    ("branch", branchBegin), ("parallelRegionEnd", parallelRegionEnd),
    ("domainDependantEnd", domainDependantEnd), ("branchEnd", branchEnd), ("intent", intent),
    ("dimension", dimension), ("multiSpec", doubleColon), ("doublePrecision", doublePrecision),
    ("standardType", standardType), ("dataStatement", dataStatement),
    ("declarationKind", declarationKind), ("pointerAssignment", pointerAssignment),
    ("whileLoop", whileLoop), ("loop", loop), ("interface", interfaceBegin),
    ("interfaceEnd", interfaceEnd), ("type", typeBegin), ("typeEnd", typeEnd),
    ("typeUsage", typeUsage), ("moduleBegin", moduleBegin), ("moduleEnd", moduleEnd),
    ("earlyReturn", earlyReturn), ("template", schemeBegin), ("templateEnd", schemeEnd),
    ("symbolAccess", symbolAccess), ("argument", argumentList), ("import", importNames),
    ("importAll", importAll), ("singleMappedImport", mappedImport),
    ("callArgument", callArgument), ("contains", containsLine), ("routineName", routineName),
    ("specificationStatement", specificationStatement)]

end ParallelFortran.Pattern.Fortran
