import ParallelFortran.Text.Basic

/-! Options of a command line. Every option has a long name and possibly a letter; it is a switch or
takes a value. Other arguments may stand between options. -/

namespace ParallelFortran.Command

structure OptionForm where
  letter : Option Char := none
  long : String
  takesValue : Bool := true

structure Options where
  values : List (String × String) := []
  switches : List String := []
  others : List String := []

namespace Options

variable (options : Options) (name : String)

/-- The value of an option; one given later wins. -/
def given? : Option String :=
  options.values.reverse.lookup name

def value? : Option String :=
  (options.given? name).filter fun value => !value.isEmpty

def has : Bool :=
  options.switches.contains name

end Options

def longForm? (forms : List OptionForm) (name : String) : Option OptionForm :=
  match forms.find? fun form => form.long == name with
  | some form => some form
  | none =>
    match forms.filter fun form => Text.startsWith form.long name with
    | [form] => some form
    | _ => none

inductive Word where
  | complete (change : Options → Options)
  | wanting (change : Options → Options) (name : String)
  | other (text : String)
  | unknown

def noChange (options : Options) : Options := options

def switchOn (name : String) (options : Options) : Options :=
  { options with switches := options.switches ++ [name] }

def setValue (name value : String) (options : Options) : Options :=
  { options with values := options.values ++ [(name, value)] }

def readLetters (forms : List OptionForm) (change : Options → Options) : List Char → Word
  | [] => .complete change
  | letter :: rest =>
    match forms.find? fun form => form.letter == some letter with
    | none => .unknown
    | some form =>
      if !form.takesValue then readLetters forms (switchOn form.long ∘ change) rest
      else if rest.isEmpty then .wanting change form.long
      else .complete (setValue form.long (String.ofList rest) ∘ change)

def readLong (forms : List OptionForm) (text : String) : Word :=
  let letters := text.toList
  let name := String.ofList (letters.takeWhile (· != '='))
  let assigned := (letters.dropWhile (· != '=')).drop 1
  match longForm? forms name with
  | none => .unknown
  | some form =>
    if !letters.contains '=' then
      if form.takesValue then .wanting noChange form.long else .complete (switchOn form.long)
    else if form.takesValue then .complete (setValue form.long (String.ofList assigned))
    else .unknown

def readWord (forms : List OptionForm) (word : String) : Word :=
  match word.toList with
  | '-' :: '-' :: rest => readLong forms (String.ofList rest)
  | '-' :: letter :: rest => readLetters forms noChange (letter :: rest)
  | _ => .other word

def readOptions? (forms : List OptionForm) : List String → Options → Option Options
  | [], options => some options
  | "--" :: words, options => some { options with others := options.others ++ words }
  | word :: words, options =>
    match readWord forms word, words with
    | .complete change, words => readOptions? forms words (change options)
    | .wanting change name, value :: words =>
      readOptions? forms words (setValue name value (change options))
    | .wanting _ _, [] => none
    | .other text, words =>
      readOptions? forms words { options with others := options.others ++ [text] }
    | .unknown, _ => none

end ParallelFortran.Command
