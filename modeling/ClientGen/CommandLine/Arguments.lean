import ClientGen.Text.Replace

/-!
# Command line arguments

Options of the command and their values. An option takes one value: attached to its letter, after
an equals sign, or the next argument unless that looks like an option. An option is settled when
the next one begins or the arguments end; what is not known at all is refused before that.
-/

namespace ClientGen.CommandLine

inductive Flag where
  | config
  | pipeline
  | input
  | output
  | cwd
  deriving DecidableEq, Repr

namespace Flag

def all : List Flag := [.config, .pipeline, .input, .output, .cwd]

def name : Flag → String
  | .config => "config"
  | .pipeline => "pipeline"
  | .input => "input"
  | .output => "output"
  | .cwd => "cwd"

def letter? : Flag → Option Char
  | .config => some 'c'
  | .pipeline => some 'p'
  | .input => some 'i'
  | .output => some 'o'
  | .cwd => none

/-- Whether the value is a path, which cannot be empty. -/
def isPath : Flag → Bool
  | .config => true
  | .cwd => true
  | _ => false

def ofName? (name : String) : Option Flag :=
  all.find? fun flag => flag.name == name

def ofLetter? (letter : Char) : Option Flag :=
  all.find? fun flag => flag.letter? == some letter

end Flag

structure Arguments where
  config : Option String
  pipeline : Option String
  input : Option String
  output : Option String
  cwd : Option String
  deriving DecidableEq, Repr

/-- Why the arguments are not used: they ask for help or the version, or are wrong. -/
inductive Interruption where
  | help
  | version
  | unknown (argument : String)
  | noValue (flag : Flag)
  | repeated (flag : Flag)
  | unneededValue (name : String)
  deriving DecidableEq, Repr

/-- The exit code: wrong arguments are told from those that ask for something. -/
def Interruption.exitCode : Interruption → Nat
  | .help => 0
  | .version => 0
  | _ => 2

namespace Arguments

def empty : Arguments := ⟨none, none, none, none, none⟩

def get? (arguments : Arguments) : Flag → Option String
  | .config => arguments.config
  | .pipeline => arguments.pipeline
  | .input => arguments.input
  | .output => arguments.output
  | .cwd => arguments.cwd

def put (arguments : Arguments) (value : String) : Flag → Arguments
  | .config => { arguments with config := some value }
  | .pipeline => { arguments with pipeline := some value }
  | .input => { arguments with input := some value }
  | .output => { arguments with output := some value }
  | .cwd => { arguments with cwd := some value }

/-- Sets an option, which may be done once. -/
def set (arguments : Arguments) (flag : Flag) (value : String) :
    Except Interruption Arguments :=
  if (arguments.get? flag).isSome then .error (.repeated flag)
  else if flag.isPath && value.isEmpty then .error (.noValue flag)
  else .ok (arguments.put value flag)

/-- An option that is not settled yet, with its value if that has come. -/
abbrev Open := Option (Flag × Option String)

def settle (arguments : Arguments) : Open → Except Interruption Arguments
  | none => .ok arguments
  | some (flag, none) => .error (.noValue flag)
  | some (flag, some value) => arguments.set flag value

/-- Begins an option after what is open before it, with its value if that is attached. -/
def begin (arguments : Arguments) (opened : Open) (flag : Flag) (attached : Option String) :
    Except Interruption (Arguments × Open) :=
  match arguments.settle opened, attached with
  | .error e, _ => .error e
  | .ok arguments, none => .ok (arguments, some (flag, none))
  | .ok arguments, some value => (arguments.set flag value).map fun arguments => (arguments, none)

def interrupt {α : Type} (arguments : Arguments) (opened : Open) (request : Interruption) :
    Except Interruption α :=
  match arguments.settle opened with
  | .error e => .error e
  | .ok _ => .error request

def takeLong (arguments : Arguments) (opened : Open) (text : List Char) :
    Except Interruption (Arguments × Open) :=
  let (name, attached) := match Text.splitOnce? '=' text with
    | some (name, value) => (String.ofList name, some (String.ofList value))
    | none => (String.ofList text, none)
  match Flag.ofName? name with
  | some flag => arguments.begin opened flag attached
  | none =>
      if name == "help" || name == "version" then
        if attached.isSome then .error (.unneededValue name)
        else arguments.interrupt opened (if name == "help" then .help else .version)
      else .error (.unknown ("--" ++ name))

def takeShort (arguments : Arguments) (opened : Open) (letter : Char) (attached : List Char) :
    Except Interruption (Arguments × Open) :=
  match Flag.ofLetter? letter with
  | some flag =>
      arguments.begin opened flag <|
        if attached.isEmpty then none
        else some (String.ofList ((Text.dropStart? ['='] attached).getD attached))
  | none =>
      if letter == 'h' then arguments.interrupt opened .help
      else if letter == 'V' then arguments.interrupt opened .version
      else .error (.unknown (String.ofList ['-', letter]))

/-- Takes an argument that is no option, the value of an option that waits for one. -/
def takePlain (arguments : Arguments) (opened : Open) (text : String) :
    Except Interruption (Arguments × Open) :=
  match opened with
  | some (flag, none) => .ok (arguments, some (flag, some text))
  | _ => .error (.unknown text)

def take (arguments : Arguments) (opened : Open) (text : String) :
    Except Interruption (Arguments × Open) :=
  match text.toList with
  | '-' :: '-' :: name => arguments.takeLong opened name
  | '-' :: letter :: attached => arguments.takeShort opened letter attached
  | _ => arguments.takePlain opened text

/-- Takes the arguments that are left. After two dashes alone there can be no option. -/
def takeAll (arguments : Arguments) (opened : Open) :
    List String → Except Interruption Arguments
  | [] => arguments.settle opened
  | text :: rest =>
      if text == "--" then
        match rest with
        | [] => arguments.settle opened
        | text :: _ => .error (.unknown text)
      else
        match arguments.take opened text with
        | .error e => .error e
        | .ok (arguments, opened) => takeAll arguments opened rest

def ofList (texts : List String) : Except Interruption Arguments :=
  empty.takeAll none texts

end Arguments

end ClientGen.CommandLine
