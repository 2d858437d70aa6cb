/-!
What the words of a command line ask for.

A command line has two levels: options of every command, then the name of a command, then options
and operands of that command, among which the options of every command may stand again. Some options
can be given by the environment too, unless they are given on the level. A level takes each option
once.
-/

set_option autoImplicit false

namespace TypeAtlas.Cli

/-- The options. -/
inductive Flag where
  | config | inheritedFields | noClasses | compact | verbose | noColor
  | recursive | debounceMs | print
  | help | version
deriving DecidableEq, Repr

namespace Flag

/-- An option is written as two dashes and its name. -/
def name : Flag → String
  | .config => "config"
  | .inheritedFields => "inherited-fields"
  | .noClasses => "no-classes"
  | .compact => "compact"
  | .verbose => "verbose"
  | .noColor => "no-color"
  | .recursive => "recursive"
  | .debounceMs => "debounce-ms"
  | .print => "print"
  | .help => "help"
  | .version => "version"

/-- Some options can be written as one dash and one letter. -/
def letter? : Flag → Option Char
  | .config => some 'c'
  | .verbose => some 'v'
  | .recursive => some 'r'
  | .help => some 'h'
  | .version => some 'V'
  | _ => none

/-- Whether a value belongs to the option. -/
def takesValue : Flag → Bool
  | .config | .debounceMs => true
  | _ => false

/-- The name of the option in the environment. -/
def variableName? : Flag → Option String
  | .config => some "TSGRAPH_CONFIG"
  | .inheritedFields => some "TSGRAPH_INHERITED_FIELDS"
  | .noClasses => some "TSGRAPH_NO_CLASSES"
  | .debounceMs => some "TSGRAPH_DEBOUNCE_MS"
  | _ => none

/-- The names of all options in the environment. -/
def variableNames : List String :=
  [Flag.config, .inheritedFields, .noClasses, .debounceMs].filterMap variableName?

/-- The options of every command. -/
def common : List Flag :=
  [.config, .inheritedFields, .noClasses, .compact, .verbose, .noColor, .help, .version]

end Flag

/-- The names of the commands. -/
inductive CommandName where
  | models | graph | watch | samples
deriving DecidableEq, Repr

namespace CommandName

def all : List CommandName := [.models, .graph, .watch, .samples]

def word : CommandName → String
  | .models => "models"
  | .graph => "graph"
  | .watch => "watch"
  | .samples => "samples"

/-- The command of a name. -/
def named? (word : String) : Option CommandName := all.find? fun command => command.word == word

/-- The options of a command, its own ones included. -/
def flags : CommandName → List Flag
  | .watch => [.recursive, .debounceMs, .print] ++ Flag.common
  | _ => Flag.common

end CommandName

/-- What a command line asks for besides running a command. -/
inductive Stop where
  /-- The command line makes no sense. -/
  | misuse
  | help
  /-- The version, of one command or of the whole program. -/
  | version (command : Option CommandName)
deriving DecidableEq, Repr

/-! ### Values -/

/-- Whether a number fits into 64 bits. -/
def fits (n : Nat) : Bool := n < Nat.pow 2 64

/-- A number in decimal digits, perhaps after a plus sign. -/
def number? (text : String) : Option Nat :=
  let digits := match text.toList with
    | '+' :: rest => rest
    | chars => chars
  if digits.isEmpty || !digits.all Char.isDigit then none
  else (digits.foldl (fun n c => 10 * n + (c.toNat - '0'.toNat)) 0 : Nat) |> some |>.filter fits

/-- Whether an option can have a value. -/
def Flag.admits (flag : Flag) (value : String) : Bool :=
  match flag with
  | .debounceMs => (number? value).isSome
  | _ => true

/-! ### One level -/

/-- What is given on one level: options with their values, and operands. -/
structure Given where
  options : List (Flag × String) := []
  operands : List String := []
deriving DecidableEq, Repr

namespace Given

/-- Whether an option is given. -/
def has (given : Given) (flag : Flag) : Bool := given.options.any fun option => option.1 == flag

/-- The value that is given for an option. -/
def value? (given : Given) (flag : Flag) : Option String := given.options.lookup flag

/-- Adds an option. -/
def add (given : Given) (command : Option CommandName) (flag : Flag) (value : String) :
    Except Stop Given :=
  match flag with
  | .help => .error .help
  | .version => .error (.version command)
  | _ =>
    if given.has flag || !flag.admits value then .error .misuse
    else .ok { given with options := given.options ++ [(flag, value)] }

/-- Adds an operand. Every command takes one at most. -/
def addOperand (given : Given) (word : String) : Except Stop Given :=
  if given.operands.isEmpty then .ok { given with operands := [word] } else .error .misuse

end Given

/-- A word, by its form. -/
inductive Word where
  /-- Two dashes and nothing else: all words that follow are operands. -/
  | divider
  /-- Two dashes and a name, perhaps with a value after an equals sign. -/
  | long (name : String) (value : Option String)
  /-- A dash and letters. -/
  | letters (letters : List Char)
  | plain (word : String)
deriving DecidableEq, Repr

/-- The form of a word. A dash alone is no option. -/
def Word.of (word : String) : Word :=
  match word.toList with
  | ['-', '-'] => .divider
  | '-' :: '-' :: rest =>
    match rest.span (· != '=') with
    | (name, '=' :: value) => .long (String.ofList name) (some (String.ofList value))
    | (name, _) => .long (String.ofList name) none
  | '-' :: first :: rest => .letters (first :: rest)
  | _ => .plain word

/-- What reading options leaves: an option that still waits for its value, if there is one. -/
abbrev Waiting := Option Flag

/-- Reads letters after a dash. What follows the letter of an option with a value is the value,
perhaps after an equals sign. -/
def readLetters (command : Option CommandName) (flags : List Flag) :
    List Char → Given → Except Stop (Given × Waiting)
  | [], given => .ok (given, none)
  | c :: rest, given =>
    match flags.find? fun flag => flag.letter? == some c with
    | none => .error .misuse
    | some flag =>
      if flag.takesValue then
        match rest with
        | [] => .ok (given, some flag)
        | '=' :: value => (given.add command flag (String.ofList value)).map (·, none)
        | value => (given.add command flag (String.ofList value)).map (·, none)
      else
        match given.add command flag "true" with
        | .error stop => .error stop
        | .ok given => readLetters command flags rest given

/-- Reads an option by its name. -/
def readLong (command : Option CommandName) (flags : List Flag) (name : String)
    (value : Option String) (given : Given) : Except Stop (Given × Waiting) :=
  match flags.find? fun flag => flag.name == name with
  | none => .error .misuse
  | some flag =>
    match flag.takesValue, value with
    | true, none => .ok (given, some flag)
    | true, some value => (given.add command flag value).map (·, none)
    | false, none => (given.add command flag "true").map (·, none)
    | false, some _ => .error .misuse

/-- Reads the words of a command, some of which have been read. -/
def readWords (command : CommandName) :
    List String → Given → Waiting → Except Stop Given
  | [], given, none => .ok given
  | [], _, some _ => .error .misuse
  | word :: rest, given, waiting =>
    match Word.of word, waiting with
    | .plain word, some flag =>
      match given.add (some command) flag word with
      | .error stop => .error stop
      | .ok given => readWords command rest given none
    | _, some _ => .error .misuse
    | .plain word, none =>
      match given.addOperand word with
      | .error stop => .error stop
      | .ok given => readWords command rest given none
    | .divider, none => rest.foldlM Given.addOperand given
    | .long name value, none =>
      match readLong (some command) command.flags name value given with
      | .error stop => .error stop
      | .ok (given, waiting) => readWords command rest given waiting
    | .letters letters, none =>
      match readLetters (some command) command.flags letters given with
      | .error stop => .error stop
      | .ok (given, waiting) => readWords command rest given waiting

/-- The words after a request for help: the name of a command at most. -/
def readHelp : List String → Stop
  | [] => .help
  | [word] => if word == "help" || (CommandName.named? word).isSome then .help else .misuse
  | _ => .misuse

/-- Reads the words before the name of a command, the name, and the words after it. -/
def readLevels : List String → Given → Waiting → Except Stop (Given × CommandName × Given)
  | [], _, _ => .error .misuse
  | word :: rest, given, waiting =>
    match Word.of word, waiting with
    | .plain word, some flag =>
      match given.add none flag word with
      | .error stop => .error stop
      | .ok given => readLevels rest given none
    | _, some _ => .error .misuse
    | .plain word, none =>
      match CommandName.named? word with
      | some command =>
        (readWords command rest {} none).map fun inner => (given, command, inner)
      | none => .error (if word == "help" then readHelp rest else .misuse)
    | .divider, none => .error .misuse
    | .long name value, none =>
      match readLong none Flag.common name value given with
      | .error stop => .error stop
      | .ok (given, waiting) => readLevels rest given waiting
    | .letters letters, none =>
      match readLetters none Flag.common letters given with
      | .error stop => .error stop
      | .ok (given, waiting) => readLevels rest given waiting

/-! ### The environment -/

/-- Values of variables. -/
abbrev Environment := List (String × String)

/-- The value of an option in the environment. -/
def Environment.value? (environment : Environment) (flag : Flag) : Option String :=
  flag.variableName?.bind fun name => List.lookup name environment

/-- Whether the environment gives an option a value that it can have. -/
def Environment.admits (environment : Environment) (flag : Flag) : Bool :=
  match environment.value? flag with
  | none => true
  | some value =>
    if flag.takesValue then flag.admits value else value == "true" || value == "false"

/-- Whether all options of a level that it does not give can be taken from the environment. -/
def Given.completes (given : Given) (environment : Environment) (flags : List Flag) : Bool :=
  flags.all fun flag => given.has flag || environment.admits flag

/-! ### Invocations -/

/-- What a command does, with its operands and options. -/
inductive Command where
  | models (input : String)
  | graph (input : String)
  | watch (path : String) (recursive : Bool) (debounceMs : Option Nat) (print : Bool)
  | samples (name : Option String)
deriving DecidableEq, Repr

/-- The settings that a command line gives. -/
structure Settings where
  config : Option String
  inheritedFields : Bool
  noClasses : Bool
  compact : Bool
  verbose : Bool
  noColor : Bool
deriving DecidableEq, Repr

/-- A command to run. -/
structure Invocation where
  command : Command
  settings : Settings
deriving DecidableEq, Repr

/-- The command of a name with what is given for it. -/
def Command.ofGiven (name : CommandName) (given : Given) (environment : Environment) :
    Except Stop Command :=
  match name, given.operands with
  | .models, [input] => .ok (.models input)
  | .graph, [input] => .ok (.graph input)
  | .watch, [path] =>
    let debounceMs := given.value? .debounceMs <|> environment.value? .debounceMs
    .ok (.watch path (given.has .recursive) (debounceMs.bind number?) (given.has .print))
  | .samples, operands => .ok (.samples operands.head?)
  | _, _ => .error .misuse

/-- The settings of two levels. What is given later counts first, then what is given earlier, then
the environment. -/
def Settings.ofGiven (outer inner : Given) (environment : Environment) : Settings :=
  let holds (flag : Flag) : Bool :=
    inner.has flag || outer.has flag || environment.value? flag == some "true"
  { config := inner.value? .config <|> outer.value? .config <|> environment.value? .config
    inheritedFields := holds .inheritedFields
    noClasses := holds .noClasses
    compact := holds .compact
    verbose := holds .verbose
    noColor := holds .noColor }

/-- What a command line in an environment asks for. -/
def Invocation.ofArguments (arguments : List String) (environment : Environment) :
    Except Stop Invocation :=
  match readLevels arguments {} none with
  | .error stop => .error stop
  | .ok (outer, name, inner) =>
    if outer.completes environment Flag.common && inner.completes environment name.flags then
      (Command.ofGiven name inner environment).map fun command =>
        ⟨command, .ofGiven outer inner environment⟩
    else .error .misuse

end TypeAtlas.Cli
