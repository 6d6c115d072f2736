import ClusterObjects.Cli.Spec

/-!
# Reading a command line

Words are read from the left. The name of a command leads into that command, and from there on its
options and arguments count beside the global ones. An option may be given once for each command
that leads to the last one, and the innermost value counts. Behind two dashes every word is an
argument.
-/

namespace ClusterObjects.Cli

/-- What is shown instead of running a command. -/
inductive Stop where
  /-- The words make no sense. -/
  | usage
  /-- Help on a command, which the names lead to. -/
  | help (path : List String)
  | version
  deriving DecidableEq, Repr

structure Reading where
  /-- The names of the commands, the innermost last. -/
  path : List String := []
  /-- The options with their values, those of the innermost command first. -/
  options : List (String × String) := []
  /-- The options of the innermost command. -/
  given : List String := []
  arguments : List String := []
  /-- Whether every word that follows is an argument. -/
  onlyArguments : Bool := false
  deriving DecidableEq, Repr

namespace Reading

def option? (reading : Reading) (name : String) : Option String := reading.options.lookup name

def has (reading : Reading) (name : String) : Bool := (reading.option? name).isSome

/-- Goes on with a command inside of the one so far. -/
def enter (reading : Reading) (name : String) : Reading :=
  { reading with path := reading.path ++ [name], given := [] }

def give (reading : Reading) (option : OptionSpec) (value : String) : Except Stop Reading :=
  if reading.given.contains option.name || !option.accepts value then .error .usage
  else
    .ok { reading with
      options := (option.name, value) :: reading.options
      given := option.name :: reading.given }

/-- Takes a word as the next argument of a command. -/
def giveArgument (reading : Reading) (spec : CommandSpec) (word : String) : Except Stop Reading :=
  match spec.arguments[reading.arguments.length]? with
  | some argument =>
    if argument.accepts word then .ok { reading with arguments := reading.arguments ++ [word] }
    else .error .usage
  | none => .error .usage

end Reading

namespace CommandSpec

def allOptions (spec : CommandSpec) : List OptionSpec := spec.options ++ globalOptions

def long? (spec : CommandSpec) (name : String) : Option OptionSpec :=
  spec.allOptions.find? (·.name == name)

def short? (spec : CommandSpec) (letter : Char) : Option OptionSpec :=
  spec.allOptions.find? (·.short == some letter)

def command? (spec : CommandSpec) (name : String) : Option CommandSpec :=
  spec.commands.find? (·.name == name)

/-- Help on the command that names lead to from a command. -/
def helpOn (spec : CommandSpec) (path : List String) : List String → Stop
  | [] => .help path
  | name :: rest =>
    match spec.command? name with
    | some command => command.helpOn (path ++ [name]) rest
    | none => .usage

/-- Reads the letters behind a dash. The last option may still need a value. -/
def readLetters (spec : CommandSpec) (reading : Reading) :
    List Char → Except Stop (Reading × Option OptionSpec)
  | [] => .ok (reading, none)
  | letter :: rest =>
    if letter == 'h' then .error (.help reading.path)
    else if letter == 'V' && reading.path.isEmpty then .error .version
    else
      match spec.short? letter with
      | none => .error .usage
      | some option =>
        if option.value.isNone then do spec.readLetters (← reading.give option "") rest
        else
          match rest with
          | [] => .ok (reading, some option)
          | '=' :: value => do return (← reading.give option (String.ofList value), none)
          | value => do return (← reading.give option (String.ofList value), none)

/-- Reads a word behind two dashes, which may hold a value behind an equals sign. -/
def readLong (spec : CommandSpec) (reading : Reading) (word : List Char) :
    Except Stop (Reading × Option OptionSpec) :=
  let name := String.ofList (word.takeWhile (· != '='))
  let value := (word.dropWhile (· != '=')).tail?.map String.ofList
  match spec.long? name, value with
  | some option, some value =>
    if option.value.isSome then do return (← reading.give option value, none) else .error .usage
  | some option, none =>
    if option.value.isSome then .ok (reading, some option)
    else do return (← reading.give option "", none)
  | none, none =>
    if name == "help" then .error (.help reading.path)
    else if name == "version" && reading.path.isEmpty then .error .version
    else .error .usage
  | none, some _ => .error .usage

/-- Reads a word that begins with a dash. -/
def readOption (spec : CommandSpec) (reading : Reading) (word : String) :
    Except Stop (Reading × Option OptionSpec) :=
  match word.toList with
  | '-' :: '-' :: rest => spec.readLong reading rest
  | letters => spec.readLetters reading letters.tail

/-- Whether a word begins with a dash, and is more than that. -/
def isOption (word : String) : Bool := word.startsWith "-" && word != "-"

/-- Whether everything that a command requires is there, and nothing beside what excludes it. -/
def isComplete (spec : CommandSpec) (reading : Reading) : Bool :=
  let missing (name : String) : Bool :=
    ((spec.arguments.drop reading.arguments.length).map (·.name)).contains name
  spec.commands.isEmpty
    && spec.options.all (fun option ↦ !option.required || reading.given.contains option.name)
    && spec.arguments.all (fun argument ↦ !argument.required || !missing argument.name)
    && spec.options.all fun option ↦
      !reading.given.contains option.name || option.excludes.all missing

/-- Reads the words behind the name of a command. The option that was read last may still need the
next word as its value. -/
def readOn : CommandSpec → Reading → Option OptionSpec → List String → Except Stop Reading
  | spec, reading, none, [] => if spec.isComplete reading then .ok reading else .error .usage
  | _, _, some _, [] => .error .usage
  | spec, reading, some option, value :: rest =>
    if isOption value then .error .usage
    else do spec.readOn (← reading.give option value) none rest
  | spec, reading, none, word :: rest =>
    if reading.onlyArguments then do spec.readOn (← reading.giveArgument spec word) none rest
    else
      match spec.command? word with
      | some command => command.readOn (reading.enter word) none rest
      | none =>
        if word == "help" && !spec.commands.isEmpty then .error (spec.helpOn reading.path rest)
        else if word == "--" then spec.readOn { reading with onlyArguments := true } none rest
        else if isOption word then do
          let (reading, pending) ← spec.readOption reading word
          spec.readOn reading pending rest
        else do spec.readOn (← reading.giveArgument spec word) none rest

/-- Reads the words of a command line. -/
def read (spec : CommandSpec) (words : List String) : Except Stop Reading :=
  spec.readOn {} none words

end CommandSpec

end ClusterObjects.Cli
