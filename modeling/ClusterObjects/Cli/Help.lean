import ClusterObjects.Cli.Reading

/-!
# Help texts

The page on a command says what it does and how it is used, and lists its commands, its arguments
and its options in columns. Options stand in the order in which commands declare them, where those
of the command itself and the global ones count side by side.
-/

namespace ClusterObjects.Cli

/-- A text filled up with blanks to a width. -/
def padded (width : Nat) (text : String) : String :=
  text ++ String.ofList (List.replicate (width - text.length) ' ')

/-- Rows of two columns below a heading. -/
def table (heading : String) (rows : List (String × String)) : String :=
  let width := rows.foldl (fun width (left, _) ↦ max width left.length) 0
  if rows.isEmpty then ""
  else
    "\n" ++ heading ++ ":\n"
      ++ String.join
        (rows.map fun (left, right) ↦ "  " ++ padded width left ++ "  " ++ right ++ "\n")

namespace OptionSpec

def valueText (option : OptionSpec) : String :=
  match option.value with
  | some value => " <" ++ value ++ ">"
  | none => ""

def row (option : OptionSpec) : String × String :=
  let short := match option.short with
    | some letter => "-" ++ letter.toString ++ ", "
    | none => "    "
  (short ++ "--" ++ option.name ++ option.valueText, option.about)

/-- What an option is sorted by among those declared at the same place. -/
def sortKey (option : OptionSpec) : String :=
  match option.short with
  | some letter => letter.toLower.toString ++ if letter.isLower then "0" else "1"
  | none => option.name

end OptionSpec

def ArgumentSpec.text (argument : ArgumentSpec) : String :=
  if argument.required then "<" ++ argument.name ++ ">" else "[" ++ argument.name ++ "]"

namespace CommandSpec

/-- The options by their places in their declarations, and those at one place by their letters. -/
def orderedOptions (spec : CommandSpec) : List OptionSpec :=
  let placed (options : List OptionSpec) : List (Nat × OptionSpec) :=
    options.mapIdx fun place option ↦ (place, option)
  let before (a b : Nat × OptionSpec) : Bool :=
    a.1 < b.1 || (a.1 == b.1 && decide (a.2.sortKey ≤ b.2.sortKey))
  ((placed spec.options ++ placed globalOptions).mergeSort before).map (·.2)

def helpOption : OptionSpec := { name := "help", short := some 'h', about := "Print help" }

def versionOption : OptionSpec := { name := "version", short := some 'V', about := "Print version" }

def usage (spec : CommandSpec) (path : List String) : String :=
  let required := (spec.options.filter (·.required)).map fun option ↦
    "--" ++ option.name ++ option.valueText
  let arguments := spec.arguments.map ArgumentSpec.text
  let command := if spec.commands.isEmpty then [] else ["<COMMAND>"]
  String.intercalate " " (program.name :: path ++ ["[OPTIONS]"] ++ required ++ arguments ++ command)

def helpPage (spec : CommandSpec) (path : List String) : String :=
  let commands := spec.commands.map fun command ↦ (command.name, command.about)
  let help := ("help", "Print this message or the help of the given subcommand(s)")
  let options := spec.orderedOptions ++ [helpOption]
    ++ (if path.isEmpty then [versionOption] else [])
  spec.about ++ "\n\nUsage: " ++ spec.usage path ++ "\n"
    ++ table "Commands" (if commands.isEmpty then [] else commands ++ [help])
    ++ table "Arguments" (spec.arguments.map fun argument ↦ (argument.text, argument.about))
    ++ table "Options" (options.map OptionSpec.row)

/-- The command that names lead to. -/
def at? (spec : CommandSpec) : List String → Option CommandSpec
  | [] => some spec
  | name :: rest =>
    match spec.command? name with
    | some command => command.at? rest
    | none => none

/-- The page on the command that names lead to. -/
def help (spec : CommandSpec) (path : List String) : String :=
  ((spec.at? path).getD spec).helpPage path

end CommandSpec

end ClusterObjects.Cli
