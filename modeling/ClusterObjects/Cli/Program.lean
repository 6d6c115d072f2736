import ClusterObjects.Cli.Invocation
import ClusterObjects.Cli.Text
import ClusterObjects.Config.Layers
import ClusterObjects.Dynamic.Operations
import ClusterObjects.Handler.Operations
import ClusterObjects.Kubeconfig.Connection

/-!
# Running a command

A command runs on a machine: its files, its environment, and a session with the server that the
configuration leads to. `Cli.run` answers with what was printed, and with the machine as the command
leaves it.
-/

namespace ClusterObjects

structure Machine where
  files : FileTree
  environment : Environment
  session : Session

/-- The dynamic handler that a configuration describes. -/
def DynamicHandler.ofConfig (config : Config) : DynamicHandler :=
  let handler := new config.namespaceName
  let handler := if config.dryRun then handler.withDryRun else handler
  match config.fieldManager with
  | some manager => handler.change (.fieldManager manager)
  | none => handler

namespace Cli

/-- A command under way: the machine, and what was printed so far. -/
structure Progress where
  machine : Machine
  output : String := ""

/-- A part of a command. It fails with an account of the causes. -/
abbrev Running := ExceptT (List Cause) (StateM Progress)

namespace Running

def fail {α : Type} (chain : List Cause) : Running α := throw chain

def say (text : String) : Running Unit :=
  modify fun progress ↦ { progress with output := progress.output ++ text }

/-- Gives an account of a failure that begins with a message. -/
def explain {α : Type} (message : String) (result : Except (List Cause) α) : Running α :=
  match result with
  | .ok value => return value
  | .error chain => fail (.message message :: chain)

def orFail {α : Type} (result : Except (List Cause) α) : Running α :=
  match result with
  | .ok value => return value
  | .error chain => fail chain

/-- Talks to the server. -/
def talk {α : Type} (action : StateM Session α) : Running α := do
  let progress ← get
  let (value, session) := action.run progress.machine.session
  set { progress with machine := { progress.machine with session } }
  return value

/-- The step that an error is in the account of a failure. -/
def causeOf (error : Error) : Cause :=
  match error.message with
  | some text => .message text
  | none => .server

/-- Talks to the server, and gives an account of a failure that begins with a message. -/
def exchange {α : Type} (message : String) (action : Exchange α) : Running α := do
  explain message ((← talk action.run).mapError fun error ↦ [causeOf error])

def files : Running FileTree := return (← get).machine.files

def environment : Running Environment := return (← get).machine.environment

/-- The file with a path. -/
def file (path : String) : Running File :=
  return { path, content := ((← files).read path).toOption }

end Running

open Running

/-- Runs a command on the configuration. What is set goes to the file alone. -/
def runConfig : ConfigCommand → Running Unit
  | .get key => do
    let environment ← environment
    let config ← explain "Failed to load configuration"
      ((Config.loadLayers (← files) environment (Config.path environment)).mapError (·.chain))
    match key with
    | some key => say ((← orFail ((config.getNamed key).mapError (·.chain))) ++ "\n")
    | none =>
      match config.toYaml? with
      | some text => say text
      | none => fail [.message "Failed to serialize configuration", .yaml]
  | .set key value => do
    let files ← files
    let path := Config.path (← environment)
    let config ← if files.contains path then orFail ((Config.load files path).mapError (·.chain))
      else pure {}
    let config ← explain ("Failed to set " ++ key ++ " = " ++ value)
      ((config.setNamed key value).mapError (·.chain))
    let (saved, files) := Config.save files path config
    modify fun progress ↦ { progress with machine := { progress.machine with files } }
    explain "Failed to save configuration" (saved.mapError (·.chain))
    say "Configuration saved\n"
  | .path => do say (Config.path (← environment) ++ "\n")
  | .validate => do
    let environment ← environment
    orFail (Config.validate (← files) environment (Config.path environment))
    say "Configuration is valid\n"

/-- Creates objects one after another, and says so of each. -/
def createAll (handler : DynamicHandler) : List Object → Running Unit
  | [] => return ()
  | object :: rest => do
    let _ ← exchange ("Failed to create " ++ describe object) (handler.create (.object object))
    say (describe object ++ " created\n")
    createAll handler rest

/-- Watches until the watch fails. -/
def watch (kind : Kind) (run : StateM Session (List WatchCall × WatchEnd)) : Running Unit := do
  let (calls, ending) ← talk run
  say (String.join (calls.map (eventLine kind)))
  match ending with
  | .failed error => fail [.message ("Failed to watch " ++ kind.name), causeOf error]
  | .waiting => return ()

/-- Runs a command on the cluster with a configuration. -/
def runResource (config : Config) : Command → Running Unit
  | .apply path => do
    let file ← file path
    let applied ← exchange ("Failed to apply " ++ path) do
      (DynamicHandler.ofConfig config).applyManifest (← Exchange.lift file.read)
    say (String.join (applied.map fun object ↦ describe object ++ " applied\n"))
  | .create path => do
    let data ← explain ("Failed to read " ++ path)
      (((← files).read path).mapError fun fault ↦ [.file fault])
    let objects ← orFail ((Manifest.objects data).mapError fun error ↦ [causeOf error])
    createAll (.ofConfig config) objects
  | .deleteFile path => do
    let file ← file path
    exchange ("Failed to delete " ++ path) do
      (DynamicHandler.ofConfig config).deleteManifest (← Exchange.lift file.read)
    say (path ++ " deleted\n")
  | .delete kind name => do
    let object := kind.name ++ "/" ++ name
    exchange ("Failed to delete " ++ object) ((Handler.ofConfig kind config).delete (.name name))
    say (object ++ " deleted\n")
  | .deleteNothing => fail [.message "delete needs -f <file> or <kind> <name>"]
  | .get kind name => do
    let object ← exchange ("Failed to get " ++ kind.name ++ "/" ++ name)
      ((Handler.ofConfig kind config).get (.name name))
    say (documents [object])
  | .list kind selector everywhere => do
    let handler := Handler.ofConfig kind config
    let objects ← exchange ("Failed to list " ++ kind.name)
      (if everywhere then handler.listAll else handler.listByLabel selector)
    say (documents objects)
  | .watchName kind name => watch kind ((Handler.ofConfig kind config).watchByName name)
  | .watchSelector kind selector =>
    watch kind ((Handler.ofConfig kind config).watchByLabel selector)
  | .patch kind name path type => do
    let handler := Handler.ofConfig kind config
    let object := kind.name ++ "/" ++ name
    let existing ← exchange ("Failed to get " ++ object) (handler.get (.name name))
    let file ← file path
    let patched ← exchange ("Failed to patch " ++ object) (handler.patch existing (.file file) type)
    say (documents [patched])
  | .kinds => say kindsTable
  | .config command => runConfig command

/-- The configuration of the machine, or the defaults when it cannot be loaded. -/
def loadOrDefault (files : FileTree) (environment : Environment) : Config :=
  (Config.loadLayers files environment (Config.path environment)).toOption.getD {}

/-- Runs what a command line asks for. -/
def runInvocation (invocation : Invocation) : Running Unit := do
  match invocation.command with
  | .kinds => say kindsTable
  | .config command => runConfig command
  | command =>
    let files ← files
    let environment ← environment
    let config := invocation.override (loadOrDefault files environment)
    let _ ← orFail ((config.target files environment).mapError (·.chain))
    runResource config command

/-- What a run shows. -/
structure Outcome where
  exit : Nat := 0
  output : String := ""
  complaint : String := ""
  deriving DecidableEq, Repr

/-- The complaint about a failed command. -/
def complaint (command : Command) (chain : List Cause) : String :=
  match command with
  | .config .validate => "Configuration validation failed: " ++ failureLine chain ++ "\n"
  | _ => failureText chain

/-- Runs the program with the words behind its name. -/
def run (arguments : List String) (machine : Machine) : Outcome × Machine :=
  match Invocation.ofArguments arguments with
  | .error .usage =>
    ({ exit := 2, complaint := "error: wrong usage\n\nUsage: " ++ program.usage [] ++ "\n" },
      machine)
  | .error (.help path) => ({ output := program.help path }, machine)
  | .error .version => ({ output := program.name ++ " " ++ version ++ "\n" }, machine)
  | .ok invocation =>
    let (result, progress) := (runInvocation invocation).run.run { machine }
    let outcome := match result with
      | .ok () => { output := progress.output }
      | .error chain =>
        { exit := 1, output := progress.output
          complaint := complaint invocation.command chain }
    (outcome, progress.machine)

end Cli

end ClusterObjects
