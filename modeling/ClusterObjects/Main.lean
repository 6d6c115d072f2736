import ClusterObjects.Cli.Program

/-!
# The program

Takes the files and the variables that a command line can touch from the machine, runs the command,
and writes back the files that it changed. There is no transport to a server in this program: every
request counts as one whose connection failed.
-/

namespace ClusterObjects.Main

/-- The variables that the program looks at. -/
def variableNames : List String :=
  ["HOME", "XDG_CONFIG_HOME", "KUBECONFIG", Config.pathVariable, "K8S_HANDLER_CONTEXT",
    "K8S_HANDLER_NAMESPACE", "K8S_HANDLER_DRY_RUN"]

/-- The paths that a command line can touch, as far as the files read so far tell. -/
def paths (arguments : List String) (machine : Machine) : List String :=
  let config := Cli.loadOrDefault machine.files machine.environment
  let home := (machine.environment.home?.map (FilePath.join · ".kube/config")).toList
  let given := match Cli.program.read arguments with
    | .ok reading => reading.options.map (·.2)
    | .error _ => []
  Config.path machine.environment :: home ++ Kubeconfig.paths machine.environment
    ++ (config.kubeconfig.bind (·.text?)).toList ++ given

/-- The path itself, and the directories on its way, the outermost first. -/
def stages (path : String) : List String :=
  let names := FilePath.names path
  let root := if FilePath.isAbsolute path then "/" else ""
  (List.range names.length).map fun n ↦ root ++ String.intercalate "/" (names.take (n + 1))

/-- The environment of the process. -/
def environment : IO Environment := do
  let found ← variableNames.filterMapM fun name ↦ do
    return (← IO.getEnv name).map fun value ↦ (name, value)
  return { values := found }

/-- Adds what is found at a path to the tree. -/
def addStage (files : FileTree) (path : String) : IO FileTree := do
  match files.locate path with
  | .error _ => return files
  | .ok place =>
    let found ← (IO.FS.realPath path).toBaseIO
    let content ← (IO.FS.readBinFile path).toBaseIO
    match found, content with
    | .ok _, .ok data => return files.put place (.file data)
    | .ok _, .error _ => return files.put place .directory
    | .error _, _ => return files

def addPaths (files : FileTree) (paths : List String) : IO FileTree :=
  (paths.flatMap stages).foldlM addStage files

/-- Writes the entries that are new or changed, directories before what lies in them. -/
def writeBack (before after : FileTree) : IO Unit := do
  let changed := after.entries.filter fun (place, entry) ↦ before.entryAt? place != some entry
  for (place, entry) in changed.mergeSort fun a b ↦ a.1.length ≤ b.1.length do
    let path := "/" ++ String.intercalate "/" place.reverse
    match entry with
    | .directory => IO.FS.createDirAll path
    | .file data => IO.FS.writeBinFile path data

/-- The machine with all files that a command line can touch. What a configuration names is known
only when its own file has been read, so the paths are looked up twice. -/
def load (arguments : List String) : IO Machine := do
  let current := toString (← IO.currentDir)
  let files ← addPaths { origin := (FilePath.names current).reverse } [current]
  let machine : Machine :=
    { files, environment := ← environment, session := .new [] .abort }
  let machine := { machine with files := ← addPaths files (paths arguments machine) }
  return { machine with files := ← addPaths machine.files (paths arguments machine) }

end ClusterObjects.Main

open ClusterObjects in
def main (arguments : List String) : IO UInt32 := do
  let machine ← Main.load arguments
  let (outcome, after) := Cli.run arguments machine
  Main.writeBack machine.files after.files
  IO.print outcome.output
  IO.eprint outcome.complaint
  return outcome.exit.toUInt32
