import ClusterObjects.Proofs.Cli.Running
import ClusterObjects.Proofs.Config.Saving

/-!
# Changing a setting

`config set` edits the file of the configuration and nothing else. What the file says is loaded,
changed and saved, so that it is loaded as the changed configuration afterwards, whatever variables
say. A command that fails leaves all files as they were, unless there was no room to save what was
changed.
-/

namespace ClusterObjects

/-- The layer of the file: what it says, or the defaults where there is none. -/
def Config.fileLayer (files : FileTree) (path : String) : Except ConfigError Config :=
  if files.contains path then load files path else .ok {}

theorem Config.namesText_of_fileLayer {files : FileTree} {path : String} {config : Config}
    (h : fileLayer files path = .ok config) : config.NamesText := by
  unfold fileLayer at h
  split at h
  · exact namesText_of_load h
  · obtain rfl := Except.ok.inj h
    exact nofun

namespace Cli

open Running

/-! ## The words -/

/-- The command that changes a setting. -/
def setCommand : CommandSpec :=
  { name := "set", about := "Set configuration value in the root config file"
    arguments := [{ name := "KEY", about := "Configuration key (e.g., \"namespace\", \"dryRun\")" },
      { name := "VALUE", about := "Configuration value" }] }

theorem read_config_set (words : List String) : program.read ("config" :: "set" :: words) =
    setCommand.readOn { path := ["config", "set"] } none words := rfl

/-- Command lines that ask for a key to be set to a value. Behind two dashes the two may be any
words; without the dashes neither may look like an option. -/
inductive AsksToSet (key value : String) : List String → Prop
  | behindDashes : AsksToSet key value ["config", "set", "--", key, value]
  | asWords (hkey : CommandSpec.isOption key = false)
    (hvalue : CommandSpec.isOption value = false) :
    AsksToSet key value ["config", "set", key, value]

theorem ne_dashes_of_isOption {word : String} (h : CommandSpec.isOption word = false) :
    word ≠ "--" := by
  rintro rfl
  simp [CommandSpec.isOption] at h

theorem ofArguments_set {key value : String} {arguments : List String}
    (h : AsksToSet key value arguments) :
    Invocation.ofArguments arguments = .ok { command := .config (.set key value) } := by
  have hread : ∃ onlyArguments, program.read arguments =
      .ok { path := ["config", "set"], arguments := [key, value], onlyArguments } := by
    cases h with
    | behindDashes =>
      refine ⟨true, ?_⟩
      rw [read_config_set]
      simp [CommandSpec.readOn, Reading.giveArgument, CommandSpec.command?, CommandSpec.isComplete,
        setCommand]
      rfl
    | asWords hkey hvalue =>
      refine ⟨false, ?_⟩
      rw [read_config_set]
      simp [CommandSpec.readOn, Reading.giveArgument, CommandSpec.command?, CommandSpec.isComplete,
        setCommand, hkey, hvalue, ne_dashes_of_isOption hkey, ne_dashes_of_isOption hvalue]
      rfl
  obtain ⟨onlyArguments, hread⟩ := hread
  rw [Invocation.ofArguments, hread]
  rfl

/-! ## The run -/

theorem run_orFail {α : Type} (result : Except (List Cause) α) (progress : Progress) :
    (orFail result).run.run progress = (result, progress) := by
  cases result <;> rfl

theorem run_explain {α : Type} (message : String) (result : Except (List Cause) α)
    (progress : Progress) : (explain message result).run.run progress =
      (result.mapError (.message message :: ·), progress) := by
  cases result <;> rfl

/-- What a change of a setting makes of the configuration in the file. -/
def changeIn (files : FileTree) (path key value : String) (config : Config) : Running Unit := do
  let config ← explain ("Failed to set " ++ key ++ " = " ++ value)
    ((config.setNamed key value).mapError (·.chain))
  let (saved, files) := Config.save files path config
  modify fun progress ↦ { progress with machine := { progress.machine with files } }
  explain "Failed to save configuration" (saved.mapError (·.chain))
  say "Configuration saved\n"

theorem run_changeIn (files : FileTree) (path key value : String) (config : Config)
    (progress : Progress) : (changeIn files path key value config).run.run progress =
      match config.setNamed key value with
      | .error error =>
        (.error (.message ("Failed to set " ++ key ++ " = " ++ value) :: error.chain), progress)
      | .ok changed =>
        match Config.save files path changed with
        | (.error error, files) =>
          (.error (.message "Failed to save configuration" :: error.chain),
            { progress with machine := { progress.machine with files } })
        | (.ok (), files) =>
          (.ok (), { machine := { progress.machine with files }
                     output := progress.output ++ "Configuration saved\n" }) := by
  rw [changeIn, run_bind, run_explain]
  rcases config.setNamed key value with error | changed
  · rfl
  · dsimp only [Except.mapError]
    rcases Config.save files path changed with ⟨_ | ⟨⟨⟩⟩, files⟩ <;> rfl

/-- A setting is changed in the layer of the file. -/
theorem run_set (key value : String) (progress : Progress) :
    (runConfig (.set key value)).run.run progress =
      let path := Config.path progress.machine.environment
      match Config.fileLayer progress.machine.files path with
      | .error error => (.error error.chain, progress)
      | .ok config =>
        (changeIn progress.machine.files path key value config).run.run progress := by
  rw [runConfig, run_files_bind, run_environment_bind]
  dsimp only
  generalize Config.path progress.machine.environment = path
  unfold Config.fileLayer
  by_cases hfound : progress.machine.files.contains path
  · rw [if_pos hfound, if_pos hfound, run_bind, run_orFail]
    rcases Config.load progress.machine.files path with error | config
    · rfl
    · rfl
  · rw [if_neg hfound, if_neg hfound]
    rfl

/-- What a command shows that fails before it has printed anything. -/
def failed (chain : List Cause) : Outcome := { exit := 1, complaint := failureText chain }

theorem run_of_set {key value : String} {arguments : List String}
    (h : AsksToSet key value arguments) (machine : Machine) :
    run arguments machine =
      let path := Config.path machine.environment
      match Config.fileLayer machine.files path with
      | .error error => (failed error.chain, machine)
      | .ok config =>
        match config.setNamed key value with
        | .error error =>
          (failed (.message ("Failed to set " ++ key ++ " = " ++ value) :: error.chain), machine)
        | .ok changed =>
          match Config.save machine.files path changed with
          | (.error error, files) =>
            (failed (.message "Failed to save configuration" :: error.chain),
              { machine with files })
          | (.ok (), files) => ({ output := "Configuration saved\n" }, { machine with files }) := by
  have hrun : run arguments machine =
      match (runConfig (.set key value)).run.run { machine } with
      | (.ok (), progress) => ({ output := progress.output }, progress.machine)
      | (.error chain, progress) =>
        ({ failed chain with output := progress.output }, progress.machine) := by
    rw [run, ofArguments_set h]
    rcases hset : (runConfig (.set key value)).run.run { machine } with ⟨result, progress⟩
    cases result with
    | ok value => simp only [runInvocation, hset]
    | error chain =>
      simp only [runInvocation, hset]
      rfl
  rw [hrun, run_set]
  dsimp only
  rcases Config.fileLayer machine.files (Config.path machine.environment) with error | config
  · rfl
  dsimp only
  rw [run_changeIn]
  rcases config.setNamed key value with error | changed
  · rfl
  dsimp only
  rcases Config.save machine.files (Config.path machine.environment) changed with
    ⟨_ | ⟨⟨⟩⟩, files⟩
  · rfl
  · simp only [String.empty_append]

end Cli

end ClusterObjects
