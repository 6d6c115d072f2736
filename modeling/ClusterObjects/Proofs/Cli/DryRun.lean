import ClusterObjects.Proofs.Cli.Running
import ClusterObjects.Proofs.Handler.Fleet
import ClusterObjects.Proofs.Watch.Run

/-!
# Commands that rehearse

A dry run can be asked for on the command line, by a variable and in the file with the
configuration. The setting passes from these through the configuration to the handlers. A command
under a dry configuration sends requests that read and rehearsals, meant for the objects of its file
or for the object that it patches; the word on the command line always reaches the configuration,
and the variable does if the file can be loaded or is not there.
-/

namespace ClusterObjects

theorem DynamicHandler.dryRun_ofConfig {config : Config} (h : config.dryRun = true) :
    (ofConfig config).options.DryRun := by
  have hdry := Options.DryRun.of_dryRun (new config.namespaceName).options
  unfold ofConfig
  rw [h]
  cases config.fieldManager with
  | none => exact hdry
  | some manager => exact hdry.change (.fieldManager manager)

namespace Handler

variable (handler : Handler)

theorem reads_get (target : Input) : (handler.get target).Sends Request.Reads := by
  apply Exchange.Leads.lift_bind
  rintro ⟨namespaceName, name⟩ -
  exact Endpoint.reads_get _ name

theorem reads_listByLabel (selector : String) :
    (handler.listByLabel selector).Sends Request.Reads := Endpoint.reads_list _ _

theorem reads_listAll : handler.listAll.Sends Request.Reads := Endpoint.reads_list _ _

theorem reads_watchByName (name : String) (session : Session) :
    session.Extends Request.Reads ((handler.watchByName name).run session).2 :=
  (Subscription.ofName handler.endpoint handler.options.watchParams name).reads_watch session

theorem reads_watchByLabel (selector : String) (session : Session) :
    session.Extends Request.Reads ((handler.watchByLabel selector).run session).2 :=
  (Subscription.ofLabel handler.endpoint handler.options.watchParams selector).reads_watch session

end Handler

namespace Config

variable {files : FileTree} {environment : Environment} {path : String}

/-- The variables come over the file, or over the defaults where there is no file. -/
theorem loadLayers_eq (files : FileTree) (environment : Environment) (path : String) :
    loadLayers files environment path =
      (if files.contains path then load files path else .ok {}).map (·.override environment) := by
  unfold loadLayers
  split
  · cases load files path <;> rfl
  · rfl

theorem exists_loadLayers (h : files.contains path = true → ∃ base, load files path = .ok base) :
    ∃ base : Config, loadLayers files environment path = .ok (base.override environment) := by
  rw [loadLayers_eq]
  by_cases hfile : files.contains path = true
  · obtain ⟨base, hbase⟩ := h hfile
    exact ⟨base, by rw [if_pos hfile, hbase]; rfl⟩
  · exact ⟨{}, by rw [if_neg hfile]; rfl⟩

theorem dryRun_override (base : Config)
    (h : environment.get? "K8S_HANDLER_DRY_RUN" = some "true") :
    (base.override environment).dryRun = true := by
  unfold override
  rw [h]
  rfl

end Config

namespace Cli

open Running

variable {config : Config}

/-- The handler that a command writes with. -/
def Command.writer (config : Config) : Command → AnyHandler
  | .delete kind _ | .patch kind _ _ _ => .typed (.ofConfig kind config)
  | _ => .dynamic (.ofConfig config)

/-- The objects that a command creates, replaces or patches: those in its file, or the one that the
server has under the name. -/
def Command.written (config : Config) (machine : Machine) : Command → List Object
  | .apply path | .create path =>
    ((machine.files.read path).toOption.bind fun data ↦ (Manifest.objects data).toOption).getD []
  | .patch kind name _ _ =>
    (((Handler.ofConfig kind config).get (.name name)).run.run machine.session).1.toOption.toList
  | _ => []

/-- The rehearsals of a command: its writes are meant for the objects that it writes. -/
def Command.Rehearsal (config : Config) (machine : Machine) (command : Command) (known : Session)
    (request : Request) : Prop :=
  request.Rehearses
    (PathAmong ((command.writer config).collection? known) (command.written config machine))

theorem advances_createAll {P : Session → Request → Prop} {handler : DynamicHandler}
    {objects : List Object} (h : handler.Only P objects) {list : List Object}
    (hsub : ∀ object ∈ list, object ∈ objects) :
    (createAll handler list).Leads (Session.Advances P) := by
  induction list with
  | nil => exact .pure ()
  | cons object rest ih =>
    obtain ⟨hmem, hrest⟩ := List.forall_mem_cons.1 hsub
    have hcreate : (handler.create (.object object)).Leads (Session.Advances P) :=
      DynamicHandler.advances_createObject h hmem
    exact .bind (.exchange hcreate _) fun _ ↦ .bind (.say _) fun _ ↦ ih hrest

section Leads

variable {R : Session → Session → Prop} [Std.Refl R] [Trans R R R]

theorem leads_watch {run : StateM Session (List WatchCall × WatchEnd)}
    (h : ∀ session : Session, R session (run.run session).2) (kind : Kind) :
    (watch kind run).Leads R := by
  refine .bind (.talk h) ?_
  rintro ⟨calls, ending⟩
  refine .bind (.say _) fun _ ↦ ?_
  cases ending with
  | failed error => exact .fail _
  | waiting => exact .pure ()

theorem leads_runConfig (command : ConfigCommand) : (runConfig command).Leads R := by
  cases command with
  | get key =>
    refine .bind .environment fun environment ↦ .bind .files fun files ↦ ?_
    refine .bind (.explain _ _) fun config ↦ ?_
    cases key with
    | some key => exact .bind (.orFail _) fun value ↦ .say _
    | none =>
      dsimp only
      cases config.toYaml? with
      | some text => exact .say text
      | none => exact .fail _
  | set key value =>
    refine .bind .files fun files ↦ .bind .environment fun environment ↦ ?_
    extract_lets path next
    have hnext (config : Config) : (next config).Leads R := by
      refine .bind (.explain _ _) fun config ↦ .bind (.of_session_eq fun _ ↦ rfl) fun _ ↦ ?_
      exact .bind (.explain _ _) fun _ ↦ .say _
    split
    · exact .bind (.orFail _) hnext
    · exact .bind (.pure _) hnext
  | path => exact .bind .environment fun environment ↦ .say _
  | validate =>
    refine .bind .environment fun environment ↦ .bind .files fun files ↦ ?_
    exact .bind (.orFail _) fun _ ↦ .say _

end Leads

/-- What is applied or created is what the file holds. -/
theorem mem_written_of_file {machine : Machine} {path : String} {data : ByteArray}
    {objects : List Object} (hdata : machine.files.read path = .ok data)
    (hobjects : Manifest.objects data = .ok objects) {object : Object} (hmem : object ∈ objects) :
    object ∈ (Command.apply path).written config machine ∧
      object ∈ (Command.create path).written config machine := by
  simpa [Command.written, hdata, hobjects, Except.toOption] using hmem

theorem read_eq_ok_of_file {files : FileTree} {path : String} {data : ByteArray}
    (h : File.read { path, content := (files.read path).toOption } = .ok data) :
    files.read path = .ok data := by
  cases hread : files.read path with
  | error fault =>
    rw [hread] at h
    cases h
  | ok found =>
    rw [hread] at h
    exact congrArg Except.ok (Except.ok.inj h)

theorem eq_ok_of_mapError {ε δ α : Type} {f : ε → δ} {result : Except ε α} {value : α}
    (h : result.mapError f = .ok value) : result = .ok value := by
  cases result with
  | error error => cases h
  | ok found => exact congrArg Except.ok (Except.ok.inj h)

section Writes

variable (h : config.dryRun = true) (progress : Progress)
include h

theorem advances_apply (path : String) :
    progress.machine.session.Advances ((Command.apply path).Rehearsal config progress.machine)
      ((runResource config (.apply path)).run.run progress).2.machine.session := by
  have honly := DynamicHandler.rehearses (DynamicHandler.dryRun_ofConfig h)
    ((Command.apply path).written config progress.machine)
  unfold runResource
  rw [run_file_bind]
  refine Leads.bind (.exchange (.lift_bind fun data hdata ↦ ?_) _) (fun _ ↦ .say _) progress
  refine DynamicHandler.advances_applyManifest honly fun found hfound object hmem ↦ ?_
  exact (mem_written_of_file (read_eq_ok_of_file hdata) hfound hmem).1

theorem advances_create (path : String) :
    progress.machine.session.Advances ((Command.create path).Rehearsal config progress.machine)
      ((runResource config (.create path)).run.run progress).2.machine.session := by
  have honly := DynamicHandler.rehearses (DynamicHandler.dryRun_ofConfig h)
    ((Command.create path).written config progress.machine)
  unfold runResource
  rw [run_files_bind]
  refine Leads.explain_bind (fun data hdata ↦ .orFail_bind fun found hfound ↦ ?_) progress
  refine advances_createAll honly fun object hmem ↦ ?_
  exact (mem_written_of_file (eq_ok_of_mapError hdata) (eq_ok_of_mapError hfound) hmem).2

theorem advances_deleteFile (path : String) :
    progress.machine.session.Advances ((Command.deleteFile path).Rehearsal config progress.machine)
      ((runResource config (.deleteFile path)).run.run progress).2.machine.session := by
  have honly := DynamicHandler.rehearses (DynamicHandler.dryRun_ofConfig h) []
  refine Leads.bind (.file path) (fun file ↦ .bind (.exchange ?_ _) fun _ ↦ .say _) progress
  exact .bind (.lift _) fun data ↦ DynamicHandler.advances_deleteManifest honly data

theorem advances_delete (kind : Kind) (name : String) :
    progress.machine.session.Advances ((Command.delete kind name).Rehearsal config progress.machine)
      ((runResource config (.delete kind name)).run.run progress).2.machine.session := by
  have hdry : (Handler.ofConfig kind config).options.DryRun := Handler.dryRun_ofConfig h
  have hdelete := @Handler.rehearses_delete _ [] hdry (.name name)
  exact Leads.bind (.exchange hdelete _) (fun _ ↦ .say _) progress

/-- The object that is patched is the one that the server has answered with. -/
theorem advances_patch (kind : Kind) (name path : String) (type : PatchType) :
    progress.machine.session.Advances
      ((Command.patch kind name path type).Rehearsal config progress.machine)
      ((runResource config (.patch kind name path type)).run.run progress).2.machine.session := by
  have hdry : (Handler.ofConfig kind config).options.DryRun := Handler.dryRun_ofConfig h
  have hget := Handler.rehearses_get (Handler.ofConfig kind config)
    ((Command.patch kind name path type).written config progress.machine) (.name name)
  refine (Leads.exchange hget _).bind_run fun existing after hrun ↦ ?_
  have hmem := mem_toList_of_eq_ok (ok_of_run_exchange hrun)
  rw [run_file_bind]
  have hpatch := Handler.rehearses_patch hdry hmem
    (.file { path, content := (after.machine.files.read path).toOption }) type
  exact Leads.bind (.exchange hpatch _) (fun _ ↦ .say _) after

end Writes

/-- Under a dry configuration every command on the cluster rehearses. -/
theorem rehearses_runResource (h : config.dryRun = true) (command : Command)
    (progress : Progress) :
    let after := ((runResource config command).run.run progress).2.machine.session
    progress.machine.session.Extends (command.Rehearsal config progress.machine after) after := by
  have hreads {command : Command}
      (hleads : (runResource config command).Leads (Session.Extends Request.Reads)) :
      let after := ((runResource config command).run.run progress).2.machine.session
      progress.machine.session.Extends (command.Rehearsal config progress.machine after) after :=
    (hleads progress).mono fun _ ↦ .of_reads
  cases command with
  | apply path => exact (advances_apply h progress path).extends_self
  | create path => exact (advances_create h progress path).extends_self
  | deleteFile path => exact (advances_deleteFile h progress path).extends_self
  | delete kind name => exact (advances_delete h progress kind name).extends_self
  | deleteNothing => exact hreads (.fail _)
  | get kind name =>
    have hget := (Handler.ofConfig kind config).reads_get (.name name)
    exact hreads (.bind (.exchange hget _) fun object ↦ .say _)
  | list kind selector everywhere =>
    refine hreads (.bind (.exchange ?_ _) fun objects ↦ .say _)
    cases everywhere with
    | true => exact Handler.reads_listAll _
    | false => exact Handler.reads_listByLabel _ selector
  | watchName kind name => exact hreads (leads_watch (Handler.reads_watchByName _ name) kind)
  | watchSelector kind selector =>
    exact hreads (leads_watch (Handler.reads_watchByLabel _ selector) kind)
  | patch kind name path type => exact (advances_patch h progress kind name path type).extends_self
  | kinds => exact hreads (.say _)
  | config command => exact hreads (leads_runConfig command)

/-- A command has a dry configuration if and only if the command line says so, or all layers could
be loaded and say so together. -/
theorem dryRun_override_iff {invocation : Invocation} {files : FileTree}
    {environment : Environment} :
    (invocation.override (loadOrDefault files environment)).dryRun = true ↔
      invocation.dryRun = true ∨ ∃ config, Config.loadLayers files environment
        (Config.path environment) = .ok config ∧ config.dryRun = true := by
  unfold Invocation.override loadOrDefault
  cases Config.loadLayers files environment (Config.path environment) with
  | error error => simp [Except.toOption]
  | ok config => simp [Except.toOption, or_comm]

theorem rehearses_runInvocation {invocation : Invocation} {progress : Progress}
    (h : (invocation.override (loadOrDefault progress.machine.files
      progress.machine.environment)).dryRun = true) :
    let config := invocation.override (loadOrDefault progress.machine.files
      progress.machine.environment)
    let after := ((runInvocation invocation).run.run progress).2.machine.session
    progress.machine.session.Extends
      (invocation.command.Rehearsal config progress.machine after) after := by
  intro config after
  unfold after runInvocation
  split
  · exact Leads.say _ progress
  · exact leads_runConfig _ progress
  · rw [run_files_bind, run_environment_bind]
    dsimp only
    cases config.target progress.machine.files progress.machine.environment with
    | error error => exact .refl _
    | ok target => exact rehearses_runResource h _ progress

/-- A command that was asked for a dry run rehearses, whatever the server answers. Asked on the
command line it does so in any case; asked by the variable it does so if the file with the
configuration can be loaded or is not there. -/
theorem rehearses_when_asked {arguments : List String} {machine : Machine}
    {invocation : Invocation} (hread : Invocation.ofArguments arguments = .ok invocation)
    (hasked : invocation.dryRun = true ∨
      machine.environment.get? "K8S_HANDLER_DRY_RUN" = some "true" ∧
        (machine.files.contains (Config.path machine.environment) = true →
          ∃ base, Config.load machine.files (Config.path machine.environment) = .ok base)) :
    let config := invocation.override (loadOrDefault machine.files machine.environment)
    let after := (run arguments machine).2.session
    machine.session.Extends (invocation.command.Rehearsal config machine after) after := by
  have hdry : (invocation.override (loadOrDefault machine.files
      machine.environment)).dryRun = true := by
    rw [dryRun_override_iff]
    rcases hasked with hflag | ⟨hvariable, hfile⟩
    · exact .inl hflag
    · obtain ⟨base, hload⟩ := Config.exists_loadLayers hfile
      exact .inr ⟨_, hload, base.dryRun_override hvariable⟩
  unfold run
  rw [hread]
  exact @rehearses_runInvocation invocation { machine } hdry

/-- A machine on which the variable asks for a dry run, with a cluster to talk to and other
files. -/
def dryMachine (others : List (Place × FileEntry)) : Machine where
  files.entries := (["cluster"], .file ("current-context: a\nclusters:\n- name: a\n" ++
    "  cluster:\n    server: /\ncontexts:\n- name: a\n  context:\n    cluster: a\n").toUTF8) ::
      others
  environment.values := [("K8S_HANDLER_CONFIG", "/config"), ("K8S_HANDLER_DRY_RUN", "true"),
    ("KUBECONFIG", "/cluster")]
  session := .new [] (.answer 200 .echo false)

theorem rehearses_when_asked_without_file :
    let arguments := ["delete", "configmap", "settings"]
    let machine := dryMachine []
    machine.session.Extends (Request.Rehearses fun _ _ ↦ False)
        (run arguments machine).2.session ∧
      (run arguments machine).2.session.requests.map (·.body.bind (·.get? "dryRun")) =
        [some (Json.strings ["All"])] := by
  intro arguments machine
  have hread : Invocation.ofArguments arguments =
      .ok { command := .delete .configMap "settings" } := by decide +kernel
  have hfile : machine.files.contains (Config.path machine.environment) = false := by
    decide +kernel
  have hrehearses := @rehearses_when_asked _ machine _ hread
    (.inr ⟨rfl, fun hcontains ↦ absurd (hfile.symm.trans hcontains) Bool.false_ne_true⟩)
  refine ⟨hrehearses.mono fun request hrequest ↦ hrequest.mono ?_, by decide +kernel⟩
  rintro path ⟨object, hmem, -⟩
  cases hmem

/-- A file that cannot be read as a configuration has the variable forgotten, and what was to be
rehearsed is done. -/
theorem deletes_despite_variable :
    let machine := dryMachine [(["config"], .file "[".toUTF8)]
    let deletion : Request := {
      method := .delete
      path := "/api/v1/namespaces/default/configmaps/settings"
      query := []
      contentType := some "application/json"
      body := some (.obj []) }
    machine.environment.get? "K8S_HANDLER_DRY_RUN" = some "true" ∧
      (run ["delete", "configmap", "settings"] machine).1 =
        { output := "ConfigMap/settings deleted\n" } ∧
      (run ["delete", "configmap", "settings"] machine).2.session.requests = [deletion] ∧
      ∀ meant, ¬ deletion.Rehearses meant := by
  intro machine deletion
  have hrun : (run ["delete", "configmap", "settings"] machine).1 =
        { output := "ConfigMap/settings deleted\n" } ∧
      (run ["delete", "configmap", "settings"] machine).2.session.requests = [deletion] := by
    decide +kernel
  refine ⟨rfl, hrun.1, hrun.2, ?_⟩
  intro meant hrehearses
  obtain ⟨body, hbody, hmark⟩ := hrehearses.delete rfl
  cases hbody
  cases hmark

end Cli

end ClusterObjects
