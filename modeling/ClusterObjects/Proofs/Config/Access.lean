import ClusterObjects.Config.Access
import ClusterObjects.Proofs.Decimal.Unsigned
import ClusterObjects.Proofs.Handler.Apply
import ClusterObjects.Proofs.Host.FileTree

/-!
# Settings are a lens

The two tables of settings, one to read and one to write, agree on every key: what was written is
read back, nothing else reads differently, and of two writes to one key the later one counts. A
value that was read can be written again, and nothing changes, for just those configurations in
which no text that may be absent is empty, the namespace is named and the path of the kubeconfig is
a text: of any other path it is only read how it is shown.
-/

namespace ClusterObjects

namespace ConfigKey

theorem ofName?_eq_some_iff {name : String} {key : ConfigKey} :
    ofName? name = some key ↔ name = key.name := by
  constructor
  · intro h
    have hname := List.find?_some h
    exact (beq_iff_eq.mp hname).symm
  · rintro rfl
    cases key <;> decide +kernel

/-- The setting accepts the value, and then reads as `shown`. -/
def Takes (key : ConfigKey) (value shown : String) : Prop :=
  match key with
  | .kubeconfig | .context | .fieldManager | .informerNamespace => shown = value
  | .namespaceName => value ≠ "" ∧ shown = value
  | .dryRun => (value = "true" ∨ value = "false") ∧ shown = value
  | .resyncSeconds => ∃ n : UInt64, Decimal.Denotes value n.toNat ∧ shown = toString n.toNat

end ConfigKey

namespace Config

variable {config after : Config} {key other : ConfigKey} {name value shown : String}

/-! ## One setting -/

theorem truthWord?_eq_some_iff {dryRun : Bool} :
    truthWord? value = some dryRun ↔ value = toString dryRun := by
  have htrue : toString true = "true" := rfl
  have hfalse : toString false = "false" := rfl
  cases dryRun <;> grind [truthWord?]

theorem getD_nonEmpty? (value : String) : (nonEmpty? value).getD "" = value := by
  rcases h : nonEmpty? value with _ | own
  · exact (nonEmpty?_eq_none_iff.mp h).symm
  · exact (nonEmpty?_eq_some_iff.mp h).2.symm

theorem nonEmpty?_getD_iff {text? : Option String} :
    nonEmpty? (text?.getD "") = text? ↔ text? ≠ some "" := by
  rcases text? with _ | text
  · exact ⟨nofun, fun _ ↦ nonEmpty?_eq_none_iff.mpr rfl⟩
  · simp [nonEmpty?_eq_some_iff]

/-- `after` is the configuration with the setting changed to a value that it accepts. -/
def Changed (config : Config) (key : ConfigKey) (value : String) (after : Config) : Prop :=
  match key with
  | .kubeconfig => after = { config with kubeconfig := (nonEmpty? value).map OsPath.ofText }
  | .context => after = { config with context := nonEmpty? value }
  | .namespaceName => value ≠ "" ∧ after = { config with namespaceName := value }
  | .fieldManager => after = { config with fieldManager := nonEmpty? value }
  | .dryRun => ∃ dryRun : Bool, value = toString dryRun ∧ after = { config with dryRun }
  | .resyncSeconds => ∃ resyncSeconds : UInt64, Decimal.Denotes value resyncSeconds.toNat ∧
      after = { config with informer := { config.informer with resyncSeconds } }
  | .informerNamespace =>
    after = { config with informer := { config.informer with namespaceName := value } }

theorem set_eq_ok_iff : config.set key value = .ok after ↔ config.Changed key value after := by
  cases key with
  | kubeconfig | context | fieldManager | informerNamespace =>
    rw [set, Except.ok.injEq, eq_comm]
    rfl
  | namespaceName =>
    rw [set, Changed]
    split
    · rename_i hempty
      exact iff_of_false (by simp) fun h ↦ absurd (String.isEmpty_iff.mp hempty) h.1
    · rename_i hempty
      rw [Except.ok.injEq, eq_comm, and_iff_right (mt String.isEmpty_iff.mpr hempty)]
  | dryRun =>
    rw [set, Changed]
    simp only [← truthWord?_eq_some_iff]
    rcases truthWord? value with _ | dryRun
    · simp
    · simp [eq_comm]
  | resyncSeconds =>
    rw [set, Changed]
    simp only [← Decimal.unsigned64_eq_ok_iff]
    rcases Decimal.unsigned64 value with fault | resyncSeconds
    · simp
    · simp [eq_comm]

/-- A value is accepted whatever the rest of the configuration holds. -/
theorem exists_set_eq_ok_iff :
    (∃ after, config.set key value = .ok after) ↔ ∃ shown, key.Takes value shown := by
  simp only [set_eq_ok_iff]
  cases key with
  | dryRun =>
    constructor
    · rintro ⟨_, dryRun, rfl, -⟩
      exact ⟨_, by cases dryRun <;> decide, rfl⟩
    · rintro ⟨_, rfl | rfl, -⟩
      · exact ⟨_, true, rfl, rfl⟩
      · exact ⟨_, false, rfl, rfl⟩
  | _ => simp [Changed, ConfigKey.Takes]

/-- What was written is read back. -/
theorem takes_of_set (h : config.set key value = .ok after) : key.Takes value (after.get key) := by
  have h := set_eq_ok_iff.mp h
  cases key with
  | kubeconfig =>
    obtain rfl := h
    have hshown : ((nonEmpty? value).map OsPath.ofText).map OsPath.shown = nonEmpty? value := by
      cases nonEmpty? value <;> simp
    exact (congrArg (Option.getD · "") hshown).trans (getD_nonEmpty? value)
  | context | fieldManager =>
    obtain rfl := h
    exact getD_nonEmpty? value
  | namespaceName =>
    obtain ⟨hvalue, rfl⟩ := h
    exact ⟨hvalue, rfl⟩
  | dryRun =>
    obtain ⟨dryRun, rfl, rfl⟩ := h
    exact ⟨by cases dryRun <;> decide, rfl⟩
  | resyncSeconds =>
    obtain ⟨resyncSeconds, hvalue, rfl⟩ := h
    exact ⟨resyncSeconds, hvalue, rfl⟩
  | informerNamespace =>
    obtain rfl := h
    rfl

/-- Nothing but the setting itself reads differently. -/
theorem get_of_set (h : config.set key value = .ok after) (hother : other ≠ key) :
    after.get other = config.get other := by
  have h := set_eq_ok_iff.mp h
  cases key with
  | kubeconfig | context | fieldManager | informerNamespace =>
    obtain rfl := h
    cases other <;> first | rfl | exact absurd rfl hother
  | namespaceName =>
    obtain ⟨-, rfl⟩ := h
    cases other <;> first | rfl | exact absurd rfl hother
  | dryRun | resyncSeconds =>
    obtain ⟨_, -, rfl⟩ := h
    cases other <;> first | rfl | exact absurd rfl hother

/-- A write forgets what an earlier one to the same setting left. -/
theorem set_of_set (h : config.set key value = .ok after) (second : String) :
    after.set key second = config.set key second := by
  have h := set_eq_ok_iff.mp h
  cases key with
  | kubeconfig | context | fieldManager | informerNamespace =>
    obtain rfl := h
    rfl
  | namespaceName =>
    obtain ⟨-, rfl⟩ := h
    rfl
  | dryRun | resyncSeconds =>
    obtain ⟨_, -, rfl⟩ := h
    rfl

/-- No setting that may be absent is empty, and the namespace is named. -/
structure IsPlain (config : Config) : Prop where
  kubeconfig : config.kubeconfig ≠ some (.ofText "")
  context : config.context ≠ some ""
  fieldManager : config.fieldManager ≠ some ""
  namespaceName : config.namespaceName ≠ ""

/-- The kubeconfig, if one is named, has a text for a path. -/
def NamesText (config : Config) : Prop :=
  ∀ path, config.kubeconfig = some path → path.text?.isSome = true

/-- A path is written as it is shown. -/
theorem map_ofText_nonEmpty?_iff {path? : Option OsPath} :
    (nonEmpty? ((path?.map OsPath.shown).getD "")).map OsPath.ofText = path? ↔
      path? ≠ some (.ofText "") ∧ ∀ path, path? = some path → path.text?.isSome = true := by
  rcases path? with _ | path
  · simp [nonEmpty?_eq_none_iff.mpr rfl]
  · rw [Option.map_some, Option.getD_some]
    by_cases hshown : path.shown = ""
    · rw [hshown, nonEmpty?_eq_none_iff.mpr rfl]
      refine iff_of_false nofun fun ⟨hne, htext⟩ ↦ hne ?_
      rw [← hshown, OsPath.ofText_shown_iff.mpr (htext path rfl)]
    · have hne : path ≠ .ofText "" := by
        rintro rfl
        exact hshown (OsPath.shown_ofText "")
      rw [nonEmpty?_eq_some_iff.mpr ⟨hshown, rfl⟩, Option.map_some, Option.some.injEq,
        OsPath.ofText_shown_iff]
      simp [hne]

/-- A value that was read is accepted again, and changes nothing, unless an empty text was read for
one that is there or a path is no text. -/
theorem forall_set_get_iff :
    (∀ key, config.set key (config.get key) = .ok config) ↔
      config.IsPlain ∧ config.NamesText := by
  simp only [set_eq_ok_iff]
  constructor
  · intro h
    have hkubeconfig := congrArg Config.kubeconfig (h .kubeconfig)
    have hcontext := congrArg Config.context (h .context)
    have hmanager := congrArg Config.fieldManager (h .fieldManager)
    obtain ⟨hpath, htext⟩ := map_ofText_nonEmpty?_iff.mp hkubeconfig.symm
    exact ⟨⟨hpath, nonEmpty?_getD_iff.mp hcontext.symm, nonEmpty?_getD_iff.mp hmanager.symm,
      (h .namespaceName).1⟩, htext⟩
  · rintro ⟨⟨hkubeconfig, hcontext, hmanager, hnamespace⟩, htext⟩ key
    cases key with
    | kubeconfig => rw [Changed, get, map_ofText_nonEmpty?_iff.mpr ⟨hkubeconfig, htext⟩]
    | context => rw [Changed, get, nonEmpty?_getD_iff.mpr hcontext]
    | fieldManager => rw [Changed, get, nonEmpty?_getD_iff.mpr hmanager]
    | namespaceName => exact ⟨hnamespace, rfl⟩
    | dryRun => exact ⟨config.dryRun, rfl, rfl⟩
    | resyncSeconds => exact ⟨config.informer.resyncSeconds, Decimal.denotes_toString _, rfl⟩
    | informerNamespace => rfl

/-! ## Settings by name -/

theorem setNamed_of_ofName? (h : ConfigKey.ofName? name = some key) (config : Config) :
    config.setNamed name value = config.set key value := by
  rw [setNamed, Config.key, h]
  rfl

theorem getNamed_of_ofName? (h : ConfigKey.ofName? name = some key) (config : Config) :
    config.getNamed name = .ok (config.get key) := by
  rw [getNamed, Config.key, h]
  rfl

theorem getNamed_of_ofName?_eq_none (h : ConfigKey.ofName? name = none) (config : Config) :
    config.getNamed name = .error (.unknownKey name) := by
  rw [getNamed, Config.key, h]
  rfl

theorem setNamed_of_ofName?_eq_none (h : ConfigKey.ofName? name = none) (config : Config) :
    config.setNamed name value = .error (.unknownKey name) := by
  rw [setNamed, Config.key, h]
  rfl

theorem setNamed_eq_ok_iff :
    config.setNamed name value = .ok after ↔
      ∃ key, ConfigKey.ofName? name = some key ∧ config.set key value = .ok after := by
  rcases hkey : ConfigKey.ofName? name with _ | key
  · simp [setNamed_of_ofName?_eq_none hkey]
  · simp [setNamed_of_ofName? hkey]

theorem getNamed_of_setNamed (h : config.setNamed name value = .ok after) {other : String}
    (hother : other ≠ name) : after.getNamed other = config.getNamed other := by
  obtain ⟨key, hkey, hset⟩ := setNamed_eq_ok_iff.mp h
  rcases hread : ConfigKey.ofName? other with _ | read
  · rw [getNamed_of_ofName?_eq_none hread, getNamed_of_ofName?_eq_none hread]
  · have hne : read ≠ key := by
      rintro rfl
      exact hother ((ConfigKey.ofName?_eq_some_iff.mp hread).trans
        (ConfigKey.ofName?_eq_some_iff.mp hkey).symm)
    rw [getNamed_of_ofName? hread, getNamed_of_ofName? hread, get_of_set hset hne]

/-- Writes the setting with a name in place: the answer, and the configuration that is left. -/
def assign (config : Config) (name value : String) : Except ConfigError Unit × Config :=
  match config.setNamed name value with
  | .ok after => (.ok (), after)
  | .error error => (.error error, config)

/-- Writing a setting succeeds exactly for a value that it accepts. The value is then read back, the
other settings read as before, and a second write to the setting does what it would have done
without the first. A write that fails leaves everything as it was. What is read can be written
back without a change in every configuration whose optional settings are absent or not empty, whose
namespace is named and whose kubeconfig has a text for a path, and in no other. -/
theorem assign_lens (config : Config) (name value : String) :
    (match config.assign name value with
      | (.ok _, after) =>
        (∃ key shown, ConfigKey.ofName? name = some key ∧ key.Takes value shown ∧
          after.getNamed name = .ok shown) ∧
        (∀ other, other ≠ name → after.getNamed other = config.getNamed other) ∧
        ∀ second, after.setNamed name second = config.setNamed name second
      | (.error _, after) =>
        after = config ∧
        ¬ ∃ key shown, ConfigKey.ofName? name = some key ∧ key.Takes value shown) ∧
    (config.IsPlain ∧ config.NamesText ↔ ∀ name key, ConfigKey.ofName? name = some key →
      ∃ value, config.getNamed name = .ok value ∧ config.assign name value = (.ok (), config)) := by
  constructor
  · unfold assign
    rcases hset : config.setNamed name value with error | after
    · refine ⟨rfl, fun ⟨key, shown, hkey, htakes⟩ ↦ ?_⟩
      obtain ⟨after, hafter⟩ := exists_set_eq_ok_iff.mpr ⟨shown, htakes⟩
      exact nomatch hset.symm.trans (setNamed_eq_ok_iff.mpr ⟨key, hkey, hafter⟩)
    · obtain ⟨key, hkey, hafter⟩ := setNamed_eq_ok_iff.mp hset
      refine ⟨⟨key, after.get key, hkey, takes_of_set hafter, getNamed_of_ofName? hkey after⟩,
        fun other ↦ getNamed_of_setNamed hset, fun second ↦ ?_⟩
      rw [setNamed_of_ofName? hkey, setNamed_of_ofName? hkey, set_of_set hafter]
  · rw [← forall_set_get_iff]
    constructor
    · intro h name key hkey
      refine ⟨config.get key, getNamed_of_ofName? hkey config, ?_⟩
      rw [assign, setNamed_of_ofName? hkey, h key]
    · intro h key
      have hkey := ConfigKey.ofName?_eq_some_iff.mpr (rfl : key.name = key.name)
      obtain ⟨value, hvalue, hassign⟩ := h key.name key hkey
      obtain rfl := Except.ok.inj ((getNamed_of_ofName? hkey config).symm.trans hvalue)
      rw [assign, setNamed_of_ofName? hkey] at hassign
      rcases hset : config.set key (config.get key) with error | after
      · rw [hset] at hassign
        exact nomatch congrArg Prod.fst hassign
      · rw [hset] at hassign
        exact congrArg Except.ok (congrArg Prod.snd hassign)

/-- A path of one byte that begins no character is shown as a mark, and the mark is the text of
another path. -/
theorem exists_plain_changed_by_reading :
    let config : Config := { kubeconfig := some ⟨[0xFF]⟩ }
    config.IsPlain ∧ config.getNamed "kubeconfig" = .ok "\ufffd" ∧
      (config.assign "kubeconfig" "\ufffd").1 = .ok () ∧
      (config.assign "kubeconfig" "\ufffd").2 ≠ config := by
  intro config
  have hplain : config.IsPlain := ⟨by decide +kernel, nofun, nofun, by decide⟩
  exact ⟨hplain, by decide +kernel⟩

/-- A number may have a sign and leading zeros, and is read back without them. -/
example : (Config.assign {} "informer.resyncSeconds" "+007").2.getNamed "informer.resyncSeconds" =
    .ok "7" := by decide +kernel

end Config

end ClusterObjects
