import ClusterObjects.Config.Layers
import ClusterObjects.Proofs.Config.Document
import ClusterObjects.Proofs.Host.FileTree

/-!
# Configurations that are saved

A configuration is loaded from the file that it was saved to, whatever it holds, and saving touches
no other file. A configuration that is not saved leaves all files as they were, unless there is no
room for all of it: then its own file holds a beginning of it.
-/

namespace ClusterObjects.Config

variable {files after : FileTree} {path : String} {config : Config}

theorem readText_eq_ok {text : String} :
    files.readText path = .ok text ↔
      ∃ data, files.read path = .ok data ∧ String.fromUTF8? data = some text := by
  unfold FileTree.readText
  rcases files.read path with fault | data
  · exact ⟨nofun, nofun⟩
  · simp only [bind, Except.bind]
    rcases htext : String.fromUTF8? data with _ | found
    · exact ⟨nofun, by rintro ⟨_, ⟨⟩, h⟩; exact nomatch htext.symm.trans h⟩
    · exact ⟨fun h ↦ ⟨data, rfl, htext.trans (congrArg some (Except.ok.inj h))⟩,
        by rintro ⟨_, ⟨⟩, h⟩; exact congrArg _ (Option.some.inj (htext.symm.trans h))⟩

theorem load_eq_ok :
    load files path = .ok config ↔
      ∃ text, files.readText path = .ok text ∧ ofYaml? text = some config := by
  unfold load
  split
  · rename_i hmissing
    refine ⟨nofun, fun ⟨text, htext, _⟩ ↦ ?_⟩
    obtain ⟨data, hdata, _⟩ := readText_eq_ok.mp htext
    simp [FileTree.contains_of_read hdata] at hmissing
  · rcases files.readText path with fault | text
    · exact ⟨nofun, nofun⟩
    · dsimp only
      rcases hread : ofYaml? text with _ | found
      · exact ⟨nofun, by rintro ⟨_, ⟨⟩, h⟩; exact nomatch hread.symm.trans h⟩
      · exact ⟨fun h ↦ ⟨text, rfl, hread.trans (congrArg some (Except.ok.inj h))⟩,
          by rintro ⟨_, ⟨⟩, h⟩; exact congrArg _ (Option.some.inj (hread.symm.trans h))⟩

/-! ## Saved -/

theorem save_of_made {made : FileTree}
    (h : files.ensureDirectory ((FilePath.parent? path).getD "") = (.ok (), made))
    (htext : config.NamesText) :
    save files path config =
      ((made.write path config.toYaml.toUTF8).1.mapError (.unwritable path),
        (made.write path config.toYaml.toUTF8).2) := by
  unfold save
  rw [h, toYaml?_eq_some_iff.mpr ⟨htext, rfl⟩]

/-- What is saved is written to a tree that has grown. -/
theorem exists_made_of_save (h : save files path config = (.ok (), after)) :
    config.NamesText ∧ ∃ made, FileTree.Grows files made ∧
      made.write path config.toYaml.toUTF8 = (.ok (), after) := by
  rcases hmade : files.ensureDirectory ((FilePath.parent? path).getD "") with ⟨_ | ⟨⟨⟩⟩, made⟩
  · unfold save at h
    rw [hmade] at h
    cases h
  · have hgrows := files.ensureDirectory_grows ((FilePath.parent? path).getD "")
    rw [hmade] at hgrows
    cases hyaml : config.toYaml? with
    | none =>
      unfold save at h
      rw [hmade, hyaml] at h
      cases h
    | some text =>
      have htext := (toYaml?_eq_some_iff.mp hyaml).1
      rw [save_of_made hmade htext] at h
      rcases hwrite : made.write path config.toYaml.toUTF8 with ⟨_ | ⟨⟨⟩⟩, written⟩
      · rw [hwrite] at h
        cases h
      · rw [hwrite] at h
        cases h
        exact ⟨htext, made, hgrows, hwrite⟩

/-- A configuration is loaded from where it was saved. -/
theorem load_of_save (h : save files path config = (.ok (), after)) :
    load after path = .ok config := by
  obtain ⟨htext, made, _, hwrite⟩ := exists_made_of_save h
  refine load_eq_ok.mpr
    ⟨config.toYaml, ?_, ofYaml?_of_toYaml? (toYaml?_eq_some_iff.mpr ⟨htext, rfl⟩)⟩
  exact readText_eq_ok.mpr ⟨_, FileTree.read_of_write hwrite, Yaml.fromUTF8?_toUTF8 _⟩

/-- Nothing but the file with the path differs after a file was written, save that there are
directories where nothing was. -/
structure OnlyFile (files after : FileTree) (path : String) : Prop where
  origin : after.origin = files.origin
  others : ∃ place, after.locate path = .ok place ∧ ∀ other, other ≠ place →
    after.entryAt? other = files.entryAt? other ∨
      files.entryAt? other = none ∧ after.entryAt? other = some .directory

theorem onlyFile_put {made : FileTree} {place : Place} (hgrows : FileTree.Grows files made)
    (hlocate : made.locate path = .ok place) (hplace : made.entryAt? place ≠ some .directory)
    (data : ByteArray) : OnlyFile files (made.put place (.file data)) path := by
  refine ⟨hgrows.origin, place, FileTree.locate_put_file hplace hlocate, fun other hother ↦ ?_⟩
  rw [FileTree.entryAt?_put_of_ne _ _ hother]
  exact hgrows.entries other

theorem onlyFile_of_save (h : save files path config = (.ok (), after)) :
    OnlyFile files after path := by
  obtain ⟨_, made, hgrows, hwrite⟩ := exists_made_of_save h
  obtain ⟨place, hlocate, hplace, rfl⟩ := FileTree.exists_put_of_write hwrite
  exact onlyFile_put hgrows hlocate hplace _

/-! ## Configurations that can be saved -/

/-- A path that is made of a text can be written. -/
theorem namesText_of_kubeconfig {text? : Option String}
    (h : config.kubeconfig = text?.map OsPath.ofText) : config.NamesText := by
  intro path hpath
  obtain ⟨text, -, rfl⟩ := Option.map_eq_some_iff.mp (h.symm.trans hpath)
  rw [OsPath.text?_eq_some_iff.mpr rfl]
  rfl

/-- What was read from a document can be written in one again. -/
theorem namesText_of_ofYaml? {text : String} (h : ofYaml? text = some config) :
    config.NamesText := by
  rw [ofYaml?, Option.bind_eq_bind, Option.bind_eq_some_iff] at h
  obtain ⟨root, -, h⟩ := h
  obtain ⟨⟨read, jumps⟩, hread, hconfig⟩ := Option.bind_eq_some_iff.mp h
  obtain rfl := Option.some.inj hconfig
  rw [ofNode] at hread
  simp only [StateT.run_bind, Option.bind_eq_bind, Option.bind_eq_some_iff] at hread
  obtain ⟨_, -, _, -, _, -, _, -, _, -, _, -, _, -, hread⟩ := hread
  cases hread
  exact namesText_of_kubeconfig rfl

theorem namesText_of_load (h : load files path = .ok config) : config.NamesText := by
  obtain ⟨text, -, htext⟩ := load_eq_ok.mp h
  exact namesText_of_ofYaml? htext

/-- A setting is a text, so a changed configuration can be saved like the one before. -/
theorem namesText_of_setNamed {changed : Config} {key value : String} (h : config.NamesText)
    (hset : config.setNamed key value = .ok changed) : changed.NamesText := by
  obtain ⟨key, -, hset⟩ := setNamed_eq_ok_iff.mp hset
  have hchanged := set_eq_ok_iff.mp hset
  cases key with
  | kubeconfig =>
    obtain rfl := hchanged
    exact namesText_of_kubeconfig rfl
  | context | fieldManager | informerNamespace =>
    obtain rfl := hchanged
    exact h
  | namespaceName =>
    obtain ⟨-, rfl⟩ := hchanged
    exact h
  | dryRun | resyncSeconds =>
    obtain ⟨_, -, rfl⟩ := hchanged
    exact h

/-! ## Not saved -/

/-- How the files are when a configuration is not saved: there was no file and none could be made,
the host refused to open or to make it, or there was no room for all that was to be written. -/
inductive Unsaved (files : FileTree) (path : String) (config : Config) : FileTree → Prop
  | unmade {after : FileTree} (hmissing : files.contains path = false)
    (hnever : ∀ other, ∃ error, (save files path other).1 = .error error)
    (hgrows : FileTree.Grows files after) : Unsaved files path config after
  | refused {after : FileTree} {place : Place} {fault : FileFault}
    (hplace : after.locate path = .ok place)
    (hrefusal : files.refusals.lookup place = some ⟨fault, none⟩)
    (hgrows : FileTree.Grows files after) : Unsaved files path config after
  | cut {after : FileTree} {place : Place} {fault : FileFault} {room : Nat}
    (hplace : after.locate path = .ok place)
    (hrefusal : files.refusals.lookup place = some ⟨fault, some room⟩)
    (hroom : room < config.toYaml.toUTF8.size)
    (hread : after.read path = .ok (config.toYaml.toUTF8.extract 0 room))
    (honly : OnlyFile files after path) : Unsaved files path config after

/-- The directory of a file that can be loaded need not be made. -/
theorem ensureDirectory_of_load (h : load files path = .ok config) :
    files.ensureDirectory ((FilePath.parent? path).getD "") = (.ok (), files) ∧
      ∃ place, files.locate path = .ok place ∧ files.entryAt? place ≠ some .directory := by
  obtain ⟨text, htext, _⟩ := load_eq_ok.mp h
  obtain ⟨data, hdata, _⟩ := readText_eq_ok.mp htext
  obtain ⟨place, hlocate, hplace⟩ := FileTree.read_eq_ok.mp hdata
  have hfile : files.entryAt? place ≠ some .directory := by simp [hplace]
  refine ⟨if_pos ?_, place, hlocate, hfile⟩
  rcases hparent : FilePath.parent? path with _ | parent
  · simp
  · cases hempty : parent.isEmpty with
    | true => simp [hempty]
    | false => simp [FileTree.contains_parent hlocate hfile hparent hempty]

/-- Where the path leads to no place for a file, no configuration is saved. -/
theorem exists_error_of_lost {made : FileTree}
    (hmade : files.ensureDirectory ((FilePath.parent? path).getD "") = (.ok (), made))
    (hlost : ∀ place, made.locate path = .ok place → made.entryAt? place = some .directory)
    (config : Config) : ∃ error, (save files path config).1 = .error error := by
  unfold save
  rw [hmade]
  dsimp only
  cases config.toYaml? with
  | none => exact ⟨_, rfl⟩
  | some text =>
    obtain ⟨fault, hwrite⟩ := FileTree.exists_fault_of_lost hlost text.toUTF8
    dsimp only
    rw [hwrite]
    exact ⟨_, rfl⟩

/-- Where there is no file, or one that can be loaded, a configuration that is not saved leaves the
files in one of three ways. -/
theorem unsaved_of_save {error : ConfigError} (htext : config.NamesText)
    (hfile : files.contains path = true → ∃ loaded, load files path = .ok loaded)
    (h : save files path config = (.error error, after)) : Unsaved files path config after := by
  rcases hmade : files.ensureDirectory ((FilePath.parent? path).getD "") with ⟨fault | ⟨⟨⟩⟩, made⟩
  · have hgrows := files.ensureDirectory_grows ((FilePath.parent? path).getD "")
    have hsave (other : Config) : save files path other = (.error (.noDirectory fault), made) := by
      unfold save
      rw [hmade]
    rw [hmade] at hgrows
    obtain ⟨-, rfl⟩ := Prod.mk.inj ((hsave config).symm.trans h)
    refine .unmade (Bool.eq_false_iff.mpr fun hfound ↦ ?_)
      (fun other ↦ ⟨_, congrArg Prod.fst (hsave other)⟩) hgrows
    obtain ⟨loaded, hload⟩ := hfile hfound
    cases hmade.symm.trans (ensureDirectory_of_load hload).1
  · have hgrows := files.ensureDirectory_grows ((FilePath.parent? path).getD "")
    rw [hmade] at hgrows
    have hwrites := made.writes_write path config.toYaml.toUTF8
    rw [save_of_made hmade htext] at h
    obtain ⟨hresult, rfl⟩ := Prod.mk.inj h
    generalize hwrite : made.write path config.toYaml.toUTF8 = outcome at hwrites hresult ⊢
    cases hwrites with
    | lost fault hlost =>
      refine .unmade (Bool.eq_false_iff.mpr fun hfound ↦ ?_)
        (exists_error_of_lost hmade hlost) hgrows
      obtain ⟨loaded, hload⟩ := hfile hfound
      obtain ⟨hkept, place, hplace, hentry⟩ := ensureDirectory_of_load hload
      obtain ⟨-, rfl⟩ := Prod.mk.inj (hkept.symm.trans hmade)
      exact hentry (hlost place hplace)
    | refused hplace hentry hrefusal =>
      exact .refused hplace (hgrows.refusals ▸ hrefusal) hgrows
    | @cut place _ room hplace hentry hrefusal hroom =>
      have hlocate : (made.put place (.file (config.toYaml.toUTF8.extract 0 room))).locate path =
          .ok place := FileTree.locate_put_file hentry hplace
      refine .cut hlocate (hgrows.refusals ▸ hrefusal) hroom ?_
        (onlyFile_put hgrows hplace hentry _)
      exact FileTree.read_eq_ok.mpr ⟨_, hlocate,
        FileTree.entryAt?_put_self _ _ (FileTree.ne_nil_of_entryAt?_ne hentry)⟩
    | done hplace hentry hadmits => cases hresult

end ClusterObjects.Config
