import ClusterObjects.Host.OsPath
import ClusterObjects.Proofs.Lookup
import ClusterObjects.Proofs.Text.Encoding

/-!
# What a change of files keeps

Making directories and writing a file are the only changes of a tree. A tree grows when directories
are made where nothing was, and then every path that could be followed leads where it did. A file
that was written is read back, and nothing else is another file than before. A write that the host
refuses changes nothing, or leaves a beginning of the data.
-/

namespace ClusterObjects

/-! ## Texts in parts -/

namespace Text

variable {separator : Char}

theorem splitFrom_of_not_mem {cs : List Char} (h : separator ∉ cs) (part : List Char) :
    splitFrom separator part cs = [part.reverse ++ cs] := by
  induction cs generalizing part with
  | nil => simp [splitFrom]
  | cons c cs ih =>
    obtain ⟨hc, hcs⟩ := not_or.mp (mt List.mem_cons.mpr h)
    rw [splitFrom, if_neg (by simpa using Ne.symm hc), ih hcs]
    simp

theorem splitFrom_append_separator {cs : List Char} (h : separator ∉ cs) (part rest : List Char) :
    splitFrom separator part (cs ++ separator :: rest) =
      (part.reverse ++ cs) :: splitFrom separator [] rest := by
  induction cs generalizing part with
  | nil => simp [splitFrom]
  | cons c cs ih =>
    obtain ⟨hc, hcs⟩ := not_or.mp (mt List.mem_cons.mpr h)
    rw [List.cons_append, splitFrom, if_neg (by simpa using Ne.symm hc), ih hcs]
    simp

theorem not_mem_of_mem_splitFrom {cs part : List Char} (hpart : separator ∉ part)
    {found : List Char} (h : found ∈ splitFrom separator part cs) : separator ∉ found := by
  induction cs generalizing part with
  | nil =>
    obtain rfl : found = part.reverse := by simpa [splitFrom] using h
    simpa using hpart
  | cons c cs ih =>
    rw [splitFrom] at h
    split at h
    · rcases List.mem_cons.mp h with rfl | h
      · simpa using hpart
      · exact ih (by simp) h
    · rename_i hc
      exact ih (by simpa [hpart] using Ne.symm (by simpa using hc)) h

theorem splitFrom_ne_nil (part cs : List Char) : splitFrom separator part cs ≠ [] := by
  induction cs generalizing part with
  | nil => simp [splitFrom]
  | cons c cs ih =>
    rw [splitFrom]
    split
    · simp
    · exact ih _

theorem split_ne_nil (text : String) : split separator text ≠ [] :=
  mt List.map_eq_nil_iff.mp (splitFrom_ne_nil [] text.toList)

/-- No part of a text holds the separator. -/
theorem not_mem_of_mem_split {text part : String} (h : part ∈ split separator text) :
    separator ∉ part.toList := by
  obtain ⟨cs, hcs, rfl⟩ := List.mem_map.mp h
  rw [String.toList_ofList]
  exact not_mem_of_mem_splitFrom (by simp) hcs

/-- Parts that are joined by separators are found again. -/
theorem split_intercalate {parts : List String} (hne : parts ≠ [])
    (h : ∀ part ∈ parts, separator ∉ part.toList) :
    split separator (String.intercalate (String.singleton separator) parts) = parts := by
  induction parts with
  | nil => exact absurd rfl hne
  | cons first rest ih =>
    have hfirst := h first (by simp)
    cases rest with
    | nil => simp [split, splitFrom_of_not_mem hfirst]
    | cons second rest =>
      have hrest := ih (by simp) fun part hpart ↦ h part (by simp [hpart])
      rw [split, String.intercalate_cons_cons, String.toList_append, String.toList_append,
        String.toList_singleton, List.append_assoc, List.singleton_append,
        splitFrom_append_separator hfirst, List.map_cons]
      simpa [split] using hrest

theorem split_separator_append (text : String) :
    split separator (String.singleton separator ++ text) = "" :: split separator text := by
  simp [split, splitFrom]

end Text

namespace FileTree

variable {tree after : FileTree} {place : Place} {names : List String}

/-! ## Entries -/

@[simp] theorem entryAt?_nil (tree : FileTree) : tree.entryAt? [] = some .directory := rfl

theorem entryAt?_put_self (tree : FileTree) (entry : FileEntry) (h : place ≠ []) :
    (tree.put place entry).entryAt? place = some entry := by
  simp [entryAt?, put, h]

theorem entryAt?_put_of_ne (tree : FileTree) (entry : FileEntry) {other : Place}
    (h : other ≠ place) : (tree.put place entry).entryAt? other = tree.entryAt? other := by
  have hlookup : ((place, entry) :: tree.entries.filter (·.1 != place)).lookup other =
      tree.entries.lookup other := by
    rw [Lookup.lookup_cons, if_neg h, Lookup.lookup_filter_key (· != place),
      if_pos (by simpa using h)]
  simp only [entryAt?, put, hlookup]

/-- The root is a directory, so a place where there is something else is not the root. -/
theorem ne_nil_of_entryAt?_ne (h : tree.entryAt? place ≠ some .directory) : place ≠ [] := by
  rintro rfl
  exact h rfl

theorem requireDirectory_eq_ok :
    tree.requireDirectory place = .ok () ↔ tree.entryAt? place = some .directory := by
  unfold requireDirectory
  rcases tree.entryAt? place with _ | (_ | _) <;> simp

/-! ## Paths lead where they did -/

theorem walk_cons_eq_ok {name : String} {goal : Place} :
    tree.walk place (name :: names) = .ok goal ↔
      tree.entryAt? place = some .directory ∧ tree.walk (step place name) names = .ok goal := by
  rw [walk, ← requireDirectory_eq_ok]
  rcases tree.requireDirectory place with fault | ⟨⟨⟩⟩
  · exact ⟨nofun, fun h ↦ nomatch h.1⟩
  · exact ⟨fun h ↦ ⟨rfl, h⟩, fun h ↦ h.2⟩

/-- Where all directories stay, a walk leads to the same place. -/
theorem walk_of_directories
    (h : ∀ place, tree.entryAt? place = some .directory → after.entryAt? place = some .directory)
    {goal : Place} (hwalk : tree.walk place names = .ok goal) :
    after.walk place names = .ok goal := by
  induction names generalizing place with
  | nil => exact hwalk
  | cons name names ih =>
    rw [walk_cons_eq_ok] at hwalk ⊢
    exact ⟨h place hwalk.1, ih hwalk.2⟩

theorem locate_of_directories (horigin : after.origin = tree.origin)
    (h : ∀ place, tree.entryAt? place = some .directory → after.entryAt? place = some .directory)
    {path : String} (hlocate : tree.locate path = .ok place) : after.locate path = .ok place := by
  unfold locate start at hlocate ⊢
  rw [horigin]
  split at hlocate
  · cases hlocate
  · rename_i hpath
    rw [if_neg hpath]
    exact walk_of_directories h hlocate

/-! ## Directories that are made -/

/-- Nothing but directories was added to the tree, and only where nothing was. -/
structure Grows (tree after : FileTree) : Prop where
  origin : after.origin = tree.origin
  refusals : after.refusals = tree.refusals
  entries : ∀ place, after.entryAt? place = tree.entryAt? place ∨
    tree.entryAt? place = none ∧ after.entryAt? place = some .directory

namespace Grows

theorem refl (tree : FileTree) : Grows tree tree := ⟨rfl, rfl, fun _ ↦ .inl rfl⟩

theorem trans {last : FileTree} (h : Grows tree after) (h' : Grows after last) :
    Grows tree last := by
  refine ⟨h'.origin.trans h.origin, h'.refusals.trans h.refusals, fun place ↦ ?_⟩
  rcases h'.entries place with heq | ⟨hnone, hmade⟩
  · rw [heq]
    exact h.entries place
  · rcases h.entries place with heq | ⟨_, hmade'⟩
    · exact .inr ⟨heq ▸ hnone, hmade⟩
    · exact nomatch hnone.symm.trans hmade'

theorem put_directory (h : tree.entryAt? place = none) :
    Grows tree (tree.put place .directory) := by
  refine ⟨rfl, rfl, fun other ↦ ?_⟩
  by_cases hother : other = place
  · subst hother
    have hne : tree.entryAt? other ≠ some .directory := by simp [h]
    exact .inr ⟨h, entryAt?_put_self _ _ (ne_nil_of_entryAt?_ne hne)⟩
  · exact .inl (entryAt?_put_of_ne _ _ hother)

/-- What there was is there still. -/
theorem keeps (h : Grows tree after) {entry : FileEntry}
    (hentry : tree.entryAt? place = some entry) :
    after.entryAt? place = some entry := by
  rcases h.entries place with heq | ⟨hnone, _⟩
  · exact heq.trans hentry
  · exact nomatch hnone.symm.trans hentry

theorem locate (h : Grows tree after) {path : String} (hlocate : tree.locate path = .ok place) :
    after.locate path = .ok place :=
  locate_of_directories h.origin (fun _ ↦ h.keeps) hlocate

end Grows

theorem makeAlong_grows (tree : FileTree) (place : Place) (names : List String) :
    Grows tree (tree.makeAlong place names).2 := by
  induction names generalizing tree place with
  | nil => exact .refl _
  | cons name names ih =>
    rw [makeAlong]
    rcases hentry : tree.entryAt? (step place name) with _ | (_ | _)
    · dsimp only
      rcases tree.refusals.lookup (step place name) with _ | refusal
      · exact (Grows.put_directory hentry).trans (ih _ _)
      · exact .refl _
    · exact ih _ _
    · exact .refl _

theorem ensureDirectory_grows (tree : FileTree) (path : String) :
    Grows tree (tree.ensureDirectory path).2 := by
  unfold ensureDirectory
  split
  · exact .refl _
  · exact makeAlong_grows _ _ _

/-! ## Files that are written -/

/-- Whether the host lets so many bytes be written at a place. -/
def Admits (tree : FileTree) (place : Place) (size : Nat) : Prop :=
  ∀ refusal, tree.refusals.lookup place = some refusal →
    ∃ room, refusal.room = some room ∧ size ≤ room

/-- How a write ends: it finds no place for a file, is refused, is cut short, or goes well. -/
inductive Writes (tree : FileTree) (path : String) (data : ByteArray) :
    Except FileFault Unit × FileTree → Prop
  | lost (fault : FileFault)
    (hlost : ∀ place, tree.locate path = .ok place → tree.entryAt? place = some .directory) :
    Writes tree path data (.error fault, tree)
  | refused {place : Place} {fault : FileFault} (hplace : tree.locate path = .ok place)
    (hentry : tree.entryAt? place ≠ some .directory)
    (hrefusal : tree.refusals.lookup place = some ⟨fault, none⟩) :
    Writes tree path data (.error fault, tree)
  | cut {place : Place} {fault : FileFault} {room : Nat} (hplace : tree.locate path = .ok place)
    (hentry : tree.entryAt? place ≠ some .directory)
    (hrefusal : tree.refusals.lookup place = some ⟨fault, some room⟩) (hroom : room < data.size) :
    Writes tree path data (.error fault, tree.put place (.file (data.extract 0 room)))
  | done {place : Place} (hplace : tree.locate path = .ok place)
    (hentry : tree.entryAt? place ≠ some .directory) (hadmits : tree.Admits place data.size) :
    Writes tree path data (.ok (), tree.put place (.file data))

theorem writes_write (tree : FileTree) (path : String) (data : ByteArray) :
    Writes tree path data (tree.write path data) := by
  unfold write
  cases hplace : tree.locate path with
  | error fault => exact .lost fault fun place h ↦ nomatch hplace.symm.trans h
  | ok place =>
    dsimp only
    split_ifs with hentry
    · refine .lost _ fun other hother ↦ ?_
      obtain rfl := Except.ok.inj (hplace.symm.trans hother)
      exact hentry
    · rcases hrefusal : tree.refusals.lookup place with _ | ⟨fault, _ | room⟩
      · exact .done hplace hentry fun refusal h ↦ nomatch hrefusal.symm.trans h
      · exact .refused hplace hentry hrefusal
      · dsimp only
        split_ifs with hsize
        · refine .done hplace hentry fun refusal h ↦ ?_
          obtain rfl := Option.some.inj (hrefusal.symm.trans h)
          exact ⟨room, rfl, hsize⟩
        · exact .cut hplace hentry hrefusal (Nat.lt_of_not_le hsize)

/-- A path that leads to no place for a file is not written, whatever the data. -/
theorem exists_fault_of_lost {path : String}
    (hlost : ∀ place, tree.locate path = .ok place → tree.entryAt? place = some .directory)
    (data : ByteArray) : ∃ fault, tree.write path data = (.error fault, tree) := by
  have hwrites := tree.writes_write path data
  generalize tree.write path data = outcome at hwrites ⊢
  cases hwrites with
  | lost fault _ => exact ⟨fault, rfl⟩
  | refused hplace hentry _ | cut hplace hentry _ _ | done hplace hentry _ =>
    exact absurd (hlost _ hplace) hentry

/-- A write that goes well puts the data at the place of its path. -/
theorem exists_put_of_write {path : String} {data : ByteArray}
    (h : tree.write path data = (.ok (), after)) :
    ∃ place, tree.locate path = .ok place ∧ tree.entryAt? place ≠ some .directory ∧
      after = tree.put place (.file data) := by
  have hwrites := writes_write tree path data
  rw [h] at hwrites
  cases hwrites with
  | done hplace hentry _ => exact ⟨_, hplace, hentry, rfl⟩

/-- A path leads to the same place after a file was written. -/
theorem locate_put_file {path : String} {data : ByteArray} {goal : Place}
    (hentry : tree.entryAt? place ≠ some .directory) (h : tree.locate path = .ok goal) :
    (tree.put place (.file data)).locate path = .ok goal := by
  have hstay (other : Place) (hother : tree.entryAt? other = some .directory) :
      (tree.put place (.file data)).entryAt? other = some .directory := by
    rwa [entryAt?_put_of_ne]
    rintro rfl
    exact hentry hother
  have horigin : (tree.put place (.file data)).origin = tree.origin := rfl
  exact locate_of_directories horigin hstay h

theorem read_eq_ok {path : String} {data : ByteArray} :
    tree.read path = .ok data ↔
      ∃ place, tree.locate path = .ok place ∧ tree.entryAt? place = some (.file data) := by
  unfold read
  rcases tree.locate path with fault | place
  · exact ⟨nofun, nofun⟩
  · simp only [bind, Except.bind]
    rcases hentry : tree.entryAt? place with _ | (_ | found)
    · exact ⟨nofun, by rintro ⟨_, ⟨⟩, h⟩; exact nomatch hentry.symm.trans h⟩
    · exact ⟨nofun, by rintro ⟨_, ⟨⟩, h⟩; exact nomatch hentry.symm.trans h⟩
    · constructor
      · rintro ⟨⟩
        exact ⟨place, rfl, hentry⟩
      · rintro ⟨_, ⟨⟩, h⟩
        obtain ⟨⟩ := hentry.symm.trans h
        rfl

/-- What was written is read back. -/
theorem read_of_write {path : String} {data : ByteArray}
    (h : tree.write path data = (.ok (), after)) : after.read path = .ok data := by
  obtain ⟨place, hlocate, hentry, rfl⟩ := exists_put_of_write h
  exact read_eq_ok.mpr ⟨place, locate_put_file hentry hlocate,
    entryAt?_put_self _ _ (ne_nil_of_entryAt?_ne hentry)⟩

theorem contains_of_read {path : String} {data : ByteArray} (h : tree.read path = .ok data) :
    tree.contains path := by
  obtain ⟨place, hlocate, hentry⟩ := read_eq_ok.mp h
  simp [contains, entry?, hlocate, hentry]

/-! ## The directory that a file lies in -/

/-- Whether a name leads anywhere. -/
def leads (name : String) : Bool := name != "" && name != "."

theorem step_of_not_leads {name : String} (h : leads name = false) : step place name = place := by
  unfold step leads at *
  simp only [Bool.and_eq_false_iff, bne_eq_false_iff_eq] at h
  rcases h with rfl | rfl <;> rfl

/-- Names that lead nowhere can be left out of a walk. -/
theorem walk_filter {goal : Place} (h : tree.walk place names = .ok goal) :
    tree.walk place (names.filter leads) = .ok goal := by
  induction names generalizing place with
  | nil => exact h
  | cons name names ih =>
    obtain ⟨hdirectory, hrest⟩ := walk_cons_eq_ok.mp h
    cases hname : leads name with
    | true =>
      rw [List.filter_cons_of_pos hname]
      exact walk_cons_eq_ok.mpr ⟨hdirectory, ih hrest⟩
    | false =>
      rw [List.filter_cons_of_neg (by simp [hname])]
      rw [step_of_not_leads hname] at hrest
      exact ih hrest

/-- A walk passes nothing but directories. -/
theorem walk_concat_eq_ok {name : String} {goal : Place} :
    tree.walk place (names ++ [name]) = .ok goal ↔
      ∃ before, tree.walk place names = .ok before ∧
        tree.entryAt? before = some .directory ∧ goal = step before name := by
  induction names generalizing place with
  | nil =>
    rw [List.nil_append, walk_cons_eq_ok]
    exact ⟨fun ⟨h, hgoal⟩ ↦ ⟨place, rfl, h, (Except.ok.inj hgoal).symm⟩,
      by rintro ⟨_, ⟨⟩, h, rfl⟩; exact ⟨h, rfl⟩⟩
  | cons first names ih =>
    simp only [List.cons_append, walk_cons_eq_ok, ih]
    exact ⟨fun ⟨h, before, hwalk, hrest⟩ ↦ ⟨before, ⟨h, hwalk⟩, hrest⟩,
      fun ⟨before, ⟨h, hwalk⟩, hrest⟩ ↦ ⟨h, before, hwalk, hrest⟩⟩

/-- The last name on the way to a file leads somewhere. -/
theorem leads_of_walk_concat {name : String} {goal : Place}
    (h : tree.walk place (names ++ [name]) = .ok goal)
    (hgoal : tree.entryAt? goal ≠ some .directory) : leads name = true := by
  obtain ⟨before, _, hbefore, rfl⟩ := walk_concat_eq_ok.mp h
  by_contra hname
  rw [step_of_not_leads (by simpa using hname)] at hgoal
  exact hgoal hbefore

theorem isAbsolute_iff {path : String} :
    FilePath.isAbsolute path ↔ ['/'] <+: path.toList := String.startsWith_string_iff

theorem isAbsolute_append (path : String) : FilePath.isAbsolute ("/" ++ path) = true := by
  rw [isAbsolute_iff, String.toList_append]
  exact List.prefix_append _ _

/-- Names that are joined make a relative path. -/
theorem isAbsolute_intercalate {name : String} (rest : List String) (hname : name ≠ "")
    (hslash : '/' ∉ name.toList) :
    FilePath.isAbsolute (String.intercalate "/" (name :: rest)) = false := by
  rw [Bool.eq_false_iff, ne_eq, isAbsolute_iff]
  obtain ⟨c, cs, hcs⟩ := List.exists_cons_of_ne_nil (mt String.toList_eq_nil_iff.mp hname)
  have htext : ∃ more, (String.intercalate "/" (name :: rest)).toList = c :: more := by
    cases rest with
    | nil => exact ⟨cs, by simpa using hcs⟩
    | cons second rest =>
      rw [String.intercalate_cons_cons, String.toList_append, String.toList_append, hcs]
      exact ⟨_, rfl⟩
  obtain ⟨more, htext⟩ := htext
  rw [htext, List.cons_prefix_cons]
  rintro ⟨rfl, _⟩
  simp [hcs] at hslash

theorem filePath_names (path : String) :
    FilePath.names path = (Text.split '/' path).filter leads := rfl

/-- The names on the way to a file: those of its directory, and its own. -/
theorem names_concat {path : String} (hlocate : tree.locate path = .ok place)
    (hplace : tree.entryAt? place ≠ some .directory) :
    ∃ before name goal, FilePath.names path = before ++ [name] ∧
      tree.walk (tree.start path) before = .ok goal ∧ tree.entryAt? goal = some .directory := by
  unfold locate at hlocate
  split at hlocate
  · cases hlocate
  rw [filePath_names]
  rcases List.eq_nil_or_concat (Text.split '/' path) with hnil | ⟨before, name, hconcat⟩
  · exact absurd hnil (Text.split_ne_nil path)
  · rw [List.concat_eq_append] at hconcat
    rw [hconcat] at hlocate ⊢
    obtain ⟨goal, hwalk, hgoal, _⟩ := walk_concat_eq_ok.mp hlocate
    have hname := leads_of_walk_concat hlocate hplace
    exact ⟨before.filter leads, name, goal, by simp [List.filter_append, hname],
      walk_filter hwalk, hgoal⟩

/-- The directory of a path at which there is a file is there too. -/
theorem contains_parent {path parent : String} (hlocate : tree.locate path = .ok place)
    (hplace : tree.entryAt? place ≠ some .directory) (hparent : FilePath.parent? path = some parent)
    (hne : parent.isEmpty = false) : tree.contains parent := by
  obtain ⟨before, name, goal, hnames, hwalk, hgoal⟩ := names_concat hlocate hplace
  have hpart (part : String) (h : part ∈ before) : leads part = true ∧ '/' ∉ part.toList := by
    have hmem : part ∈ FilePath.names path := by simp [hnames, h]
    rw [filePath_names, List.mem_filter] at hmem
    exact ⟨hmem.2, Text.not_mem_of_mem_split hmem.1⟩
  have hslash (part : String) (h : part ∈ before) := (hpart part h).2
  suffices h : tree.locate parent = .ok goal by simp [contains, entry?, h, hgoal]
  unfold locate
  rw [if_neg (by simp [hne])]
  unfold FilePath.parent? at hparent
  rw [hnames, List.reverse_append] at hparent
  simp only [List.reverse_cons, List.reverse_nil, List.nil_append, List.singleton_append,
    List.reverse_reverse, Option.some.injEq] at hparent
  subst hparent
  cases habsolute : FilePath.isAbsolute path with
  | true =>
    simp only [start, habsolute, if_true, isAbsolute_append] at hwalk ⊢
    rw [show "/" = String.singleton '/' from rfl, Text.split_separator_append]
    refine walk_cons_eq_ok.mpr ⟨rfl, ?_⟩
    cases before with
    | nil => exact walk_cons_eq_ok.mpr ⟨rfl, hwalk⟩
    | cons first rest => rwa [Text.split_intercalate (by simp) hslash]
  | false =>
    simp only [habsolute, Bool.false_eq_true, if_false, String.empty_append] at hne ⊢
    cases before with
    | nil => simp at hne
    | cons first rest =>
      have hfirst := hpart first (by simp)
      have hrelative := isAbsolute_intercalate rest (by rintro rfl; exact nomatch hfirst.1) hfirst.2
      simp only [start, habsolute, hrelative, Bool.false_eq_true, if_false] at hwalk ⊢
      rwa [show "/" = String.singleton '/' from rfl, Text.split_intercalate (by simp) hslash]

end FileTree

/-! ## Paths that are texts -/

namespace OsPath

@[simp] theorem shown_ofText (text : String) : (ofText text).shown = text := by
  rw [shown, ofText, Text.decodeLossy_bytesOf, String.ofList_toList]

theorem text?_eq_some_iff {path : OsPath} {text : String} :
    path.text? = some text ↔ path = ofText text := by
  unfold text?
  constructor
  · intro h
    obtain ⟨hpath, htext⟩ := (Option.ite_none_right_eq_some ..).1 h
    rw [← hpath, Option.some.inj htext]
  · rintro rfl
    rw [shown_ofText, if_pos rfl]

/-- A path that is shown is the same path again just when it is a text. -/
theorem ofText_shown_iff {path : OsPath} : ofText path.shown = path ↔ path.text?.isSome := by
  rw [Option.isSome_iff_exists]
  constructor
  · intro h
    exact ⟨path.shown, text?_eq_some_iff.2 h.symm⟩
  · rintro ⟨text, htext⟩
    rw [text?_eq_some_iff.1 htext, shown_ofText]

end OsPath

end ClusterObjects
