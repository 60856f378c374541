import ShellPractice.Proofs.Config.Search
import ShellPractice.Proofs.Config.Store
import ShellPractice.Proofs.FileTree.Path
import ShellPractice.Proofs.FileTree.Saving

/-!
# What a search finds after saving

A configuration that was saved is what the next search finds.  A file that was found before is
found again, as no candidate before it becomes readable.  Where nothing was found, the default file
comes first, but for the candidates below a relative directory of configuration files: the
directories made for saving may open a way to one of those.
-/

namespace ShellPractice

namespace Format

theorem isExtension_extension (format : Format) : Path.IsExtension format.extension := by
  cases format <;> decide

theorem ofPath_of_endsWith {path : Path} {format : Format}
    (ends : path.EndsWith format.extension) : ofPath path = format := by
  rw [ofPath, ends.extension?_eq format.isExtension_extension]
  cases format <;> decide

/-- Files of different formats have different names. -/
theorem eq_of_lastPiece_eq {path other : Path} {format otherFormat : Format}
    (ends : path.EndsWith format.extension) (otherEnds : other.EndsWith otherFormat.extension)
    (same : path.lastPiece = other.lastPiece) : format = otherFormat := by
  obtain ⟨stem, name⟩ := ends.lastPiece_eq format.isExtension_extension
  obtain ⟨otherStem, otherName⟩ := otherEnds.lastPiece_eq otherFormat.isExtension_extension
  have last : (stem ++ '.' :: format.extension.toList).getLast? =
      (otherStem ++ '.' :: otherFormat.extension.toList).getLast? := by
    rw [← name, ← otherName, same]
  cases format <;> cases otherFormat <;> simp [extension] at last ⊢

end Format

namespace Config

theorem loadAs_of_read {files other : FileTree} {path otherPath : Path} {content : ByteArray}
    (read : files.read path = .ok content) (same : other.read otherPath = .ok content)
    (format : Format) {config : Config} :
    loadAs files path format = .ok config ↔ loadAs other otherPath format = .ok config := by
  simp only [loadAs_eq_ok_iff, FileTree.readText, read, same]

theorem exists_read_of_loadAs {files : FileTree} {path : Path} {format : Format}
    {config : Config} (loaded : loadAs files path format = .ok config) :
    ∃ content, files.read path = .ok content := by
  obtain ⟨text, content, -⟩ := loadAs_eq_ok_iff.mp loaded
  rw [FileTree.readText] at content
  cases read : files.read path with
  | error error => simp [read] at content
  | ok bytes => exact ⟨bytes, rfl⟩

/-- What saving a configuration comes to: a file with its text, where a path leads. -/
structure SavedAt (config : Config) (path : Path) (prepared : FileTree) (location : List String)
    (content : ByteArray) : Prop where
  found : prepared.locate path = .ok location
  free : prepared.node? location ≠ some .directory
  read : (prepared.put location (.file content)).read path = .ok content
  loaded : loadAs (prepared.put location (.file content)) path (Format.ofPath path) = .ok config

/-- Saving makes directories first and then writes a file. -/
theorem exists_savedAt {config : Config} {files saved : FileTree} {path : Path}
    (success : config.save files path = (saved, .ok ())) :
    ∃ prepared location content, files.makeParents path = (prepared, .ok ()) ∧
      config.SavedAt path prepared location content ∧
      saved = prepared.put location (.file content) := by
  obtain ⟨text, written, decoded⟩ := config.exists_write? (Format.ofPath path)
  rw [save] at success
  split at success
  · cases success
  · rename_i prepared made
    simp only [written] at success
    split at success
    · cases success
    · rename_i result stored
      cases success
      obtain ⟨location, found, free, -, rfl⟩ := FileTree.write_eq_ok stored
      exact ⟨prepared, location, text.toUTF8, made, ⟨found, free, FileTree.read_write stored,
        loadAs_eq_ok_iff.mpr ⟨text, FileTree.readText_writeText stored, decoded⟩⟩, rfl⟩

/-- A candidate that can be read after saving leads to the saved file and is in its format, or it
could be read before the file was written. -/
theorem SavedAt.loadAs_cases {config other : Config} {path candidate : Path} {prepared : FileTree}
    {location : List String} {content : ByteArray} {format otherFormat : Format}
    (at' : config.SavedAt path prepared location content) (ends : path.EndsWith format.extension)
    (otherEnds : candidate.EndsWith otherFormat.extension)
    (loaded : loadAs (prepared.put location (.file content)) candidate otherFormat = .ok other) :
    prepared.locate candidate = .ok location ∧ candidate.endsInDirectory = false ∧
        otherFormat = format ∧ other = config ∨
      loadAs prepared candidate otherFormat = .ok other := by
  obtain ⟨bytes, read⟩ := exists_read_of_loadAs loaded
  rcases FileTree.read_put_file at'.free read with ⟨found, rfl⟩ | before
  · left
    have isFile := (FileTree.read_eq_ok_iff.mp read).1
    -- Both paths lead to one location, which ends with the name that the paths end with.
    have name : candidate.lastPiece = path.lastPiece := by
      have named := (FileTree.read_eq_ok_iff.mp at'.read).1
      obtain ⟨parent, -, here⟩ := FileTree.exists_parent_of_locate named at'.found
      obtain ⟨otherParent, -, alsoHere⟩ := FileTree.exists_parent_of_locate isFile found
      have last := (List.append_inj' (alsoHere.symm.trans here) rfl).2
      simpa [String.ofList_inj] using last
    obtain rfl := Format.eq_of_lastPiece_eq otherEnds ends name
    have same := (loadAs_of_read read at'.read otherFormat).mp loaded
    rw [← Format.ofPath_of_endsWith ends, at'.loaded, Except.ok.injEq] at same
    exact ⟨found, isFile, rfl, same.symm⟩
  · exact .inr ((loadAs_of_read before read otherFormat).mpr loaded)

end Config

namespace ConfigSearch

variable {files saved : FileTree} {path : Path} {config old : Config}

/-- A candidate has the extension of its format. -/
theorem exists_withExtension_of_mem {search : ConfigSearch} {candidate : Path × Format}
    (member : candidate ∈ search.candidates) :
    ∃ path ∈ search.paths, candidate.1 = path.withExtension candidate.2.extension := by
  obtain ⟨path, listed, below⟩ := List.mem_flatMap.mp member
  obtain ⟨format, -, rfl⟩ := List.mem_map.mp below
  refine ⟨path, listed, ?_⟩
  simp only

/-- A candidate that can be read is named for its format. -/
theorem endsWith_of_loadAs {search : ConfigSearch} {candidate : Path × Format}
    (member : candidate ∈ search.candidates)
    (loaded : Config.loadAs files candidate.1 candidate.2 = .ok config) :
    candidate.1.EndsWith candidate.2.extension := by
  obtain ⟨path, -, equal⟩ := exists_withExtension_of_mem member
  obtain ⟨content, read⟩ := Config.exists_read_of_loadAs loaded
  have isFile := (FileTree.read_eq_ok_iff.mp read).1
  rw [equal] at isFile ⊢
  exact Path.endsWith_withExtension isFile

/-- After the file in which configuration was found is saved, it is found there. -/
theorem findSome?_of_save_found {search : ConfigSearch}
    (found : search.candidates.findSome? (readable? files) = some (path, old))
    (success : config.save files path = (saved, .ok ())) :
    search.candidates.findSome? (readable? saved) = some (path, config) := by
  obtain ⟨before, candidate, after, listed, readable, unreadable⟩ :=
    List.findSome?_eq_some_iff.mp found
  obtain ⟨rfl, loaded⟩ := readable?_eq_some_iff.mp readable
  obtain ⟨prepared, location, content, made, at', rfl⟩ := Config.exists_savedAt success
  have member : candidate ∈ search.candidates := by simp [listed]
  have ends := endsWith_of_loadAs member loaded
  obtain ⟨bytes, read⟩ := Config.exists_read_of_loadAs loaded
  obtain ⟨-, place, leads, stands⟩ := FileTree.read_eq_ok_iff.mp read
  obtain rfl := FileTree.eq_of_makeParents leads made
  obtain rfl : location = place := Except.ok.inj (at'.found.symm.trans leads)
  refine List.findSome?_eq_some_iff.mpr
    ⟨before, candidate, after, listed, ?_, fun other earlier => ?_⟩
  · have again := at'.loaded
    rw [Format.ofPath_of_endsWith ends] at again
    exact readable?_eq_some_iff.mpr ⟨rfl, again⟩
  · -- A candidate before it that leads to the same file could be read as well before saving.
    have unread := readable?_eq_none_iff.mp (unreadable other earlier)
    refine readable?_eq_none_iff.mpr fun otherConfig loadedOther => ?_
    have otherMember : other ∈ search.candidates := by simp [listed, earlier]
    rcases at'.loadAs_cases ends (endsWith_of_loadAs otherMember loadedOther) loadedOther with
      ⟨leadsThere, isFile, format, -⟩ | loadedBefore
    · have readOther := FileTree.read_eq_ok_iff.mpr ⟨isFile, location, leadsThere, stands⟩
      rw [← format] at loaded
      exact unread old ((Config.loadAs_of_read readOther read other.2).mpr loaded)
    · exact unread otherConfig loadedBefore

/-- A candidate that becomes readable by saving has the saved configuration in it, unless it leads
there by a step back. -/
theorem eq_of_readable?_after_save {format : Format} {candidate : Path × Format}
    {found : Path × Config} (ordered : files.IsTree)
    (success : config.save files path = (saved, .ok ())) (ends : path.EndsWith format.extension)
    (otherEnds : candidate.1.EndsWith candidate.2.extension) (forward : ".." ∉ candidate.1.steps)
    (unreadable : readable? files candidate = none)
    (readable : readable? saved candidate = some found) : found.2 = config := by
  obtain ⟨prepared, location, content, made, at', rfl⟩ := Config.exists_savedAt success
  obtain ⟨-, loaded⟩ := readable?_eq_some_iff.mp readable
  rcases at'.loadAs_cases ends otherEnds loaded with ⟨-, -, -, same⟩ | loadedBefore
  · exact same
  · obtain ⟨bytes, read⟩ := Config.exists_read_of_loadAs loadedBefore
    have grows := FileTree.addsDirectories_makeParents files path
    rw [made] at grows
    have readBefore := ordered.read_of_read grows forward read
    have already := (Config.loadAs_of_read readBefore read candidate.2).mpr loadedBefore
    exact absurd already (readable?_eq_none_iff.mp unreadable found.2)

end ConfigSearch

/-! ### The places of a user -/

namespace Environment

variable {environment : Environment}

/-- The file for configuration below a directory, without extension. -/
def visible : Path :=
  ⟨applicationName⟩ / ⟨"config"⟩

/-- The directory of configuration files that is named but not absolute.  It is searched all the
same, but nothing is saved below it. -/
def relativeHome? (environment : Environment) : Option Path :=
  (environment.configHome.map Path.mk).filter (!·.isAbsolute)

theorem withExtension_div_visible (directory : Path) (extension : String) :
    (directory / visible).withExtension extension =
      directory / ⟨visible.text ++ "." ++ extension⟩ :=
  Path.withExtension_div directory (by decide) (by decide) (by decide) extension

theorem savePath_eq {directory : Path} (known : environment.configDirectory? = some directory) :
    environment.savePath = (directory / visible).withExtension Format.toml.extension := by
  have name : visible.text ++ "." ++ Format.toml.extension =
      applicationName ++ "/" ++ "config.toml" := by decide
  rw [savePath, known, withExtension_div_visible, name, Option.getD_some,
    Path.div_div directory (by decide) (by decide) (by decide)]

/-- The candidates of a user: those below a relative directory, and then the default file. -/
theorem candidates_ofEnvironment {directory : Path}
    (known : environment.configDirectory? = some directory) :
    ∃ rest, (ConfigSearch.ofEnvironment environment).candidates =
      (ConfigSearch.inPaths
        (environment.relativeHome?.map (· / visible)).toList).candidates ++
        (environment.savePath, .toml) :: rest := by
  obtain ⟨hidden, paths⟩ : ∃ hidden, environment.searchPaths =
      ((environment.configHome.map Path.mk).map (· / visible)).toList ++
        directory / visible :: hidden := by
    simp [searchPaths, known, visible]
  obtain ⟨rest, split⟩ : ∃ rest, environment.searchPaths =
      (environment.relativeHome?.map (· / visible)).toList ++ directory / visible :: rest := by
    rw [paths, relativeHome?]
    rw [configDirectory?] at known
    cases named : environment.configHome with
    | none => exact ⟨hidden, rfl⟩
    | some home =>
      cases absolute : Path.isAbsolute ⟨home⟩ with
      | false => exact ⟨hidden, by simp [Option.filter, absolute]⟩
      | true =>
        obtain ⟨rfl, -⟩ : ⟨home⟩ = directory ∧ directory.isAbsolute = true := by
          simpa [named, absolute] using known
        exact ⟨⟨home⟩ / visible :: hidden, by simp [Option.filter, absolute]⟩
  refine ⟨((directory / visible).withExtension Format.json.extension, .json) ::
    (ConfigSearch.inPaths rest).candidates, ?_⟩
  simp [ConfigSearch.ofEnvironment, ConfigSearch.inPaths, ConfigSearch.candidates, split,
    savePath_eq known]

end Environment

namespace ConfigSearch

open Environment

variable {environment : Environment} {files saved : FileTree} {config : Config}

/-- Whether another configuration than the saved one is read below a relative directory of
configuration files with a step back. -/
def IsOvertaken (environment : Environment) (saved : FileTree) (config : Config) : Prop :=
  ∃ home found, environment.relativeHome? = some home ∧ ".." ∈ home.steps ∧
    (inPaths [home / visible]).candidates.findSome? (readable? saved) = some found ∧
    found.2 ≠ config

theorem isOvertaken_iff {home : Path} (relative : environment.relativeHome? = some home) :
    IsOvertaken environment saved config ↔ ".." ∈ home.steps ∧
      ∃ found ∈ (inPaths [home / visible]).candidates.findSome? (readable? saved),
        found.2 ≠ config := by
  simp only [IsOvertaken, relative, Option.some_inj, Option.mem_def]
  constructor
  · rintro ⟨home, found, rfl, back, readable, other⟩
    exact ⟨back, found, readable, other⟩
  · rintro ⟨back, found, readable, other⟩
    exact ⟨home, found, rfl, back, readable, other⟩

theorem save_eq_ok {search : ConfigSearch} {default path : Path}
    (success : search.save default config files = (saved, .ok path)) :
    config.save files (search.found.getD default) = (saved, .ok ()) := by
  rw [save] at success
  cases result : config.save files (search.found.getD default) with
  | mk written answer => cases answer <;> simp_all [Except.map]

/-- Below a relative directory without a step back only the saved configuration becomes readable. -/
theorem eq_of_findSome?_relative {home : Path} {found : Path × Config} {path : Path}
    (ordered : files.IsTree) (ends : path.EndsWith Format.toml.extension)
    (success : config.save files path = (saved, .ok ())) (forward : ".." ∉ home.steps)
    (unreadable : (inPaths [home / visible]).candidates.findSome? (readable? files) = none)
    (readable : (inPaths [home / visible]).candidates.findSome? (readable? saved) = some found) :
    found.2 = config := by
  obtain ⟨candidate, member, readable⟩ := List.exists_of_findSome?_eq_some readable
  have unread := List.findSome?_eq_none_iff.mp unreadable candidate member
  obtain ⟨-, loaded⟩ := readable?_eq_some_iff.mp readable
  refine eq_of_readable?_after_save ordered success ends (endsWith_of_loadAs member loaded) ?_
    unread readable
  obtain ⟨below, listed, equal⟩ := exists_withExtension_of_mem member
  obtain rfl : below = home / visible := by simpa [inPaths] using listed
  have down : ∀ format : Format,
      Path.isAbsolute ⟨visible.text ++ "." ++ format.extension⟩ = false ∧
        ".." ∉ Path.steps ⟨visible.text ++ "." ++ format.extension⟩ := fun format => by
    cases format <;> decide
  rw [equal, withExtension_div_visible, Path.steps_div home (down candidate.2).1, List.mem_append]
  exact not_or.mpr ⟨forward, (down candidate.2).2⟩

theorem endsWith_savePath {directory : Path}
    (known : environment.configDirectory? = some directory)
    (success : config.save files environment.savePath = (saved, .ok ())) :
    environment.savePath.EndsWith Format.toml.extension := by
  obtain ⟨prepared, location, content, -, at', -⟩ := Config.exists_savedAt success
  have isFile := (FileTree.read_eq_ok_iff.mp at'.read).1
  rw [savePath_eq known] at isFile ⊢
  exact Path.endsWith_withExtension isFile

/-- After the default file is saved, it is found unless a file below a relative directory is. -/
theorem findSome?_of_save_default {directory : Path}
    (known : environment.configDirectory? = some directory)
    (success : config.save files environment.savePath = (saved, .ok ())) :
    (inPaths environment.searchPaths).candidates.findSome? (readable? saved) =
      ((inPaths (environment.relativeHome?.map (· / visible)).toList).candidates.findSome?
        (readable? saved)).or (some (environment.savePath, config)) := by
  obtain ⟨rest, split⟩ := candidates_ofEnvironment known
  obtain ⟨prepared, location, content, -, at', rfl⟩ := Config.exists_savedAt success
  have loaded := at'.loaded
  rw [Format.ofPath_of_endsWith (endsWith_savePath known success)] at loaded
  have readable : readable? (prepared.put location (.file content)) (environment.savePath, .toml) =
      some (environment.savePath, config) := readable?_eq_some_iff.mpr ⟨rfl, loaded⟩
  rw [ofEnvironment] at split
  rw [split, List.findSome?_append, List.findSome?_cons, readable]

/-- What is saved is what the next search finds, if the search before found a file, or if it found
none in the places of a user and the configuration is not overtaken. -/
theorem load_after_save_iff {paths : List Path} {options : SearchOptions} {search : ConfigSearch}
    {result : Except Error Config} {path : Path} {usesDefaults : Bool} (ordered : files.IsTree)
    (loaded : ((inPaths paths).load files options).value = (search, result))
    (origin : search.found ≠ none ∨
      paths = environment.searchPaths ∧ environment.configDirectory?.isSome = true)
    (success : search.save environment.savePath config files = (saved, .ok path))
    (flawless : config.flaw? = none) :
    ((inPaths paths).load saved ⟨usesDefaults, true⟩).value.2 = .ok config ↔
      (search.found = none → ¬ IsOvertaken environment saved config) := by
  have written := save_eq_ok success
  have accepted : config.check = .ok config := Config.check_eq_ok_iff.mpr ⟨flawless, rfl⟩
  rw [value_load] at loaded ⊢
  cases found : (inPaths paths).candidates.findSome? (readable? files) with
  | some entry =>
    obtain ⟨place, old⟩ := entry
    simp only [found, Prod.mk.injEq] at loaded
    obtain ⟨rfl, -⟩ := loaded
    have again := findSome?_of_save_found found written
    simp [again, accepted]
  | none =>
    simp only [found, Prod.mk.injEq] at loaded
    obtain ⟨rfl, -⟩ := loaded
    obtain ⟨rfl, known⟩ := origin.resolve_left (· rfl)
    obtain ⟨directory, known⟩ := Option.isSome_iff_exists.mp known
    obtain ⟨rest, split⟩ := candidates_ofEnvironment known
    rw [ofEnvironment] at split
    rw [split, List.findSome?_append, Option.or_eq_none_iff] at found
    rw [findSome?_of_save_default known written]
    cases relative : environment.relativeHome? with
    | none => simp [inPaths, candidates, IsOvertaken, relative, accepted]
    | some home =>
      simp only [relative, Option.map_some, Option.toList_some] at found ⊢
      rw [isOvertaken_iff relative]
      cases again : (inPaths [home / visible]).candidates.findSome? (readable? saved) with
      | none => simp [accepted]
      | some entry =>
        have straight : ".." ∉ home.steps → entry.2 = config := fun forward =>
          eq_of_findSome?_relative ordered (endsWith_savePath known written) written forward
            found.1 again
        have answer : entry.2.check = .ok config ↔ entry.2 = config := by
          rw [Config.check_eq_ok_iff]
          exact ⟨fun same => same.2.symm, fun same => ⟨same ▸ flawless, same.symm⟩⟩
        have overtaken : (".." ∈ home.steps ∧ ∃ found ∈ some entry, found.2 ≠ config) ↔
            entry.2 ≠ config := by
          simp only [Option.mem_def, Option.some_inj, exists_eq_left']
          exact and_iff_right_of_imp fun other => by_contra fun forward => other (straight forward)
        rw [overtaken, not_not]
        exact answer.trans ⟨fun same _ => same, fun same => same rfl⟩

/-- A user who keeps configuration below the home directory. -/
def resident : Environment :=
  ⟨some "/home", none, none, none, some ⟨"/"⟩⟩

/-- A user whose directory of configuration files is named by a way through another one. -/
def wanderer : Environment :=
  { resident with configHome := some "home/.config/../../old" }

/-- The files of both: an empty file of old settings, and no directory for others. -/
def oldFiles : FileTree :=
  ⟨[(["old"], .directory), (["old", "shell-lab"], .directory),
    (["old", "shell-lab", "config.toml"], .file "".toUTF8)], []⟩

/-- The configuration that is saved. -/
def newConfig : Config :=
  { Config.standard with lessons := ⟨none, some "lab1"⟩ }

theorem isTree_oldFiles : oldFiles.IsTree := by
  refine FileTree.isTree_of_entries fun entry member => ?_
  simp only [oldFiles, List.mem_cons, List.not_mem_nil, or_false] at member
  rcases member with rfl | rfl | rfl <;> rfl

theorem value_load_of_unreadable {search : ConfigSearch}
    (unreadable : search.candidates.findSome? (readable? files) = none) :
    (search.load files SearchOptions.standard).value = (search, .ok Config.standard) := by
  rw [value_load, unreadable]
  rfl

/-- An empty file holds the standard configuration. -/
theorem decode_empty : Format.toml.decode Config.ofDocument? "" = .ok Config.standard := by
  rfl

theorem load_after_save_resident :
    ∃ saved, (inPaths resident.searchPaths).save resident.savePath newConfig oldFiles =
        (saved, .ok ⟨"/home/.config/shell-lab/config.toml"⟩) ∧
      ((inPaths resident.searchPaths).load saved ⟨false, true⟩).value.2 = .ok newConfig := by
  have nothing :
      (inPaths resident.searchPaths).candidates.findSome? (readable? oldFiles) = none := by rfl
  have answer : ((inPaths resident.searchPaths).save resident.savePath newConfig oldFiles).2 =
      .ok ⟨"/home/.config/shell-lab/config.toml"⟩ := by rfl
  have known : resident.configDirectory?.isSome = true := by decide
  have flawless : newConfig.flaw? = none := by decide
  have ordinary : ∀ saved, ¬ IsOvertaken resident saved newConfig := by
    rintro saved ⟨home, found, relative, -⟩
    cases relative
  generalize success : (inPaths resident.searchPaths).save resident.savePath newConfig oldFiles =
    outcome at answer
  obtain ⟨saved, result⟩ := outcome
  obtain rfl : result = _ := answer
  exact ⟨saved, rfl, (load_after_save_iff isTree_oldFiles (value_load_of_unreadable nothing)
    (.inr ⟨rfl, known⟩) success flawless).mpr fun _ => ordinary saved⟩

theorem readText_old {saved : FileTree}
    (success : newConfig.save oldFiles wanderer.savePath = (saved, .ok ())) :
    saved.readText ⟨"home/.config/../../old/shell-lab/config.toml"⟩ = .ok "" := by
  obtain ⟨prepared, location, content, made, at', rfl⟩ := Config.exists_savedAt success
  obtain rfl : prepared = (oldFiles.makeParents wanderer.savePath).1 := by rw [made]
  obtain rfl : ["home", ".config", "shell-lab", "config.toml"] = location :=
    Except.ok.inj (Eq.trans (by rfl) at'.found)
  rfl

/-- What is saved is not always what the next search finds: saving may make the directory through
which a relative directory of configuration files leads to another file. -/
theorem not_load_after_save :
    ¬ ∀ (environment : Environment) (files saved : FileTree) (paths : List Path)
        (options : SearchOptions) (search : ConfigSearch) (result : Except Error Config)
        (config : Config) (path : Path) (usesDefaults : Bool),
      files.IsTree →
      ((inPaths paths).load files options).value = (search, result) →
      (search.found ≠ none ∨
        paths = environment.searchPaths ∧ environment.configDirectory?.isSome = true) →
      search.save environment.savePath config files = (saved, .ok path) →
      config.flaw? = none →
      ((inPaths paths).load saved ⟨usesDefaults, true⟩).value.2 = .ok config := by
  intro claimed
  have nothing :
      (inPaths wanderer.searchPaths).candidates.findSome? (readable? oldFiles) = none := by rfl
  have answer : ((inPaths wanderer.searchPaths).save wanderer.savePath newConfig oldFiles).2 =
      .ok wanderer.savePath := by rfl
  have known : wanderer.configDirectory?.isSome = true := by decide
  have flawless : newConfig.flaw? = none := by decide
  generalize success : (inPaths wanderer.searchPaths).save wanderer.savePath newConfig oldFiles =
    outcome at answer
  obtain ⟨saved, result⟩ := outcome
  obtain rfl : result = _ := answer
  have loaded := claimed wanderer oldFiles saved wanderer.searchPaths SearchOptions.standard _ _
    newConfig wanderer.savePath true isTree_oldFiles (value_load_of_unreadable nothing)
    (.inr ⟨rfl, known⟩) success flawless
  -- The first candidate leads to the old settings now.
  obtain ⟨rest, listed⟩ : ∃ rest, (inPaths wanderer.searchPaths).candidates =
      (⟨"home/.config/../../old/shell-lab/config.toml"⟩, .toml) :: rest := ⟨_, rfl⟩
  have old := Config.loadAs_eq_ok_iff.mpr ⟨"", readText_old (save_eq_ok success), decode_empty⟩
  have readable :
      readable? saved (⟨"home/.config/../../old/shell-lab/config.toml"⟩, .toml) =
        some (⟨"home/.config/../../old/shell-lab/config.toml"⟩, Config.standard) :=
    readable?_eq_some_iff.mpr ⟨rfl, old⟩
  simp only [value_load, listed, List.findSome?_cons, readable, if_true] at loaded
  obtain ⟨-, same⟩ := Config.check_eq_ok_iff.mp loaded
  exact absurd same (by decide)

end ConfigSearch

end ShellPractice
