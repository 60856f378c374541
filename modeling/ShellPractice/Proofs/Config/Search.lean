import ShellPractice.Config.Search

/-!
# What a search finds

A search takes the first candidate that can be read; whether the others exist or why they fail
matters to the log only.  What the search finds it checks where that is asked for.
-/

namespace ShellPractice

namespace Config

theorem check_eq_ok_iff {config checked : Config} :
    config.check = .ok checked ↔ config.flaw? = none ∧ checked = config := by
  rw [check]
  cases config.flaw? <;> simp [eq_comm]

theorem loadAs_eq_ok_iff {files : FileTree} {path : Path} {format : Format} {config : Config} :
    loadAs files path format = .ok config ↔
      ∃ text, files.readText path = .ok text ∧ format.decode ofDocument? text = .ok config := by
  rw [loadAs]
  cases files.readText path with
  | error error => simp
  | ok text => cases decoded : format.decode ofDocument? text <;> simp [decoded]

theorem exists_of_loadAs {files : FileTree} {path : Path} {format : Format} {config : Config}
    (loaded : loadAs files path format = .ok config) : files.exists? path = true := by
  obtain ⟨text, content, -⟩ := loadAs_eq_ok_iff.mp loaded
  rw [FileTree.readText, FileTree.read] at content
  rw [FileTree.exists?]
  cases found : files.get path with
  | error error => simp [found] at content
  | ok node => rfl

end Config

namespace ConfigSearch

/-- The configuration in a candidate, with its path, if the candidate can be read. -/
def readable? (files : FileTree) (candidate : Path × Format) : Option (Path × Config) :=
  (Config.loadAs files candidate.1 candidate.2).toOption.map (Prod.mk candidate.1)

theorem readable?_eq_some_iff {files : FileTree} {candidate : Path × Format}
    {found : Path × Config} :
    readable? files candidate = some found ↔
      found.1 = candidate.1 ∧ Config.loadAs files candidate.1 candidate.2 = .ok found.2 := by
  obtain ⟨path, config⟩ := found
  rw [readable?]
  cases Config.loadAs files candidate.1 candidate.2 with
  | error error => simp [Except.toOption]
  | ok loaded => simp [Except.toOption, eq_comm]

theorem readable?_eq_none_iff {files : FileTree} {candidate : Path × Format} :
    readable? files candidate = none ↔
      ∀ config, Config.loadAs files candidate.1 candidate.2 ≠ .ok config := by
  rw [readable?]
  cases Config.loadAs files candidate.1 candidate.2 <;> simp [Except.toOption]

theorem value_firstReadable (files : FileTree) (candidates : List (Path × Format)) :
    (firstReadable files candidates).value = candidates.findSome? (readable? files) := by
  induction candidates with
  | nil => rfl
  | cons candidate rest ih =>
    obtain ⟨path, format⟩ := candidate
    rw [firstReadable, List.findSome?_cons, readable?]
    cases loaded : Config.loadAs files path format with
    | ok config => simp [Config.exists_of_loadAs loaded, Except.toOption]
    | error error => by_cases present : files.exists? path <;> simp [present, ih, Except.toOption]

/-- The search after it has looked at the files, and its result. -/
theorem value_load (search : ConfigSearch) (files : FileTree) (options : SearchOptions) :
    (search.load files options).value =
      match search.candidates.findSome? (readable? files) with
      | some (path, config) =>
        ({ search with found := some path }, if options.checks then config.check else .ok config)
      | none =>
        (search,
          if options.usesDefaults then .ok Config.standard else .error .configNotFound) := by
  rw [load, Logged.value_bind, value_firstReadable]
  cases search.candidates.findSome? (readable? files) <;> rfl

end ConfigSearch

namespace Config

/-- Settings are acceptable one by one. -/
theorem flaw?_eq_none_iff {config : Config} :
    config.flaw? = none ↔
      Text.isBlankText config.terminal.directory = false ∧
        config.terminal.delimiter.isEmpty = false ∧ config.terminal.maxEntries ≠ 0 ∧
        ¬mostEntries < config.terminal.maxEntries ∧
        config.lessons.defaultLesson.any Text.isBlankText = false := by
  rw [flaw?]
  -- One branch for each flaw, and the last for none.
  repeat' split
  all_goals simp [*]

theorem flaw?_standard : standard.flaw? = none := by
  decide

theorem flaw?_of_load {files : FileTree} {path : Path} {config : Config}
    (loaded : load files path = .ok config) : config.flaw? = none := by
  rw [load] at loaded
  cases read : loadAs files path (Format.ofPath path) with
  | error error => simp [read, Except.bind] at loaded
  | ok unchecked =>
    simp only [read, Except.bind] at loaded
    obtain ⟨flawless, rfl⟩ := check_eq_ok_iff.mp loaded
    exact flawless

/-- A search that checks ends with a configuration without flaws, found or not. -/
theorem flaw?_of_search {search : ConfigSearch} {files : FileTree} {options : SearchOptions}
    {config : Config} (checks : options.checks = true)
    (loaded : (search.load files options).value.2 = .ok config) : config.flaw? = none := by
  rw [ConfigSearch.value_load] at loaded
  cases found : search.candidates.findSome? (ConfigSearch.readable? files) with
  | some entry =>
    simp only [found, checks, if_true] at loaded
    obtain ⟨flawless, rfl⟩ := check_eq_ok_iff.mp loaded
    exact flawless
  | none =>
    simp only [found] at loaded
    split at loaded <;> cases loaded
    exact flaw?_standard

/-- The file that the environment names is not searched. -/
theorem value_loadFor_of_configFile {environment : Environment} {files : FileTree} {path : String}
    (named : environment.configFile = some path) :
    (loadFor environment files).value = load files ⟨path⟩ := by
  rw [loadFor, named]
  rfl

/-- The configuration of a user has no flaw, wherever it comes from. -/
theorem flaw?_of_loadFor {environment : Environment} {files : FileTree} {config : Config}
    (loaded : (loadFor environment files).value = .ok config) : config.flaw? = none := by
  unfold loadFor at loaded
  split at loaded
  · exact flaw?_of_load loaded
  · exact flaw?_of_search (show SearchOptions.standard.checks = true from rfl) loaded

end Config

end ShellPractice
