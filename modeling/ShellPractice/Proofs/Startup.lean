import ShellPractice.CommandLine.Run
import ShellPractice.Proofs.Catalog.Export
import ShellPractice.Proofs.Config.Search
import ShellPractice.Proofs.Config.Store
import ShellPractice.Proofs.FileTree.Saving

/-!
# What a start promises

A start goes through the search for a configuration, its check, the lessons of its catalog and its
default lesson.  Whichever way it succeeds, the workspace is sound; and a start for a user fails
only because of the lessons that the configuration names.
-/

namespace ShellPractice

/-- Whether an error says why a file of lessons was refused. -/
def Error.refusesLessons : Error → Bool
  | file _ | lessonImportFailed _ | lessonInvalid _ _ | lessonAlreadyExists _ => true
  | _ => false

namespace Catalog

theorem refusesLessons_of_objection? {catalog : Catalog} {lesson : Lesson} {error : Error}
    (objection : catalog.objection? lesson = some error) : error.refusesLessons = true := by
  unfold objection? at objection
  split at objection
  · cases objection
    rfl
  · split at objection <;> cases objection
    rfl

theorem refusesLessons_of_addEach {catalog : Catalog} {lessons : List Lesson} {error : Error}
    (failed : (catalog.addEach lessons).2 = .error error) : error.refusesLessons = true := by
  induction lessons generalizing catalog with
  | nil => cases failed
  | cons lesson rest ih =>
    rw [addEach, add] at failed
    cases objection : catalog.objection? lesson with
    | some reason =>
      simp only [objection, Except.error.injEq] at failed
      exact failed ▸ refusesLessons_of_objection? objection
    | none =>
      simp only [objection] at failed
      cases later : ((catalog.push lesson).addEach rest).2 with
      | error reason =>
        simp only [later, Except.map, Except.error.injEq] at failed
        exact ih (later.trans (congrArg Except.error failed))
      | ok ids => simp [later, Except.map] at failed

/-- A file of lessons is refused for what the file is or for what the lessons are. -/
theorem refusesLessons_of_loadFile {catalog : Catalog} {files : FileTree} {path : Path}
    {error : Error} (failed : (catalog.loadFile files path).value.2 = .error error) :
    error.refusesLessons = true := by
  rw [value_loadFile] at failed
  cases content : files.readText path with
  | error reason =>
    simp only [content, Except.error.injEq] at failed
    exact failed ▸ rfl
  | ok text =>
    simp only [content, importText] at failed
    cases decoded : (Format.ofPath path).decode Lesson.listOfDocument? text with
    | error reason =>
      simp only [decoded, Except.error.injEq] at failed
      exact failed ▸ rfl
    | ok lessons =>
      simp only [decoded, addAll] at failed
      cases checked : lessons.findSome? catalog.objection? with
      | some reason =>
        simp only [checked, Except.error.injEq] at failed
        obtain ⟨lesson, -, objection⟩ := List.exists_of_findSome?_eq_some checked
        exact failed ▸ refusesLessons_of_objection? objection
      | none =>
        simp only [checked] at failed
        exact refusesLessons_of_addEach failed

end Catalog

namespace Workspace

/-- The configuration with which a start for a user goes on. -/
def configFor (environment : Environment) (files : FileTree) : Config :=
  match (Config.loadFor environment files).value with
  | .ok config => config
  | .error _ => Config.standard

theorem flaw?_configFor (environment : Environment) (files : FileTree) :
    (configFor environment files).flaw? = none := by
  rw [configFor]
  cases loaded : (Config.loadFor environment files).value with
  | ok config => exact Config.flaw?_of_loadFor loaded
  | error error => exact Config.flaw?_standard

/-- A workspace that is as it should be. -/
structure IsSound (workspace : Workspace) : Prop where
  checked : workspace.config.check = .ok workspace.config
  beginning : workspace.catalog.lessons.take 8 = Lesson.builtIn
  distinct : (workspace.catalog.lessons.map Lesson.id).Nodup
  flawless : ∀ lesson ∈ workspace.catalog.lessons, lesson.flaw? = none
  offersDefault : ∀ id, workspace.config.lessons.defaultLesson = some id →
    ∃ lesson ∈ workspace.catalog.lessons, lesson.id = id

section OfConfig

variable {config : Config} {files : FileTree}

theorem catalogOf_of_path {path : Path} (named : config.lessons.catalogPath = some path) :
    (catalogOf config files).value = (Catalog.builtIn.loadFile files path).value.2.map
      fun _ => (Catalog.builtIn.loadFile files path).value.1 := by
  rw [catalogOf, named]
  rfl

theorem catalogOf_of_no_path (unnamed : config.lessons.catalogPath = none) :
    (catalogOf config files).value = .ok Catalog.builtIn := by
  rw [catalogOf, unnamed]
  rfl

theorem keeps_builtIn_of_catalogOf {catalog : Catalog}
    (selected : (catalogOf config files).value = .ok catalog) :
    catalog.Keeps Catalog.builtIn := by
  cases named : config.lessons.catalogPath with
  | none =>
    rw [catalogOf_of_no_path named] at selected
    cases selected
    exact Catalog.keeps_builtIn
  | some path =>
    -- Loading the file is one operation on the lessons that are always there.
    have kept := Catalog.keeps_performAll (Or.inr rfl) [.loadFile files path]
    rw [catalogOf_of_path named] at selected
    cases loaded : (Catalog.builtIn.loadFile files path).value.2 with
    | error error => simp [loaded, Except.map] at selected
    | ok ids =>
      simp only [loaded, Except.map, Except.ok.injEq] at selected
      exact selected ▸ kept

theorem error_of_catalogOf {error : Error}
    (failed : (catalogOf config files).value = .error error) :
    ∃ path, config.lessons.catalogPath = some path ∧
      (Catalog.builtIn.loadFile files path).value.2 = .error error := by
  cases named : config.lessons.catalogPath with
  | none =>
    rw [catalogOf_of_no_path named] at failed
    cases failed
  | some path =>
    rw [catalogOf_of_path named] at failed
    refine ⟨path, rfl, ?_⟩
    cases loaded : (Catalog.builtIn.loadFile files path).value.2 with
    | error reason => simpa [loaded, Except.map] using failed
    | ok ids => simp [loaded, Except.map] at failed

theorem value_ofConfig (config : Config) (files : FileTree) :
    (ofConfig config files).value =
      (catalogOf config files).value.bind fun catalog =>
        match config.lessons.defaultLesson with
        | none => .ok ⟨config, catalog⟩
        | some id => (catalog.get id).map fun _ => ⟨config, catalog⟩ := by
  rw [ofConfig, Logged.value_bind]
  cases (catalogOf config files).value with
  | error error => rfl
  | ok catalog => cases config.lessons.defaultLesson <;> rfl

theorem isSound_of_ofConfig {workspace : Workspace} (flawless : config.flaw? = none)
    (opened : (ofConfig config files).value = .ok workspace) : workspace.IsSound := by
  rw [value_ofConfig] at opened
  cases selected : (catalogOf config files).value with
  | error error => simp [selected, Except.bind] at opened
  | ok catalog =>
    have kept := keeps_builtIn_of_catalogOf selected
    simp only [selected, Except.bind] at opened
    have offers : workspace = ⟨config, catalog⟩ ∧
        ∀ id, config.lessons.defaultLesson = some id →
          ∃ lesson ∈ catalog.lessons, lesson.id = id := by
      cases named : config.lessons.defaultLesson with
      | none =>
        simp only [named, Except.ok.injEq] at opened
        exact ⟨opened.symm, fun id other => by cases other⟩
      | some id =>
        simp only [named] at opened
        cases found : catalog.get id with
        | error error => simp [found, Except.map] at opened
        | ok lesson =>
          simp only [found, Except.map, Except.ok.injEq] at opened
          refine ⟨opened.symm, ?_⟩
          rintro _ ⟨⟩
          exact ⟨lesson, List.mem_of_find?_eq_some (Catalog.get_eq_ok_iff.mp found),
            Catalog.id_of_get found⟩
    obtain ⟨rfl, offered⟩ := offers
    exact ⟨Config.check_eq_ok_iff.mpr ⟨flawless, rfl⟩,
      (List.prefix_iff_eq_take.mp kept.beginning).symm, kept.distinct, kept.flawless, offered⟩

/-- A configuration is refused for the file of lessons that it names, or for its default lesson. -/
theorem error_of_ofConfig {error : Error} (failed : (ofConfig config files).value = .error error) :
    (∃ path, config.lessons.catalogPath = some path ∧
      (Catalog.builtIn.loadFile files path).value.2 = .error error) ∨
    ∃ catalog id, (catalogOf config files).value = .ok catalog ∧
      config.lessons.defaultLesson = some id ∧ catalog.has id = false ∧
      error = .lessonNotFound id := by
  rw [value_ofConfig] at failed
  cases selected : (catalogOf config files).value with
  | error reason =>
    simp only [selected, Except.bind, Except.error.injEq] at failed
    exact Or.inl (error_of_catalogOf (failed ▸ selected))
  | ok catalog =>
    right
    simp only [selected, Except.bind] at failed
    cases named : config.lessons.defaultLesson with
    | none => simp [named] at failed
    | some id =>
      refine ⟨catalog, id, rfl, rfl, ?_⟩
      simp only [named, Catalog.get, ← Catalog.isSome_find?] at failed ⊢
      cases found : catalog.find? id with
      | some lesson => simp [found, Except.map] at failed
      | none => simpa [found, Except.map, eq_comm] using failed

end OfConfig

/-- A start for a user opens the configuration that it goes on with; all else is for the log. -/
theorem value_start (environment : Environment) (files : FileTree) :
    (start environment files).value =
      (ofConfig (configFor environment files) files).value := by
  rw [start, configFor]
  simp only [Logged.value_bind]
  cases (Config.loadFor environment files).value with
  | ok config =>
    simp only [Logged.value_bind, Logged.value_pure]
    cases (ofConfig config files).value <;> rfl
  | error error =>
    simp only [Logged.value_bind, Logged.value_pure]
    cases (ofConfig Config.standard files).value <;> rfl

/-- A user without any configuration starts with the standard one. -/
theorem value_start_of_unreadable {environment : Environment} {files : FileTree}
    (unnamed : environment.configFile = none)
    (unreadable : (ConfigSearch.ofEnvironment environment).candidates.findSome?
      (ConfigSearch.readable? files) = none) :
    (start environment files).value = .ok ⟨Config.standard, Catalog.builtIn⟩ := by
  have standard : configFor environment files = Config.standard := by
    simp only [configFor, Config.loadFor, unnamed, Logged.value_bind, ConfigSearch.value_load,
      unreadable, SearchOptions.standard, if_true, Logged.value_pure]
  rw [value_start, standard, value_ofConfig, catalogOf_of_no_path rfl]
  rfl

/-- A start with a file opens the configuration in the file. -/
theorem ofConfig_of_startWith {files : FileTree} {path : Path} {workspace : Workspace}
    (started : (startWith files path).value = .ok workspace) :
    ∃ config, Config.load files path = .ok config ∧
      (ofConfig config files).value = .ok workspace := by
  unfold startWith ofFile at started
  cases present : files.exists? path with
  | false => simp [present] at started
  | true =>
    cases loaded : Config.load files path with
    | error error => simp [present, loaded] at started
    | ok config =>
      refine ⟨config, rfl, ?_⟩
      cases opened : (ofConfig config files).value with
      | error error => simp [present, loaded, opened] at started
      | ok other => simpa [present, loaded, opened] using started

theorem IsSound.exists_openPractice {workspace : Workspace} (sound : workspace.IsSound)
    (surroundings : CommandLine.Surroundings) {options : CommandLine.Options}
    (unasked : options.lesson = none) :
    ∃ practice, CommandLine.openPractice surroundings options workspace = .ok practice := by
  rw [CommandLine.openPractice, unasked, Option.none_or]
  cases named : workspace.config.lessons.defaultLesson with
  | none => exact ⟨_, rfl⟩
  | some id =>
    obtain ⟨lesson, member, rfl⟩ := sound.offersDefault id named
    simp only [Catalog.get_of_mem sound.distinct member]
    exact ⟨_, rfl⟩

/-- A start that succeeds, for a user or with a file, gives a sound workspace, in which practice
opens when no lesson is asked for.  A start for a user fails only because the file of lessons that
its configuration names is refused, or its default lesson is not among the lessons. -/
theorem isSound_of_start (environment : Environment) (files : FileTree) :
    (∀ workspace,
        ((start environment files).value = .ok workspace ∨
          ∃ path, (startWith files path).value = .ok workspace) →
        workspace.IsSound ∧
          ∀ surroundings options, options.lesson = none →
            ∃ practice,
              CommandLine.openPractice surroundings options workspace = .ok practice) ∧
      ∀ error, (start environment files).value = .error error →
        (∃ path, (configFor environment files).lessons.catalogPath = some path ∧
          (Catalog.builtIn.loadFile files path).value.2 = .error error ∧
          error.refusesLessons = true) ∨
        ∃ catalog id, (catalogOf (configFor environment files) files).value = .ok catalog ∧
          (configFor environment files).lessons.defaultLesson = some id ∧
          catalog.has id = false ∧ error = .lessonNotFound id := by
  refine ⟨fun workspace started => ?_, fun error failed => ?_⟩
  · have sound : workspace.IsSound := by
      rcases started with forUser | ⟨path, withFile⟩
      · rw [value_start] at forUser
        exact isSound_of_ofConfig (flaw?_configFor environment files) forUser
      · obtain ⟨config, loaded, opened⟩ := ofConfig_of_startWith withFile
        exact isSound_of_ofConfig (Config.flaw?_of_load loaded) opened
    exact ⟨sound, fun surroundings options unasked =>
      sound.exists_openPractice surroundings unasked⟩
  · rw [value_start] at failed
    rcases error_of_ofConfig failed with ⟨path, named, refused⟩ | missing
    · exact Or.inl ⟨path, named, refused, Catalog.refusesLessons_of_loadFile refused⟩
    · exact Or.inr missing

/-- A user whose environment names the configuration file. -/
def owner : Environment :=
  ⟨some "/home/user", none, some "lab.json", none, some ⟨"/"⟩⟩

/-- The configuration of the user, with lessons of their own. -/
def ownConfig : Config :=
  { Config.standard with lessons := ⟨some ⟨"own.json"⟩, some "own"⟩ }

/-- The only lesson of the user. -/
def ownLesson : Lesson :=
  ⟨"own", "Own", "", .beginner, defaultDirectory, [], []⟩

/-- Files with the texts of a configuration and of lessons. -/
def filesOf (settings lessons : String) : FileTree :=
  ⟨[(["lab.json"], .file settings.toUTF8), (["own.json"], .file lessons.toUTF8)], []⟩

/-- The files of the user, with a text in the place of the lessons. -/
def ownFiles (lessons : String) : FileTree :=
  filesOf (Json.write ownConfig.toDocument) lessons

theorem readText_filesOf (settings lessons : String) :
    (filesOf settings lessons).readText ⟨"lab.json"⟩ = .ok settings ∧
      (filesOf settings lessons).readText ⟨"own.json"⟩ = .ok lessons :=
  ⟨FileTree.readText_of_read rfl, FileTree.readText_of_read rfl⟩

theorem value_start_owner (lessons : String) :
    (start owner (ownFiles lessons)).value = (ofConfig ownConfig (ownFiles lessons)).value := by
  have content : (ownFiles lessons).readText ⟨"lab.json"⟩ =
      .ok (Json.write ownConfig.toDocument) := (readText_filesOf _ lessons).1
  have format : Format.ofPath ⟨"lab.json"⟩ = .json := by decide
  have flawless : ownConfig.check = .ok ownConfig := by decide
  have loaded : Config.load (ownFiles lessons) ⟨"lab.json"⟩ = .ok ownConfig := by
    rw [Config.load, format, Config.loadAs_eq_ok_iff.mpr ⟨_, content, ownConfig.decode_write⟩]
    exact flawless
  have selected : configFor owner (ownFiles lessons) = ownConfig := by
    rw [configFor, Config.value_loadFor_of_configFile (rfl : owner.configFile = some "lab.json"),
      loaded]
  rw [value_start, selected]

/-- A start with a lesson of the user, and one that a broken file of lessons stops. -/
theorem isSound_of_start_owner :
    (∃ workspace,
      (start owner (ownFiles (Catalog.lessonFile (Json.write ownLesson.toDocument)))).value =
        .ok workspace ∧ workspace.catalog.lessons.length = 9 ∧ workspace.IsSound) ∧
    (start owner (ownFiles "[")).value = .error (.lessonImportFailed "not a JSON document") ∧
      (Error.lessonImportFailed "not a JSON document").refusesLessons = true := by
  have format : Format.ofPath ⟨"own.json"⟩ = .json := by decide
  constructor
  · have read := Catalog.decode_lessonFile ownLesson
    generalize Catalog.lessonFile (Json.write ownLesson.toDocument) = lessons at read ⊢
    have content : (ownFiles lessons).readText ⟨"own.json"⟩ = .ok lessons :=
      (readText_filesOf _ lessons).2
    have acceptable : ∀ lesson ∈ [ownLesson], Catalog.builtIn.objection? lesson = none := by decide
    have loaded : (Catalog.builtIn.loadFile (ownFiles lessons) ⟨"own.json"⟩).value =
        (Catalog.builtIn.extend [ownLesson], .ok ["own"]) := by
      simp only [Catalog.value_loadFile, content, format, Catalog.importText_of_read read]
      rw [Catalog.addAll_of_acceptable acceptable, Catalog.addEach_of_nodup acceptable (by decide)]
      rfl
    have selected : (catalogOf ownConfig (ownFiles lessons)).value =
        .ok (Catalog.builtIn.extend [ownLesson]) := by
      rw [catalogOf_of_path rfl, loaded]
      rfl
    have offered : (Catalog.builtIn.extend [ownLesson]).get "own" = .ok ownLesson := by decide
    have started : (start owner (ownFiles lessons)).value =
        .ok ⟨ownConfig, Catalog.builtIn.extend [ownLesson]⟩ := by
      rw [value_start_owner, value_ofConfig, selected]
      simp only [Except.bind, ownConfig, offered, Except.map]
    obtain ⟨sound, -⟩ := (isSound_of_start owner (ownFiles lessons)).1 _ (Or.inl started)
    exact ⟨_, started, by decide, sound⟩
  · have content : (ownFiles "[").readText ⟨"own.json"⟩ = .ok "[" :=
      (readText_filesOf _ "[").2
    have unread : Format.json.decode Lesson.listOfDocument? "[" =
        .error "not a JSON document" := by rfl
    have loaded : (Catalog.builtIn.loadFile (ownFiles "[") ⟨"own.json"⟩).value =
        (Catalog.builtIn, .error (.lessonImportFailed "not a JSON document")) := by
      simp only [Catalog.value_loadFile, content, format, Catalog.importText, unread]
    have failed : (start owner (ownFiles "[")).value =
        .error (.lessonImportFailed "not a JSON document") := by
      rw [value_start_owner, value_ofConfig, catalogOf_of_path rfl, loaded]
      rfl
    refine ⟨failed, ?_⟩
    rcases (isSound_of_start owner (ownFiles "[")).2 _ failed with
      ⟨path, -, -, refused⟩ | ⟨catalog, id, -, -, -, missing⟩
    · exact refused
    · cases missing

end Workspace

end ShellPractice
