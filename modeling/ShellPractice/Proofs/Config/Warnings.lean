import Mathlib.Data.List.Forall2
import ShellPractice.Proofs.Config.Search

/-!
# What a search reports

A search goes through its candidates up to the first that holds a configuration.  Each candidate
before that one is passed over: one that exists leaves a warning in the log, and one that is missing
leaves nothing.  Without a check, what the chosen candidate holds is the result.
-/

namespace ShellPractice.ConfigSearch

variable {files : FileTree}

/-- The configuration in a candidate: the file exists, its content is text, and the text is a
configuration in the format of the candidate. -/
def Holds (files : FileTree) (candidate : Path × Format) (config : Config) : Prop :=
  files.exists? candidate.1 = true ∧
    ∃ text, files.readText candidate.1 = .ok text ∧
      candidate.2.decode Config.ofDocument? text = .ok config

theorem holds_iff {candidate : Path × Format} {config : Config} :
    Holds files candidate config ↔ Config.loadAs files candidate.1 candidate.2 = .ok config := by
  constructor
  · rintro ⟨-, read⟩
    exact Config.loadAs_eq_ok_iff.mpr read
  · intro loaded
    exact ⟨Config.exists_of_loadAs loaded, Config.loadAs_eq_ok_iff.mp loaded⟩

theorem readable?_eq_none_iff_holds {candidate : Path × Format} :
    readable? files candidate = none ↔ ∀ config, ¬ Holds files candidate config := by
  simp only [readable?_eq_none_iff, holds_iff, ne_eq]

/-- The warning about a candidate that was passed over names its path and the reason. -/
def Reports (files : FileTree) (candidate : Path × Format) (event : LogEvent) : Prop :=
  ∃ error, Config.loadAs files candidate.1 candidate.2 = .error error ∧
    event = .configSkipped candidate.1.text error.message

def existing (files : FileTree) (candidates : List (Path × Format)) : List (Path × Format) :=
  candidates.filter fun candidate => files.exists? candidate.1

theorem existing_cons_of_exists {candidate : Path × Format} (exist : files.exists? candidate.1 = true)
    (rest : List (Path × Format)) :
    existing files (candidate :: rest) = candidate :: existing files rest :=
  List.filter_cons_of_pos exist

theorem existing_cons_of_missing {candidate : Path × Format}
    (missing : ¬ files.exists? candidate.1 = true) (rest : List (Path × Format)) :
    existing files (candidate :: rest) = existing files rest :=
  List.filter_cons_of_neg missing

theorem Reports.level_eq {candidate : Path × Format} {event : LogEvent}
    (report : Reports files candidate event) : event.level = .warn := by
  obtain ⟨error, -, rfl⟩ := report
  rfl

section Step

variable {candidate : Path × Format} (rest : List (Path × Format))

theorem firstReadable_cons_of_holds {config : Config} (holds : Holds files candidate config) :
    firstReadable files (candidate :: rest) = ⟨some (candidate.1, config), []⟩ := by
  rw [firstReadable, if_pos holds.1]
  simp only [holds_iff.mp holds]
  rfl

theorem firstReadable_cons_of_missing (missing : ¬ files.exists? candidate.1 = true) :
    firstReadable files (candidate :: rest) = firstReadable files rest := by
  rw [firstReadable, if_neg missing]

theorem firstReadable_cons_of_error {error : Error} (exist : files.exists? candidate.1 = true)
    (failed : Config.loadAs files candidate.1 candidate.2 = .error error) :
    firstReadable files (candidate :: rest) =
      ⟨(firstReadable files rest).value,
        .configSkipped candidate.1.text error.message :: (firstReadable files rest).events⟩ := by
  rw [firstReadable, if_pos exist]
  simp only [failed]
  rfl

end Step

/-- Candidates that hold nothing are passed over before the search goes on. -/
theorem firstReadable_append {before : List (Path × Format)} (rest : List (Path × Format))
    (nothing : ∀ candidate ∈ before, ∀ config, ¬ Holds files candidate config) :
    ∃ reports, List.Forall₂ (Reports files) (existing files before) reports ∧
      firstReadable files (before ++ rest) =
        ⟨(firstReadable files rest).value, reports ++ (firstReadable files rest).events⟩ := by
  induction before with
  | nil => exact ⟨[], .nil, rfl⟩
  | cons candidate before ih =>
    obtain ⟨reports, each, equal⟩ :=
      ih fun other member => nothing other (List.mem_cons_of_mem _ member)
    rw [List.cons_append]
    by_cases exist : files.exists? candidate.1 = true
    · cases loaded : Config.loadAs files candidate.1 candidate.2 with
      | ok config => exact absurd (holds_iff.mpr loaded) (nothing _ List.mem_cons_self config)
      | error error =>
        refine ⟨.configSkipped candidate.1.text error.message :: reports, ?_, ?_⟩
        · rw [existing_cons_of_exists exist]
          exact .cons ⟨error, loaded, rfl⟩ each
        · rw [firstReadable_cons_of_error _ exist loaded, equal]
          rfl
    · refine ⟨reports, ?_, ?_⟩
      · rw [existing_cons_of_missing exist]
        exact each
      · rw [firstReadable_cons_of_missing _ exist, equal]

section Load

variable {search : ConfigSearch} (options : SearchOptions)

/-- The search ends at the first candidate that holds a configuration. -/
theorem load_of_holds {before after : List (Path × Format)} {candidate : Path × Format}
    {config : Config} (listed : search.candidates = before ++ candidate :: after)
    (nothing : ∀ earlier ∈ before, ∀ other, ¬ Holds files earlier other)
    (holds : Holds files candidate config) :
    ∃ reports, List.Forall₂ (Reports files) (existing files before) reports ∧
      search.load files options =
        ⟨({ search with found := some candidate.1 },
            if options.checks then config.check else .ok config),
          reports ++ [.configLoaded candidate.1.text]⟩ := by
  obtain ⟨reports, each, equal⟩ := firstReadable_append (candidate :: after) nothing
  refine ⟨reports, each, ?_⟩
  rw [firstReadable_cons_of_holds after holds, List.append_nil] at equal
  rw [load, listed, equal]
  rfl

theorem load_of_nothing
    (nothing : ∀ candidate ∈ search.candidates, ∀ config, ¬ Holds files candidate config) :
    ∃ reports, List.Forall₂ (Reports files) (existing files search.candidates) reports ∧
      search.load files options =
        ⟨(search, if options.usesDefaults then .ok Config.standard else .error .configNotFound),
          reports⟩ := by
  obtain ⟨reports, each, equal⟩ := firstReadable_append [] nothing
  refine ⟨reports, each, ?_⟩
  simp only [List.append_nil, firstReadable, Logged.value_pure, Logged.events_pure] at equal
  rw [load, equal]
  exact congrArg (Logged.mk _) (List.append_nil reports)

end Load

/-- Either no candidate holds a configuration, or one is the first that does. -/
theorem nothing_or_exists_first (files : FileTree) (candidates : List (Path × Format)) :
    (∀ candidate ∈ candidates, ∀ config, ¬ Holds files candidate config) ∨
      ∃ before candidate after config, candidates = before ++ candidate :: after ∧
        (∀ earlier ∈ before, ∀ other, ¬ Holds files earlier other) ∧
        Holds files candidate config := by
  simp only [← readable?_eq_none_iff_holds]
  cases found : candidates.findSome? (readable? files) with
  | none => exact .inl (List.findSome?_eq_none_iff.mp found)
  | some entry =>
    obtain ⟨before, candidate, after, rfl, readable, unreadable⟩ :=
      List.findSome?_eq_some_iff.mp found
    have holds := holds_iff.mpr (readable?_eq_some_iff.mp readable).2
    exact .inr ⟨before, candidate, after, entry.2, rfl, unreadable, holds⟩

def warnings (events : List LogEvent) : List LogEvent :=
  events.filter fun event => event.level = .warn

theorem warnings_append (first rest : List LogEvent) :
    warnings (first ++ rest) = warnings first ++ warnings rest :=
  List.filter_append ..

theorem warnings_eq_self {candidates : List (Path × Format)} {reports : List LogEvent}
    (each : List.Forall₂ (Reports files) candidates reports) : warnings reports = reports := by
  induction each with
  | nil => rfl
  | cons report each ih =>
    rw [warnings, List.filter_cons_of_pos (by simp [report.level_eq])]
    exact congrArg _ ih

/-- A search without a check has the first candidate that holds a configuration as its result and
knows this file from then on.  If there is none it stays as it was, and only the options decide.
Each candidate that exists and is passed over has one warning, in the order of the search. -/
theorem load_unchecked (search : ConfigSearch) (files : FileTree) (usesDefaults : Bool) :
    (search.candidates = search.paths.flatMap fun path =>
        [(path.withExtension "toml", .toml), (path.withExtension "json", .json)]) ∧
      ((∃ before candidate after config, search.candidates = before ++ candidate :: after ∧
          (∀ earlier ∈ before, ∀ other, ¬ Holds files earlier other) ∧
          Holds files candidate config ∧
          (search.load files ⟨usesDefaults, false⟩).value =
            ({ search with found := some candidate.1 }, .ok config) ∧
          List.Forall₂ (Reports files) (existing files before)
            (warnings (search.load files ⟨usesDefaults, false⟩).events)) ∨
        (∀ candidate ∈ search.candidates, ∀ config, ¬ Holds files candidate config) ∧
          (search.load files ⟨usesDefaults, false⟩).value =
            (search, if usesDefaults then .ok Config.standard else .error .configNotFound) ∧
          List.Forall₂ (Reports files) (existing files search.candidates)
            (warnings (search.load files ⟨usesDefaults, false⟩).events)) := by
  refine ⟨rfl, ?_⟩
  rcases nothing_or_exists_first files search.candidates with
    nothing | ⟨before, candidate, after, config, listed, nothing, holds⟩
  · right
    obtain ⟨reports, each, equal⟩ := load_of_nothing ⟨usesDefaults, false⟩ nothing
    refine ⟨nothing, by rw [equal], ?_⟩
    rw [equal, warnings_eq_self each]
    exact each
  · left
    obtain ⟨reports, each, equal⟩ := load_of_holds ⟨usesDefaults, false⟩ listed nothing holds
    refine ⟨before, candidate, after, config, listed, nothing, holds, by rw [equal]; rfl, ?_⟩
    -- The last event tells of the file that was found and is no warning.
    have found : warnings [.configLoaded candidate.1.text] = [] := rfl
    rw [equal, warnings_append, warnings_eq_self each, found, List.append_nil]
    exact each

/-- A directory in the place of a file is reported, missing files are not. -/
example :
    ((inPaths [⟨"a"⟩, ⟨"b"⟩]).load
      ⟨[(["a.toml"], .directory), (["b.json"], .file "{}".toUTF8)], []⟩ ⟨true, false⟩).events =
      [.configSkipped "a.toml"
          (Error.configLoadFailed "a.toml" FileError.isDirectory.message).message,
        .configLoaded "b.json"] := by
  rfl

end ShellPractice.ConfigSearch
