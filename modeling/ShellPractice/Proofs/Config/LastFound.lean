import Mathlib.Data.List.Induction
import ShellPractice.Proofs.Config.Hiding

/-!
# Which file a search has in mind

A search that is used several times knows the file that it read last.  It should know the file of
its last success: a call that fails should leave it as it was, and after the defaults were taken it
should know none.  But the file is kept before its configuration is checked, and nothing is
forgotten when the defaults are taken.
-/

namespace ShellPractice

/-- One use of a search: the files as they are then, and what is asked for. -/
structure SearchCall where
  files : FileTree
  options : SearchOptions

namespace ConfigSearch

/-- The search after a call. -/
def perform (search : ConfigSearch) (call : SearchCall) : ConfigSearch :=
  (search.load call.files call.options).value.1

def answer (search : ConfigSearch) (call : SearchCall) : Except Error Config :=
  (search.load call.files call.options).value.2

def performAll (search : ConfigSearch) (calls : List SearchCall) : ConfigSearch :=
  calls.foldl perform search

/-- The first candidate that holds a configuration, with this configuration. -/
def firstRead? (search : ConfigSearch) (files : FileTree) : Option (Path × Config) :=
  search.candidates.findSome? (readable? files)

/-- The file that the last of some calls that read one read. -/
def lastRead? (search : ConfigSearch) (calls : List SearchCall) : Option Path :=
  calls.reverse.findSome? fun call => (search.firstRead? call.files).map Prod.fst

/-- A call that does to a search what it should: it changes nothing when it fails; when it
succeeds, the search knows the file with the configuration, or none if this is the standard one. -/
def KeepsTrack (search : ConfigSearch) (call : SearchCall) : Prop :=
  (∀ error, search.answer call = .error error →
    (search.perform call).found = search.found) ∧
  ∀ config, search.answer call = .ok config →
    match search.firstRead? call.files with
    | some (path, held) => (search.perform call).found = some path ∧ config = held
    | none => (search.perform call).found = none ∧ config = Config.standard

section Calls

variable {search : ConfigSearch} {call : SearchCall}

theorem perform_of_read {path : Path} {config : Config}
    (read : search.firstRead? call.files = some (path, config)) :
    search.perform call = { search with found := some path } := by
  rw [firstRead?] at read
  rw [perform, value_load, read]

theorem perform_of_unread (unread : search.firstRead? call.files = none) :
    search.perform call = search := by
  rw [firstRead?] at unread
  rw [perform, value_load, unread]

theorem answer_of_read {path : Path} {config : Config}
    (read : search.firstRead? call.files = some (path, config)) :
    search.answer call = if call.options.checks then config.check else .ok config := by
  rw [firstRead?] at read
  rw [answer, value_load, read]

theorem answer_of_unread (unread : search.firstRead? call.files = none) :
    search.answer call =
      if call.options.usesDefaults then .ok Config.standard else .error .configNotFound := by
  rw [firstRead?] at unread
  rw [answer, value_load, unread]

theorem found_perform (search : ConfigSearch) (call : SearchCall) :
    (search.perform call).found =
      ((search.firstRead? call.files).map Prod.fst).or search.found := by
  cases read : search.firstRead? call.files with
  | none => rw [perform_of_unread read, Option.map_none, Option.none_or]
  | some entry => rw [perform_of_read read, Option.map_some, Option.some_or]

theorem paths_perform (search : ConfigSearch) (call : SearchCall) :
    (search.perform call).paths = search.paths := by
  cases read : search.firstRead? call.files with
  | none => rw [perform_of_unread read]
  | some entry => rw [perform_of_read read]

theorem firstRead?_congr {other : ConfigSearch} (same : other.paths = search.paths) :
    other.firstRead? = search.firstRead? := by
  funext files
  rw [firstRead?, firstRead?, candidates, candidates, same]

/-- A call fails to do what it should if it rejects the configuration of another file than the one
that the search knows, or takes the defaults while the search knows a file. -/
theorem keepsTrack_iff_found (search : ConfigSearch) (call : SearchCall) :
    KeepsTrack search call ↔
      match search.firstRead? call.files with
      | some (path, config) =>
        call.options.checks = true → config.flaw? ≠ none → search.found = some path
      | none => call.options.usesDefaults = true → search.found = none := by
  rw [KeepsTrack]
  cases read : search.firstRead? call.files with
  | none =>
    rw [answer_of_unread read, perform_of_unread read]
    cases call.options.usesDefaults <;> simp
  | some entry =>
    obtain ⟨path, config⟩ := entry
    rw [answer_of_read read, perform_of_read read]
    cases call.options.checks with
    | false => simp [eq_comm]
    | true =>
      rw [if_pos rfl, Config.check]
      cases flawed : config.flaw? <;> simp [flawed, eq_comm]

end Calls

theorem lastRead?_concat (search : ConfigSearch) (calls : List SearchCall) (call : SearchCall) :
    search.lastRead? (calls ++ [call]) =
      ((search.firstRead? call.files).map Prod.fst).or (search.lastRead? calls) := by
  rw [lastRead?, List.reverse_concat, List.findSome?_cons]
  cases (search.firstRead? call.files).map Prod.fst <;> rfl

theorem performAll_concat (search : ConfigSearch) (calls : List SearchCall) (call : SearchCall) :
    search.performAll (calls ++ [call]) = (search.performAll calls).perform call := by
  rw [performAll, List.foldl_concat]
  rfl

/-- After any calls the places are those of the start, and the file is the one that was read last,
whether its configuration was accepted or not. -/
theorem performAll_eq (search : ConfigSearch) (calls : List SearchCall) :
    (search.performAll calls).paths = search.paths ∧
      (search.performAll calls).found = (search.lastRead? calls).or search.found := by
  -- The last call comes last in the run and first in the search for the last file read.
  induction calls using List.reverseRecOn with
  | nil => exact ⟨rfl, rfl⟩
  | append_singleton calls call ih =>
    obtain ⟨paths, found⟩ := ih
    rw [performAll_concat, lastRead?_concat, paths_perform, found_perform, found,
      firstRead?_congr paths, Option.or_assoc]
    exact ⟨paths, rfl⟩

/-- After any calls of a new search, the search knows the file that was read last, and that is where
it saves.  A further call does what it should unless it rejects the configuration of another file
than this one, or takes the defaults although a file was read before. -/
theorem keepsTrack_performAll_iff (paths : List Path) (calls : List SearchCall)
    (call : SearchCall) :
    ((inPaths paths).performAll calls).found = (inPaths paths).lastRead? calls ∧
      (∀ default config files,
        (((inPaths paths).performAll calls).save default config files).1 =
          (config.save files (((inPaths paths).lastRead? calls).getD default)).1) ∧
      (KeepsTrack ((inPaths paths).performAll calls) call ↔
        match (inPaths paths).firstRead? call.files with
        | some (path, config) => call.options.checks = true → config.flaw? ≠ none →
          (inPaths paths).lastRead? calls = some path
        | none => call.options.usesDefaults = true → (inPaths paths).lastRead? calls = none) := by
  obtain ⟨same, found⟩ := performAll_eq (inPaths paths) calls
  have last : ((inPaths paths).performAll calls).found = (inPaths paths).lastRead? calls := by
    rw [found]
    exact Option.or_none
  refine ⟨last, fun default config files => ?_, ?_⟩
  · rw [save, last]
  · rw [keepsTrack_iff_found, firstRead?_congr same, last]

/-- A flawed file is rejected and known all the same.  And when the defaults are taken because a
file is gone, the search still knows that file. -/
theorem not_keepsTrack :
    ¬ KeepsTrack (inPaths [⟨"config"⟩]) ⟨flawedFiles, SearchOptions.standard⟩ ∧
      ¬ KeepsTrack ((inPaths [⟨"config"⟩]).performAll [⟨flawedFiles, ⟨true, false⟩⟩])
        ⟨⟨[], []⟩, SearchOptions.standard⟩ := by
  have found : readable? flawedFiles (⟨"config.toml"⟩, .toml) =
      some (⟨"config.toml"⟩, flawedConfig) :=
    readable?_eq_some_iff.mpr ⟨rfl, holds_iff.mp holds_flawed⟩
  have read : (inPaths [⟨"config"⟩]).firstRead? flawedFiles =
      some (⟨"config.toml"⟩, flawedConfig) := by
    rw [firstRead?, candidates_flawed, List.singleton_append, List.findSome?_cons, found]
  have unread : (inPaths [⟨"config"⟩]).firstRead? ⟨[], []⟩ = none := by
    rw [firstRead?, candidates_flawed]
    rfl
  have flawed : flawedConfig.flaw? ≠ none := by decide
  constructor
  · rw [keepsTrack_iff_found, read]
    intro kept
    have known : (none : Option Path) = some ⟨"config.toml"⟩ := kept rfl flawed
    cases known
  · have stepped : (inPaths [⟨"config"⟩]).perform ⟨flawedFiles, ⟨true, false⟩⟩ =
        ⟨[⟨"config"⟩], some ⟨"config.toml"⟩⟩ := perform_of_read read
    have gone : firstRead? ⟨[⟨"config"⟩], some ⟨"config.toml"⟩⟩ ⟨[], []⟩ = none := by
      have same : firstRead? ⟨[⟨"config"⟩], some ⟨"config.toml"⟩⟩ =
          (inPaths [⟨"config"⟩]).firstRead? := firstRead?_congr rfl
      rw [same, unread]
    rw [performAll, List.foldl_cons, List.foldl_nil, stepped, keepsTrack_iff_found, gone]
    intro kept
    cases kept rfl

end ConfigSearch

end ShellPractice
