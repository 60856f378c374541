import ShellPractice.Config.Store
import ShellPractice.Log

/-!
# Where configuration is found

Without a file of its own the program looks in several places, in each for one file of either
format.  A file that cannot be read hides no other; the search goes on.
-/

namespace ShellPractice

/-- What the program knows about its user. -/
structure Environment where
  /-- The home directory. -/
  home : Option String
  /-- The directory of configuration files. -/
  configHome : Option String
  /-- The file with the configuration. -/
  configFile : Option String
  /-- The home directory that the system keeps for the user. -/
  accountHome : Option String
  /-- The directory in which the program was started, unless it is gone. -/
  workingDirectory : Option Path
  deriving DecidableEq, Repr

namespace Environment

/-- The directory of the program below the others. -/
def applicationName : String :=
  "shell-lab"

/-- The home directory; an empty name counts as none. -/
def homeDirectory? (environment : Environment) : Option Path :=
  ((environment.home.filter (· ≠ "")).or environment.accountHome).map Path.mk

/-- The directory of configuration files, which must be absolute where it is named. -/
def configDirectory? (environment : Environment) : Option Path :=
  ((environment.configHome.map Path.mk).filter Path.isAbsolute).or
    (environment.homeDirectory?.map (· / ⟨".config"⟩))

/-- The places in which configuration is searched, without extension. -/
def searchPaths (environment : Environment) : List Path :=
  let visible : Path := ⟨applicationName⟩ / ⟨"config"⟩
  let hidden : Path := ⟨"." ++ applicationName⟩ / ⟨"config"⟩
  ((environment.configHome.map Path.mk).map (· / visible)).toList ++
    (environment.configDirectory?.map (· / visible)).toList ++
    (environment.homeDirectory?.map (· / hidden)).toList ++
    (environment.workingDirectory.map (· / hidden)).toList

/-- Where configuration is saved when it was found nowhere. -/
def savePath (environment : Environment) : Path :=
  environment.configDirectory?.getD ⟨"."⟩ / ⟨applicationName⟩ / ⟨"config.toml"⟩

end Environment

/-- A search for configuration. -/
structure ConfigSearch where
  paths : List Path
  /-- The file in which configuration was found last. -/
  found : Option Path
  deriving DecidableEq, Repr

/-- What a search does with its result. -/
structure SearchOptions where
  /-- Whether the defaults are the result when nothing is found. -/
  usesDefaults : Bool
  /-- Whether what is found must have no flaws. -/
  checks : Bool
  deriving DecidableEq, Repr

/-- What a search does when nothing else is asked for. -/
def SearchOptions.standard : SearchOptions :=
  ⟨true, true⟩

namespace ConfigSearch

/-- A search in the given places. -/
def inPaths (paths : List Path) : ConfigSearch :=
  ⟨paths, none⟩

/-- A search in the places where the configuration of a user may be. -/
def ofEnvironment (environment : Environment) : ConfigSearch :=
  inPaths environment.searchPaths

/-- The files that are looked for, in order. -/
def candidates (search : ConfigSearch) : List (Path × Format) :=
  search.paths.flatMap fun path =>
    [Format.toml, Format.json].map fun format => (path.withExtension format.extension, format)

/-- The first candidate that exists and can be read.  The others that exist are reported. -/
def firstReadable (files : FileTree) : List (Path × Format) → Logged (Option (Path × Config))
  | [] => pure none
  | (path, format) :: rest =>
    if files.exists? path then
      match Config.loadAs files path format with
      | .ok config => pure (some (path, config))
      | .error error => do
        Logged.record (.configSkipped path.text error.message)
        firstReadable files rest
    else firstReadable files rest

/-- Searches configuration.  The answer is the search, which knows the file in which configuration
was found, and the result. -/
def load (search : ConfigSearch) (files : FileTree) (options : SearchOptions) :
    Logged (ConfigSearch × Except Error Config) := do
  match ← firstReadable files search.candidates with
  | some (path, config) =>
    Logged.record (.configLoaded path.text)
    pure ({ search with found := some path },
      if options.checks then config.check else .ok config)
  | none =>
    pure (search, if options.usesDefaults then .ok Config.standard else .error .configNotFound)

/-- Saves configuration to the file in which it was found, or else to a path of its own.  The
answer is the files and the path. -/
def save (search : ConfigSearch) (default : Path) (config : Config) (files : FileTree) :
    FileTree × Except Error Path :=
  let path := search.found.getD default
  let (saved, result) := config.save files path
  (saved, result.map fun _ => path)

end ConfigSearch

namespace Config

/-- The configuration of a user: from the file that the environment names, or else searched. -/
def loadFor (environment : Environment) (files : FileTree) : Logged (Except Error Config) :=
  match environment.configFile with
  | some path => pure (load files ⟨path⟩)
  | none => do
    let (_, result) ←
      (ConfigSearch.ofEnvironment environment).load files SearchOptions.standard
    pure result

/-- The files that loading the configuration of a user looks at. -/
def filesFor (environment : Environment) : List Path :=
  match environment.configFile with
  | some path => [⟨path⟩]
  | none => (ConfigSearch.ofEnvironment environment).candidates.map Prod.fst

end Config

end ShellPractice
