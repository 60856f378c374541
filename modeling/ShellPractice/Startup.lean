import ShellPractice.Config.Search
import ShellPractice.Lesson.File

/-!
# Starting up

The program starts with a configuration and the lessons that the configuration selects.  Where the
configuration of the user cannot be loaded the defaults are used; a file that was asked for must be
right.
-/

namespace ShellPractice

/-- A configuration with the lessons that it selects. -/
structure Workspace where
  config : Config
  catalog : Catalog
  deriving DecidableEq

namespace Workspace

/-- The workspace of the defaults. -/
def standard : Workspace :=
  ⟨Config.standard, Catalog.builtIn⟩

/-- The lessons that a configuration selects. -/
def catalogOf (config : Config) (files : FileTree) : Logged (Except Error Catalog) :=
  match config.lessons.catalogPath with
  | none => pure (.ok Catalog.builtIn)
  | some path => do
    let (catalog, result) ← Catalog.builtIn.loadFile files path
    pure (result.map fun _ => catalog)

/-- The workspace of a configuration, whose default lesson must be among its lessons. -/
def ofConfig (config : Config) (files : FileTree) : Logged (Except Error Workspace) := do
  match ← catalogOf config files with
  | .error error => pure (.error error)
  | .ok catalog =>
    match config.lessons.defaultLesson with
    | none => pure (.ok ⟨config, catalog⟩)
    | some id => pure ((catalog.get id).map fun _ => ⟨config, catalog⟩)

/-- The workspace of the configuration of a user. -/
def forUser (environment : Environment) (files : FileTree) :
    Logged (Except Error Workspace) := do
  match ← Config.loadFor environment files with
  | .error error => pure (.error error)
  | .ok config => ofConfig config files

/-- The workspace of a configuration file. -/
def ofFile (files : FileTree) (path : Path) : Logged (Except Error Workspace) :=
  match Config.load files path with
  | .error error => pure (.error error)
  | .ok config => ofConfig config files

/-- Starts with the configuration of the user, or with the defaults when it cannot be loaded. -/
def start (environment : Environment) (files : FileTree) :
    Logged (Except Error Workspace) := do
  Logged.record .starting
  let config ← match ← Config.loadFor environment files with
    | .ok config => pure config
    | .error error => do
      Logged.record (.configReplaced error.message)
      pure Config.standard
  match ← ofConfig config files with
  | .error error => pure (.error error)
  | .ok workspace =>
    Logged.record (.started workspace.catalog.lessons.length)
    pure (.ok workspace)

/-- The reason for refusing a configuration file that is not there. -/
def missingFile : String :=
  "Configuration file does not exist"

/-- Starts with a configuration file, which must exist. -/
def startWith (files : FileTree) (path : Path) : Logged (Except Error Workspace) := do
  Logged.record (.startingWith path.text)
  if files.exists? path then
    match ← ofFile files path with
    | .error error => pure (.error error)
    | .ok workspace =>
      Logged.record (.startedWith path.text)
      pure (.ok workspace)
  else pure (.error (.configLoadFailed path.text missingFile))

end Workspace

end ShellPractice
