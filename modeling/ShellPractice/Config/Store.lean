import ShellPractice.Config.Document
import ShellPractice.Error
import ShellPractice.FileTree.Basic
import ShellPractice.Json.Reader
import ShellPractice.Json.Writer
import ShellPractice.Toml.Reader
import ShellPractice.Toml.Writer

/-!
# Configuration files

A configuration is stored in one of two formats, which the extension of the file decides.  What is
loaded on request is also checked; what is saved is not.
-/

namespace ShellPractice

/-- The notations of files. -/
inductive Format where
  | toml
  | json
  deriving DecidableEq, Repr

namespace Format

/-- The name of a format. -/
def name : Format → String
  | toml => "TOML"
  | json => "JSON"

/-- The extension of the files in a format. -/
def extension : Format → String
  | toml => "toml"
  | json => "json"

/-- The format of a file.  Every file is TOML unless its extension says otherwise. -/
def ofPath (path : Path) : Format :=
  if path.extension? = some json.extension then json else toml

/-- The document that a text is. -/
def read? : Format → String → Option Document
  | toml, text => Toml.read? text
  | json, text => Json.read? text

/-- How records are written in the format. -/
def conventions : Format → Document.Conventions
  | toml => Toml.conventions
  | json => Json.conventions

/-- Reads a value of some kind from a text.  The reason of a failure tells a text that is not in
the format from one with another content. -/
def decode {α : Type} (format : Format) (read : Document.Conventions → Document → Option α)
    (text : String) : Except String α :=
  match format.read? text with
  | none => .error ("not a " ++ format.name ++ " document")
  | some document =>
    match read format.conventions document with
    | none => .error "unexpected content"
    | some value => .ok value

end Format

namespace Config

/-- The text of a configuration in a format. -/
def write? (config : Config) : Format → Option String
  | .toml => Toml.write? config.sections
  | .json => some (Json.write config.toDocument)

/-- Accepts a configuration without flaws. -/
def check (config : Config) : Except Error Config :=
  match config.flaw? with
  | some flaw => .error (.configInvalid flaw.field flaw.reason)
  | none => .ok config

/-- The configuration in a file of a format, unchecked. -/
def loadAs (files : FileTree) (path : Path) (format : Format) : Except Error Config :=
  match files.readText path with
  | .error error => .error (.configLoadFailed path.text error.message)
  | .ok text =>
    match format.decode ofDocument? text with
    | .error reason => .error (.configParseFailed format.name reason)
    | .ok config => .ok config

/-- The configuration in a file, checked. -/
def load (files : FileTree) (path : Path) : Except Error Config :=
  (loadAs files path (Format.ofPath path)).bind check

/-- Saves a configuration.  The answer is the files, which keep the directories that were made even
if the configuration cannot be written. -/
def save (config : Config) (files : FileTree) (path : Path) : FileTree × Except Error Unit :=
  match files.makeParents path with
  | (prepared, .error error) => (prepared, .error (.configSaveFailed path.text error.message))
  | (prepared, .ok ()) =>
    let format := Format.ofPath path
    match config.write? format with
    | none =>
      (prepared, .error (.configSerializationFailed format.name "a value has no written form"))
    | some text =>
      match prepared.writeText path text with
      | .error error => (prepared, .error (.configSaveFailed path.text error.message))
      | .ok saved => (saved, .ok ())

end Config

end ShellPractice
