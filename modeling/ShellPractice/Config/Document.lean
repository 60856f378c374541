import ShellPractice.Config.Basic
import ShellPractice.Document.Record

/-!
# Configuration as a document

Settings are members named in words with underscores, in two sections.  Whatever is left out has
its default.
-/

namespace ShellPractice

open Document

namespace TerminalSettings

/-- The names of the settings, in order. -/
def fieldNames : List String :=
  ["working_directory", "prompt_delimiter", "welcome_banner", "restore_banner_on_clear",
    "legacy_lowercase_arguments", "max_transcript_entries"]

/-- The settings that a document describes. -/
def ofDocument? (conventions : Conventions) (document : Document) : Option TerminalSettings := do
  match ← fields? conventions fieldNames document with
  | [directory, delimiter, banner, restores, lowers, entries] =>
    some {
      directory := ← withDefault standard.directory text? directory
      delimiter := ← withDefault standard.delimiter text? delimiter
      banner := ← withDefault standard.banner (list? text?) banner
      restoresBanner := ← withDefault standard.restoresBanner bool? restores
      lowersArguments := ← withDefault standard.lowersArguments bool? lowers
      maxEntries := ← withDefault standard.maxEntries word? entries }
  | _ => none

/-- The members of a document for the settings. -/
def members (settings : TerminalSettings) : List (String × Document) :=
  [("working_directory", .text settings.directory),
    ("prompt_delimiter", .text settings.delimiter),
    ("welcome_banner", .texts settings.banner),
    ("restore_banner_on_clear", .bool settings.restoresBanner),
    ("legacy_lowercase_arguments", .bool settings.lowersArguments),
    ("max_transcript_entries", .integer settings.maxEntries.toNat)]

end TerminalSettings

namespace LessonSettings

/-- The names of the settings, in order. -/
def fieldNames : List String :=
  ["catalog_path", "default_lesson"]

/-- The settings that a document describes. -/
def ofDocument? (conventions : Conventions) (document : Document) : Option LessonSettings := do
  match ← fields? conventions fieldNames document with
  | [catalog, lesson] =>
    some {
      catalogPath := (← withDefault none (optional? text?) catalog).map Path.mk
      defaultLesson := ← withDefault none (optional? text?) lesson }
  | _ => none

/-- The settings by name, with those that are absent. -/
def members (settings : LessonSettings) : List (String × Option Document) :=
  [("catalog_path", settings.catalogPath.map fun path => .text path.text),
    ("default_lesson", settings.defaultLesson.map .text)]

end LessonSettings

namespace Config

/-- The configuration that a document describes. -/
def ofDocument? (conventions : Conventions) (document : Document) : Option Config := do
  match ← fields? conventions ["terminal", "lessons"] document with
  | [terminal, lessons] =>
    some {
      terminal := ← withDefault standard.terminal
        (TerminalSettings.ofDocument? conventions) terminal
      lessons := ← withDefault standard.lessons
        (LessonSettings.ofDocument? conventions) lessons }
  | _ => none

/-- A document in which every setting stands; one that is absent stands as `null`. -/
def toDocument (config : Config) : Document :=
  .object [("terminal", .object config.terminal.members),
    ("lessons", .object (config.lessons.members.map fun member =>
      (member.1, ofOption member.2)))]

/-- The sections of a configuration, without the settings that are absent. -/
def sections (config : Config) : List (String × List (String × Document)) :=
  [("terminal", config.terminal.members), ("lessons", present config.lessons.members)]

end Config

end ShellPractice
