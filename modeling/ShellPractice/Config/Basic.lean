import ShellPractice.FileTree.Path
import ShellPractice.Lesson.Basic

/-!
# Configuration

The settings of the terminal and of the lessons on offer.  Every setting has a default, and some
values of a setting are unacceptable.
-/

namespace ShellPractice

/-- The settings of a practice terminal. -/
structure TerminalSettings where
  /-- The working directory that the prompt shows. -/
  directory : String
  /-- What stands between the working directory and the typed line. -/
  delimiter : String
  /-- The lines with which a transcript starts. -/
  banner : List String
  /-- Whether the banner comes back when the transcript is cleared. -/
  restoresBanner : Bool
  /-- Whether the arguments of commands are put into lower case. -/
  lowersArguments : Bool
  /-- The number of entries that a transcript keeps. -/
  maxEntries : UInt64
  deriving DecidableEq, Repr

namespace TerminalSettings

/-- The settings of a terminal for which none are given. -/
def standard : TerminalSettings where
  directory := defaultDirectory
  delimiter := "$ "
  banner :=
    ["Welcome to the DevOps Shell Lab Terminal!",
      "Type commands below to practice. Use \"help\" for available commands."]
  restoresBanner := false
  lowersArguments := false
  maxEntries := 10000

/-- The number of entries that a transcript keeps; one at the least. -/
def capacity (settings : TerminalSettings) : Nat :=
  max settings.maxEntries.toNat 1

end TerminalSettings

/-- The settings of the lessons on offer. -/
structure LessonSettings where
  /-- A file with further lessons. -/
  catalogPath : Option Path
  /-- The lesson that is opened when none is asked for. -/
  defaultLesson : Option String
  deriving DecidableEq, Repr

/-- All settings. -/
structure Config where
  terminal : TerminalSettings
  lessons : LessonSettings
  deriving DecidableEq, Repr

/-- The settings that hold when none are given. -/
def Config.standard : Config where
  terminal := TerminalSettings.standard
  lessons := ⟨none, none⟩

/-- What makes settings unacceptable. -/
inductive ConfigFlaw where
  | blankDirectory
  | emptyDelimiter
  | noEntries
  | tooManyEntries
  | blankDefaultLesson
  deriving DecidableEq, Repr

namespace ConfigFlaw

/-- The setting that is unacceptable. -/
def field : ConfigFlaw → String
  | blankDirectory => "terminal.working_directory"
  | emptyDelimiter => "terminal.prompt_delimiter"
  | noEntries | tooManyEntries => "terminal.max_transcript_entries"
  | blankDefaultLesson => "lessons.default_lesson"

/-- What is wrong with the setting. -/
def reason : ConfigFlaw → String
  | blankDirectory => "Working directory cannot be empty"
  | emptyDelimiter => "Prompt delimiter cannot be empty"
  | noEntries => "Transcript limit must be greater than 0"
  | tooManyEntries => "Transcript limit cannot exceed 1,000,000"
  | blankDefaultLesson => "Default lesson id cannot be empty"

end ConfigFlaw

namespace Config

/-- The largest acceptable number of entries. -/
def mostEntries : UInt64 :=
  1000000

/-- The first flaw of some settings. -/
def flaw? (config : Config) : Option ConfigFlaw :=
  if Text.isBlankText config.terminal.directory then some .blankDirectory
  else if config.terminal.delimiter.isEmpty then some .emptyDelimiter
  else if config.terminal.maxEntries = 0 then some .noEntries
  else if mostEntries < config.terminal.maxEntries then some .tooManyEntries
  else if config.lessons.defaultLesson.any Text.isBlankText then some .blankDefaultLesson
  else none

end Config

end ShellPractice
