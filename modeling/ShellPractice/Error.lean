import ShellPractice.Lesson.Basic

/-!
# What can go wrong around the terminal

Nothing that a learner types is an error.  Errors come from configuration files, from lesson files
and from the file system; each has one message, and an explanation for when it stops the start.
-/

namespace ShellPractice

/-- Why an operation failed. -/
inductive Error where
  | configLoadFailed (path reason : String)
  | configSaveFailed (path reason : String)
  | configNotFound
  | configInvalid (field reason : String)
  | configSerializationFailed (format reason : String)
  | configParseFailed (format reason : String)
  | lessonNotFound (id : String)
  | lessonAlreadyExists (id : String)
  | cannotRemoveBuiltIn (id : String)
  | lessonInvalid (id reason : String)
  | lessonImportFailed (reason : String)
  | lessonExportFailed (id reason : String)
  | file (reason : String)
  | other (text : String)
  deriving DecidableEq, Repr

namespace Error

/-- The error of an unacceptable lesson. -/
def ofLessonFlaw (lesson : Lesson) (flaw : LessonFlaw) : Error :=
  lessonInvalid lesson.id flaw.reason

/-- The message of an error, on one line. -/
def message : Error → String
  | configLoadFailed path reason => "Failed to load config from '" ++ path ++ "': " ++ reason
  | configSaveFailed path reason => "Failed to save config to '" ++ path ++ "': " ++ reason
  | configNotFound => "Configuration file not found"
  | configInvalid field reason =>
    "Configuration validation failed for '" ++ field ++ "': " ++ reason
  | configSerializationFailed format reason =>
    "Failed to serialize config as " ++ format ++ ": " ++ reason
  | configParseFailed format reason => "Failed to parse " ++ format ++ " config: " ++ reason
  | lessonNotFound id => "Lesson '" ++ id ++ "' not found"
  | lessonAlreadyExists id => "Lesson '" ++ id ++ "' already exists"
  | cannotRemoveBuiltIn id => "Cannot remove built-in lesson '" ++ id ++ "'"
  | lessonInvalid id reason => "Lesson '" ++ id ++ "' is invalid: " ++ reason
  | lessonImportFailed reason => "Failed to import lessons: " ++ reason
  | lessonExportFailed id reason => "Failed to export lesson '" ++ id ++ "': " ++ reason
  | file reason => "I/O error: " ++ reason
  | other text => "Error: " ++ text

/-- A headline followed by things to try, one a line. -/
def withHints (headline : String) (hints : List String) : String :=
  headline ++ "\n\nTry:" ++ String.join (hints.map fun hint => "\n• " ++ hint)

/-- The explanation of an error that stops the start. -/
def startupText : Error → String
  | configLoadFailed path reason =>
    withHints
      ("Configuration Error: Failed to load config from '" ++ path ++ "': " ++ reason)
      ["Check the file path and permissions", "Run without --config to use defaults"]
  | configParseFailed format reason =>
    withHints ("Configuration Error: Failed to parse " ++ format ++ " config: " ++ reason)
      ["Check configuration file syntax", "Ensure file is valid " ++ format]
  | configInvalid field reason =>
    withHints ("Configuration Error: Validation failed for '" ++ field ++ "': " ++ reason)
      ["Check configuration value", "Remove the field to use its default"]
  | lessonNotFound id =>
    withHints ("Lesson Error: No lesson named '" ++ id ++ "'")
      ["Run with --list to see available lessons"]
  | lessonImportFailed reason | lessonInvalid _ reason =>
    withHints ("Lesson Error: " ++ reason)
      ["Check the lesson catalog file",
        "Give every exercise the same command as its expected command"]
  | error => "Unexpected Error: " ++ error.message

end Error

end ShellPractice
