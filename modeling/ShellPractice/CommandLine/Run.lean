import ShellPractice.CommandLine.Listing
import ShellPractice.CommandLine.Options
import ShellPractice.CommandLine.Repl
import ShellPractice.Startup
import ShellPractice.Transcript.Export

/-!
# A run of the program

From its arguments, its surroundings and everything that is typed follow what it shows, the files
that it leaves, and its exit status: zero for success, two for wrong arguments and one otherwise.
-/

namespace ShellPractice.CommandLine

/-- What a run of the program starts from. -/
structure Surroundings where
  environment : Environment
  files : FileTree
  /-- The id of the session. -/
  sessionId : String
  /-- The time of the run. -/
  now : Timestamp

/-- What a run of the program leaves behind. -/
structure Result where
  status : UInt32
  output : String
  errors : String
  files : FileTree

/-- The report of an error with the causes that led to it. -/
def failureReport (context : String) (causes : List String) : String :=
  let numbered := match causes with
    | [cause] => "    " ++ cause ++ "\n"
    | causes =>
      String.join (causes.zipIdx.map fun (cause, index) =>
        "    " ++ toString index ++ ": " ++ cause ++ "\n")
  "Error: " ++ context ++ "\n\nCaused by:\n" ++ numbered

/-- The report of a line that could not be read. -/
def unreadableReport : String :=
  failureReport "terminal I/O failed" [FileError.notText.message]

/-- The report of a transcript that could not be saved. -/
def saveReport (path : Path) (error : FileError) : String :=
  failureReport ("failed to save transcript to " ++ path.text)
    [(Error.file error.message).message, error.message]

/-- The workspace that the options ask for. -/
def openWorkspace (surroundings : Surroundings) (options : Options) :
    Logged (Except Error Workspace) :=
  match options.configPath with
  | some path => Workspace.startWith surroundings.files path
  | none => Workspace.start surroundings.environment surroundings.files

/-- The practice that the options and the configuration ask for. -/
def openPractice (surroundings : Surroundings) (options : Options) (workspace : Workspace) :
    Except Error Practice :=
  let settings := workspace.config.terminal
  match options.lesson.or workspace.config.lessons.defaultLesson with
  | none => .ok (Practice.free surroundings.sessionId surroundings.now settings).withJournal
  | some id =>
    (workspace.catalog.get id).map fun lesson =>
      (Practice.ofLesson surroundings.sessionId surroundings.now settings lesson).value.withJournal

/-- What became of the transcript. -/
inductive Saving where
  | notAskedFor
  | saved (path : Path)
  | failed (path : Path) (error : FileError)

/-- The end of a run: its exit status and the last texts that it shows. -/
structure Conclusion where
  status : UInt32
  output : String
  errors : String

/-- The report of an error before practice starts. -/
def Conclusion.ofError (error : Error) : Conclusion :=
  ⟨1, "", error.startupText ++ "\n"⟩

/-- The end of a run whose loop has ended. -/
def conclude (practice : Practice) : Saving → Conclusion
  | .notAskedFor => ⟨0, farewell practice, ""⟩
  | .saved path => ⟨0, "Transcript saved to " ++ path.text ++ "\n" ++ farewell practice, ""⟩
  | .failed path error => ⟨1, "", saveReport path error⟩

/-- The result of a run, given what it showed before its end. -/
def Conclusion.toResult (conclusion : Conclusion) (shown : String) (files : FileTree) : Result :=
  ⟨conclusion.status, shown ++ conclusion.output, conclusion.errors, files⟩

/-- The transcript saved, where it is asked for. -/
def saveTranscript (files : FileTree) (options : Options) (practice : Practice) :
    FileTree × Saving :=
  match options.transcriptPath with
  | none => (files, .notAskedFor)
  | some path =>
    match practice.session.save files path with
    | (files, .error error) => (files, .failed path error)
    | (files, .ok _) => (files, .saved path)

/-- A run with a practice that is open. -/
def practiceWith (surroundings : Surroundings) (options : Options) (practice : Practice)
    (input : ByteArray) : Result :=
  let ending := loop surroundings.now practice (Text.typedLines input)
  let shown := greeting practice ++ String.join ending.shown
  if ending.unreadable then ⟨1, shown, unreadableReport, surroundings.files⟩
  else
    let (files, saving) := saveTranscript surroundings.files options ending.practice
    (conclude ending.practice saving).toResult shown files

/-- A run with options. -/
def runWith (surroundings : Surroundings) (options : Options) (input : ByteArray) : Result :=
  match (openWorkspace surroundings options).value with
  | .error error => (Conclusion.ofError error).toResult "" surroundings.files
  | .ok workspace =>
    if options.list then ⟨0, listing workspace.catalog, "", surroundings.files⟩
    else
      match openPractice surroundings options workspace with
      | .error error => (Conclusion.ofError error).toResult "" surroundings.files
      | .ok practice => practiceWith surroundings options practice input

/-- A run with arguments. -/
def run (surroundings : Surroundings) (arguments : List String) (input : ByteArray) : Result :=
  match Request.of arguments with
  | .showHelp => ⟨0, helpText, "", surroundings.files⟩
  | .showVersion => ⟨0, versionText, "", surroundings.files⟩
  | .refuse misuse => ⟨2, helpText, misuse.message ++ "\n\n", surroundings.files⟩
  | .run options => runWith surroundings options input

end ShellPractice.CommandLine
