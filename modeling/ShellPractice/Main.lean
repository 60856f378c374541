import ShellPractice.CommandLine.Run
import ShellPractice.Transcript.SessionId
import Std.Time.DateTime.Timestamp

/-!
# The program

Fetches what a run starts from, and carries on a run line by line with the learner.  What is shown
and what is saved is decided by the definitions of a run.
-/

namespace ShellPractice.Program

open CommandLine

/-- The reason for which the system refused a file. -/
def reasonOf : IO.Error → FileError
  | .noFileOrDirectory .. => .missing
  | .alreadyExists .. => .alreadyExists
  | .inappropriateType .. => .notDirectory
  | .invalidArgument .. => .badPath
  | _ => .isDirectory

/-- The tree with what stands at a path on the disk. -/
def observe (tree : FileTree) (path : Path) : IO FileTree := do
  let content ← EIO.toBaseIO (IO.FS.readBinFile path.text)
  return match content with
    | .ok content => ((tree.makeParents path).1.write path content).toOption.getD tree
    | .error error =>
      match reasonOf error with
      | .missing => tree
      | _ => (tree.makeSteps (tree.startOf path) false path.steps).1

/-- What the program knows about its user. -/
def environment : IO Environment := do
  return {
    home := ← IO.getEnv "HOME"
    configHome := ← IO.getEnv "XDG_CONFIG_HOME"
    configFile := ← IO.getEnv "SHELL_LAB_CONFIG"
    accountHome := none
    workingDirectory := (← EIO.toBaseIO IO.currentDir).toOption.map fun directory =>
      ⟨directory.toString⟩ }

/-- The files that decide about the start: those of the configuration, and the lessons that it
selects. -/
def observeFiles (environment : Environment) (options : Options) : IO FileTree := do
  let root : FileTree := ⟨[], []⟩
  let base := match environment.workingDirectory with
    | some directory =>
      { (root.makeSteps [] false directory.steps).1 with current := directory.steps }
    -- Nothing stands where paths start then.
    | none => { root with current := [""] }
  let paths := match options.configPath with
    | some path => [path]
    | none => Config.filesFor environment
  let tree ← paths.foldlM observe base
  let config := match options.configPath with
    | some path => Config.load tree path
    | none => (Config.loadFor environment tree).value
  match config with
  | .ok config => config.lessons.catalogPath.toList.foldlM observe tree
  | .error _ => return tree

/-- The events that are to be shown. -/
def logFilter (options : Options) : IO LogFilter := do
  let named := (← IO.getEnv "RUST_LOG").map LogFilter.ofName?
  let wanted := (← IO.getEnv "SHELL_LAB_DEBUG").any fun value =>
    value == "1" || Text.sameLetters value "true"
  let usual : LogFilter := if options.debug || wanted then .all else .warnings
  return named.elim usual (Option.getD · usual)

/-- The present moment. -/
def now : IO Timestamp := do
  return .ofNanoseconds (← Std.Time.Timestamp.now).toNanosecondsSinceUnixEpoch.val.toNat

/-- The bytes of a line with its newline, after those that were read before. -/
partial def readLine (input : IO.FS.Stream) (before : ByteArray) : IO ByteArray := do
  let next ← input.read 1
  let line := before ++ next
  if next.isEmpty || next.data.contains 10 then return line else readLine input line

/-- The loop with the learner; `none` is its end when a line could not be read. -/
partial def interact (practice : Practice) : IO (Option Practice) := do
  let output ← IO.getStdout
  output.putStr practice.session.prompt
  output.flush
  let line ← readLine (← IO.getStdin) ByteArray.empty
  if line.isEmpty then return some practice
  match String.fromUTF8? line with
  | none => return none
  | some line =>
    match turn (← now) practice (Text.dropLineEnd line) with
    | .leave => return some practice
    | .proceed next shown =>
      output.putStr shown
      interact next

/-- Saves the transcript to the disk. -/
def saveTranscript (practice : Practice) : Option Path → IO Saving
  | none => return .notAskedFor
  | some path => do
    let written ← EIO.toBaseIO do
      unless path.steps.length ≤ 1 do IO.FS.createDirAll path.parent.text
      IO.FS.writeFile path.text (practice.session.exportFor path)
    return match written with
      | .ok _ => .saved path
      | .error error => .failed path (reasonOf error)

/-- Shows the end of a run. -/
def leave (conclusion : Conclusion) : IO UInt32 := do
  IO.print conclusion.output
  IO.eprint conclusion.errors
  return conclusion.status

/-- Practices until the learner leaves. -/
def practiceUntilLeft (options : Options) (practice : Practice) : IO UInt32 := do
  IO.print (greeting practice)
  match ← interact practice with
  | none => leave ⟨1, "", unreadableReport⟩
  | some practice => leave (conclude practice (← saveTranscript practice options.transcriptPath))

/-- Runs the program with options. -/
def runWith (options : Options) : IO UInt32 := do
  let environment ← environment
  let id := SessionId.ofBytes (← IO.getRandomBytes 16).data.toList
  let surroundings : Surroundings :=
    ⟨environment, ← observeFiles environment options, id, ← now⟩
  let opened := openWorkspace surroundings options
  IO.eprint ((← logFilter options).lines opened.events)
  match opened.value with
  | .error error => leave (.ofError error)
  | .ok workspace =>
    if options.list then leave ⟨0, listing workspace.catalog, ""⟩
    else
      match openPractice surroundings options workspace with
      | .error error => leave (.ofError error)
      | .ok practice => practiceUntilLeft options practice

end ShellPractice.Program

open ShellPractice CommandLine in
/-- Runs the program with its arguments. -/
def main (arguments : List String) : IO UInt32 :=
  match Request.of arguments with
  | .showHelp => Program.leave ⟨0, helpText, ""⟩
  | .showVersion => Program.leave ⟨0, versionText, ""⟩
  | .refuse misuse => Program.leave ⟨2, helpText, misuse.message ++ "\n\n"⟩
  | .run options => Program.runWith options
