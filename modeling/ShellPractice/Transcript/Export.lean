import ShellPractice.Error
import ShellPractice.FileTree.Basic
import ShellPractice.Json.Writer
import ShellPractice.Transcript.Session

/-!
# Transcripts outside the terminal

A transcript is exported as plain text, one line for each line shown, or as a JSON array of its
entries.  The extension of a file decides which of them is saved.
-/

namespace ShellPractice.Session

/-- The transcript as text, under a heading that names the session and its start. -/
def exportText (session : Session) : String :=
  "Terminal Session: " ++ session.id ++ "\nStarted: " ++ session.started.display ++ "\n\n" ++
    String.join (session.entries.map fun entry => entry.text ++ "\n")

/-- The transcript as a JSON array. -/
def exportJson (session : Session) : String :=
  Json.write (.array (session.entries.map Entry.toDocument))

/-- The transcript in the form in which a path asks for it. -/
def exportFor (session : Session) (path : Path) : String :=
  if path.extension? = some "json" then session.exportJson else session.exportText

/-- Saves the transcript.  The answer is the files, and the event of saving. -/
def save (session : Session) (files : FileTree) (path : Path) :
    FileTree × Except FileError LogEvent :=
  let (saved, result) := files.save path (session.exportFor path)
  (saved, result.map fun _ => .transcriptSaved session.entries.length path.text)

end ShellPractice.Session
