import ShellPractice.Command.Classify

/-!
# Answers of the practice terminal

Nothing is executed: every command has a fixed answer that depends on its arguments and on the
name of the working directory alone.  The only failure is a line that is no command.
-/

namespace ShellPractice

/-- The answer to a command. -/
inductive Response where
  | output (text : String)
  | failure (text : String)
  /-- The transcript is to be emptied; nothing is shown. -/
  | cleared
  deriving DecidableEq, Repr

namespace Response

/-- The text that stands for an emptied transcript. -/
def clearedText : String :=
  "CLEAR"

/-- The text of an answer. -/
def text : Response → String
  | output text | failure text => text
  | cleared => clearedText

/-- Whether the command succeeded. -/
def succeeded : Response → Bool
  | failure _ => false
  | _ => true

/-- Whether the transcript is to be emptied. -/
def clears : Response → Bool
  | cleared => true
  | _ => false

end Response

namespace Command

/-- The commands that `help` lists: how each is written and what it does. -/
def reference : List (String × String) :=
  [("ls", "list directory contents"),
    ("cd <directory>", "change directory"),
    ("pwd", "print working directory"),
    ("mkdir <name>", "create directory"),
    ("touch <file>", "create file"),
    ("cat <file>", "display file contents"),
    ("echo <text>", "display text"),
    ("rm <file>", "remove file"),
    ("cp <source> <dest>", "copy file"),
    ("mv <source> <dest>", "move file"),
    ("clear", "clear terminal")]

/-- The answer to `help`: a heading and one line for each command. -/
def helpText : String :=
  "Available commands:" ++
    String.join (reference.map fun entry => "\n• " ++ entry.1 ++ " - " ++ entry.2)

/-- The answer to `ls`, wherever the learner is. -/
def directoryListing : String :=
  "Documents  Downloads  Pictures  Videos\nexample.txt  script.sh  notes.md"

/-- A text without its quotation marks, single or double. -/
def withoutQuotes (text : String) : String :=
  String.ofList (text.toList.filter fun c => c != '\x27' && c != '"')

/-- The answer to a plain verb in a working directory. -/
def respondPlain (directory : String) : PlainVerb → Response
  | .help => .output helpText
  | .clear => .cleared
  | .printDirectory => .output directory
  | .listDirectory => .output directoryListing

/-- The answer to a verb with one argument. -/
def respondSingle (argument : String) : SingleVerb → String
  | .changeDirectory =>
    if argument = ".." then "Changed to parent directory"
    else "Changed to directory: " ++ argument
  | .makeDirectory => "Directory '" ++ argument ++ "' created successfully"
  | .createFile => "File '" ++ argument ++ "' created successfully"
  | .echo => withoutQuotes argument
  | .readFile =>
    "Content of " ++ argument ++ ":\nThis is a sample file content.\n" ++
      "You can view file contents using the cat command."
  | .removeFile => "File '" ++ argument ++ "' removed successfully"

/-- The answer to a verb with two arguments. -/
def respondPair (source destination : String) : PairVerb → String
  | .copyFile => "Copied '" ++ source ++ "' to '" ++ destination ++ "'"
  | .moveFile => "Moved '" ++ source ++ "' to '" ++ destination ++ "'"

/-- The answer to a command in a working directory. -/
def respond (directory : String) : Command → Response
  | plain verb => respondPlain directory verb
  | single verb argument => .output (respondSingle argument verb)
  | pair verb source destination => .output (respondPair source destination verb)
  | unknown line => .failure ("bash: " ++ line ++ ": command not found")

theorem succeeded_respond (directory : String) (command : Command) :
    (command.respond directory).succeeded = command.recognized := by
  cases command with
  | plain verb => cases verb <;> rfl
  | single verb argument => rfl
  | pair verb source destination => rfl
  | unknown line => rfl

theorem clears_respond_iff (directory : String) (command : Command) :
    (command.respond directory).clears = true ↔ command = plain .clear := by
  cases command with
  | plain verb => cases verb <;> simp [respond, respondPlain, Response.clears]
  | single verb argument => simp [respond, Response.clears]
  | pair verb source destination => simp [respond, Response.clears]
  | unknown line => simp [respond, Response.clears]

end Command

end ShellPractice
