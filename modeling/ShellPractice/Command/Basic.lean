/-!
# Commands of the practice terminal

A command is a verb with as many arguments as the verb takes.  A line that is no command is kept
as typed.
-/

namespace ShellPractice

/-- Verbs that stand alone. -/
inductive PlainVerb where
  | help
  | clear
  | printDirectory
  | listDirectory
  deriving DecidableEq, Repr

/-- Verbs with one argument, which may hold blanks. -/
inductive SingleVerb where
  | changeDirectory
  | makeDirectory
  | createFile
  | echo
  | readFile
  | removeFile
  deriving DecidableEq, Repr

/-- Verbs with a source and a destination. -/
inductive PairVerb where
  | copyFile
  | moveFile
  deriving DecidableEq, Repr

/-- What a typed line asks for. -/
inductive Command where
  | plain (verb : PlainVerb)
  | single (verb : SingleVerb) (argument : String)
  | pair (verb : PairVerb) (source destination : String)
  | unknown (line : String)
  deriving DecidableEq, Repr

/-- Every plain verb. -/
def PlainVerb.all : List PlainVerb :=
  [.help, .clear, .printDirectory, .listDirectory]

/-- The word that is typed for a plain verb. -/
def PlainVerb.keyword : PlainVerb → String
  | .help => "help"
  | .clear => "clear"
  | .printDirectory => "pwd"
  | .listDirectory => "ls"

/-- Every verb with one argument. -/
def SingleVerb.all : List SingleVerb :=
  [.changeDirectory, .makeDirectory, .createFile, .echo, .readFile, .removeFile]

/-- The word that is typed for a verb with one argument. -/
def SingleVerb.keyword : SingleVerb → String
  | .changeDirectory => "cd"
  | .makeDirectory => "mkdir"
  | .createFile => "touch"
  | .echo => "echo"
  | .readFile => "cat"
  | .removeFile => "rm"

/-- Every verb with two arguments. -/
def PairVerb.all : List PairVerb :=
  [.copyFile, .moveFile]

/-- The word that is typed for a verb with two arguments. -/
def PairVerb.keyword : PairVerb → String
  | .copyFile => "cp"
  | .moveFile => "mv"

theorem PlainVerb.mem_all (verb : PlainVerb) : verb ∈ all := by
  cases verb <;> simp [all]

theorem SingleVerb.mem_all (verb : SingleVerb) : verb ∈ all := by
  cases verb <;> simp [all]

theorem PairVerb.mem_all (verb : PairVerb) : verb ∈ all := by
  cases verb <;> simp [all]

namespace Command

/-- The keyword of a command; a line that is no command has none. -/
def keyword? : Command → Option String
  | plain verb => some verb.keyword
  | single verb _ => some verb.keyword
  | pair verb _ _ => some verb.keyword
  | unknown _ => none

/-- Whether the line was a command at all. -/
def recognized : Command → Bool
  | unknown _ => false
  | _ => true

/-- A command written on one line: its keyword and its arguments, each after one space. -/
def text : Command → String
  | plain verb => verb.keyword
  | single verb argument => verb.keyword ++ " " ++ argument
  | pair verb source destination => verb.keyword ++ " " ++ source ++ " " ++ destination
  | unknown line => line

end Command

end ShellPractice
