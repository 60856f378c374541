import ShellPractice.FileTree.Path
import ShellPractice.Log

/-!
# Arguments of the program

Options come one after the other; three of them take the argument after them as their value,
whatever it is.  Of an option that is given twice the last value counts.  A request for help or for
the version is answered at once, without a look at what follows.
-/

namespace ShellPractice.CommandLine

/-- What the arguments ask for. -/
structure Options where
  configPath : Option Path
  lesson : Option String
  transcriptPath : Option Path
  list : Bool
  debug : Bool
  deriving DecidableEq, Repr

/-- The options of a program that is run without arguments. -/
def Options.none : Options :=
  ⟨.none, .none, .none, false, false⟩

/-- What is wrong with the arguments. -/
inductive Misuse where
  | missingConfigPath
  | missingLesson
  | missingTranscriptPath
  | unknownOption (argument : String)
  | unexpectedArgument (argument : String)
  deriving DecidableEq, Repr

/-- The misuse in words. -/
def Misuse.message : Misuse → String
  | missingConfigPath => "Missing config file path"
  | missingLesson => "Missing lesson id"
  | missingTranscriptPath => "Missing transcript file path"
  | unknownOption argument => "Unknown option: " ++ argument
  | unexpectedArgument argument => "Unexpected argument: " ++ argument

/-- What the program is to do. -/
inductive Request where
  | run (options : Options)
  | showHelp
  | showVersion
  | refuse (misuse : Misuse)
  deriving DecidableEq, Repr

/-- The options that take a value. -/
inductive ValueOption where
  | config
  | lesson
  | transcript
  deriving DecidableEq, Repr

namespace ValueOption

/-- The misuse of an option without its value. -/
def missing : ValueOption → Misuse
  | config => .missingConfigPath
  | lesson => .missingLesson
  | transcript => .missingTranscriptPath

/-- The options with a value set. -/
def set (options : Options) (value : String) : ValueOption → Options
  | config => { options with configPath := some ⟨value⟩ }
  | lesson => { options with lesson := some value }
  | transcript => { options with transcriptPath := some ⟨value⟩ }

end ValueOption

/-- The options that stand alone. -/
inductive Flag where
  | list
  | debug
  deriving DecidableEq, Repr

/-- The options with a flag set. -/
def Flag.set (options : Options) : Flag → Options
  | list => { options with list := true }
  | debug => { options with debug := true }

/-- What one argument is by itself. -/
inductive Argument where
  | valued (option : ValueOption)
  | flag (flag : Flag)
  | help
  | version
  | misuse (misuse : Misuse)
  deriving DecidableEq, Repr

/-- Reads one argument. -/
def Argument.of (argument : String) : Argument :=
  if argument = "--config" ∨ argument = "-c" then .valued .config
  else if argument = "--lesson" ∨ argument = "-l" then .valued .lesson
  else if argument = "--transcript" ∨ argument = "-t" then .valued .transcript
  else if argument = "--list" then .flag .list
  else if argument = "--debug" ∨ argument = "-d" then .flag .debug
  else if argument = "--help" ∨ argument = "-?" then .help
  else if argument = "--version" ∨ argument = "-v" then .version
  else if argument.toList.head? = some '-' then .misuse (.unknownOption argument)
  else .misuse (.unexpectedArgument argument)

/-- What the arguments ask for, given the options before them. -/
def requestAfter (options : Options) : List String → Request
  | [] => .run options
  | argument :: rest =>
    match Argument.of argument with
    | .help => .showHelp
    | .version => .showVersion
    | .misuse misuse => .refuse misuse
    | .flag flag => requestAfter (flag.set options) rest
    | .valued option =>
      match rest with
      | [] => .refuse option.missing
      | value :: rest => requestAfter (option.set options value) rest

/-- What the arguments of the program ask for. -/
def Request.of (arguments : List String) : Request :=
  requestAfter Options.none arguments

/-- The answer to a request for help. -/
def helpText : String :=
  "Shell Lab - practice shell commands in a simulated terminal\n\n" ++
    "USAGE:\n" ++
    "    shell-lab [OPTIONS]\n\n" ++
    "OPTIONS:\n" ++
    "    -c, --config <PATH>    Path to configuration file\n" ++
    "    -l, --lesson <ID>      Lesson to practice (see --list)\n" ++
    "    -t, --transcript <PATH> Save the session transcript on exit (.json or text)\n" ++
    "        --list             List available lessons and exit\n" ++
    "    -d, --debug            Enable debug logging\n" ++
    "    -?, --help             Print this help message\n" ++
    "    -v, --version          Print version information\n\n" ++
    "Type 'help' inside the terminal for the supported commands,\n" ++
    "and 'exit' or 'quit' to leave.\n\n" ++
    "ENVIRONMENT:\n" ++
    "    SHELL_LAB_CONFIG       Path to configuration file\n" ++
    "    SHELL_LAB_DEBUG        Enable debug logging (1 or true)\n" ++
    "    RUST_LOG               Set logging level (error, warn, info, debug, trace)\n"

/-- The answer to a request for the version. -/
def versionText : String :=
  "Shell Lab v" ++ programVersion ++ "\n"

end ShellPractice.CommandLine
