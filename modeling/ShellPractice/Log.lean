/-!
# What the program reports while it works

Events worth a line in the log, each at one of two levels.
-/

namespace ShellPractice

/-- How important an event is. -/
inductive LogLevel where
  | info
  | warn
  deriving DecidableEq, Repr

/-- The name of a level. -/
def LogLevel.name : LogLevel → String
  | .info => "INFO"
  | .warn => "WARN"

/-- Something that the log records. -/
inductive LogEvent where
  /-- A step of a plan was completed; steps count from one, percentages are rounded. -/
  | stepCompleted (step : Nat) (command : String) (percent : Nat)
  /-- The step that is next repeats a completed command. -/
  | stepRepeated (step : Nat) (command : String)
  | lessonStarted (id title : String)
  | lessonCompleted (id : String)
  | planCompleted
  | transcriptSaved (entries : Nat) (path : String)
  | lessonsLoaded (lessons : Nat) (path : String)
  | configLoaded (path : String)
  /-- A configuration file was passed over in the search. -/
  | configSkipped (path reason : String)
  /-- The defaults are used because no configuration could be loaded. -/
  | configReplaced (reason : String)
  | starting
  | startingWith (path : String)
  | started (lessons : Nat)
  | startedWith (path : String)
  deriving DecidableEq, Repr

/-- The name of the program. -/
def programName : String :=
  "shell-lab"

/-- The version of the program. -/
def programVersion : String :=
  "0.3.0"

/-- What the program is for, in one sentence. -/
def programDescription : String :=
  "An interactive shell tutorial with a simulated terminal and lesson progress tracking"

namespace LogEvent

/-- The level of an event. -/
def level : LogEvent → LogLevel
  | configSkipped _ _ | configReplaced _ => .warn
  | _ => .info

/-- The log message of an event. -/
def message : LogEvent → String
  | stepCompleted step command percent =>
    "Completed step " ++ toString step ++ " '" ++ command ++ "' (" ++ toString percent ++ "%)"
  | stepRepeated step command =>
    "Step " ++ toString step ++ " repeats completed command '" ++ command ++
      "'; the lesson cannot advance"
  | lessonStarted id title => "Starting lesson '" ++ id ++ "': " ++ title
  | lessonCompleted id => "Lesson '" ++ id ++ "' complete"
  | planCompleted => "All expected commands complete"
  | transcriptSaved entries path =>
    "Saved " ++ toString entries ++ " transcript entries to " ++ path
  | lessonsLoaded lessons path => "Loaded " ++ toString lessons ++ " lessons from " ++ path
  | configLoaded path => "Configuration loaded from " ++ path
  | configSkipped path reason => "Failed to load config from " ++ path ++ ": " ++ reason
  | configReplaced reason => "Failed to load configuration: " ++ reason ++ ". Using defaults"
  | starting => "Initializing " ++ programName ++ " v" ++ programVersion
  | startingWith path =>
    "Initializing " ++ programName ++ " v" ++ programVersion ++ " with config: " ++ path
  | started lessons =>
    programName ++ " initialization complete (" ++ toString lessons ++ " lessons)"
  | startedWith path => "Custom configuration loaded from: " ++ path

/-- The event as a line of the log. -/
def line (event : LogEvent) : String :=
  event.level.name ++ " " ++ event.message ++ "\n"

end LogEvent

/-- Which events are shown. -/
inductive LogFilter where
  | none
  | warnings
  | all
  deriving DecidableEq, Repr

namespace LogFilter

/-- The filter that a name asks for. -/
def ofName? (name : String) : Option LogFilter :=
  if name = "off" ∨ name = "error" then some none
  else if name = "warn" then some warnings
  else if name = "info" ∨ name = "debug" ∨ name = "trace" then some all
  else Option.none

/-- Whether an event is shown. -/
def admits : LogFilter → LogEvent → Bool
  | none, _ => false
  | warnings, event => event.level == .warn
  | all, _ => true

/-- The lines of the events that are shown. -/
def lines (filter : LogFilter) (events : List LogEvent) : String :=
  String.join ((events.filter filter.admits).map LogEvent.line)

end LogFilter

/-- A value together with the events on the way to it, oldest first. -/
structure Logged (α : Type) where
  value : α
  events : List LogEvent := []

namespace Logged

/-- A value without events before it. -/
protected def pure {α : Type} (value : α) : Logged α :=
  ⟨value, []⟩

/-- Two steps in order; the events of the second follow those of the first. -/
protected def bind {α β : Type} (first : Logged α) (next : α → Logged β) : Logged β :=
  ⟨(next first.value).value, first.events ++ (next first.value).events⟩

instance : Monad Logged where
  pure := Logged.pure
  bind := Logged.bind

/-- The event as the only thing that happens. -/
def record (event : LogEvent) : Logged Unit :=
  ⟨(), [event]⟩

@[simp]
theorem value_pure {α : Type} (value : α) : (pure value : Logged α).value = value :=
  rfl

@[simp]
theorem events_pure {α : Type} (value : α) : (pure value : Logged α).events = [] :=
  rfl

@[simp]
theorem value_bind {α β : Type} (first : Logged α) (next : α → Logged β) :
    (first >>= next).value = (next first.value).value :=
  rfl

@[simp]
theorem events_bind {α β : Type} (first : Logged α) (next : α → Logged β) :
    (first >>= next).events = first.events ++ (next first.value).events :=
  rfl

end Logged

end ShellPractice
