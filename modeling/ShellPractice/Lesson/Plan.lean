import ShellPractice.Log
import ShellPractice.Number.Binary64
import ShellPractice.Text.Blank
import ShellPractice.Text.LowerCase

/-!
# Progress through a list of expected commands

A plan points at the command that is expected next.  A line that is this command, apart from case
and the blanks around it, completes it; any other line changes nothing.  A command is completed
only once, so a plan whose next command repeats a completed one cannot go on.
-/

namespace ShellPractice

/-- The state of the progress through expected commands. -/
structure Plan where
  expected : List String
  /-- The position of the command that is expected next. -/
  cursor : Nat
  /-- The completed commands, in the order of their completion. -/
  completed : List String
  deriving DecidableEq, Repr

/-- How a line compares with the command that is expected next. -/
inductive Outcome where
  /-- The line completed the command at the index. -/
  | advanced (command : String) (index : Nat)
  /-- The line is the expected command, but the same command was completed before. -/
  | alreadyCompleted (command : String)
  | notExpected
  /-- No command is expected. -/
  | untracked
  deriving DecidableEq, Repr

namespace Outcome

/-- Whether the line was the expected command. -/
def isMatch : Outcome → Bool
  | advanced _ _ | alreadyCompleted _ => true
  | notExpected | untracked => false

/-- Whether the line completed a command. -/
def isAdvance : Outcome → Bool
  | advanced _ _ => true
  | _ => false

end Outcome

/-- A summary of the progress. -/
structure Progress where
  completed : Nat
  total : Nat
  percent : Float

namespace Progress

/-- Whether everything is completed. -/
def complete (progress : Progress) : Bool :=
  0 < progress.total && progress.completed == progress.total

/-- The percentage as a whole number, ties going to the even one. -/
def rounded (progress : Progress) : Nat :=
  Number.nearestInteger progress.percent

end Progress

namespace Plan

/-- A plan none of whose commands has been completed. -/
def start (expected : List String) : Plan :=
  ⟨expected, 0, []⟩

/-- The command that is expected next. -/
def target? (plan : Plan) : Option String :=
  plan.expected[plan.cursor]?

/-- Whether a command, letter by letter, has been completed. -/
def hasCompleted (plan : Plan) (command : String) : Bool :=
  plan.completed.contains command

/-- The percentage of commands that have been completed. -/
def percent (plan : Plan) : Float :=
  if plan.expected.isEmpty then 0
  else plan.completed.length.toFloat / plan.expected.length.toFloat * 100

/-- Whether every expected command has been completed. -/
def complete (plan : Plan) : Bool :=
  !plan.expected.isEmpty && plan.completed.length == plan.expected.length

/-- Whether the expected command repeats a completed one, so that the plan cannot go on. -/
def stalled (plan : Plan) : Bool :=
  !plan.complete && plan.target?.any plan.hasCompleted

/-- The summary of a plan. -/
def progress (plan : Plan) : Progress :=
  ⟨plan.completed.length, plan.expected.length, plan.percent⟩

/-- Whether a typed line is a command, apart from case and the blanks around the line. -/
def isTyped (command line : String) : Bool :=
  Text.lowerCase (Text.trim line) == Text.lowerCase command

/-- The plan after its expected command is completed; at the last command it stays there. -/
def withCompleted (plan : Plan) (command : String) : Plan :=
  { plan with
    completed := plan.completed ++ [command]
    cursor := if plan.cursor + 1 < plan.expected.length then plan.cursor + 1 else plan.cursor }

/-- How a submitted line compares with the expected command. -/
def outcome (plan : Plan) (line : String) : Outcome :=
  match plan.target? with
  | none => .untracked
  | some command =>
    if !isTyped command line then .notExpected
    else if plan.hasCompleted command then .alreadyCompleted command
    else .advanced command plan.cursor

/-- The plan after a submitted line. -/
def advance (plan : Plan) (line : String) : Plan :=
  match plan.outcome line with
  | .advanced command _ => plan.withCompleted command
  | _ => plan

/-- The plan after several submitted lines. -/
def run (plan : Plan) (lines : List String) : Plan :=
  lines.foldl advance plan

@[simp]
theorem expected_advance (plan : Plan) (line : String) :
    (plan.advance line).expected = plan.expected := by
  unfold advance
  split <;> rfl

@[simp]
theorem expected_run (plan : Plan) (lines : List String) :
    (plan.run lines).expected = plan.expected := by
  induction lines generalizing plan with
  | nil => rfl
  | cons line lines ih =>
    have rest := ih (plan.advance line)
    rw [expected_advance] at rest
    exact rest

/-- A line that completes nothing changes nothing. -/
theorem advance_eq_self {plan : Plan} {line : String}
    (idle : (plan.outcome line).isAdvance = false) : plan.advance line = plan := by
  unfold advance
  cases found : plan.outcome line with
  | advanced command index => simp [found, Outcome.isAdvance] at idle
  | alreadyCompleted command => rfl
  | notExpected => rfl
  | untracked => rfl

/-- What the log records of a line, given the plan after it. -/
def events (plan : Plan) : Outcome → List LogEvent
  | .advanced command index => [.stepCompleted (index + 1) command plan.progress.rounded]
  | .alreadyCompleted command =>
    if plan.stalled then [.stepRepeated (plan.cursor + 1) command] else []
  | .notExpected | .untracked => []

end Plan

end ShellPractice
