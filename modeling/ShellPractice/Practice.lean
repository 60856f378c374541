import ShellPractice.Lesson.Catalog
import ShellPractice.Number.Shortest
import ShellPractice.Text.Quoted
import ShellPractice.Transcript.Session

/-!
# Practicing

A practice is a terminal session beside the progress through a plan, which is that of a lesson or
one of its own, or empty.  Every line that is not blank is answered by the session first and then
compared with the plan.
-/

namespace ShellPractice

/-- A terminal in use for practice. -/
structure Practice where
  session : Session
  plan : Plan
  /-- The lesson that the plan belongs to. -/
  lesson : Option Lesson
  /-- The submitted lines, and for each whether it was the expected command; kept on request. -/
  journal : Option (List (String × Bool))
  deriving DecidableEq

/-- What happened with one submitted line. -/
structure Submission where
  response : Response
  outcome : Outcome
  deriving DecidableEq

namespace Submission

/-- Whether the line was the expected command. -/
def isMatch (submission : Submission) : Bool :=
  submission.outcome.isMatch

end Submission

namespace Practice

/-- Practice along a plan that belongs to no lesson. -/
def withPlan (id : String) (now : Timestamp) (settings : TerminalSettings) (plan : Plan) :
    Practice :=
  ⟨Session.start id now settings, plan, none, none⟩

/-- Practice without a plan. -/
def free (id : String) (now : Timestamp) (settings : TerminalSettings) : Practice :=
  withPlan id now settings (Plan.start [])

/-- Practice of a lesson, in the working directory of the lesson. -/
def ofLesson (id : String) (now : Timestamp) (settings : TerminalSettings) (lesson : Lesson) :
    Logged Practice :=
  ⟨⟨Session.start id now { settings with directory := lesson.directory }, lesson.plan,
      some lesson, none⟩,
    [.lessonStarted lesson.id lesson.title]⟩

/-- The practice with a journal from now on. -/
def withJournal (practice : Practice) : Practice :=
  { practice with journal := some [] }

/-- The event of completing the plan. -/
def completion (practice : Practice) : LogEvent :=
  match practice.lesson with
  | some lesson => .lessonCompleted lesson.id
  | none => .planCompleted

/-- What the log records of a line with the outcome, given the plan after it. -/
def events (practice : Practice) (outcome : Outcome) (plan : Plan) : List LogEvent :=
  plan.events outcome ++
    if !practice.plan.progress.complete && plan.progress.complete then [practice.completion]
    else []

/-- Submits a line; the answer is the practice after it and what happened.  A blank line is
ignored. -/
def submit (practice : Practice) (now : Timestamp) (line : String) :
    Option (Logged (Practice × Submission)) :=
  (practice.session.submit now line).map fun (session, response) =>
    let outcome := practice.plan.outcome line
    let plan := practice.plan.advance line
    let journal := practice.journal.map (· ++ [(line, outcome.isMatch)])
    ⟨({ practice with session, plan, journal }, ⟨response, outcome⟩),
      practice.events outcome plan⟩

/-- Submits the line that is being typed. -/
def submitInput (practice : Practice) (now : Timestamp) :
    Option (Logged (Practice × Submission)) :=
  practice.submit now practice.session.input

/-- The practice with the line being typed edited. -/
def editInput (practice : Practice) (edit : Session → Session) : Practice :=
  { practice with session := edit practice.session }

/-- The exercise of the step that is next, if the lesson describes it. -/
def exercise? (practice : Practice) : Option Exercise :=
  practice.lesson.bind fun lesson => lesson.exercise? practice.plan.cursor

/-- How many journal lines were the expected command. -/
def matched (practice : Practice) : Nat :=
  (practice.journal.getD []).countP Prod.snd

/-- A summary of the practice on one line. -/
def summary (practice : Practice) : String :=
  let progress := practice.plan.progress
  let lesson := match practice.lesson with
    | some lesson => "Some(" ++ Text.quoted lesson.id ++ ")"
    | none => "None"
  "Tutor \x7b session: " ++ Text.quoted practice.session.id ++ ", lesson: " ++ lesson ++
    ", progress: ProgressReport \x7b completed: " ++ toString progress.completed ++
    ", total: " ++ toString progress.total ++
    ", percent: " ++ Number.shortestText progress.percent ++
    " \x7d, has_listener: " ++ toString practice.journal.isSome ++ " \x7d"

end Practice

end ShellPractice
