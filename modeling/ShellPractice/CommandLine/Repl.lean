import ShellPractice.Practice
import ShellPractice.Text.Lines

/-!
# Practicing line by line

The loop of the program: it shows the prompt, takes a line, and shows the answer together with the
progress that the line made.  A word of its own ends it.
-/

namespace ShellPractice.CommandLine

/-- Whether a line ends the loop. -/
def isExit (line : String) : Bool :=
  Text.trim line == "exit" || Text.trim line == "quit"

/-- What empties the screen of a terminal and puts the cursor at its top. -/
def clearScreen : String :=
  "\x1b[2J\x1b[H"

/-- The texts of all entries of the transcript, each ending its line. -/
def transcriptText (practice : Practice) : String :=
  String.join (practice.session.entries.map fun entry => entry.text ++ "\n")

/-- The line that tells the learner what is next. -/
def hint (practice : Practice) : String :=
  if practice.plan.stalled then
    "Note: step " ++ toString (practice.plan.cursor + 1) ++ " repeats '" ++
      practice.plan.target?.getD "" ++
      "', which is already completed; this lesson cannot advance further.\n"
  else
    match practice.exercise? with
    | some exercise => "Next: " ++ exercise.description ++ " (" ++ exercise.command ++ ")\n"
    | none => ""

/-- What is shown before the first prompt. -/
def greeting (practice : Practice) : String :=
  let heading := match practice.lesson with
    | some lesson => "Lesson " ++ lesson.id ++ ": " ++ lesson.title ++ "\n"
    | none => ""
  heading ++ transcriptText practice ++ hint practice

/-- The line that shows how far the learner has come. -/
def progressText (progress : Progress) : String :=
  "[" ++ toString progress.completed ++ "/" ++ toString progress.total ++ "] " ++
    toString progress.rounded ++ "% complete\n"

/-- What is shown for a submitted line, given the practice after it. -/
def report (practice : Practice) (submission : Submission) : String :=
  let answer :=
    if submission.response.clears then clearScreen ++ transcriptText practice
    else submission.response.text ++ "\n"
  let progress := practice.plan.progress
  if submission.isMatch then
    answer ++ progressText progress ++
      if progress.complete then "Lesson complete!\n" else hint practice
  else answer

/-- What a typed line leads to. -/
inductive Turn where
  /-- The loop ends. -/
  | leave
  /-- The loop goes on, after something was shown. -/
  | proceed (practice : Practice) (shown : String)

/-- The turn of a typed line without its end. -/
def turn (now : Timestamp) (practice : Practice) (line : String) : Turn :=
  if isExit line then .leave
  else
    match practice.submit now line with
    | none => .proceed practice ""
    | some submitted =>
      let (practice, submission) := submitted.value
      .proceed practice (report practice submission)

/-- How the loop ended. -/
structure Ending where
  practice : Practice
  /-- Everything that was shown, oldest first. -/
  shown : List String
  /-- Whether a line could not be read as text. -/
  unreadable : Bool

/-- The loop over typed lines, each with its end cut off by the loop; `none` stands for a line that
is no text. -/
def loop (now : Timestamp) (practice : Practice) : List (Option String) → Ending
  | [] => ⟨practice, [practice.session.prompt], false⟩
  | none :: _ => ⟨practice, [practice.session.prompt], true⟩
  | some line :: rest =>
    match turn now practice (Text.dropLineEnd line) with
    | .leave => ⟨practice, [practice.session.prompt], false⟩
    | .proceed next shown =>
      let ending := loop now next rest
      { ending with shown := practice.session.prompt :: shown :: ending.shown }

/-- The last line of the program. -/
def farewell (practice : Practice) : String :=
  "\n" ++ toString practice.session.statistics.submitted ++ " commands, " ++
    toString practice.session.statistics.failed ++ " not found, " ++
    toString practice.matched ++ " matched the lesson\n"

end ShellPractice.CommandLine
