import Mathlib.Data.List.ReduceOption
import ShellPractice.Proofs.Practice.Action
import ShellPractice.Proofs.Session.Transcript

/-!
# The parts of a practice

The session, the plan and the journal of a practice run beside each other.  The session takes the
actions as it would alone, and the plan and the journal take the lines that the actions submit.
-/

namespace ShellPractice

/-- The answers of a session to several actions. -/
def Session.answers (session : Session) : List Action → List (Option Response)
  | [] => []
  | action :: rest => (session.perform action).2 :: (session.perform action).1.answers rest

namespace Plan

/-- What a journal has of submitted lines: each line, and whether it was the expected command. -/
def journal (plan : Plan) : List String → List (String × Bool)
  | [] => []
  | line :: rest => (line, (plan.outcome line).isMatch) :: (plan.advance line).journal rest

theorem journal_append (plan : Plan) (lines more : List String) :
    plan.journal (lines ++ more) = plan.journal lines ++ (plan.run lines).journal more := by
  induction lines generalizing plan with
  | nil => rfl
  | cons line lines ih =>
    have later := ih (plan.advance line)
    exact congrArg (List.cons (line, (plan.outcome line).isMatch)) later

/-- Every line is in the journal once, with the verdict on its outcome. -/
theorem unzip_journal (plan : Plan) (lines : List String) :
    (plan.journal lines).unzip = (lines, (plan.outcomes lines).map Outcome.isMatch) := by
  induction lines generalizing plan with
  | nil => rfl
  | cons line lines ih =>
    have later := ih (plan.advance line)
    rw [journal, outcomes, List.unzip_cons, later, List.map_cons]

end Plan

namespace Practice

/-- The practice whose parts have each taken part in the actions on their own. -/
def besides (practice : Practice) (actions : List Action) : Practice :=
  let lines := Action.submittedLines practice.session.input actions
  { practice with
    session := practice.session.performAll actions
    plan := practice.plan.run lines
    journal := practice.journal.map (· ++ practice.plan.journal lines) }

theorem session_perform (practice : Practice) (action : Action) :
    (practice.perform action).value.1.session = (practice.session.perform action).1 ∧
      (practice.perform action).value.2.map Submission.response =
        (practice.session.perform action).2 := by
  cases handed : action.handedIn? practice.session.input with
  | none =>
    rw [perform_of_handedIn?_eq_none handed, Session.perform_of_handedIn?_eq_none handed]
    exact ⟨rfl, rfl⟩
  | some entry =>
    obtain ⟨now, line⟩ := entry
    -- A submission asks the session first and goes on only if the session answers.
    rw [perform_of_handedIn? handed, Session.perform_of_handedIn? handed, submit]
    cases practice.session.submit now line with
    | none => exact ⟨rfl, rfl⟩
    | some answered => exact ⟨rfl, rfl⟩

theorem outcome_perform (practice : Practice) (action : Action) :
    (practice.perform action).value.2.toList.map Submission.outcome =
      practice.plan.outcomes (action.submitted? practice.session.input).toList := by
  rcases practice.perform_cases action with ⟨now, line, submitted, same⟩ | ⟨nothing, same⟩
  · rw [same, submitted]
    rfl
  · rw [same, nothing]
    rfl

theorem journal_perform (practice : Practice) (action : Action) :
    (practice.perform action).value.1.journal = practice.journal.map
      (· ++ practice.plan.journal (action.submitted? practice.session.input).toList) := by
  rcases practice.perform_cases action with ⟨now, line, submitted, same⟩ | ⟨nothing, same⟩
  · rw [same, submitted]
    rfl
  · rw [same, nothing]
    simp [Plan.journal, editInput]

theorem lesson_perform (practice : Practice) (action : Action) :
    (practice.perform action).value.1.lesson = practice.lesson := by
  rcases practice.perform_cases action with ⟨now, line, -, same⟩ | ⟨-, same⟩
  · rw [same]
    rfl
  · rw [same]
    rfl

/-- After an action the parts go on beside each other. -/
theorem besides_perform (practice : Practice) (action : Action) (rest : List Action) :
    (practice.perform action).value.1.besides rest = practice.besides (action :: rest) := by
  have session := (practice.session_perform action).1
  have plan := practice.plan_perform action
  have journal := practice.journal_perform action
  have lesson := practice.lesson_perform action
  have input := Session.input_perform practice.session action
  have lines : Action.submittedLines practice.session.input (action :: rest) =
      (action.submitted? practice.session.input).toList ++
        Action.submittedLines (action.inputAfter practice.session.input) rest := rfl
  have ended : practice.session.performAll (action :: rest) =
      (practice.session.perform action).1.performAll rest := rfl
  simp only [besides, lines, ended, session, plan, journal, lesson, input, Plan.run_append,
    Plan.journal_append, Option.map_map, Function.comp_def, List.append_assoc]

/-- A run of a practice is the run of its parts beside each other. -/
theorem performAll_eq_besides (practice : Practice) (actions : List Action) :
    (practice.performAll actions).value.1 = practice.besides actions := by
  induction actions generalizing practice with
  | nil =>
    have nothing : practice.journal.map (· ++ []) = practice.journal := by
      cases practice.journal <;> simp
    have same : practice.besides [] = { practice with journal := practice.journal.map (· ++ []) } :=
      rfl
    rw [same, nothing]
    rfl
  | cons action rest ih =>
    have later := ih (practice.perform action).value.1
    rw [besides_perform] at later
    exact later

theorem responses_performAll (practice : Practice) (actions : List Action) :
    (practice.performAll actions).value.2.map (Option.map Submission.response) =
      practice.session.answers actions := by
  induction actions generalizing practice with
  | nil => rfl
  | cons action rest ih =>
    obtain ⟨session, response⟩ := practice.session_perform action
    have later := ih (practice.perform action).value.1
    rw [session] at later
    exact congrArg₂ List.cons response later

theorem outcomes_performAll (practice : Practice) (actions : List Action) :
    (practice.performAll actions).value.2.reduceOption.map Submission.outcome =
      practice.plan.outcomes (Action.submittedLines practice.session.input actions) := by
  induction actions generalizing practice with
  | nil => rfl
  | cons action rest ih =>
    have here := practice.outcome_perform action
    have later := ih (practice.perform action).value.1
    rw [plan_perform, input_perform] at later
    rw [Action.submittedLines, Plan.outcomes_append, ← here, ← later, ← List.map_append]
    congr 1
    change ((practice.perform action).value.2 ::
      ((practice.perform action).value.1.performAll rest).value.2).reduceOption = _
    cases (practice.perform action).value.2 <;> rfl

/-- A blank line changes nothing and is not answered, and every other line is answered. -/
theorem perform_handedIn (practice : Practice) {action : Action} {now : Timestamp} {line : String}
    (handed : action.handedIn? practice.session.input = some (now, line)) :
    (Text.isBlankText line = true ∧ practice.perform action = pure (practice, none)) ∨
      (Text.isBlankText line = false ∧ (practice.perform action).value.2.isSome = true) := by
  rw [perform_of_handedIn? handed]
  cases blank : Text.isBlankText line with
  | true =>
    rw [submit_of_blank now blank]
    exact Or.inl ⟨rfl, rfl⟩
  | false =>
    rw [submit_of_not_blank now blank]
    exact Or.inr ⟨rfl, rfl⟩

/-- What is practiced. -/
inductive Subject where
  | nothing
  | commands (plan : Plan)
  | described (lesson : Lesson)

namespace Subject

/-- The plan to go through. -/
def plan : Subject → Plan
  | nothing => Plan.start []
  | commands plan => plan
  | described lesson => lesson.plan

/-- The lesson that is practiced. -/
def lesson? : Subject → Option Lesson
  | nothing | commands _ => none
  | described lesson => some lesson

/-- The settings of the terminal; a lesson has a working directory of its own. -/
def adapt (settings : TerminalSettings) : Subject → TerminalSettings
  | nothing | commands _ => settings
  | described lesson => { settings with directory := lesson.directory }

/-- The practice of a subject before anything is done, without a journal. -/
def unwatched (id : String) (now : Timestamp) (settings : TerminalSettings) : Subject → Practice
  | nothing => free id now settings
  | commands plan => withPlan id now settings plan
  | described lesson => (ofLesson id now settings lesson).value

/-- The practice of a subject before anything is done, with a journal if it is watched. -/
def begin (subject : Subject) (id : String) (now : Timestamp) (settings : TerminalSettings)
    (watched : Bool) : Practice :=
  if watched then (subject.unwatched id now settings).withJournal
  else subject.unwatched id now settings

theorem begin_eq (subject : Subject) (id : String) (now : Timestamp) (settings : TerminalSettings)
    (watched : Bool) :
    subject.begin id now settings watched =
      ⟨Session.start id now (subject.adapt settings), subject.plan, subject.lesson?,
        if watched then some [] else none⟩ := by
  cases subject <;> cases watched <;> rfl

end Subject

/-- A run of a practice, however it began, is a run of a session, a run of a plan and a journal side
by side.  The session is the one that the same actions lead to without a plan, the plan has taken
the submitted lines whatever the settings are, and the journal has each of these lines once.  A
blank line is not answered and changes nothing. -/
theorem performAll_begin (subject : Subject) (id : String) (now : Timestamp)
    (settings : TerminalSettings) (watched : Bool) (actions : List Action) :
    ∃ last happened,
      ((subject.begin id now settings watched).performAll actions).value = (last, happened) ∧
      last.session =
        (Session.start id now (subject.adapt settings)).performAll actions ∧
      last.plan = subject.plan.run (Action.submittedLines "" actions) ∧
      last.lesson = subject.lesson? ∧
      last.journal.map List.unzip =
        (if watched then
          some (Action.submittedLines "" actions, happened.reduceOption.map Submission.isMatch)
        else none) ∧
      happened.map (Option.map Submission.response) =
        (Session.start id now (subject.adapt settings)).answers actions ∧
      happened.reduceOption.map Submission.outcome =
        subject.plan.outcomes (Action.submittedLines "" actions) ∧
      ∀ action moment line, action.handedIn? last.session.input = some (moment, line) →
        (Text.isBlankText line = true ∧ last.perform action = pure (last, none)) ∨
          (Text.isBlankText line = false ∧ (last.perform action).value.2.isSome = true) := by
  have responses := (subject.begin id now settings watched).responses_performAll actions
  have outcomes := (subject.begin id now settings watched).outcomes_performAll actions
  have parts := (subject.begin id now settings watched).performAll_eq_besides actions
  -- However a practice begins, its session has nothing typed and its journal is empty.
  rw [Subject.begin_eq] at responses outcomes parts ⊢
  rw [Session.input_start] at outcomes
  refine ⟨_, _, rfl, ?_⟩
  rw [parts, besides, Session.input_start]
  refine ⟨rfl, rfl, rfl, ?_, responses, outcomes, fun action moment line handed => ?_⟩
  · cases watched with
    | false => rfl
    | true =>
      have written := Plan.unzip_journal subject.plan (Action.submittedLines "" actions)
      rw [← outcomes, List.map_map] at written
      exact congrArg some written
  · exact perform_handedIn _ handed

/-- Two lines in the journal, one of them expected, with a blank line typed between them. -/
theorem performAll_begin_commands :
    ∃ last,
      (((Subject.commands (Plan.start ["pwd", "ls"])).begin "s" .epoch .standard true).performAll
        [.submit .epoch "ls", .setInput " ", .submitInput .epoch, .submit .epoch "PWD"]).value.1 =
          last ∧
      last.journal.map List.unzip = some (["ls", "PWD"], [false, true]) ∧
      last.perform (.submit .epoch "\t") = pure (last, none) := by
  obtain ⟨last, happened, run, -, -, -, journal, -, -, next⟩ :=
    performAll_begin (.commands (Plan.start ["pwd", "ls"])) "s" .epoch .standard true
      [.submit .epoch "ls", .setInput " ", .submitInput .epoch, .submit .epoch "PWD"]
  refine ⟨last, congrArg Prod.fst run, ?_, ?_⟩
  · obtain rfl := congrArg Prod.snd run
    rw [journal]
    decide
  · rcases next (.submit .epoch "\t") .epoch "\t" rfl with ⟨-, unchanged⟩ | ⟨visible, -⟩
    · exact unchanged
    · exact absurd visible (by decide)

end Practice

end ShellPractice
