import ShellPractice.Practice
import ShellPractice.Proofs.Plan.Standing
import ShellPractice.Proofs.Session.Action

/-!
# What a learner does in a practice

The actions of a terminal session are those of a practice.  The session of the practice takes part
in them as it would alone, and the plan sees exactly the lines that are submitted.
-/

namespace ShellPractice.Practice

/-- The practice after an action, and what happened if a line was submitted. -/
def perform (practice : Practice) : Action → Logged (Practice × Option Submission)
  | .submit now line => orUnchanged (practice.submit now line)
  | .submitInput now => orUnchanged (practice.submitInput now)
  | .setInput line => pure (practice.editInput (·.setInput line), none)
  | .pushInput text => pure (practice.editInput (·.pushInput text), none)
where
  /-- The result of a submission; the practice itself if nothing was submitted. -/
  orUnchanged : Option (Logged (Practice × Submission)) → Logged (Practice × Option Submission)
    | some result => do
      let (next, submission) ← result
      pure (next, some submission)
    | none => pure (practice, none)

/-- The practice after several actions, and what happened at each of them. -/
def performAll (practice : Practice) :
    List Action → Logged (Practice × List (Option Submission))
  | [] => pure (practice, [])
  | action :: rest => do
    let (next, submission) ← practice.perform action
    let (last, submissions) ← next.performAll rest
    pure (last, submission :: submissions)

/-- What happens with a line that is not blank. -/
def submission (practice : Practice) (line : String) : Submission :=
  ⟨practice.session.answer line, practice.plan.outcome line⟩

/-- The practice after a line that is not blank. -/
def accept (practice : Practice) (now : Timestamp) (line : String) : Practice :=
  { practice with
    session := practice.session.accept now line (practice.session.answer line)
    plan := practice.plan.advance line
    journal := practice.journal.map (· ++ [(line, (practice.plan.outcome line).isMatch)]) }

@[simp]
theorem plan_accept (practice : Practice) (now : Timestamp) (line : String) :
    (practice.accept now line).plan = practice.plan.advance line :=
  rfl

theorem submit_of_not_blank {practice : Practice} {line : String} (now : Timestamp)
    (visible : Text.isBlankText line = false) :
    practice.submit now line =
      some ⟨(practice.accept now line, practice.submission line),
        practice.events (practice.plan.outcome line) (practice.plan.advance line)⟩ := by
  rw [submit, Session.submit_of_not_blank now visible]
  rfl

theorem submit_of_blank {practice : Practice} {line : String} (now : Timestamp)
    (blank : Text.isBlankText line = true) : practice.submit now line = none := by
  rw [submit, Session.submit_eq_none_iff.mpr blank]
  rfl

theorem perform_of_handedIn? {practice : Practice} {action : Action} {now : Timestamp}
    {line : String} (handed : action.handedIn? practice.session.input = some (now, line)) :
    practice.perform action = perform.orUnchanged practice (practice.submit now line) := by
  cases action with
  | submit _ _ | submitInput _ => cases handed; rfl
  | setInput _ | pushInput _ => cases handed

theorem perform_of_handedIn?_eq_none {practice : Practice} {action : Action}
    (nothing : action.handedIn? practice.session.input = none) :
    practice.perform action =
      pure (practice.editInput (·.setInput (action.edited practice.session.input)), none) := by
  cases action with
  | submit _ _ | submitInput _ => cases nothing
  | setInput _ | pushInput _ => rfl

/-- An action accepts the line that it submits, or changes nothing but the line being typed. -/
theorem perform_cases (practice : Practice) (action : Action) :
    (∃ now line, action.submitted? practice.session.input = some line ∧
      practice.perform action =
        ⟨(practice.accept now line, some (practice.submission line)),
          practice.events (practice.plan.outcome line) (practice.plan.advance line)⟩) ∨
    (action.submitted? practice.session.input = none ∧
      practice.perform action =
        pure (practice.editInput (·.setInput (action.edited practice.session.input)), none)) := by
  cases handed : action.handedIn? practice.session.input with
  | none =>
    exact Or.inr ⟨Action.submitted?_of_handedIn?_eq_none handed,
      perform_of_handedIn?_eq_none handed⟩
  | some entry =>
    obtain ⟨now, line⟩ := entry
    rw [Action.submitted?_of_handedIn? handed, perform_of_handedIn? handed]
    cases blank : Text.isBlankText line with
    | false =>
      refine Or.inl ⟨now, line, rfl, ?_⟩
      rw [submit_of_not_blank now blank]
      exact congrArg (Logged.mk _) (List.append_nil _)
    | true =>
      refine Or.inr ⟨rfl, ?_⟩
      rw [submit_of_blank now blank, Action.edited_of_handedIn? (by rw [handed]; rfl)]
      rfl

theorem input_perform (practice : Practice) (action : Action) :
    (practice.perform action).value.1.session.input =
      action.inputAfter practice.session.input := by
  rcases practice.perform_cases action with ⟨now, line, submitted, same⟩ | ⟨nothing, same⟩
  · rw [same, Action.inputAfter, submitted]
    rfl
  · rw [same, Action.inputAfter, nothing]
    rfl

theorem plan_perform (practice : Practice) (action : Action) :
    (practice.perform action).value.1.plan =
      practice.plan.run (action.submitted? practice.session.input).toList := by
  rcases practice.perform_cases action with ⟨now, line, submitted, same⟩ | ⟨nothing, same⟩
  · rw [same, submitted]
    rfl
  · rw [same, nothing]
    rfl

/-- The plan sees the submitted lines and nothing else. -/
theorem plan_performAll (practice : Practice) (actions : List Action) :
    (practice.performAll actions).value.1.plan =
      practice.plan.run (Action.submittedLines practice.session.input actions) := by
  induction actions generalizing practice with
  | nil => rfl
  | cons action rest ih =>
    have later := ih (practice.perform action).value.1
    rw [plan_perform, input_perform] at later
    rw [Action.submittedLines, Plan.run_append]
    exact later

end ShellPractice.Practice
