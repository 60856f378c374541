import ShellPractice.Proofs.Session.Transcript

/-!
# What a session counts

The counts are those of the submitted lines: how many there are, how many of them are commands and
how many are not, and how many clear the transcript.
-/

namespace ShellPractice

/-- The counts after several answers. -/
theorem Statistics.foldl_record (counts : Statistics) (responses : List Response) :
    responses.foldl record counts =
      ⟨counts.submitted + responses.length,
        counts.succeeded + responses.countP Response.succeeded,
        counts.failed + responses.countP (!·.succeeded),
        counts.cleared + responses.countP Response.clears⟩ := by
  induction responses generalizing counts with
  | nil => rfl
  | cons response rest ih =>
    rw [List.foldl_cons, ih, record]
    simp only [List.length_cons, List.countP_cons, Statistics.mk.injEq, Bool.not_eq_true']
    cases response.succeeded <;> cases response.clears <;> simp <;> omega

/-- Every submitted line succeeds or fails, and only a command that succeeds clears. -/
structure Statistics.Balanced (counts : Statistics) : Prop where
  submitted : counts.succeeded + counts.failed = counts.submitted
  cleared : counts.cleared ≤ counts.succeeded

theorem Statistics.Balanced.record {counts : Statistics} (balanced : counts.Balanced)
    (response : Response) : (counts.record response).Balanced := by
  obtain ⟨submitted, cleared⟩ := balanced
  have eitherWay :
      (if response.succeeded then 1 else 0) + (if response.succeeded then 0 else 1) = 1 := by
    cases response.succeeded <;> rfl
  have succeedsToo : (if response.clears then 1 else 0) ≤ if response.succeeded then 1 else 0 := by
    cases response <;> simp [Response.clears, Response.succeeded]
  constructor
  · simp only [Statistics.record]
    omega
  · simp only [Statistics.record]
    omega

theorem Statistics.Balanced.foldl_record {counts : Statistics} (balanced : counts.Balanced)
    (responses : List Response) : (responses.foldl Statistics.record counts).Balanced := by
  induction responses generalizing counts with
  | nil => exact balanced
  | cons response rest ih => exact ih (balanced.record response)

namespace Session

@[simp]
theorem statistics_start (id : String) (now : Timestamp) (settings : TerminalSettings) :
    (start id now settings).statistics = Statistics.zero := by
  rw [start, showBanner_eq]

theorem statistics_clear (session : Session) (now : Timestamp) :
    (session.clear now).statistics = session.statistics := by
  unfold clear
  split
  · rw [showBanner_eq]
  · rfl

theorem statistics_accept (session : Session) (now : Timestamp) (line : String)
    (response : Response) :
    (session.accept now line response).statistics = session.statistics.record response := by
  cases response with
  | output text => rfl
  | failure text => rfl
  | cleared => exact congrArg (·.record .cleared) (statistics_clear _ now)

theorem statistics_perform (session : Session) (action : Action) :
    (session.perform action).1.statistics =
      ((action.submitted? session.input).toList.map session.settings.answer).foldl
        Statistics.record session.statistics := by
  rcases session.perform_cases action with ⟨now, line, submitted, same⟩ | ⟨nothing, same⟩
  · rw [same, submitted]
    exact session.statistics_accept now line _
  · rw [same, nothing]
    rfl

/-- A run counts the answers to the lines that it submits. -/
theorem statistics_performAll (session : Session) (actions : List Action) :
    (session.performAll actions).statistics =
      ((Action.submittedLines session.input actions).map session.settings.answer).foldl
        Statistics.record session.statistics := by
  induction actions generalizing session with
  | nil => rfl
  | cons action rest ih =>
    have later := ih (session.perform action).1
    rw [statistics_perform, input_perform, settings_perform, ← List.foldl_append,
      ← List.map_append] at later
    exact later

/-- How many lines a run adds to the counts, and how many that are no command. -/
theorem counts_performAll (session : Session) (actions : List Action) :
    let lines := Action.submittedLines session.input actions
    (session.performAll actions).statistics.submitted =
        session.statistics.submitted + lines.length ∧
      (session.performAll actions).statistics.failed = session.statistics.failed +
        lines.countP fun line => !(Command.classify session.argumentCase line).recognized := by
  have answered : ∀ line, (session.settings.answer line).succeeded =
      (Command.classify session.argumentCase line).recognized := fun line =>
    Command.succeeded_respond _ _
  rw [statistics_performAll, Statistics.foldl_record]
  simp only [List.length_map, List.countP_map, Function.comp_def, answered, and_self]

end Session

end ShellPractice
