import ShellPractice.Proofs.Plan.Events
import ShellPractice.Proofs.Practice.Components

/-!
# The log of a practice

A practice records what its plan does with the submitted lines, and the end of its lesson or plan.
The log therefore tells the completed steps one by one, the end right after the last of them, and
then nothing more; or, where the lesson is stuck, each line that is the repeated command.
-/

namespace ShellPractice.Practice

theorem completion_perform (practice : Practice) (action : Action) :
    (practice.perform action).value.1.completion = practice.completion := by
  rw [completion, lesson_perform, completion]

theorem events_perform (practice : Practice) (action : Action) :
    (practice.perform action).events = practice.plan.log practice.completion
      (action.submitted? practice.session.input).toList := by
  rcases practice.perform_cases action with ⟨now, line, submitted, same⟩ | ⟨nothing, same⟩
  · rw [same, submitted]
    exact (List.append_nil _).symm
  · rw [same, nothing]
    rfl

theorem events_performAll (practice : Practice) (actions : List Action) :
    (practice.performAll actions).events = practice.plan.log practice.completion
      (Action.submittedLines practice.session.input actions) := by
  induction actions generalizing practice with
  | nil => rfl
  | cons action rest ih =>
    have here := practice.events_perform action
    have later := ih (practice.perform action).value.1
    rw [plan_perform, input_perform, completion_perform] at later
    rw [Action.submittedLines, Plan.log_append, ← here, ← later, performAll, Logged.events_bind,
      Logged.events_bind, Logged.events_pure, List.append_nil]

theorem level_eq_info_of_mem_logAfter {ended event : LogEvent} {expected : List String}
    {count repeated : Nat} (info : ended.level = .info)
    (member : event ∈ Plan.logAfter ended expected count repeated) : event.level = .info := by
  rw [Plan.logAfter, List.mem_append, List.mem_append] at member
  rcases member with (step | last) | again
  · obtain ⟨index, inside, rfl⟩ := List.mem_mapIdx.mp step
    rfl
  · split at last
    · rw [List.mem_singleton.mp last, info]
    · cases last
  · rw [List.eq_of_mem_replicate again]
    rfl

/-- The log of a practice that begins with a fresh plan: the completed commands as steps one, two
and so on; once the plan is complete, right after its last step, the end of the lesson or plan; and
one event for each line that repeats the command at which the plan is stuck, with the place of this
command.  A complete plan is never stuck. -/
theorem events_performAll_begin {subject : Subject} {expected : List String}
    (fresh : subject.plan = Plan.start expected) (id : String) (now : Timestamp)
    (settings : TerminalSettings) (watched : Bool) (actions : List Action) :
    let run := (subject.begin id now settings watched).performAll actions
    let plan := run.value.1.plan
    let repeated := (Plan.start expected).repetitions (Action.submittedLines "" actions)
    ∃ repetition : LogEvent,
      run.events =
        (plan.completed.mapIdx fun index command => .stepCompleted (index + 1) command
          (Plan.after expected (index + 1)).progress.rounded) ++
        (if plan.complete then
          [match subject.lesson? with
            | some lesson => .lessonCompleted lesson.id
            | none => .planCompleted]
        else []) ++
        List.replicate repeated repetition ∧
      (repeated ≠ 0 → plan.complete = false ∧ ∃ step command,
        Lesson.firstRepeat? expected = some step ∧ expected[step]? = some command ∧
          repetition = .stepRepeated (step + 1) command) ∧
      ∀ event ∈ run.events, event.level = .info := by
  intro run plan repeated
  obtain ⟨count, within, standing, logged, stuck⟩ := Plan.exists_log_start
    (subject.begin id now settings watched).completion expected (Action.submittedLines "" actions)
  have begun := subject.begin_eq id now settings watched
  have reached : plan = Plan.after expected count := by
    rw [← standing, ← fresh]
    change ((subject.begin id now settings watched).performAll actions).value.1.plan = _
    rw [plan_performAll, begun, Session.input_start]
  have events : run.events = Plan.logAfter (subject.begin id now settings watched).completion
      expected count repeated := by
    rw [← logged, ← fresh]
    change ((subject.begin id now settings watched).performAll actions).events = _
    rw [events_performAll, begun, Session.input_start]
  refine ⟨Plan.repetitionEvent expected, ?_, fun some => ?_, fun event member => ?_⟩
  · rw [events, reached, begun]
    rfl
  · have stalled := stuck some
    have short := ((Plan.stalled_after within).mp stalled).2
    rw [Plan.stalled, Bool.and_eq_true, Bool.not_eq_true'] at stalled
    refine ⟨reached ▸ stalled.1, Plan.limit expected, expected[Plan.limit expected],
      Plan.firstRepeat?_of_limit_lt short, List.getElem?_eq_getElem short, ?_⟩
    rw [Plan.repetitionEvent, List.getElem?_eq_getElem short, Option.getD_some]
  · rw [events] at member
    apply level_eq_info_of_mem_logAfter _ member
    rw [completion]
    cases (subject.begin id now settings watched).lesson <;> rfl

/-- A plan whose last command repeats the first one: the third line that matches is recorded as a
repetition, and the line that does not match not at all. -/
theorem events_performAll_begin_roundTrip :
    (Subject.described Plan.roundTrip).plan = Plan.start ["ls", "LS", "ls"] ∧
      (((Subject.described Plan.roundTrip).begin "s" .epoch .standard false).performAll
        [.submit .epoch "ls", .setInput " Ls", .submitInput .epoch, .submit .epoch "pwd",
          .submit .epoch "ls"]).events =
        [.stepCompleted 1 "ls" (Plan.after ["ls", "LS", "ls"] 1).progress.rounded,
          .stepCompleted 2 "LS" (Plan.after ["ls", "LS", "ls"] 2).progress.rounded,
          .stepRepeated 3 "ls"] := by
  have fresh : (Subject.described Plan.roundTrip).plan = Plan.start ["ls", "LS", "ls"] := rfl
  refine ⟨fresh, ?_⟩
  have completed : (((Subject.described Plan.roundTrip).begin "s" .epoch .standard false).performAll
      [.submit .epoch "ls", .setInput " Ls", .submitInput .epoch, .submit .epoch "pwd",
        .submit .epoch "ls"]).value.1.plan.completed = ["ls", "LS"] := by decide
  have again : (Plan.start ["ls", "LS", "ls"]).repetitions (Action.submittedLines ""
      [.submit .epoch "ls", .setInput " Ls", .submitInput .epoch, .submit .epoch "pwd",
        .submit .epoch "ls"]) = 1 := by decide
  obtain ⟨repetition, events, stuck, -⟩ := events_performAll_begin fresh "s" .epoch .standard false
    [.submit .epoch "ls", .setInput " Ls", .submitInput .epoch, .submit .epoch "pwd",
      .submit .epoch "ls"]
  obtain ⟨incomplete, step, command, first, found, rfl⟩ := stuck (by rw [again]; decide)
  obtain rfl : 2 = step := Option.some.inj first
  obtain rfl : "ls" = command := Option.some.inj found
  rw [events, completed, incomplete, again]
  rfl

end ShellPractice.Practice
