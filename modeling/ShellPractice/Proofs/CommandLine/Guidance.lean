import ShellPractice.Proofs.CommandLine.Loop
import ShellPractice.Proofs.Lesson.Exercises
import ShellPractice.Proofs.Plan.Stall
import ShellPractice.Proofs.Practice.Completion

/-!
# What the learner is told to do next

The exercise that is shown is always the one for the command that is expected next: an accepted
lesson describes its commands step by step, and a plan never points beyond the last of them.  The
loop names an exercise only while its command can still be completed.
-/

namespace ShellPractice

namespace Plan

theorem cursor_advance_lt {plan : Plan} (inside : plan.cursor < plan.expected.length)
    (line : String) : (plan.advance line).cursor < plan.expected.length := by
  unfold advance
  split
  · rw [withCompleted]
    split <;> omega
  · exact inside

theorem cursor_run_lt {plan : Plan} (inside : plan.cursor < plan.expected.length)
    (lines : List String) : (plan.run lines).cursor < plan.expected.length := by
  induction lines generalizing plan with
  | nil => exact inside
  | cons line rest ih =>
    have moved := cursor_advance_lt inside line
    rw [← expected_advance plan line] at moved ⊢
    exact ih moved

/-- While a plan is neither complete nor stalled, its next command is a new one. -/
theorem not_mem_completed_of_target? {plan : Plan} {command : String}
    (target : plan.target? = some command) (incomplete : plan.complete = false)
    (moving : plan.stalled = false) : command ∉ plan.completed := by
  rw [stalled, incomplete, target] at moving
  simpa [hasCompleted] using moving

end Plan

namespace Practice

/-- The practice goes through an accepted lesson, and the plan points at one of its steps. -/
structure Follows (practice : Practice) (lesson : Lesson) : Prop where
  accepted : lesson.flaw? = none
  expected_eq : practice.plan.expected = lesson.expected
  inside : lesson.expected ≠ [] → practice.plan.cursor < lesson.expected.length

/-- The practice goes through the lesson that it belongs to, if there is one. -/
def IsOnCourse (practice : Practice) : Prop :=
  ∀ lesson, practice.lesson = some lesson → practice.Follows lesson

theorem IsOnCourse.perform {practice : Practice} (course : practice.IsOnCourse) (action : Action) :
    (practice.perform action).value.1.IsOnCourse := by
  intro lesson belongs
  rw [lesson_perform] at belongs
  obtain ⟨accepted, expected, inside⟩ := course lesson belongs
  refine ⟨accepted, ?_, fun steps => ?_⟩
  · rw [plan_perform, Plan.expected_run, expected]
  · rw [plan_perform, ← expected]
    exact Plan.cursor_run_lt (expected ▸ inside steps) _

theorem IsOnCourse.performAll {practice : Practice} (course : practice.IsOnCourse)
    (actions : List Action) : (practice.performAll actions).value.1.IsOnCourse := by
  induction actions generalizing practice with
  | nil => exact course
  | cons action rest ih => exact ih (course.perform action)

theorem lesson_performAll (practice : Practice) (actions : List Action) :
    (practice.performAll actions).value.1.lesson = practice.lesson := by
  rw [performAll_eq_besides, besides]

/-- The exercise that is shown is for the command that is expected. -/
theorem IsOnCourse.target?_of_exercise? {practice : Practice} {exercise : Exercise}
    (course : practice.IsOnCourse) (shown : practice.exercise? = some exercise) :
    practice.plan.target? = some exercise.command := by
  obtain ⟨lesson, belongs, described⟩ := Option.bind_eq_some_iff.mp shown
  have follows := course lesson belongs
  rw [Plan.target?, follows.expected_eq]
  exact Lesson.command_of_exercise? follows.accepted described

theorem IsOnCourse.exists_exercise? {practice : Practice} {lesson : Lesson}
    (course : practice.IsOnCourse) (belongs : practice.lesson = some lesson)
    (described : lesson.exercises ≠ []) : ∃ exercise, practice.exercise? = some exercise := by
  have follows := course lesson belongs
  have same := (Lesson.flaw?_eq_none_iff.mp follows.accepted).2.resolve_left described
  have steps : lesson.expected ≠ [] := by
    rw [← same]
    exact mt List.map_eq_nil_iff.mp described
  rw [exercise?, belongs, Option.bind_some]
  exact Lesson.exists_exercise? follows.accepted described (follows.inside steps)

namespace Subject

theorem lesson_begin (subject : Subject) (id : String) (now : Timestamp)
    (settings : TerminalSettings) (watched : Bool) :
    (subject.begin id now settings watched).lesson = subject.lesson? := by
  rw [begin_eq]

/-- The lesson that is practiced, if there is one, is accepted. -/
def IsAccepted (subject : Subject) : Prop :=
  ∀ lesson, subject.lesson? = some lesson → lesson.flaw? = none

theorem IsAccepted.isOnCourse_begin {subject : Subject} (accepted : subject.IsAccepted)
    (id : String) (now : Timestamp) (settings : TerminalSettings) (watched : Bool) :
    (subject.begin id now settings watched).IsOnCourse := by
  rw [begin_eq]
  intro lesson belongs
  refine ⟨accepted lesson belongs, ?_, fun steps => ?_⟩
  · cases subject with
    | nothing | commands _ => cases belongs
    | described lesson => cases belongs; rfl
  · cases subject with
    | nothing | commands _ => cases belongs
    | described lesson => cases belongs; exact List.length_pos_iff.mpr steps

end Subject

end Practice

namespace CommandLine

/-- A lesson that the program opens comes from its catalog, which holds accepted lessons only. -/
theorem exists_isAccepted_of_openPractice {surroundings : Surroundings} {options : Options}
    {workspace : Workspace} {practice : Practice} (sound : workspace.IsSound)
    (opened : openPractice surroundings options workspace = .ok practice) :
    ∃ subject : Practice.Subject, subject.IsAccepted ∧ practice =
      subject.begin surroundings.sessionId surroundings.now workspace.config.terminal true := by
  obtain ⟨subject, offered, begun⟩ := exists_subject_of_openPractice opened
  exact ⟨subject, fun lesson belongs => sound.flawless lesson (offered lesson belongs), begun⟩

theorem isSound_of_openWorkspace {surroundings : Surroundings} {options : Options}
    {workspace : Workspace} (opened : (openWorkspace surroundings options).value = .ok workspace) :
    workspace.IsSound := by
  unfold openWorkspace at opened
  split at opened
  · obtain ⟨config, loaded, selected⟩ := Workspace.ofConfig_of_startWith opened
    exact Workspace.isSound_of_ofConfig (Config.flaw?_of_load loaded) selected
  · rw [Workspace.value_start] at opened
    exact Workspace.isSound_of_ofConfig (Workspace.flaw?_configFor _ _) opened

/-- What stands before the hint when practice begins. -/
def opening (practice : Practice) : String :=
  (match practice.lesson with
    | some lesson => "Lesson " ++ lesson.id ++ ": " ++ lesson.title ++ "\n"
    | none => "") ++ transcriptText practice

/-- The answer to a line as it is shown, without what the line means for the lesson. -/
def answerText (practice : Practice) (response : Response) : String :=
  if response.clears then clearScreen ++ transcriptText practice else response.text ++ "\n"

/-- What a learner is told about the next step: that there is none, that it repeats a completed
command, which exercise it is, or nothing where no exercise describes it. -/
inductive Guides (practice : Practice) : String → Prop where
  | finished (complete : practice.plan.complete = true) : Guides practice "Lesson complete!\n"
  | stuck {command : String} (target : practice.plan.target? = some command)
      (repeated : command ∈ practice.plan.completed) :
      Guides practice ("Note: step " ++ toString (practice.plan.cursor + 1) ++ " repeats '" ++
        command ++ "', which is already completed; this lesson cannot advance further.\n")
  | next {exercise : Exercise} (shown : practice.exercise? = some exercise)
      (target : practice.plan.target? = some exercise.command)
      (new : exercise.command ∉ practice.plan.completed) :
      Guides practice ("Next: " ++ exercise.description ++ " (" ++ exercise.command ++ ")\n")
  | silent (undescribed : practice.exercise? = none) : Guides practice ""

theorem guides_hint {practice : Practice} (course : practice.IsOnCourse)
    (incomplete : ∀ exercise, practice.exercise? = some exercise → practice.plan.complete = false) :
    Guides practice (hint practice) := by
  unfold hint
  cases stalled : practice.plan.stalled with
  | true =>
    rw [Plan.stalled, Bool.and_eq_true, Option.any_eq_true] at stalled
    obtain ⟨-, command, target, repeated⟩ := stalled
    rw [if_pos rfl, target, Option.getD_some]
    exact .stuck target (by simpa [Plan.hasCompleted] using repeated)
  | false =>
    rw [if_neg Bool.false_ne_true]
    cases shown : practice.exercise? with
    | none => exact .silent shown
    | some exercise =>
      have target := course.target?_of_exercise? shown
      have new := Plan.not_mem_completed_of_target? target (incomplete exercise shown) stalled
      exact .next shown target new

/-- What is shown for a line that was submitted, given the practice after it: the answer, and for
the expected command also the progress and what comes next. -/
inductive Answers (practice : Practice) (submission : Submission) : String → Prop where
  | other (unexpected : submission.isMatch = false) :
      Answers practice submission (answerText practice submission.response)
  | expected {guidance : String} (matched : submission.isMatch = true)
      (guides : Guides practice guidance) :
      Answers practice submission (answerText practice submission.response ++
        progressText practice.plan.progress ++ guidance)

theorem answers_report {practice : Practice} (course : practice.IsOnCourse)
    (submission : Submission) : Answers practice submission (report practice submission) := by
  unfold report
  cases matched : submission.isMatch with
  | false => exact .other matched
  | true =>
    refine .expected matched ?_
    rw [Plan.complete_progress]
    cases complete : practice.plan.complete with
    | true => exact .finished complete
    | false => exact guides_hint course fun _ _ => complete

/-- What the loop shows from a practice on: a prompt for each line, then nothing for a blank line
and else the answer to it, and a last prompt. -/
inductive Guided (now : Timestamp) : Practice → List String → Prop where
  | ended (practice : Practice) : Guided now practice [practice.session.prompt]
  | ignored {practice : Practice} {rest : List String} (later : Guided now practice rest) :
      Guided now practice (practice.session.prompt :: "" :: rest)
  | answered {practice next : Practice} {submission : Submission} {line shown : String}
      {rest : List String}
      (submitted : (practice.perform (.submit now line)).value = (next, some submission))
      (answers : Answers next submission shown) (later : Guided now next rest) :
      Guided now practice (practice.session.prompt :: shown :: rest)

theorem guided_loop {practice : Practice} (course : practice.IsOnCourse) (now : Timestamp)
    (lines : List (Option String)) : Guided now practice (loop now practice lines).shown := by
  induction lines generalizing practice with
  | nil => exact .ended practice
  | cons first rest ih =>
    cases first with
    | none => exact .ended practice
    | some line =>
      generalize typed : Text.dropLineEnd line = entered
      cases leaves : isExit entered with
      | true =>
        rw [loop_of_exit (typed ▸ leaves)]
        exact .ended practice
      | false =>
        rw [loop_of_not_exit (typed ▸ leaves), typed]
        have kept := course.perform (.submit now entered)
        cases blank : Text.isBlankText entered with
        | true =>
          have unchanged : practice.perform (.submit now entered) = pure (practice, none) := by
            rw [Practice.perform, Practice.submit_of_blank now blank, Practice.perform.orUnchanged]
          rw [unchanged]
          exact .ignored (ih course)
        | false =>
          have submitted : (practice.perform (.submit now entered)).value =
              (practice.accept now entered, some (practice.submission entered)) :=
            Practice.value_perform_submit now blank
          rw [submitted] at kept ⊢
          exact .answered submitted (answers_report kept _) (ih kept)

/-- A lesson that has only begun is not complete. -/
theorem guides_hint_begin {subject : Practice.Subject} (accepted : subject.IsAccepted) (id : String)
    (now : Timestamp) (settings : TerminalSettings) (watched : Bool) :
    Guides (subject.begin id now settings watched)
      (hint (subject.begin id now settings watched)) := by
  apply guides_hint (accepted.isOnCourse_begin id now settings watched)
  intro exercise shown
  rw [Practice.Subject.begin_eq] at shown ⊢
  cases subject with
  | nothing | commands _ => cases shown
  | described lesson =>
    change (Plan.start lesson.expected).complete = false
    rw [Plan.complete, Plan.start]
    cases lesson.expected <;> rfl

/-- In every practice of an accepted lesson with exercises an exercise is shown, and it is the one
for the command that is expected.  Whatever the program tells the learner to do next, at the
beginning and after each line of the loop, is the command that is expected then and has not been
completed. The program practices accepted lessons only. -/
theorem exercise?_performAll_begin {subject : Practice.Subject} (accepted : subject.IsAccepted)
    (id : String) (now : Timestamp) (settings : TerminalSettings) (watched : Bool)
    (actions : List Action) :
    let begun := subject.begin id now settings watched
    let reached := (begun.performAll actions).value.1
    (∀ lesson, subject.lesson? = some lesson → lesson.exercises ≠ [] →
        ∃ exercise, reached.exercise? = some exercise ∧
          reached.plan.target? = some exercise.command) ∧
      (∃ guidance, Guides begun guidance ∧ greeting begun = opening begun ++ guidance) ∧
      (∀ moment lines, Guided moment reached (loop moment reached lines).shown) ∧
      ∀ surroundings options workspace practice,
        (openWorkspace surroundings options).value = .ok workspace →
        openPractice surroundings options workspace = .ok practice →
        ∃ opened : Practice.Subject, opened.IsAccepted ∧ practice = opened.begin
          surroundings.sessionId surroundings.now workspace.config.terminal true := by
  intro begun reached
  have course : begun.IsOnCourse := accepted.isOnCourse_begin id now settings watched
  have kept : reached.IsOnCourse := course.performAll actions
  refine ⟨fun lesson practiced described => ?_, ?_, fun moment lines =>
    guided_loop kept moment lines, fun _ _ _ _ started opened =>
      exists_isAccepted_of_openPractice (isSound_of_openWorkspace started) opened⟩
  · have belongs : reached.lesson = some lesson := by
      rw [Practice.lesson_performAll, Practice.Subject.lesson_begin]
      exact practiced
    obtain ⟨exercise, shown⟩ := kept.exists_exercise? belongs described
    exact ⟨exercise, shown, kept.target?_of_exercise? shown⟩
  · exact ⟨hint begun, guides_hint_begin accepted id now settings watched, rfl⟩

/-- After the first command of the first lesson the second one is shown and expected. -/
theorem exercise?_performAll_begin_navigation :
    (Practice.Subject.described Lesson.navigationBasics).IsAccepted ∧
      Lesson.navigationBasics.exercises ≠ [] ∧
      ∃ reached exercise,
        (((Practice.Subject.described Lesson.navigationBasics).begin "s" .epoch .standard
          false).performAll [.setInput "PWD ", .submitInput .epoch]).value.1 = reached ∧
        reached.exercise? = some exercise ∧ reached.plan.target? = some "ls" ∧
        exercise.command = "ls" ∧
        Guided .epoch reached (loop .epoch reached [some "ls\n", some "quit\n"]).shown := by
  have accepted : (Practice.Subject.described Lesson.navigationBasics).IsAccepted := by
    rintro _ ⟨⟩
    decide
  have described : Lesson.navigationBasics.exercises ≠ [] := by decide
  obtain ⟨current, -, guided, -⟩ := exercise?_performAll_begin accepted "s" .epoch .standard false
    [.setInput "PWD ", .submitInput .epoch]
  obtain ⟨exercise, shown, target⟩ := current _ rfl described
  have second : (((Practice.Subject.described Lesson.navigationBasics).begin "s" .epoch .standard
      false).performAll [.setInput "PWD ", .submitInput .epoch]).value.1.plan.target? =
        some "ls" := by decide
  exact ⟨accepted, described, _, exercise, rfl, shown, second,
    Option.some.inj (target.symm.trans second), guided .epoch _⟩

end CommandLine

end ShellPractice
