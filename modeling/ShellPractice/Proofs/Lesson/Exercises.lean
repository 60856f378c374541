import Mathlib.Order.Bounds.Basic
import ShellPractice.Error

/-!
# Exercises and expected commands

A lesson that describes its steps is accepted only if its exercises are for its expected commands,
step by step.  Where as many of both are given and they differ, the error names the first step at
which they do.
-/

namespace ShellPractice.Lesson

/-- At a step, counted from zero, the exercise is for another command than the one expected. -/
def DiffersAt (exercises : List Exercise) (commands : List String) (step : Nat) : Prop :=
  ∃ exercise command, exercises[step]? = some exercise ∧ commands[step]? = some command ∧
    exercise.command ≠ command

theorem firstMismatch?_eq_none_iff {exercises : List Exercise} {commands : List String}
    (counts : exercises.length = commands.length) :
    firstMismatch? exercises commands = none ↔ exercises.map Exercise.command = commands := by
  induction exercises generalizing commands with
  | nil =>
    cases commands with
    | nil => simp [firstMismatch?]
    | cons command commands => simp at counts
  | cons exercise exercises ih =>
    cases commands with
    | nil => simp at counts
    | cons command commands =>
      have rest := ih (Nat.succ.inj counts)
      by_cases same : exercise.command = command
      · simp [firstMismatch?, same, rest]
      · simp [firstMismatch?, same]

theorem differsAt_zero {exercise : Exercise} {exercises : List Exercise} {command : String}
    {commands : List String} :
    DiffersAt (exercise :: exercises) (command :: commands) 0 ↔ exercise.command ≠ command := by
  simp [DiffersAt]

theorem differsAt_succ {exercise : Exercise} {exercises : List Exercise} {command : String}
    {commands : List String} {step : Nat} :
    DiffersAt (exercise :: exercises) (command :: commands) (step + 1) ↔
      DiffersAt exercises commands step :=
  Iff.rfl

theorem isLeast_firstMismatch? {exercises : List Exercise} {commands : List String} {step : Nat}
    (found : firstMismatch? exercises commands = some step) :
    IsLeast {step | DiffersAt exercises commands step} step := by
  induction exercises generalizing commands step with
  | nil => simp [firstMismatch?] at found
  | cons exercise exercises ih =>
    cases commands with
    | nil => simp [firstMismatch?] at found
    | cons command commands =>
      by_cases same : exercise.command = command
      · rw [firstMismatch?, if_pos same, Option.map_eq_some_iff] at found
        obtain ⟨later, found, rfl⟩ := found
        obtain ⟨differs, least⟩ := ih found
        refine ⟨differsAt_succ.mpr differs, fun other differs => ?_⟩
        cases other with
        | zero => exact absurd same (differsAt_zero.mp differs)
        | succ other => exact Nat.succ_le_succ (least (differsAt_succ.mp differs))
      · rw [firstMismatch?, if_neg same, Option.some.injEq] at found
        subst found
        exact ⟨differsAt_zero.mpr same, fun other _ => Nat.zero_le other⟩

/-- A lesson is accepted exactly if its id is not blank and its exercises, if it has any, are for
its expected commands. -/
theorem flaw?_eq_none_iff {lesson : Lesson} :
    lesson.flaw? = none ↔ Text.isBlankText lesson.id = false ∧
      (lesson.exercises = [] ∨ lesson.exercises.map Exercise.command = lesson.expected) := by
  unfold flaw?
  by_cases blank : Text.isBlankText lesson.id = true
  · simp [blank]
  · by_cases undescribed : lesson.exercises = []
    · simp [blank, undescribed]
    · by_cases counts : lesson.exercises.length = lesson.expected.length
      · simp [blank, undescribed, counts, firstMismatch?_eq_none_iff]
      · have other : lesson.exercises.map Exercise.command ≠ lesson.expected := by
          intro same
          apply counts
          rw [← same, List.length_map]
        simp [blank, undescribed, counts, other]

/-- The exercise of a step is for the command expected there. -/
theorem command_of_exercise? {lesson : Lesson} {step : Nat} {exercise : Exercise}
    (accepted : lesson.flaw? = none) (described : lesson.exercise? step = some exercise) :
    lesson.expected[step]? = some exercise.command := by
  rw [exercise?] at described
  rcases (flaw?_eq_none_iff.mp accepted).2 with nothing | same
  · rw [nothing] at described
    cases described
  · rw [← same, List.getElem?_map, described, Option.map_some]

theorem exists_exercise? {lesson : Lesson} {step : Nat} (accepted : lesson.flaw? = none)
    (described : lesson.exercises ≠ []) (inside : step < lesson.expected.length) :
    ∃ exercise, lesson.exercise? step = some exercise := by
  have same := (flaw?_eq_none_iff.mp accepted).2.resolve_left described
  rw [← same, List.length_map] at inside
  exact ⟨_, List.getElem?_eq_getElem inside⟩

/-- A lesson is accepted exactly if its id is not blank and its exercises, if it has any, are for
its expected commands one by one.  If only some of them are for other commands, the error names the
first of these steps, counted from one.  A lesson made of its exercises needs nothing but an id. -/
theorem flaw?_eq_none_iff_and_exerciseMismatch (lesson : Lesson) :
    (lesson.flaw? = none ↔ Text.isBlankText lesson.id = false ∧
      (lesson.exercises = [] ∨ lesson.exercises.map Exercise.command = lesson.expected)) ∧
    (Text.isBlankText lesson.id = false → lesson.exercises.length = lesson.expected.length →
      (∃ step, DiffersAt lesson.exercises lesson.expected step) →
        ∃ step, IsLeast {step | DiffersAt lesson.exercises lesson.expected step} step ∧
          lesson.flaw?.map (Error.ofLessonFlaw lesson) = some (.lessonInvalid lesson.id
            ("Exercise " ++ toString (step + 1) ++ " does not match its expected command"))) ∧
    ∀ id title description difficulty exercises,
      (ofExercises id title description difficulty exercises).flaw? = none ↔
        Text.isBlankText id = false := by
  refine ⟨flaw?_eq_none_iff, ?_, ?_⟩
  · rintro visible counts ⟨step, exercise, command, given, expected, other⟩
    have described : lesson.exercises.isEmpty = false := by
      rw [List.isEmpty_eq_false_iff_exists_mem]
      exact ⟨exercise, List.mem_of_getElem? given⟩
    have unequal : lesson.exercises.map Exercise.command ≠ lesson.expected := by
      intro same
      rw [← same, List.getElem?_map, given] at expected
      exact other (Option.some.inj expected)
    obtain ⟨first, found⟩ := Option.ne_none_iff_exists'.mp
      (mt (firstMismatch?_eq_none_iff counts).mp unequal)
    refine ⟨first, isLeast_firstMismatch? found, ?_⟩
    simp [flaw?, visible, described, counts, found, Error.ofLessonFlaw, LessonFlaw.reason]
  · intro id title description difficulty exercises
    rw [flaw?_eq_none_iff]
    exact and_iff_left (.inr rfl)

/-- A lesson whose second and third exercises are for other commands. -/
def misdescribed : Lesson :=
  { ofExercises "tour" "Tour" "" .beginner [⟨"pwd", "", ""⟩, ⟨"ls", "", ""⟩, ⟨"cd x", "", ""⟩] with
    expected := ["pwd", "ls ", "rm x"] }

theorem flaw?_misdescribed :
    misdescribed.flaw?.map (Error.ofLessonFlaw misdescribed) =
      some (.lessonInvalid "tour" "Exercise 2 does not match its expected command") := by
  have second : DiffersAt misdescribed.exercises misdescribed.expected 1 :=
    ⟨_, _, rfl, rfl, by decide⟩
  obtain ⟨step, ⟨differs, least⟩, named⟩ :=
    (flaw?_eq_none_iff_and_exerciseMismatch misdescribed).2.1 (by decide) rfl ⟨1, second⟩
  have least : step ≤ 1 := least second
  cases step with
  | zero => exact absurd rfl (differsAt_zero.mp differs)
  | succ step =>
    obtain rfl : step = 0 := by omega
    exact named

end ShellPractice.Lesson
