import ShellPractice.Lesson.Catalog
import ShellPractice.Proofs.Plan.Typing
import ShellPractice.Proofs.Practice.Action
import ShellPractice.Proofs.Text.LowerCase
import ShellPractice.Proofs.Text.Trim

/-!
# Lessons that can be finished

A learner who types the commands of a plan one after the other completes it, if none of them
repeats an earlier one.  Only blank lines match a blank command, and these are ignored, so a plan
with such a command is never completed.
-/

namespace ShellPractice

namespace Plan

/-- A blank command is typed by blank lines only, and no other command is. -/
theorem isBlankText_of_isTyped {command line : String} (typed : isTyped command line = true) :
    Text.isBlankText command = Text.isBlankText line := by
  rw [isTyped_iff, typedForm] at typed
  rw [← Text.isBlankText_lowerCase command, typed, Text.isBlankText_lowerCase,
    Text.isBlankText_trim]

/-- A run over lines that are not blank completes no plan with a blank command. -/
theorem complete_progress_run_start_of_blank {expected lines : List String} {command : String}
    (member : command ∈ expected) (blank : Text.isBlankText command = true)
    (visible : ∀ line ∈ lines, Text.isBlankText line = false) :
    ((start expected).run lines).progress.complete = false := by
  obtain ⟨reached, greatest, standing⟩ := exists_isGreatest_run_start expected lines
  obtain ⟨⟨within, contained⟩, -⟩ := greatest
  have bound := Nat.le_trans within (limit_le_length expected)
  rw [standing, ← Bool.not_eq_true, complete_progress_after bound]
  rintro ⟨-, rfl⟩
  rw [← List.map_take, List.take_length] at contained
  -- The blank command would have been typed as one of the lines.
  obtain ⟨line, inside, same⟩ :=
    List.mem_map.mp (contained.subset (List.mem_map_of_mem member))
  have typed : isTyped command line = true := isTyped_iff.mpr same.symm
  have clash := isBlankText_of_isTyped typed
  rw [blank, visible line inside] at clash
  cases clash

end Plan

namespace Practice

/-- Lines that are submitted one after the other, each at its own moment. -/
def submissions (moment : Nat → Timestamp) (lines : List String) : List Action :=
  lines.mapIdx fun index line => .submit (moment index) line

theorem submissions_cons (moment : Nat → Timestamp) (line : String) (lines : List String) :
    submissions moment (line :: lines) =
      .submit (moment 0) line :: submissions (fun index => moment (index + 1)) lines :=
  List.mapIdx_cons

theorem value_perform_submit {practice : Practice} {line : String} (now : Timestamp)
    (visible : Text.isBlankText line = false) :
    (practice.perform (.submit now line)).value =
      (practice.accept now line, some (practice.submission line)) := by
  rw [perform, submit_of_not_blank now visible]
  rfl

/-- A practice answers lines that are not blank, and its plan takes them. -/
theorem performAll_submissions (practice : Practice) {lines : List String}
    (visible : ∀ line ∈ lines, Text.isBlankText line = false) (moment : Nat → Timestamp) :
    (practice.performAll (submissions moment lines)).value.2.map (Option.map Submission.outcome) =
        (practice.plan.outcomes lines).map some ∧
      (practice.performAll (submissions moment lines)).value.1.plan = practice.plan.run lines := by
  induction lines generalizing practice moment with
  | nil => exact ⟨rfl, rfl⟩
  | cons line lines ih =>
    rw [List.forall_mem_cons] at visible
    have moved : (practice.accept (moment 0) line).plan = practice.plan.advance line :=
      plan_accept practice (moment 0) line
    obtain ⟨answered, ended⟩ := ih (practice.accept (moment 0) line) visible.2
      fun index => moment (index + 1)
    rw [moved] at answered ended
    rw [submissions_cons, performAll, Logged.value_bind, value_perform_submit _ visible.1]
    exact ⟨congrArg (List.cons (some (practice.plan.outcome line))) answered, ended⟩

/-- A lesson whose commands are neither repeated nor blank and have no blanks around them is
completed by typing them as they stand, one after the other.  A lesson with a blank command is
never completed. -/
theorem completion_ofLesson (id : String) (now : Timestamp) (settings : TerminalSettings)
    (lesson : Lesson) :
    (lesson.expected ≠ [] → lesson.repeatedStep? = none →
      (∀ command ∈ lesson.expected,
        Text.isBlankText command = false ∧ Text.trim command = command) →
      ∀ moment : Nat → Timestamp, ∃ last submitted,
        ((ofLesson id now settings lesson).value.performAll
          (submissions moment lesson.expected)).value = (last, submitted) ∧
        submitted.map (Option.map Submission.outcome) =
          lesson.expected.mapIdx (fun index command => some (.advanced command index)) ∧
        last.plan.progress.complete = true) ∧
    ((∃ command ∈ lesson.expected, Text.isBlankText command = true) →
      ∀ actions : List Action,
        ((ofLesson id now settings lesson).value.performAll
          actions).value.1.plan.progress.complete = false) := by
  constructor
  · intro steps fresh typable moment
    have distinct := Lesson.firstRepeat?_eq_none_iff.mp fresh
    have begun : (ofLesson id now settings lesson).value.plan = Plan.start lesson.expected := rfl
    have typed : List.Forall₂ (fun command line => Plan.isTyped command line = true)
        lesson.expected lesson.expected :=
      List.forall₂_same.mpr fun command member => Plan.isTyped_self (typable command member).2
    obtain ⟨answered, ended⟩ :=
      performAll_submissions (ofLesson id now settings lesson).value
        (fun command member => (typable command member).1) moment
    have completed := (Plan.outcomes_after_eq_iff distinct List.drop_zero rfl).mpr typed
    simp only [Plan.after_zero, Nat.zero_add] at completed
    refine ⟨_, _, rfl, ?_, ?_⟩
    · rw [answered, begun, completed, List.mapIdx_eq_zipIdx_map, List.mapIdx_eq_zipIdx_map,
        List.map_map]
      rfl
    · rw [ended, begun, Plan.complete_progress, Plan.complete_run_start_iff distinct rfl]
      exact ⟨steps, typed⟩
  · rintro ⟨command, member, blank⟩ actions
    rw [plan_performAll]
    exact Plan.complete_progress_run_start_of_blank member blank fun line =>
      Action.isBlankText_of_mem_submittedLines

/-- Midnight, a moment like any other. -/
def midnight : Timestamp :=
  ⟨"2024-01-01T00:00:00Z", by decide +kernel⟩

/-- A lesson with the commands and nothing else. -/
def lessonOf (commands : List String) : Lesson :=
  ⟨"x", "X", "", .beginner, defaultDirectory, commands, []⟩

/-- The result of typing the commands of a lesson as they stand. -/
def typedOut (commands : List String) : Practice × List (Option Submission) :=
  ((ofLesson "s" midnight .standard (lessonOf commands)).value.performAll
    (submissions (fun _ => midnight) commands)).value

/-- Two commands are completed by typing them; a blank command is not, whatever is done. -/
theorem completion_lessonOf :
    (∃ last submitted, typedOut ["ls", "cat Σ"] = (last, submitted) ∧
        submitted.map (Option.map Submission.outcome) =
          [some (.advanced "ls" 0), some (.advanced "cat Σ" 1)] ∧
        last.plan.progress.complete = true) ∧
    ((ofLesson "s" midnight .standard (lessonOf ["ls", " "])).value.performAll
      [.submit midnight "ls", .setInput " ", .submitInput midnight]
      ).value.1.plan.progress.complete = false := by
  constructor
  · exact (completion_ofLesson "s" midnight .standard (lessonOf ["ls", "cat Σ"])).1 (by decide)
      (by decide +kernel) (by decide +kernel) fun _ => midnight
  · exact (completion_ofLesson "s" midnight .standard (lessonOf ["ls", " "])).2
      ⟨" ", by decide +kernel, by decide +kernel⟩ _

/-- A catalog accepts a lesson of one blank command and one of a command after a blank.  Neither has
a repeated step, and typing the command completes neither. -/
theorem not_complete_lessonOf :
    (Catalog.empty.add (lessonOf [""]) = .ok (Catalog.empty.push (lessonOf [""])) ∧
      (lessonOf [""]).expected ≠ [] ∧ (lessonOf [""]).repeatedStep? = none ∧
      (typedOut [""]).2.map (Option.map Submission.outcome) = [none] ∧
      (typedOut [""]).1.plan.progress.complete = false) ∧
    Catalog.empty.add (lessonOf [" ls"]) = .ok (Catalog.empty.push (lessonOf [" ls"])) ∧
      (lessonOf [" ls"]).expected ≠ [] ∧ (lessonOf [" ls"]).repeatedStep? = none ∧
      (typedOut [" ls"]).2.map (Option.map Submission.outcome) = [some .notExpected] ∧
      (typedOut [" ls"]).1.plan.progress.complete = false := by
  decide +kernel

end Practice

end ShellPractice
