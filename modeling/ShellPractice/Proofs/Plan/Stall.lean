import ShellPractice.Proofs.Plan.Matching

/-!
# Plans that cannot go on

A lesson whose commands repeat marks the first repeated step, before anyone has typed a line.  A
plan comes to a stand exactly at this step, and then it stays there, as a complete plan stays at
its end.
-/

namespace ShellPractice.Plan

theorem complete_progress (plan : Plan) : plan.progress.complete = plan.complete := by
  cases found : plan.expected <;> simp [progress, Progress.complete, complete, found]

theorem complete_after {expected : List String} {count : Nat} (within : count ≤ limit expected) :
    (after expected count).complete = true ↔
      count = limit expected ∧ 0 < expected.length ∧ limit expected = expected.length := by
  have bound := limit_le_length expected
  rw [← complete_progress, complete_progress_after (by omega)]
  omega

/-- Short of the limit the next command is a new one; at the limit it has been completed. -/
theorem stalled_after {expected : List String} {count : Nat} (within : count ≤ limit expected) :
    (after expected count).stalled = true ↔
      count = limit expected ∧ limit expected < expected.length := by
  have bound := limit_le_length expected
  rw [stalled, Bool.and_eq_true, Bool.not_eq_true', ← Bool.not_eq_true, complete_after within,
    Option.any_eq_true]
  constructor
  · rintro ⟨incomplete, command, target, before⟩
    have nonempty : 0 < expected.length :=
      Nat.zero_lt_of_lt (List.getElem?_eq_some_iff.mp target).1
    rcases Nat.lt_or_eq_of_le within with below | rfl
    -- Below the limit the next command is the first of its kind, so it was not completed before.
    · obtain ⟨here, fresh⟩ := target?_after_of_lt below (List.getElem?_eq_getElem (by omega))
      obtain rfl : _ = command := Option.some.inj (here.symm.trans target)
      rw [before] at fresh
      cases fresh
    · exact ⟨rfl, by omega⟩
  · rintro ⟨rfl, below⟩
    have place : min (limit expected) (expected.length - 1) = limit expected := by omega
    have target : (after expected (limit expected)).target? = some expected[limit expected] := by
      rw [target?, expected_after, cursor_after, place, List.getElem?_eq_getElem below]
    exact ⟨by omega, _, target, hasCompleted_target?_after_limit target⟩

theorem repeatedStep?_eq_some_iff {lesson : Lesson} {step : Nat} :
    lesson.repeatedStep? = some step ↔
      step = limit lesson.expected ∧ limit lesson.expected < lesson.expected.length := by
  have bound := limit_le_length lesson.expected
  rw [Lesson.repeatedStep?, limit] at *
  cases found : Lesson.firstRepeat? lesson.expected with
  | none => simp
  | some first =>
    have below := (Lesson.firstRepeat?_eq_some_iff.mp found).1.lt_length
    simp [below, eq_comm]

theorem repeatedStep?_eq_none_iff {lesson : Lesson} :
    lesson.repeatedStep? = none ↔ limit lesson.expected = lesson.expected.length :=
  Lesson.firstRepeat?_eq_none_iff.trans limit_eq_length_iff.symm

/-- A learner of a lesson gets stuck exactly at the step that the lesson marks as repeated, and
finishes only a lesson without such a step.  Whoever is stuck or has finished stays where they
are. -/
theorem run_plan_stalls_at_repeatedStep? (lesson : Lesson) (lines : List String) :
    ((lesson.plan.run lines).stalled = true →
        lesson.repeatedStep? = some (lesson.plan.run lines).cursor) ∧
      (∀ step, lesson.repeatedStep? = some step →
        (lesson.plan.run lines).completed.length ≤ step ∧
          (lesson.plan.run lines).complete = false ∧
          ((lesson.plan.run lines).completed.length = step →
            (lesson.plan.run lines).stalled = true)) ∧
      (lesson.repeatedStep? = none → (lesson.plan.run lines).stalled = false) ∧
      ((lesson.plan.run lines).stalled = true ∨ (lesson.plan.run lines).complete = true →
        ∀ line, (lesson.plan.run lines).advance line = lesson.plan.run lines ∧
          ((lesson.plan.run lines).outcome line).isAdvance = false) := by
  obtain ⟨reached, greatest, standing⟩ := exists_isGreatest_run_start lesson.expected lines
  have within := greatest.1.1
  have bound := limit_le_length lesson.expected
  have length : (lesson.expected.take reached).length = reached := by
    rw [List.length_take]
    omega
  rw [Lesson.plan, standing]
  simp only [← Bool.not_eq_true, stalled_after within, complete_after within, completed_after,
    length, cursor_after, repeatedStep?_eq_some_iff, repeatedStep?_eq_none_iff]
  refine ⟨by omega, by omega, by omega, fun stuck line => ?_⟩
  obtain rfl : reached = limit lesson.expected := by omega
  have idle := isAdvance_outcome_after_limit lesson.expected line
  exact ⟨advance_eq_self idle, by simpa using idle⟩

/-- A lesson whose last command repeats its first one.  The command between them differs from both
in case alone. -/
def roundTrip : Lesson :=
  { Lesson.ofExercises "round" "There and back" "" .beginner [] with
    expected := ["ls", "LS", "ls"] }

theorem run_plan_roundTrip :
    roundTrip.repeatedStep? = some 2 ∧
      (roundTrip.plan.run ["ls", " Ls"]).completed.length = 2 ∧
      (roundTrip.plan.run ["ls", " Ls"]).stalled = true ∧
      roundTrip.repeatedStep? = some (roundTrip.plan.run ["ls", " Ls"]).cursor ∧
      ∀ line, (roundTrip.plan.run ["ls", " Ls"]).advance line =
        roundTrip.plan.run ["ls", " Ls"] := by
  have marked : roundTrip.repeatedStep? = some 2 := by decide
  have standing : (roundTrip.plan.run ["ls", " Ls"]).completed.length = 2 := by decide
  obtain ⟨atMark, short, -, stays⟩ := run_plan_stalls_at_repeatedStep? roundTrip ["ls", " Ls"]
  have stuck := (short 2 marked).2.2 standing
  exact ⟨marked, standing, stuck, atMark stuck, fun line => (stays (Or.inl stuck) line).1⟩

end ShellPractice.Plan
