import Mathlib.Order.Bounds.Basic
import ShellPractice.Lesson.Plan
import ShellPractice.Proofs.Lesson.Repetition

/-!
# Where a plan can stand

Commands are completed in order and each only once, so the number of completed commands decides the
whole state of a plan.  This number grows by one with each matching line, up to the first command
that repeats an earlier one, or to the end of the list.
-/

namespace ShellPractice.Plan

theorem run_append (plan : Plan) (lines more : List String) :
    plan.run (lines ++ more) = (plan.run lines).run more :=
  List.foldl_append

/-- How the submitted lines compare with a plan that takes them one after the other. -/
def outcomes (plan : Plan) : List String → List Outcome
  | [] => []
  | line :: rest => plan.outcome line :: (plan.advance line).outcomes rest

theorem outcomes_append (plan : Plan) (lines more : List String) :
    plan.outcomes (lines ++ more) = plan.outcomes lines ++ (plan.run lines).outcomes more := by
  induction lines generalizing plan with
  | nil => rfl
  | cons line lines ih =>
    have later := ih (plan.advance line)
    exact congrArg (List.cons (plan.outcome line)) later

/-- The number of commands that can be completed: those before the first repeated one. -/
def limit (expected : List String) : Nat :=
  (Lesson.firstRepeat? expected).getD expected.length

/-- The plan whose first commands have been completed, as many as counted. -/
def after (expected : List String) (count : Nat) : Plan where
  expected := expected
  cursor := min count (expected.length - 1)
  completed := expected.take count

@[simp]
theorem expected_after (expected : List String) (count : Nat) :
    (after expected count).expected = expected :=
  rfl

@[simp]
theorem cursor_after (expected : List String) (count : Nat) :
    (after expected count).cursor = min count (expected.length - 1) :=
  rfl

@[simp]
theorem completed_after (expected : List String) (count : Nat) :
    (after expected count).completed = expected.take count :=
  rfl

theorem after_zero (expected : List String) : after expected 0 = start expected := by
  simp [after, start]

theorem isLeast_limit (expected : List String) :
    IsLeast {index | index = expected.length ∨ Lesson.RepeatsAt expected index}
      (limit expected) := by
  unfold limit
  cases found : Lesson.firstRepeat? expected with
  | none =>
    refine ⟨Or.inl rfl, ?_⟩
    rintro index (rfl | repeats)
    · exact Nat.le_refl _
    · rw [Lesson.firstRepeat?_eq_none_iff, ← List.take_length (l := expected),
        Lesson.nodup_take_iff] at found
      exact absurd repeats (found index repeats.lt_length)
  | some first =>
    obtain ⟨repeats, before⟩ := Lesson.firstRepeat?_eq_some_iff.mp found
    refine ⟨Or.inr repeats, ?_⟩
    rintro index (rfl | later)
    · exact Nat.le_of_lt repeats.lt_length
    · exact Nat.le_of_not_lt fun earlier => before index earlier later

theorem limit_le_length (expected : List String) : limit expected ≤ expected.length :=
  (isLeast_limit expected).2 (Or.inl rfl)

theorem not_repeatsAt_of_lt_limit {expected : List String} {index : Nat}
    (below : index < limit expected) : ¬ Lesson.RepeatsAt expected index :=
  fun repeats => Nat.not_le_of_lt below ((isLeast_limit expected).2 (Or.inr repeats))

theorem nodup_take_of_le_limit {expected : List String} {count : Nat}
    (within : count ≤ limit expected) : (expected.take count).Nodup :=
  Lesson.nodup_take_iff.mpr fun _ below =>
    not_repeatsAt_of_lt_limit (Nat.lt_of_lt_of_le below within)

theorem limit_eq_length_iff {expected : List String} :
    limit expected = expected.length ↔ expected.Nodup := by
  constructor
  · intro whole
    have distinct := nodup_take_of_le_limit (Nat.le_refl (limit expected))
    rwa [whole, List.take_length] at distinct
  · intro distinct
    rw [limit, Lesson.firstRepeat?_eq_none_iff.mpr distinct, Option.getD_none]

theorem complete_progress_after {expected : List String} {count : Nat}
    (within : count ≤ expected.length) :
    (after expected count).progress.complete = true ↔
      0 < expected.length ∧ count = expected.length := by
  simp [progress, Progress.complete, Nat.min_eq_left within]

theorem hasCompleted_after {expected : List String} {count : Nat} {command : String} :
    (after expected count).hasCompleted command = true ↔ command ∈ expected.take count := by
  simp [hasCompleted]

theorem target?_after_of_lt {expected : List String} {count : Nat} {command : String}
    (below : count < limit expected) (next : expected[count]? = some command) :
    (after expected count).target? = some command ∧
      (after expected count).hasCompleted command = false := by
  have bound := limit_le_length expected
  have place : min count (expected.length - 1) = count := by omega
  refine ⟨by rw [target?, expected_after, cursor_after, place, next], ?_⟩
  rw [← Bool.not_eq_true, hasCompleted_after]
  exact fun before => not_repeatsAt_of_lt_limit below ⟨command, before, next⟩

/-- At the limit the expected command, if there is one, has been completed before. -/
theorem hasCompleted_target?_after_limit {expected : List String} {command : String}
    (target : (after expected (limit expected)).target? = some command) :
    (after expected (limit expected)).hasCompleted command = true := by
  rw [target?, expected_after, cursor_after] at target
  rw [hasCompleted_after]
  rcases (isLeast_limit expected).1 with atEnd | repeats
  · rw [atEnd] at target ⊢
    rw [List.take_length]
    exact List.mem_of_getElem? target
  · have place : min (limit expected) (expected.length - 1) = limit expected := by
      have bound := repeats.lt_length
      omega
    obtain ⟨earlier, before, here⟩ := repeats
    rw [place, here] at target
    cases target
    exact before

theorem outcome_after_of_lt {expected : List String} {count : Nat} {command : String}
    (below : count < limit expected) (next : expected[count]? = some command) (line : String) :
    (after expected count).outcome line =
      if isTyped command line then .advanced command count else .notExpected := by
  have bound := limit_le_length expected
  obtain ⟨target, fresh⟩ := target?_after_of_lt below next
  have place : min count (expected.length - 1) = count := by omega
  rw [outcome, target]
  by_cases typed : isTyped command line = true <;> simp [typed, fresh, place]

theorem isAdvance_outcome_after_limit (expected : List String) (line : String) :
    ((after expected (limit expected)).outcome line).isAdvance = false := by
  rw [outcome]
  cases target : (after expected (limit expected)).target? with
  | none => rfl
  | some command =>
    by_cases typed : isTyped command line = true <;>
      simp [typed, hasCompleted_target?_after_limit target, Outcome.isAdvance]

theorem withCompleted_after {expected : List String} {count : Nat} {command : String}
    (next : expected[count]? = some command) :
    (after expected count).withCompleted command = after expected (count + 1) := by
  obtain ⟨below, -⟩ := List.getElem?_eq_some_iff.mp next
  have moved : (if min count (expected.length - 1) + 1 < expected.length then
      min count (expected.length - 1) + 1 else min count (expected.length - 1)) =
        min (count + 1) (expected.length - 1) := by
    split <;> omega
  have kept : expected.take count ++ [command] = expected.take (count + 1) := by
    rw [List.take_add_one, next, Option.toList_some]
  exact congrArg₂ (mk expected) moved kept

theorem after_of_isTyped {expected : List String} {count : Nat} {command line : String}
    (below : count < limit expected) (next : expected[count]? = some command)
    (typed : isTyped command line = true) :
    (after expected count).outcome line = .advanced command count ∧
      (after expected count).advance line = after expected (count + 1) := by
  have answered := outcome_after_of_lt below next line
  rw [if_pos typed] at answered
  refine ⟨answered, ?_⟩
  rw [advance, answered]
  exact withCompleted_after next

/-- One line advances a plan by at most one command. -/
theorem advance_after {expected : List String} {count : Nat} (within : count ≤ limit expected)
    (line : String) :
    (after expected count).advance line =
      after expected
        (if count < limit expected ∧ expected[count]?.any (isTyped · line) then count + 1
          else count) := by
  rcases Nat.lt_or_eq_of_le within with below | rfl
  · have bound := limit_le_length expected
    obtain ⟨command, next⟩ : ∃ command, expected[count]? = some command :=
      ⟨_, List.getElem?_eq_getElem (by omega)⟩
    by_cases typed : isTyped command line = true
    · have matched : expected[count]?.any (isTyped · line) = true := by
        rw [next]
        exact typed
      rw [(after_of_isTyped below next typed).2, if_pos ⟨below, matched⟩]
    · have unmatched : ¬ expected[count]?.any (isTyped · line) = true := by
        rw [next]
        exact typed
      rw [advance, outcome_after_of_lt below next, if_neg typed,
        if_neg fun growing => unmatched growing.2]
  · rw [advance_eq_self (isAdvance_outcome_after_limit expected line),
      if_neg fun growing => Nat.lt_irrefl _ growing.1]

end ShellPractice.Plan
