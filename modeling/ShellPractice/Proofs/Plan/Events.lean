import ShellPractice.Proofs.Plan.Stall

/-!
# What a run leaves in the log

The log of a run has a closed form.  It starts with one event for each completed step, in order.
After the last step of a plan comes the event of its end; where a plan is stuck, every line that is
the repeated command adds one more event.  No plan is both complete and stuck.
-/

namespace ShellPractice.Plan

/-- What the log records of a line; `ended` is the event of completing the plan. -/
def lineEvents (ended : LogEvent) (plan : Plan) (line : String) : List LogEvent :=
  (plan.advance line).events (plan.outcome line) ++
    if !plan.progress.complete && (plan.advance line).progress.complete then [ended] else []

/-- What the log records of lines, one after the other. -/
def log (ended : LogEvent) (plan : Plan) : List String → List LogEvent
  | [] => []
  | line :: rest => plan.lineEvents ended line ++ (plan.advance line).log ended rest

/-- Whether a plan is stuck at a command and a line is this command. -/
def repeatsStep (plan : Plan) (line : String) : Bool :=
  plan.stalled && plan.target?.any (isTyped · line)

/-- How many of the lines repeat a command that a plan is stuck at. -/
def repetitions (plan : Plan) : List String → Nat
  | [] => 0
  | line :: rest => (plan.repeatsStep line).toNat + (plan.advance line).repetitions rest

/-- The events of completing the first steps of a plan. -/
def stepEvents (expected : List String) (count : Nat) : List LogEvent :=
  (expected.take count).mapIdx fun index command =>
    .stepCompleted (index + 1) command (after expected (index + 1)).progress.rounded

/-- The event of typing the command that a plan is stuck at. -/
def repetitionEvent (expected : List String) : LogEvent :=
  .stepRepeated (limit expected + 1) (expected[limit expected]?.getD "")

theorem log_append (ended : LogEvent) (plan : Plan) (lines more : List String) :
    plan.log ended (lines ++ more) = plan.log ended lines ++ (plan.run lines).log ended more := by
  induction lines generalizing plan with
  | nil => rfl
  | cons line lines ih =>
    have later := ih (plan.advance line)
    rw [List.cons_append, log, later, ← List.append_assoc]
    rfl

theorem repetitions_append (plan : Plan) (lines more : List String) :
    plan.repetitions (lines ++ more) =
      plan.repetitions lines + (plan.run lines).repetitions more := by
  induction lines generalizing plan with
  | nil => exact (Nat.zero_add _).symm
  | cons line lines ih =>
    have later := ih (plan.advance line)
    rw [List.cons_append, repetitions, later, ← Nat.add_assoc]
    rfl

theorem stepEvents_add_one {expected : List String} {count : Nat} {command : String}
    (next : expected[count]? = some command) :
    stepEvents expected (count + 1) = stepEvents expected count ++
      [.stepCompleted (count + 1) command (after expected (count + 1)).progress.rounded] := by
  have inside := (List.getElem?_eq_some_iff.mp next).1
  have length : (expected.take count).length = count := by
    rw [List.length_take]
    omega
  rw [stepEvents, List.take_add_one, next, Option.toList_some, List.mapIdx_concat, length,
    stepEvents]

theorem complete_after_of_lt {expected : List String} {count : Nat}
    (below : count < limit expected) : (after expected count).complete = false := by
  have bound := limit_le_length expected
  rw [← Bool.not_eq_true, complete_after (Nat.le_of_lt below)]
  omega

section Line

variable {ended : LogEvent} {expected : List String} {count : Nat} {line : String}

theorem lineEvents_after_of_isTyped {command : String} (below : count < limit expected)
    (next : expected[count]? = some command) (typed : isTyped command line = true) :
    (after expected count).lineEvents ended line =
      .stepCompleted (count + 1) command (after expected (count + 1)).progress.rounded ::
        if (after expected (count + 1)).complete then [ended] else [] := by
  obtain ⟨answered, moved⟩ := after_of_isTyped below next typed
  rw [lineEvents, answered, moved, complete_progress, complete_progress,
    complete_after_of_lt below, Bool.not_false, Bool.true_and]
  rfl

/-- A line that completes nothing is recorded only if it repeats a command that the plan is stuck
at. -/
theorem lineEvents_of_idle {plan : Plan} (idle : (plan.outcome line).isAdvance = false) :
    plan.lineEvents ended line =
      if plan.repeatsStep line then [.stepRepeated (plan.cursor + 1) (plan.target?.getD "")]
      else [] := by
  have same : plan.advance line = plan := advance_eq_self idle
  have nothing :
      (if !plan.progress.complete && plan.progress.complete then [ended] else []) = [] := by
    cases plan.progress.complete <;> rfl
  rw [lineEvents, same, nothing, List.append_nil, repeatsStep]
  cases target : plan.target? with
  | none => simp [outcome, target, events]
  | some command =>
    cases typed : isTyped command line with
    | false => simp [outcome, target, typed, events]
    | true =>
      cases completed : plan.hasCompleted command with
      | false => simp [outcome, target, typed, completed, Outcome.isAdvance] at idle
      | true => simp [outcome, target, typed, completed, events]

/-- A plan is stuck only where all commands that can be completed have been. -/
theorem repeatsStep_after_of_lt (below : count < limit expected) :
    (after expected count).repeatsStep line = false := by
  have moving : (after expected count).stalled = false := by
    rw [← Bool.not_eq_true, stalled_after (Nat.le_of_lt below)]
    omega
  rw [repeatsStep, moving, Bool.false_and]

theorem firstRepeat?_of_limit_lt (short : limit expected < expected.length) :
    Lesson.firstRepeat? expected = some (limit expected) := by
  unfold limit at *
  cases found : Lesson.firstRepeat? expected with
  | none =>
    rw [found, Option.getD_none] at short
    omega
  | some first => rfl

theorem lineEvents_after_limit :
    (after expected (limit expected)).lineEvents ended line =
      List.replicate ((after expected (limit expected)).repeatsStep line).toNat
        (repetitionEvent expected) := by
  rw [lineEvents_of_idle (isAdvance_outcome_after_limit expected line)]
  cases repeated : (after expected (limit expected)).repeatsStep line with
  | false => rfl
  | true =>
    have stuck := (Bool.and_eq_true_iff.mp repeated).1
    have short := ((stalled_after (Nat.le_refl _)).mp stuck).2
    have place : min (limit expected) (expected.length - 1) = limit expected := by omega
    rw [target?, expected_after, cursor_after, place]
    rfl

end Line

/-- The log when so many commands have been completed and so many lines have repeated the command
that the plan is stuck at. -/
def logAfter (ended : LogEvent) (expected : List String) (count repeated : Nat) : List LogEvent :=
  stepEvents expected count ++ (if (after expected count).complete then [ended] else []) ++
    List.replicate repeated (repetitionEvent expected)

/-- The log of a plan with commands left before its limit. -/
theorem logAfter_of_lt {expected : List String} {count : Nat} (below : count < limit expected)
    (ended : LogEvent) : logAfter ended expected count 0 = stepEvents expected count := by
  rw [logAfter, complete_after_of_lt below]
  exact (List.append_nil _).trans (List.append_nil _)

/-- One line takes the log from one closed form to the next. -/
theorem exists_logAfter_append_lineEvents {expected : List String} {count repeated : Nat}
    (within : count ≤ limit expected)
    (stuck : repeated ≠ 0 → (after expected count).stalled = true) (ended : LogEvent)
    (line : String) :
    ∃ next ≤ limit expected, (after expected count).advance line = after expected next ∧
      logAfter ended expected count repeated ++ (after expected count).lineEvents ended line =
        logAfter ended expected next
          (repeated + ((after expected count).repeatsStep line).toNat) ∧
      (repeated + ((after expected count).repeatsStep line).toNat ≠ 0 →
        (after expected next).stalled = true) := by
  rcases Nat.lt_or_eq_of_le within with below | rfl
  · have bound := limit_le_length expected
    obtain ⟨command, next⟩ : ∃ command, expected[count]? = some command :=
      ⟨_, List.getElem?_eq_getElem (by omega)⟩
    -- The plan is not stuck yet, so all that can happen is that the next step is completed.
    have moving : repeated = 0 := by
      by_contra some
      have stalled := (stalled_after within).mp (stuck some)
      omega
    rw [moving, repeatsStep_after_of_lt below, logAfter_of_lt below]
    cases typed : isTyped command line with
    | true =>
      have moved := (after_of_isTyped below next typed).2
      refine ⟨count + 1, below, moved, ?_, fun some => absurd rfl some⟩
      rw [lineEvents_after_of_isTyped below next typed, logAfter, stepEvents_add_one next]
      simp
    | false =>
      have idle : ((after expected count).outcome line).isAdvance = false := by
        rw [outcome_after_of_lt below next, typed]
        rfl
      refine ⟨count, within, advance_eq_self idle, ?_, fun some => absurd rfl some⟩
      rw [lineEvents_of_idle idle, repeatsStep_after_of_lt below]
      exact (List.append_nil _).trans (logAfter_of_lt below ended).symm
  · have idle := isAdvance_outcome_after_limit expected line
    refine ⟨_, within, advance_eq_self idle, ?_, fun some => ?_⟩
    · rw [lineEvents_after_limit, logAfter, logAfter, List.append_assoc,
        List.replicate_append_replicate]
    · by_cases earlier : repeated = 0
      · cases repeats : (after expected (limit expected)).repeatsStep line with
        | false => simp [earlier, repeats] at some
        | true => exact (Bool.and_eq_true_iff.mp repeats).1
      · exact stuck earlier

/-- The log of a run has the closed form. -/
theorem exists_log_start (ended : LogEvent) (expected lines : List String) :
    ∃ count ≤ limit expected, (start expected).run lines = after expected count ∧
      (start expected).log ended lines =
        logAfter ended expected count ((start expected).repetitions lines) ∧
      ((start expected).repetitions lines ≠ 0 → (after expected count).stalled = true) := by
  induction lines using List.reverseRecOn with
  | nil =>
    refine ⟨0, Nat.zero_le _, (after_zero expected).symm, ?_, fun some => absurd rfl some⟩
    have incomplete : (after expected 0).complete = false := by
      rw [← Bool.not_eq_true, complete_after (Nat.zero_le _)]
      omega
    rw [repetitions, logAfter, incomplete]
    rfl
  | append_singleton lines line ih =>
    obtain ⟨count, within, standing, logged, stuck⟩ := ih
    have ran : (start expected).run (lines ++ [line]) = (after expected count).advance line := by
      rw [run_append, standing]
      rfl
    have log : (start expected).log ended (lines ++ [line]) =
        (start expected).log ended lines ++ (after expected count).lineEvents ended line := by
      rw [log_append, standing]
      exact congrArg _ (List.append_nil _)
    have repeated : (start expected).repetitions (lines ++ [line]) =
        (start expected).repetitions lines + ((after expected count).repeatsStep line).toNat := by
      rw [repetitions_append, standing]
      rfl
    rw [ran, log, repeated, logged]
    exact exists_logAfter_append_lineEvents within stuck ended line

end ShellPractice.Plan
