import ShellPractice.Proofs.Command.ArgumentCase
import ShellPractice.Proofs.Practice.Components
import ShellPractice.Proofs.Session.Statistics

/-!
# What a session keeps of its history

The transcript is bounded and can be emptied, but the counts and the line being typed depend on all
that was done.  The counts are those of the lines submitted since the start, and the line being typed
is what the edits since the last of these lines have made of an empty one.
-/

namespace ShellPractice

namespace Action

/-- Actions, each with the line that it submits, from what is being typed before them. -/
def history (pending : String) : List Action → List (Action × Option String)
  | [] => []
  | action :: rest =>
    (action, action.submitted? pending) :: history (action.inputAfter pending) rest

/-- The actions since the last one that submitted a line. -/
def sinceSubmission (pending : String) (actions : List Action) : List Action :=
  ((history pending actions).rtakeWhile fun entry => entry.2.isNone).map Prod.fst

/-- The text that takes the place of the line being typed. -/
def replacement? : Action → Option String
  | setInput line => some line
  | submit _ _ | submitInput _ | pushInput _ => none

/-- The text that is added to the line being typed. -/
def addition : Action → String
  | pushInput text => text
  | submit _ _ | submitInput _ | setInput _ => ""

/-- The line that edits make of an empty one: the text of the last replacement, if there is one, and
then all that was added after it. -/
def typed (edits : List Action) : String :=
  ((edits.filterMap replacement?).getLast?.getD "") ++
    String.join ((edits.rtakeWhile fun edit => edit.replacement?.isNone).map addition)

theorem filterMap_history (pending : String) (actions : List Action) :
    (history pending actions).filterMap Prod.snd = submittedLines pending actions := by
  induction actions generalizing pending with
  | nil => rfl
  | cons action rest ih =>
    rw [history, submittedLines, List.filterMap_cons, ih]
    cases action.submitted? pending <;> rfl

theorem typed_concat_of_kept {edits : List Action} {edit : Action}
    (kept : edit.replacement? = none) : typed (edits ++ [edit]) = typed edits ++ edit.addition := by
  have after : (edits ++ [edit]).rtakeWhile (fun edit => edit.replacement?.isNone) =
      edits.rtakeWhile (fun edit => edit.replacement?.isNone) ++ [edit] :=
    List.rtakeWhile_concat_pos _ _ _ (by rw [kept]; rfl)
  have replaced : (edits ++ [edit]).filterMap replacement? = edits.filterMap replacement? := by
    rw [List.filterMap_append, List.filterMap_cons, kept]
    simp
  rw [typed, typed, after, replaced, List.map_append, String.join_append, String.append_assoc]
  simp

theorem typed_concat_setInput (edits : List Action) (line : String) :
    typed (edits ++ [setInput line]) = line := by
  have after : (edits ++ [setInput line]).rtakeWhile (fun edit => edit.replacement?.isNone) = [] :=
    List.rtakeWhile_concat_neg _ _ _ (by simp [replacement?])
  rw [typed, after, List.filterMap_append]
  simp [replacement?, String.join]

/-- One more edit does to the line that the others made what it does to any. -/
theorem typed_concat (edits : List Action) (edit : Action) :
    typed (edits ++ [edit]) = edit.edited (typed edits) := by
  cases edit with
  | setInput line => exact typed_concat_setInput edits line
  | submit now line =>
    have kept : typed (edits ++ [submit now line]) = typed edits ++ "" := typed_concat_of_kept rfl
    rw [kept, String.append_empty, edited]
  | submitInput now =>
    have kept : typed (edits ++ [submitInput now]) = typed edits ++ "" := typed_concat_of_kept rfl
    rw [kept, String.append_empty, edited]
  | pushInput text => exact typed_concat_of_kept rfl

end Action

namespace Session

theorem history_concat (session : Session) (actions : List Action) (action : Action) :
    Action.history session.input (actions ++ [action]) =
      Action.history session.input actions ++
        [(action, action.submitted? (session.performAll actions).input)] := by
  induction actions generalizing session with
  | nil => rfl
  | cons first rest ih =>
    have later := ih (session.perform first).1
    rw [input_perform] at later
    exact congrArg (List.cons (first, first.submitted? session.input)) later

theorem performAll_concat (session : Session) (actions : List Action) (action : Action) :
    session.performAll (actions ++ [action]) =
      ((session.performAll actions).perform action).1 := by
  rw [performAll, List.foldl_append]
  rfl

/-- What is being typed depends on the actions since the last submission only. -/
theorem input_performAll {session : Session} (untyped : session.input = "")
    (actions : List Action) :
    (session.performAll actions).input =
      Action.typed (Action.sinceSubmission session.input actions) := by
  induction actions using List.reverseRecOn with
  | nil => exact untyped
  | append_singleton actions action ih =>
    rw [performAll_concat, input_perform, Action.inputAfter, Action.sinceSubmission,
      history_concat]
    cases submitted : action.submitted? (session.performAll actions).input with
    | none =>
      rw [List.rtakeWhile_concat_pos _ _ _ rfl, List.map_append, ← Action.sinceSubmission,
        List.map_singleton, Action.typed_concat, ← ih]
    | some line =>
      rw [List.rtakeWhile_concat_neg _ _ _ (by simp)]
      rfl

/-- The answers that are given are those to the submitted lines. -/
theorem reduceOption_answers (session : Session) (actions : List Action) :
    (session.answers actions).reduceOption =
      (Action.submittedLines session.input actions).map session.settings.answer := by
  induction actions generalizing session with
  | nil => rfl
  | cons action rest ih =>
    have later := ih (session.perform action).1
    rw [input_perform, settings_perform] at later
    rw [answers, Action.submittedLines, List.map_append, ← later]
    rcases session.perform_cases action with ⟨now, line, submitted, same⟩ | ⟨nothing, same⟩
    · rw [same, submitted]
      rfl
    · rw [same, nothing]
      rfl

theorem perform_handedIn {session : Session} {action : Action} {now : Timestamp} {line : String}
    (handed : action.handedIn? session.input = some (now, line)) :
    (Text.isBlankText line = true ∧ session.perform action = (session, none)) ∨
      (Text.isBlankText line = false ∧ (session.perform action).2.isSome = true) := by
  rw [perform_of_handedIn? handed]
  cases blank : Text.isBlankText line with
  | true =>
    rw [submit_eq_none_iff.mpr blank]
    exact Or.inl ⟨rfl, rfl⟩
  | false =>
    rw [submit_of_not_blank now blank]
    exact Or.inr ⟨rfl, rfl⟩

/-- After any actions, whatever the transcript still shows: the counts are those of the lines
submitted since the start and of the answers to them, the line being typed is what was made of an
empty one since the last of these lines, and a blank line would change nothing. -/
theorem counts_and_input_performAll_start (id : String) (now : Timestamp)
    (settings : TerminalSettings) (actions : List Action) :
    let opened := start id now settings
    let session := opened.performAll actions
    let lines := (Action.history "" actions).filterMap Prod.snd
    let answers := (opened.answers actions).reduceOption
    session.statistics.submitted = lines.length ∧
      session.statistics.failed = lines.countP
        (fun line => Command.classify opened.argumentCase line = .unknown line) ∧
      session.statistics.failed = answers.countP (!·.succeeded) ∧
      session.statistics.cleared = answers.countP Response.clears ∧
      session.statistics.succeeded + session.statistics.failed = session.statistics.submitted ∧
      session.statistics.cleared ≤ session.statistics.succeeded ∧
      session.input = Action.typed (Action.sinceSubmission "" actions) ∧
      ∀ action moment line, action.handedIn? session.input = some (moment, line) →
        (Text.isBlankText line = true ∧ session.perform action = (session, none)) ∨
          (Text.isBlankText line = false ∧ (session.perform action).2.isSome = true) := by
  intro opened session lines answers
  have untyped : opened.input = "" := input_start id now settings
  have nothing : opened.statistics = Statistics.zero := statistics_start id now settings
  have sameLines : lines = Action.submittedLines opened.input actions := by
    rw [untyped]
    exact Action.filterMap_history "" actions
  have counted : session.statistics = answers.foldl Statistics.record Statistics.zero := by
    have recorded := opened.statistics_performAll actions
    rw [nothing, ← reduceOption_answers] at recorded
    exact recorded
  have balanced : session.statistics.Balanced := by
    rw [counted]
    exact Statistics.Balanced.foldl_record ⟨rfl, Nat.le_refl 0⟩ answers
  obtain ⟨submitted, failed⟩ := opened.counts_performAll actions
  rw [nothing, ← sameLines] at submitted failed
  refine ⟨?_, ?_, ?_, ?_, balanced.submitted, balanced.cleared, ?_, ?_⟩
  · exact submitted.trans (Nat.zero_add _)
  · rw [failed.trans (Nat.zero_add _)]
    refine List.countP_congr fun line _ => ?_
    simp [Command.recognized_eq_false_iff]
  · rw [counted, Statistics.foldl_record]
    exact Nat.zero_add _
  · rw [counted, Statistics.foldl_record]
    exact Nat.zero_add _
  · have input := input_performAll untyped actions
    rw [untyped] at input
    exact input
  · intro action moment line handed
    exact perform_handedIn handed

/-- Three lines, the second of which clears and the third of which is no command, and edits after
them with a blank line in between. -/
def restlessHour : List Action :=
  [.setInput "l", .pushInput "s", .submitInput .epoch, .pushInput "cd", .submit .epoch " CLEAR ",
    .submit .epoch "cp x", .pushInput "a", .setInput "cp", .submit .epoch " ", .pushInput " y"]

theorem counts_and_input_restlessHour :
    let session := (start "s" .epoch { TerminalSettings.standard with maxEntries := 0 }).performAll
      restlessHour
    session.statistics.submitted = 3 ∧ session.statistics.succeeded = 2 ∧
      session.statistics.failed = 1 ∧ session.statistics.cleared = 1 ∧ session.input = "cp y" ∧
      session.perform (.submit .epoch "\t") = (session, none) := by
  intro session
  obtain ⟨submitted, failed, -, cleared, total, -, input, next⟩ :=
    counts_and_input_performAll_start "s" .epoch
      { TerminalSettings.standard with maxEntries := 0 } restlessHour
  have three : session.statistics.submitted = 3 := submitted.trans (by decide)
  have one : session.statistics.failed = 1 := failed.trans (by decide)
  have sum : session.statistics.succeeded + session.statistics.failed =
      session.statistics.submitted := total
  refine ⟨three, by omega, one, cleared.trans (by decide), input.trans (by decide), ?_⟩
  rcases next (.submit .epoch "\t") .epoch "\t" rfl with ⟨-, unchanged⟩ | ⟨visible, -⟩
  · exact unchanged
  · exact absurd visible (by decide)

end Session

end ShellPractice
