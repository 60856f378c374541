import ShellPractice.Transcript.Session

/-!
# What a learner does at the terminal

A learner submits lines, directly or through the line that is being typed, and edits that line.
Which lines are submitted depends on the edits alone, not on what the terminal answers.  Every
action either submits one line that is not blank or leaves all but the typed line as it was.
-/

namespace ShellPractice

/-- One thing done at the terminal; submitting happens at a moment. -/
inductive Action where
  | submit (now : Timestamp) (line : String)
  | submitInput (now : Timestamp)
  | setInput (line : String)
  | pushInput (text : String)

namespace Action

/-- The line that is handed in, blank or not, and when, while another is being typed. -/
def handedIn? (pending : String) : Action → Option (Timestamp × String)
  | submit now line => some (now, line)
  | submitInput now => some (now, pending)
  | setInput _ | pushInput _ => none

/-- The line that is submitted; blank lines are not. -/
def submitted? (pending : String) (action : Action) : Option String :=
  ((action.handedIn? pending).map Prod.snd).filter fun line => !Text.isBlankText line

/-- The line being typed after an action that submits nothing. -/
def edited (pending : String) : Action → String
  | submit _ _ | submitInput _ => pending
  | setInput line => line
  | pushInput text => pending ++ text

/-- The line being typed after an action; a submission empties it. -/
def inputAfter (pending : String) (action : Action) : String :=
  match action.submitted? pending with
  | some _ => ""
  | none => action.edited pending

/-- The lines that actions submit, in order, from what is being typed before them. -/
def submittedLines (pending : String) : List Action → List String
  | [] => []
  | action :: rest =>
    (action.submitted? pending).toList ++ submittedLines (action.inputAfter pending) rest

theorem submitted?_of_handedIn? {pending line : String} {now : Timestamp} {action : Action}
    (handed : action.handedIn? pending = some (now, line)) :
    action.submitted? pending = if Text.isBlankText line then none else some line := by
  rw [submitted?, handed]
  cases blank : Text.isBlankText line <;> simp [blank]

theorem submitted?_of_handedIn?_eq_none {pending : String} {action : Action}
    (nothing : action.handedIn? pending = none) : action.submitted? pending = none := by
  rw [submitted?, nothing]
  rfl

theorem edited_of_handedIn? {pending : String} {action : Action}
    (handed : (action.handedIn? pending).isSome = true) : action.edited pending = pending := by
  cases action with
  | submit now line => rfl
  | submitInput now => rfl
  | setInput line => cases handed
  | pushInput text => cases handed

theorem isBlankText_of_submitted? {pending line : String} {action : Action}
    (submitted : action.submitted? pending = some line) : Text.isBlankText line = false := by
  simpa using (Option.filter_eq_some_iff.mp submitted).2

theorem isBlankText_of_mem_submittedLines {pending line : String} {actions : List Action}
    (member : line ∈ submittedLines pending actions) : Text.isBlankText line = false := by
  induction actions generalizing pending with
  | nil => cases member
  | cons action rest ih =>
    rw [submittedLines, List.mem_append, Option.mem_toList] at member
    rcases member with now | later
    · exact isBlankText_of_submitted? now
    · exact ih later

end Action

namespace Session

/-- The session after an action, and the answer if a line was submitted. -/
def perform (session : Session) : Action → Session × Option Response
  | .submit now line => orUnchanged (session.submit now line)
  | .submitInput now => orUnchanged (session.submitInput now)
  | .setInput line => (session.setInput line, none)
  | .pushInput text => (session.pushInput text, none)
where
  /-- The result of a submission; the session itself if nothing was submitted. -/
  orUnchanged (result : Option (Session × Response)) : Session × Option Response :=
    (result.elim session Prod.fst, result.map Prod.snd)

/-- The session after several actions. -/
def performAll (session : Session) (actions : List Action) : Session :=
  actions.foldl (fun session action => (session.perform action).1) session

theorem submit_of_not_blank {session : Session} {line : String} (now : Timestamp)
    (visible : Text.isBlankText line = false) :
    session.submit now line =
      some (session.accept now line (session.answer line), session.answer line) := by
  rw [submit, visible]
  rfl

theorem perform_of_handedIn? {session : Session} {action : Action} {now : Timestamp}
    {line : String} (handed : action.handedIn? session.input = some (now, line)) :
    session.perform action = perform.orUnchanged session (session.submit now line) := by
  cases action with
  | submit _ _ | submitInput _ => cases handed; rfl
  | setInput _ | pushInput _ => cases handed

theorem perform_of_handedIn?_eq_none {session : Session} {action : Action}
    (nothing : action.handedIn? session.input = none) :
    session.perform action = (session.setInput (action.edited session.input), none) := by
  cases action with
  | submit _ _ | submitInput _ => cases nothing
  | setInput _ | pushInput _ => rfl

/-- An action accepts the line that it submits, or changes nothing but the line being typed. -/
theorem perform_cases (session : Session) (action : Action) :
    (∃ now line, action.submitted? session.input = some line ∧
      session.perform action =
        (session.accept now line (session.answer line), some (session.answer line))) ∨
    (action.submitted? session.input = none ∧
      session.perform action = (session.setInput (action.edited session.input), none)) := by
  cases handed : action.handedIn? session.input with
  | none =>
    exact Or.inr ⟨Action.submitted?_of_handedIn?_eq_none handed,
      perform_of_handedIn?_eq_none handed⟩
  | some entry =>
    obtain ⟨now, line⟩ := entry
    rw [Action.submitted?_of_handedIn? handed, perform_of_handedIn? handed]
    cases blank : Text.isBlankText line with
    | false => exact Or.inl ⟨now, line, rfl, by rw [submit_of_not_blank now blank]; rfl⟩
    | true =>
      refine Or.inr ⟨rfl, ?_⟩
      rw [submit_eq_none_iff.mpr blank, Action.edited_of_handedIn? (by rw [handed]; rfl)]
      rfl

@[simp]
theorem input_accept (session : Session) (now : Timestamp) (line : String) (response : Response) :
    (session.accept now line response).input = "" :=
  rfl

theorem input_perform (session : Session) (action : Action) :
    (session.perform action).1.input = action.inputAfter session.input := by
  rcases session.perform_cases action with ⟨now, line, submitted, same⟩ | ⟨nothing, same⟩
  · rw [same, input_accept, Action.inputAfter, submitted]
  · rw [same, Action.inputAfter, nothing]
    rfl

end Session

end ShellPractice
