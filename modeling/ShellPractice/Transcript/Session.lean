import ShellPractice.Config.Basic
import ShellPractice.Transcript.Entry

/-!
# Sessions of the practice terminal

A session holds the transcript, the line that is being typed, and counts of what was submitted.
The transcript keeps the newest entries up to its capacity.
-/

namespace ShellPractice

/-- Counts of the submitted lines. -/
structure Statistics where
  submitted : Nat
  succeeded : Nat
  failed : Nat
  cleared : Nat
  deriving DecidableEq, Repr

namespace Statistics

/-- The counts before anything is submitted. -/
def zero : Statistics :=
  ⟨0, 0, 0, 0⟩

/-- The counts after one more answer. -/
def record (counts : Statistics) (response : Response) : Statistics where
  submitted := counts.submitted + 1
  succeeded := counts.succeeded + if response.succeeded then 1 else 0
  failed := counts.failed + if response.succeeded then 0 else 1
  cleared := counts.cleared + if response.clears then 1 else 0

end Statistics

/-- The last items of a list, as many as asked for. -/
def keepLast {α : Type} (count : Nat) (items : List α) : List α :=
  items.drop (items.length - count)

theorem length_keepLast {α : Type} (count : Nat) (items : List α) :
    (keepLast count items).length = min count items.length := by
  simp only [keepLast, List.length_drop]
  omega

theorem keepLast_of_length_le {α : Type} {count : Nat} {items : List α}
    (fits : items.length ≤ count) : keepLast count items = items := by
  simp [keepLast, Nat.sub_eq_zero_of_le fits]

/-- What is dropped early would be dropped later. -/
theorem keepLast_keepLast_append {α : Type} (count : Nat) (items more : List α) :
    keepLast count (keepLast count items ++ more) = keepLast count (items ++ more) := by
  by_cases fits : items.length ≤ count
  · rw [keepLast_of_length_le fits]
  · have excess : items.length - count ≤ (items ++ more).length - count := by
      simp only [List.length_append]
      omega
    have lengths : (keepLast count items ++ more).length - count + (items.length - count) =
        (items ++ more).length - count := by
      simp only [List.length_append, length_keepLast]
      omega
    have early : keepLast count items ++ more = (items ++ more).drop (items.length - count) := by
      rw [List.drop_append_of_le_length (Nat.sub_le _ _), keepLast]
    rw [keepLast, early, List.drop_drop, keepLast]
    congr 1
    rw [early] at lengths
    omega

/-- A practice terminal in use. -/
structure Session where
  id : String
  started : Timestamp
  settings : TerminalSettings
  entries : List Entry
  /-- The line that is being typed. -/
  input : String
  statistics : Statistics
  deriving DecidableEq

namespace Session

/-- The session with one more entry.  The oldest entries go when there are too many. -/
def push (session : Session) (entry : Entry) : Session :=
  { session with entries := keepLast session.settings.capacity (session.entries ++ [entry]) }

@[simp]
theorem settings_push (session : Session) (entry : Entry) :
    (session.push entry).settings = session.settings :=
  rfl

/-- The session with the lines of its banner added. -/
def showBanner (session : Session) (now : Timestamp) : Session :=
  session.settings.banner.foldl (fun session line => session.push ⟨.output, line, now⟩) session

/-- A session in which nothing has been typed. -/
def start (id : String) (now : Timestamp) (settings : TerminalSettings) : Session :=
  showBanner ⟨id, now, settings, [], "", Statistics.zero⟩ now

/-- What stands before a typed line. -/
def prompt (session : Session) : String :=
  session.settings.directory ++ session.settings.delimiter

/-- What becomes of the arguments of commands. -/
def argumentCase (session : Session) : ArgumentCase :=
  if session.settings.lowersArguments then .lowerCase else .asTyped

/-- The answer to a line. -/
def answer (session : Session) (line : String) : Response :=
  (Command.classify session.argumentCase line).respond session.settings.directory

/-- The session with its transcript emptied, except for the banner where it comes back. -/
def clear (session : Session) (now : Timestamp) : Session :=
  let emptied := { session with entries := [] }
  if session.settings.restoresBanner then emptied.showBanner now else emptied

/-- The session with an answer in its transcript. -/
def display (session : Session) (now : Timestamp) (response : Response) : Session :=
  match Entry.ofResponse? now response with
  | some entry => session.push entry
  | none => session.clear now

/-- The session after a line that is not blank, given the answer to the line. -/
def accept (session : Session) (now : Timestamp) (line : String)
    (response : Response) : Session :=
  let typed := session.push ⟨.input, session.prompt ++ line, now⟩
  let shown := typed.display now response
  { shown with input := "", statistics := shown.statistics.record response }

/-- Submits a line; the answer is the new session and the response.  A blank line is ignored. -/
def submit (session : Session) (now : Timestamp) (line : String) : Option (Session × Response) :=
  if Text.isBlankText line then none
  else
    let response := session.answer line
    some (session.accept now line response, response)

theorem submit_eq_none_iff {session : Session} {now : Timestamp} {line : String} :
    session.submit now line = none ↔ Text.isBlankText line = true := by
  unfold submit
  split <;> simp_all

/-- Submits the line that is being typed. -/
def submitInput (session : Session) (now : Timestamp) : Option (Session × Response) :=
  session.submit now session.input

/-- The session with another line being typed. -/
def setInput (session : Session) (line : String) : Session :=
  { session with input := line }

/-- The session with more text at the end of the line that is being typed. -/
def pushInput (session : Session) (text : String) : Session :=
  { session with input := session.input ++ text }

end Session

end ShellPractice
