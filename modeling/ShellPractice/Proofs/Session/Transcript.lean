import Mathlib.Data.List.DropRight
import Mathlib.Data.List.Induction
import ShellPractice.Proofs.Command.Grammar
import ShellPractice.Proofs.Session.Action

/-!
# What a transcript shows

A transcript drops its oldest entry whenever it has too many, and is emptied by a line that clears
it.  It shows the end of a log without a bound: the banner and, for each line since the last one
that cleared the transcript, the line after the prompt and its answer.
-/

namespace ShellPractice

/-- An entry apart from its time. -/
def Entry.content (entry : Entry) : EntryKind × String :=
  (entry.kind, entry.text)

theorem keepLast_eq_rtake {α : Type} (count : Nat) (items : List α) :
    keepLast count items = items.rtake count :=
  rfl

theorem map_keepLast {α β : Type} (f : α → β) (count : Nat) (items : List α) :
    (keepLast count items).map f = keepLast count (items.map f) := by
  rw [keepLast, keepLast, List.map_drop, List.length_map]

namespace TerminalSettings

/-- The answer to a line at a terminal with the settings. -/
def answer (settings : TerminalSettings) (line : String) : Response :=
  (Command.classify (if settings.lowersArguments then .lowerCase else .asTyped) line).respond
    settings.directory

/-- What the banner shows. -/
def bannerContent (settings : TerminalSettings) : List (EntryKind × String) :=
  settings.banner.map fun line => (.output, line)

/-- What a submitted line and its answer show. -/
def exchange (settings : TerminalSettings) (line : String) : List (EntryKind × String) :=
  [(.input, settings.directory ++ settings.delimiter ++ line),
    (if (settings.answer line).succeeded then .output else .failure,
      (settings.answer line).text)]

/-- What an emptied transcript shows. -/
def clearedLog (settings : TerminalSettings) : List (EntryKind × String) :=
  if settings.restoresBanner then settings.bannerContent else []

/-- The log without a bound after one more line. -/
def extendLog (settings : TerminalSettings) (log : List (EntryKind × String)) (line : String) :
    List (EntryKind × String) :=
  if (settings.answer line).clears then settings.clearedLog else log ++ settings.exchange line

end TerminalSettings

namespace Session

theorem showBanner_eq (session : Session) (now : Timestamp) :
    session.showBanner now = { session with entries := (session.showBanner now).entries } := by
  unfold showBanner
  generalize session.settings.banner = lines
  induction lines generalizing session with
  | nil => rfl
  | cons line lines ih => exact ih (session.push ⟨.output, line, now⟩)

@[simp]
theorem settings_showBanner (session : Session) (now : Timestamp) :
    (session.showBanner now).settings = session.settings := by
  rw [showBanner_eq]

@[simp]
theorem settings_start (id : String) (now : Timestamp) (settings : TerminalSettings) :
    (start id now settings).settings = settings :=
  settings_showBanner _ now

@[simp]
theorem input_start (id : String) (now : Timestamp) (settings : TerminalSettings) :
    (start id now settings).input = "" := by
  rw [start, showBanner_eq]

@[simp]
theorem settings_clear (session : Session) (now : Timestamp) :
    (session.clear now).settings = session.settings := by
  unfold clear
  split
  · exact settings_showBanner _ now
  · rfl

@[simp]
theorem settings_accept (session : Session) (now : Timestamp) (line : String)
    (response : Response) : (session.accept now line response).settings = session.settings := by
  cases response with
  | output text => rfl
  | failure text => rfl
  | cleared => exact settings_clear _ now

@[simp]
theorem settings_perform (session : Session) (action : Action) :
    (session.perform action).1.settings = session.settings := by
  rcases session.perform_cases action with ⟨now, line, -, same⟩ | ⟨-, same⟩
  · rw [same, settings_accept]
  · rw [same]
    rfl

@[simp]
theorem settings_performAll (session : Session) (actions : List Action) :
    (session.performAll actions).settings = session.settings := by
  induction actions generalizing session with
  | nil => rfl
  | cons action rest ih => exact (ih _).trans (session.settings_perform action)

/-- The entries are the newest ones of a log, as many as the transcript keeps. -/
def Shows (session : Session) (log : List (EntryKind × String)) : Prop :=
  session.entries.map Entry.content = keepLast session.settings.capacity log

variable {session : Session} {log : List (EntryKind × String)}

theorem shows_of_entries_eq_nil (empty : session.entries = []) : session.Shows [] := by
  simp [Shows, empty, keepLast]

theorem Shows.push (shows : session.Shows log) (entry : Entry) :
    (session.push entry).Shows (log ++ [entry.content]) := by
  rw [Shows] at shows ⊢
  rw [settings_push, Session.push, map_keepLast, List.map_append, shows, List.map_singleton,
    keepLast_keepLast_append]

theorem Shows.showBanner (shows : session.Shows log) (now : Timestamp) :
    (session.showBanner now).Shows (log ++ session.settings.bannerContent) := by
  unfold Session.showBanner TerminalSettings.bannerContent
  generalize session.settings.banner = lines
  induction lines generalizing session log with
  | nil => simpa using shows
  | cons line lines ih => simpa [Entry.content] using ih (shows.push ⟨.output, line, now⟩)

theorem shows_start (id : String) (now : Timestamp) (settings : TerminalSettings) :
    (start id now settings).Shows settings.bannerContent :=
  (shows_of_entries_eq_nil rfl).showBanner now

theorem shows_clear (session : Session) (now : Timestamp) :
    (session.clear now).Shows session.settings.clearedLog := by
  have emptied : { session with entries := [] }.Shows [] := shows_of_entries_eq_nil rfl
  unfold clear TerminalSettings.clearedLog
  by_cases restores : session.settings.restoresBanner = true
  · rw [if_pos restores, if_pos restores]
    exact emptied.showBanner now
  · rw [if_neg restores, if_neg restores]
    exact emptied

/-- A submitted line extends or empties the log behind the transcript. -/
theorem Shows.accept (shows : session.Shows log) (now : Timestamp) (line : String) :
    (session.accept now line (session.answer line)).Shows
      (session.settings.extendLog log line) := by
  have typed := shows.push ⟨.input, session.prompt ++ line, now⟩
  unfold TerminalSettings.extendLog TerminalSettings.exchange
  change (display _ now (session.settings.answer line)).Shows _
  cases session.settings.answer line with
  | output text =>
    have shown := typed.push ⟨.output, text, now⟩
    rw [List.append_assoc] at shown
    exact shown
  | failure text =>
    have shown := typed.push ⟨.failure, text, now⟩
    rw [List.append_assoc] at shown
    exact shown
  | cleared => exact shows_clear _ now

/-- A whole run extends the log by the lines that it submits. -/
theorem Shows.performAll (shows : session.Shows log) (actions : List Action) :
    (session.performAll actions).Shows
      ((Action.submittedLines session.input actions).foldl session.settings.extendLog log) := by
  induction actions generalizing session log with
  | nil => exact shows
  | cons action rest ih =>
    have later : ∀ {log}, (session.perform action).1.Shows log →
        ((session.perform action).1.performAll rest).Shows
          ((Action.submittedLines (action.inputAfter session.input) rest).foldl
            session.settings.extendLog log) := by
      intro log shown
      rw [← input_perform, ← settings_perform session action]
      exact ih shown
    rw [Action.submittedLines, List.foldl_append]
    apply later
    rcases session.perform_cases action with ⟨now, line, submitted, accepted⟩ | ⟨nothing, kept⟩
    · rw [accepted, submitted]
      exact shows.accept now line
    · rw [kept, nothing]
      exact shows

end Session

/-- Whether a line is the word that clears the transcript. -/
def clearsTranscript (line : String) : Bool :=
  Text.sameLetters (Text.trim line) "clear"

theorem clears_respond_classify (mode : ArgumentCase) (directory line : String) :
    ((Command.classify mode line).respond directory).clears = clearsTranscript line := by
  rw [Bool.eq_iff_iff, Command.clears_respond_iff, Command.classify_eq_plain_iff_trim]
  rfl

namespace TerminalSettings

/-- Only the lines after the last clearing one are left of a log, after the banner where it comes
back. -/
theorem foldl_extendLog (settings : TerminalSettings) (log : List (EntryKind × String))
    (lines : List String) :
    lines.foldl settings.extendLog log =
      (if lines.any clearsTranscript then settings.clearedLog else log) ++
        (lines.rtakeWhile fun line => !clearsTranscript line).flatMap settings.exchange := by
  induction lines using List.reverseRecOn with
  | nil => simp
  | append_singleton lines line ih =>
    have clears : (settings.answer line).clears = clearsTranscript line :=
      clears_respond_classify _ _ line
    rw [List.foldl_append, List.foldl_cons, List.foldl_nil, ih, extendLog, clears]
    cases cleared : clearsTranscript line <;> simp [cleared]

end TerminalSettings

/-- After any actions the transcript shows, apart from times, the newest entries of the banner and
the lines since the last one that cleared it, each after the prompt and followed by its answer: as
many as the settings ask for, and one if they ask for none.
The banner is among them until the first such line, and after it where the settings say so.  The
lines that clear are those that are `clear` apart from blanks around them and the case of Latin
letters, whatever becomes of arguments. -/
theorem entries_performAll_start (id : String) (now : Timestamp) (settings : TerminalSettings)
    (actions : List Action) :
    ((Session.start id now settings).performAll actions).entries.map Entry.content =
        ((if settings.restoresBanner ||
              !(Action.submittedLines "" actions).any clearsTranscript
            then settings.bannerContent else []) ++
          ((Action.submittedLines "" actions).rtakeWhile
            fun line => !clearsTranscript line).flatMap settings.exchange).rtake
          (max settings.maxEntries.toNat 1) ∧
      ∀ mode directory line,
        ((Command.classify mode line).respond directory).clears = true ↔
          Text.sameLetters (Text.trim line) "clear" = true := by
  refine ⟨?_, fun mode directory line => ?_⟩
  · have shown := (Session.shows_start id now settings).performAll actions
    rw [Session.Shows, Session.settings_performAll, Session.settings_start, Session.input_start,
      TerminalSettings.foldl_extendLog, keepLast_eq_rtake, TerminalSettings.capacity] at shown
    rw [shown, TerminalSettings.clearedLog]
    cases settings.restoresBanner <;>
      cases (Action.submittedLines "" actions).any clearsTranscript <;> rfl
  · rw [clears_respond_classify]
    rfl

end ShellPractice
