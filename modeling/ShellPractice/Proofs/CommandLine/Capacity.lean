import ShellPractice.Proofs.CommandLine.Loop
import ShellPractice.Proofs.FileTree.Saving

/-!
# The capacity of a transcript does not show

The program shows the transcript only after it began or was emptied, when it holds the banner or
nothing.  Runs that differ in how many entries the transcript keeps therefore show the same, as
long as it has room for the banner.
-/

namespace ShellPractice

namespace TerminalSettings

/-- The settings apart from the number of entries that a transcript keeps. -/
def uncapped (settings : TerminalSettings) : TerminalSettings :=
  { settings with maxEntries := 0 }

/-- Whether a transcript has room for the banner. -/
def FitsBanner (settings : TerminalSettings) : Prop :=
  settings.banner.length ≤ settings.capacity

theorem length_clearedLog_le (settings : TerminalSettings) :
    settings.clearedLog.length ≤ settings.banner.length := by
  rw [clearedLog]
  split <;> simp [bannerContent]

end TerminalSettings

namespace CommandLine

/-- What a log shows, without a bound. -/
def logText (log : List (EntryKind × String)) : String :=
  String.join (log.map fun entry => entry.2 ++ "\n")

theorem transcriptText_of_shows {practice : Practice} {log : List (EntryKind × String)}
    (shows : practice.session.Shows log)
    (fits : log.length ≤ practice.session.settings.capacity) :
    transcriptText practice = logText log := by
  rw [Session.Shows, keepLast_of_length_le fits] at shows
  rw [logText, ← shows, List.map_map]
  rfl

/-- After a line that empties the transcript only the banner is shown, or nothing. -/
theorem transcriptText_accept_of_clears {practice : Practice} {line : String}
    (fits : practice.session.settings.FitsBanner) (now : Timestamp)
    (clears : (practice.session.answer line).clears = true) :
    transcriptText (practice.accept now line) =
      logText practice.session.settings.clearedLog := by
  have shows : (practice.accept now line).session.Shows
      practice.session.settings.clearedLog := by
    rw [Practice.accept]
    cases answered : practice.session.answer line with
    | cleared =>
      exact Session.shows_clear
        (practice.session.push ⟨.input, practice.session.prompt ++ line, now⟩) now
    | output text | failure text => simp [answered, Response.clears] at clears
  have same : (practice.accept now line).session.settings = practice.session.settings :=
    Session.settings_accept _ now line _
  refine transcriptText_of_shows shows ?_
  rw [same]
  exact practice.session.settings.length_clearedLog_le.trans fits

/-- Whether a transcript can be saved does not depend on what it holds. -/
theorem saving_eq (files : FileTree) (options : Options) (first second : Practice) :
    (saveTranscript files options first).2 = (saveTranscript files options second).2 := by
  rw [saveTranscript, saveTranscript]
  cases options.transcriptPath with
  | none => rfl
  | some path =>
    have same := files.result_save_eq path (first.session.exportFor path)
      (second.session.exportFor path)
    simp only [Session.save]
    generalize files.save path (first.session.exportFor path) = saved at same ⊢
    generalize files.save path (second.session.exportFor path) = otherSaved at same ⊢
    obtain ⟨tree, result⟩ := saved
    obtain ⟨otherTree, otherResult⟩ := otherSaved
    obtain rfl : result = otherResult := same
    cases result <;> rfl

end CommandLine

open CommandLine

namespace Practice

/-- Practices that differ at most in their transcripts, the number of entries these keep, and the
line being typed. -/
structure Twins (first second : Practice) : Prop where
  settings : first.session.settings.uncapped = second.session.settings.uncapped
  fits : first.session.settings.FitsBanner
  alsoFits : second.session.settings.FitsBanner
  statistics : first.session.statistics = second.session.statistics
  plan : first.plan = second.plan
  lesson : first.lesson = second.lesson
  journal : first.journal = second.journal

namespace Twins

variable {first second : Practice} (twins : Twins first second)

include twins

theorem answer_eq (line : String) : first.session.answer line = second.session.answer line := by
  have same := congrArg (TerminalSettings.answer · line) twins.settings
  exact same

theorem prompt_eq : first.session.prompt = second.session.prompt := by
  have directory := congrArg TerminalSettings.directory twins.settings
  have delimiter := congrArg TerminalSettings.delimiter twins.settings
  exact congrArg₂ (· ++ ·) directory delimiter

theorem submission_eq (line : String) : first.submission line = second.submission line := by
  rw [submission, submission, twins.answer_eq, twins.plan]

theorem hint_eq : hint first = hint second := by
  rw [hint, hint, exercise?, exercise?, twins.plan, twins.lesson]

/-- A submitted line keeps twins alike, whenever it is submitted to each. -/
theorem accept (now later : Timestamp) (line : String) :
    Twins (first.accept now line) (second.accept later line) where
  settings := by simpa [Practice.accept] using twins.settings
  fits := by simpa [Practice.accept] using twins.fits
  alsoFits := by simpa [Practice.accept] using twins.alsoFits
  statistics := by
    simp only [Practice.accept, Session.statistics_accept, twins.statistics, twins.answer_eq]
  plan := by rw [plan_accept, plan_accept, twins.plan]
  lesson := twins.lesson
  journal := by rw [Practice.accept, Practice.accept, twins.journal, twins.plan]

/-- What is shown for a line does not tell twins apart. -/
theorem report_eq (now later : Timestamp) (line : String) :
    report (first.accept now line) (first.submission line) =
      report (second.accept later line) (second.submission line) := by
  have next := twins.accept now later line
  have cleared : first.session.settings.clearedLog = second.session.settings.clearedLog := by
    have same := congrArg TerminalSettings.clearedLog twins.settings
    exact same
  rw [twins.submission_eq, report, report, next.plan, next.hint_eq]
  cases clears : (second.submission line).response.clears with
  | false => simp only [Bool.false_eq_true, if_false]
  | true =>
    have alsoClears : (first.session.answer line).clears = true := by
      rw [twins.answer_eq]
      exact clears
    rw [transcriptText_accept_of_clears twins.fits now alsoClears,
      transcriptText_accept_of_clears twins.alsoFits later clears, cleared]

/-- A line that is handed in keeps twins alike and shows the same. -/
theorem perform (now later : Timestamp) (line : String) :
    let result := (first.perform (.submit now line)).value
    let other := (second.perform (.submit later line)).value
    Twins result.1 other.1 ∧ answerTo result.1 result.2 = answerTo other.1 other.2 := by
  cases blank : Text.isBlankText line with
  | true =>
    rw [Practice.perform, Practice.perform, submit_of_blank now blank, submit_of_blank later blank]
    exact ⟨twins, rfl⟩
  | false =>
    rw [Practice.perform, Practice.perform, submit_of_not_blank now blank,
      submit_of_not_blank later blank]
    exact ⟨twins.accept now later line, twins.report_eq now later line⟩

/-- The loop does not tell twins apart. -/
theorem loop (now later : Timestamp) (typed : List (Option String)) :
    let ending := CommandLine.loop now first typed
    let other := CommandLine.loop later second typed
    ending.shown = other.shown ∧ ending.unreadable = other.unreadable ∧
      Twins ending.practice other.practice := by
  induction typed generalizing first second with
  | nil => exact ⟨congrArg ([·]) twins.prompt_eq, rfl, twins⟩
  | cons entry rest ih =>
    cases entry with
    | none => exact ⟨congrArg ([·]) twins.prompt_eq, rfl, twins⟩
    | some line =>
      cases leaves : isExit (Text.dropLineEnd line) with
      | true =>
        rw [loop_of_exit leaves, loop_of_exit leaves]
        exact ⟨congrArg ([·]) twins.prompt_eq, rfl, twins⟩
      | false =>
        obtain ⟨next, answered⟩ := twins.perform now later (Text.dropLineEnd line)
        obtain ⟨shown, unreadable, ended⟩ := ih next
        rw [loop_of_not_exit leaves, loop_of_not_exit leaves]
        refine ⟨?_, unreadable, ended⟩
        dsimp only
        rw [twins.prompt_eq, answered, shown]

/-- The last line of the program does not tell twins apart. -/
theorem farewell_eq : farewell first = farewell second := by
  rw [farewell, farewell, matched, matched, twins.statistics, twins.journal]

end Twins

namespace Subject

variable (subject : Subject) (id other : String) (now later : Timestamp)
  {settings : TerminalSettings} {small large : UInt64}

theorem fitsBanner_adapt (fits : settings.banner.length ≤ small.toNat) :
    (subject.adapt { settings with maxEntries := small }).FitsBanner := by
  cases subject <;> exact fits.trans (Nat.le_max_left _ _)

theorem transcriptText_begin (fits : settings.banner.length ≤ small.toNat) :
    transcriptText (subject.begin id now { settings with maxEntries := small } true) =
      logText settings.bannerContent := by
  have room := subject.fitsBanner_adapt fits
  have banner : (subject.adapt { settings with maxEntries := small }).bannerContent =
      settings.bannerContent := by cases subject <;> rfl
  rw [Subject.begin_eq, ← banner]
  refine transcriptText_of_shows (Session.shows_start id now _) ?_
  rw [Session.settings_start, TerminalSettings.bannerContent, List.length_map]
  exact room

/-- The beginnings of practice with transcripts of different sizes are twins. -/
theorem twins_begin (fits : settings.banner.length ≤ small.toNat)
    (alsoFits : settings.banner.length ≤ large.toNat) :
    Twins (subject.begin id now { settings with maxEntries := small } true)
      (subject.begin other later { settings with maxEntries := large } true) := by
  rw [Subject.begin_eq, Subject.begin_eq]
  exact {
    settings := by cases subject <;> simp [TerminalSettings.uncapped, Subject.adapt]
    fits := by simpa using subject.fitsBanner_adapt fits
    alsoFits := by simpa using subject.fitsBanner_adapt alsoFits
    statistics := by simp
    plan := rfl
    lesson := rfl
    journal := rfl }

/-- What is shown before the first prompt does not depend on the capacity. -/
theorem greeting_begin_eq (fits : settings.banner.length ≤ small.toNat)
    (alsoFits : settings.banner.length ≤ large.toNat) :
    greeting (subject.begin id now { settings with maxEntries := small } true) =
      greeting (subject.begin other later { settings with maxEntries := large } true) := by
  have twins := twins_begin subject id other now later fits alsoFits
  rw [greeting, greeting, subject.transcriptText_begin id now fits,
    subject.transcriptText_begin other later alsoFits, twins.lesson, twins.hint_eq]

end Subject

end Practice

namespace CommandLine

theorem conclude_eq {first second : Practice} (parted : farewell first = farewell second)
    (saving : Saving) : conclude first saving = conclude second saving := by
  cases saving <;> simp only [conclude, parted]

/-- What a run of the loop shows does not depend on how many entries the transcript keeps, if it
has room for the banner, nor on the time and the name of the session. -/
theorem output_practiceWith_eq (surroundings : Surroundings) (options : Options)
    (subject : Practice.Subject) (settings : TerminalSettings) {small large : UInt64}
    (fits : settings.banner.length ≤ small.toNat)
    (alsoFits : settings.banner.length ≤ large.toNat) (input : ByteArray) :
    let practiced := fun id now entries =>
      practiceWith { surroundings with sessionId := id, now := now } options
        (subject.begin id now { settings with maxEntries := entries } true) input
    ∀ id other now later,
      (practiced id now small).output = (practiced other later large).output ∧
        (practiced id now small).errors = (practiced other later large).errors ∧
        (practiced id now small).status = (practiced other later large).status := by
  intro practiced id other now later
  have twins := subject.twins_begin id other now later fits alsoFits
  have greeted := subject.greeting_begin_eq id other now later fits alsoFits
  obtain ⟨shown, unreadable, ended⟩ := twins.loop now later (Text.typedLines input)
  have saving := saving_eq surroundings.files options
    (loop now (subject.begin id now { settings with maxEntries := small } true)
      (Text.typedLines input)).practice
    (loop later (subject.begin other later { settings with maxEntries := large } true)
      (Text.typedLines input)).practice
  simp only [practiced, practiceWith, greeted, shown, unreadable]
  split
  · exact ⟨rfl, rfl, rfl⟩
  · simp only [Conclusion.toResult, conclude_eq ended.farewell_eq, saving, and_self]

/-- Practice of the first lesson with a transcript of some size. -/
def practiceKeeping (entries : UInt64) : Practice :=
  (Practice.Subject.described Lesson.navigationBasics).begin "s" .epoch
    { TerminalSettings.standard with maxEntries := entries } true

/-- Two transcripts that have come apart, which the program does not show. -/
theorem output_practiceWith_practiceKeeping :
    (practiceWith bareSurroundings .none (practiceKeeping 2) "pwd\nls\nclear\n".toUTF8).output =
        (practiceWith bareSurroundings .none (practiceKeeping 10000)
          "pwd\nls\nclear\n".toUTF8).output ∧
      [2, 10000].map (fun entries => ((practiceKeeping entries).performAll
        (["pwd", "ls"].map (.submit .epoch))).value.1.session.entries.length) = [2, 6] := by
  have fits : TerminalSettings.standard.banner.length ≤ (2 : UInt64).toNat := by decide
  have alsoFits : TerminalSettings.standard.banner.length ≤ (10000 : UInt64).toNat := by decide
  have same := output_practiceWith_eq bareSurroundings Options.none
    (.described Lesson.navigationBasics) .standard fits alsoFits "pwd\nls\nclear\n".toUTF8
    "s" "s" .epoch .epoch
  exact ⟨same.1, by decide⟩

end CommandLine

end ShellPractice
