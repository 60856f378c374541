import ShellPractice.CommandLine.Run
import ShellPractice.Proofs.Practice.Components
import ShellPractice.Proofs.Session.Statistics
import ShellPractice.Proofs.Startup
import ShellPractice.Proofs.Text.TypedLines

/-!
# What the loop does with typed lines

The loop submits the typed lines one after the other, up to a word that ends it.  A program that is
run counts them at its end.
-/

namespace ShellPractice

/-- Lines that are submitted are those that are not blank. -/
theorem Action.submittedLines_map_submit (pending : String) (now : Timestamp)
    (lines : List String) :
    submittedLines pending (lines.map (submit now)) =
      lines.filter fun line => !Text.isBlankText line := by
  induction lines generalizing pending with
  | nil => rfl
  | cons line rest ih =>
    rw [List.map_cons, submittedLines, ih, submitted?_of_handedIn? rfl, List.filter_cons]
    cases Text.isBlankText line <;> rfl

namespace CommandLine

/-- The lines before the first that ends the loop. -/
def beforeExit (lines : List String) : List String :=
  lines.takeWhile fun line => !isExit line

/-- What is shown for a line that was handed in, given the practice after it; nothing if the line
was blank. -/
def answerTo (practice : Practice) (submission : Option Submission) : String :=
  (submission.map (report practice)).getD ""

theorem turn_of_not_exit {line : String} (stays : isExit line = false) (now : Timestamp)
    (practice : Practice) :
    turn now practice line =
      .proceed (practice.perform (.submit now line)).value.1
        (answerTo (practice.perform (.submit now line)).value.1
          (practice.perform (.submit now line)).value.2) := by
  rw [turn, stays, Practice.perform]
  cases practice.submit now line with
  | none => rfl
  | some submitted => rfl

section Step

variable {now : Timestamp} {practice : Practice} {line : String} {rest : List (Option String)}

theorem loop_of_exit (leaves : isExit (Text.dropLineEnd line) = true) :
    loop now practice (some line :: rest) = ⟨practice, [practice.session.prompt], false⟩ := by
  have left : turn now practice (Text.dropLineEnd line) = .leave := by rw [turn, if_pos leaves]
  rw [loop.eq_def]
  simp only [left]

/-- A line that does not end the loop is submitted, and the loop goes on. -/
theorem loop_of_not_exit (stays : isExit (Text.dropLineEnd line) = false) :
    loop now practice (some line :: rest) =
      let result := (practice.perform (.submit now (Text.dropLineEnd line))).value
      let ending := loop now result.1 rest
      { ending with
        shown := practice.session.prompt :: answerTo result.1 result.2 :: ending.shown } := by
  have went := turn_of_not_exit stays now practice
  rw [loop.eq_def]
  simp only [went]

end Step

/-- The loop submits the lines that are typed before one that ends it. -/
theorem loop_map_some (now : Timestamp) (practice : Practice) (lines : List String) :
    (loop now practice (lines.map some)).unreadable = false ∧
      (loop now practice (lines.map some)).practice =
        (practice.performAll
          ((beforeExit (lines.map Text.dropLineEnd)).map (.submit now))).value.1 := by
  induction lines generalizing practice with
  | nil => exact ⟨rfl, rfl⟩
  | cons line rest ih =>
    rw [List.map_cons, List.map_cons, beforeExit, List.takeWhile_cons]
    generalize typed : Text.dropLineEnd line = entered
    cases leaves : isExit entered with
    | true =>
      rw [loop_of_exit (typed ▸ leaves)]
      exact ⟨rfl, rfl⟩
    | false =>
      have later := ih (practice.perform (.submit now entered)).value.1
      rw [loop_of_not_exit (typed ▸ leaves), typed]
      exact later

/-- What is practiced is a lesson of the catalog or nothing. -/
theorem exists_subject_of_openPractice {surroundings : Surroundings} {options : Options}
    {workspace : Workspace} {practice : Practice}
    (opened : openPractice surroundings options workspace = .ok practice) :
    ∃ subject : Practice.Subject,
      (∀ lesson, subject.lesson? = some lesson → lesson ∈ workspace.catalog.lessons) ∧
      practice =
        subject.begin surroundings.sessionId surroundings.now workspace.config.terminal true := by
  unfold openPractice at opened
  split at opened
  · refine ⟨.nothing, ?_, (Except.ok.inj opened).symm⟩
    intro lesson belongs
    cases belongs
  · rename_i id asked
    cases found : workspace.catalog.get id with
    | error error => simp [found, Except.map] at opened
    | ok lesson =>
      rw [found] at opened
      refine ⟨.described lesson, ?_, (Except.ok.inj opened).symm⟩
      rintro _ ⟨⟩
      exact List.mem_of_find?_eq_some (Catalog.get_eq_ok_iff.mp found)

/-- However practice opens, it begins with a journal that is empty. -/
theorem exists_begin_of_openPractice {surroundings : Surroundings} {options : Options}
    {workspace : Workspace} {practice : Practice}
    (opened : openPractice surroundings options workspace = .ok practice) :
    ∃ subject : Practice.Subject, practice =
      subject.begin surroundings.sessionId surroundings.now workspace.config.terminal true := by
  obtain ⟨subject, -, begun⟩ := exists_subject_of_openPractice opened
  exact ⟨subject, begun⟩

/-- How many lines of the journal were the expected command. -/
theorem matched_performAll {practice : Practice} {watched : List (String × Bool)}
    (journal : practice.journal = some watched) (actions : List Action) :
    (practice.performAll actions).value.1.matched = watched.countP Prod.snd +
      (practice.performAll actions).value.2.reduceOption.countP Submission.isMatch := by
  have written := Plan.unzip_journal practice.plan
    (Action.submittedLines practice.session.input actions)
  have verdicts := congrArg Prod.snd written
  rw [List.unzip_snd, ← Practice.outcomes_performAll, List.map_map] at verdicts
  have same : (practice.plan.journal
      (Action.submittedLines practice.session.input actions)).countP Prod.snd =
      (practice.performAll actions).value.2.reduceOption.countP Submission.isMatch := by
    have counted := congrArg (List.countP id) verdicts
    rw [List.countP_map, List.countP_map] at counted
    exact counted
  rw [Practice.performAll_eq_besides, Practice.matched, Practice.besides, journal, Option.map_some,
    Option.getD_some, List.countP_append, same]

/-- The end of a program whose transcript is not asked for. -/
theorem practiceWith_of_readable {surroundings : Surroundings} {options : Options}
    {practice : Practice} {input : ByteArray} (forgets : options.transcriptPath = none)
    (readable :
      (loop surroundings.now practice (Text.typedLines input)).unreadable = false) :
    practiceWith surroundings options practice input =
      let ending := loop surroundings.now practice (Text.typedLines input)
      ⟨0, greeting practice ++ String.join ending.shown ++ farewell ending.practice, "",
        surroundings.files⟩ := by
  simp only [practiceWith, readable, Bool.false_eq_true, if_false, saveTranscript, forgets,
    conclude, Conclusion.toResult]

/-- What the program says at the end about a practice from its beginning. -/
theorem farewell_performAll {practice : Practice} (fresh : practice.session.statistics = .zero)
    (unwritten : practice.journal = some []) (actions : List Action) :
    let lines := Action.submittedLines practice.session.input actions
    let submitted := (practice.performAll actions).value
    farewell submitted.1 = "\n" ++ toString lines.length ++ " commands, " ++
      toString (lines.countP fun line =>
        !(Command.classify practice.session.argumentCase line).recognized) ++
      " not found, " ++ toString (submitted.2.reduceOption.countP Submission.isMatch) ++
      " matched the lesson\n" := by
  intro lines submitted
  obtain ⟨all, unknown⟩ := practice.session.counts_performAll actions
  have matched := matched_performAll unwritten actions
  have session : submitted.1.session = practice.session.performAll actions := by
    rw [Practice.performAll_eq_besides]
    rfl
  simp only [fresh, Statistics.zero, Nat.zero_add, List.countP_nil] at all unknown matched
  rw [farewell, session, all, unknown, matched]

/-- The loop over a text submits the lines that are typed before a word that ends it, without the
newlines and carriage returns at their ends, and nothing else changes the practice.  A program that
is run without keeping the transcript ends with how many of these lines were not blank, how many of
those were no command, and how many were the expected command. -/
theorem run_submits_typedLines (now : Timestamp) (practice : Practice) (text : String) :
    let lines := beforeExit ((Text.textLines text).map fun line =>
      String.ofList (line.toList.rdropWhile fun c => c == '\n' || c == '\r'))
    let visible := lines.filter fun line => !Text.isBlankText line
    let submitted := (practice.performAll (lines.map (.submit now))).value
    let ending := loop now practice (Text.typedLines text.toUTF8)
    ending.unreadable = false ∧ ending.practice = submitted.1 ∧
      ∀ surroundings arguments options workspace, surroundings.now = now →
        Request.of arguments = .run options → options.list = false →
        options.transcriptPath = none →
        (openWorkspace surroundings options).value = .ok workspace →
        openPractice surroundings options workspace = .ok practice →
        run surroundings arguments text.toUTF8 =
          ⟨0, greeting practice ++ String.join ending.shown ++
            ("\n" ++ toString visible.length ++ " commands, " ++
              toString (visible.countP fun line =>
                !(Command.classify practice.session.argumentCase line).recognized) ++
              " not found, " ++
              toString (submitted.2.reduceOption.countP Submission.isMatch) ++
              " matched the lesson\n"), "", surroundings.files⟩ := by
  intro lines visible submitted ending
  obtain ⟨readable, reached⟩ :
      ending.unreadable = false ∧ ending.practice = submitted.1 := by
    have looped := loop_map_some now practice (Text.textLines text)
    rwa [← Text.typedLines_toUTF8, funext Text.dropLineEnd_eq] at looped
  refine ⟨readable, reached, ?_⟩
  rintro surroundings arguments options workspace rfl asked practices forgets found opened
  obtain ⟨subject, begun⟩ := exists_begin_of_openPractice opened
  rw [Practice.Subject.begin_eq] at begun
  have fresh : practice.session.statistics = .zero := by rw [begun, Session.statistics_start]
  have unwritten : practice.journal = some [] := by rw [begun]; rfl
  have ended := farewell_performAll fresh unwritten (lines.map (.submit surroundings.now))
  rw [Action.submittedLines_map_submit] at ended
  have started : run surroundings arguments text.toUTF8 =
      practiceWith surroundings options practice text.toUTF8 := by
    simp only [run, asked, runWith, found, practices, opened, Bool.false_eq_true, if_false]
  rw [started, practiceWith_of_readable forgets readable]
  change Result.mk 0 (_ ++ farewell ending.practice) _ _ = _
  rw [reached, ended]

/-- A computer on which nothing is configured. -/
def bareSurroundings : Surroundings :=
  ⟨⟨none, none, none, none, some ⟨"/"⟩⟩, ⟨[], []⟩, "s", .epoch⟩

/-- The options that ask for the first lesson. -/
def firstOptions : Options :=
  { Options.none with lesson := some "lab1" }

/-- Practice of the first lesson there. -/
def firstPractice : Practice :=
  (Practice.ofLesson "s" .epoch Config.standard.terminal Lesson.navigationBasics).value.withJournal

/-- Two lines count, one of which is expected and one no command; the line that ends the loop and
those after it do not. -/
theorem run_submits_typedLines_firstPractice :
    ∃ shown, run bareSurroundings ["--lesson", "lab1"] "PWD\r\n\nfoo\n exit \nls".toUTF8 =
      ⟨0, shown ++ "\n2 commands, 1 not found, 1 matched the lesson\n", "", ⟨[], []⟩⟩ := by
  have started : (openWorkspace bareSurroundings firstOptions).value =
      .ok ⟨Config.standard, Catalog.builtIn⟩ :=
    Workspace.value_start_of_unreadable rfl rfl
  have offered : Catalog.builtIn.get "lab1" = .ok Lesson.navigationBasics := by rfl
  have opened : openPractice bareSurroundings firstOptions ⟨Config.standard, Catalog.builtIn⟩ =
      .ok firstPractice := by
    simp only [openPractice, firstOptions, Option.some_or, offered]
    rfl
  have lines : beforeExit ((Text.textLines "PWD\r\n\nfoo\n exit \nls").map fun line =>
      String.ofList (line.toList.rdropWhile fun c => c == '\n' || c == '\r')) =
      ["PWD", "", "foo"] := by decide
  have visible : (["PWD", "", "foo"].filter fun line => !Text.isBlankText line) =
      ["PWD", "foo"] := by decide
  have unknown : (["PWD", "foo"].countP fun line =>
      !(Command.classify firstPractice.session.argumentCase line).recognized) = 1 := by decide
  have matched : (firstPractice.performAll (["PWD", "", "foo"].map
      (.submit .epoch))).value.2.reduceOption.countP Submission.isMatch = 1 := by decide
  have summary : "\n" ++ toString 2 ++ " commands, " ++ toString 1 ++ " not found, " ++
      toString 1 ++ " matched the lesson\n" =
      "\n2 commands, 1 not found, 1 matched the lesson\n" := by decide
  obtain ⟨-, -, ended⟩ := run_submits_typedLines .epoch firstPractice "PWD\r\n\nfoo\n exit \nls"
  rw [lines, visible, unknown, matched] at ended
  have result := ended bareSurroundings ["--lesson", "lab1"] firstOptions _ rfl (by decide) rfl rfl
    started opened
  rw [List.length_cons, List.length_singleton, summary] at result
  exact ⟨_, result⟩

end CommandLine

end ShellPractice
