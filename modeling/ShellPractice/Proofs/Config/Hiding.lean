import ShellPractice.Proofs.Config.Warnings

/-!
# What a flawed configuration hides

A search that checks looks for flaws only after it has chosen a candidate.  Candidates that hold no
configuration hide nothing, however many there are.  A candidate whose configuration has a flaw ends
the search, and its error hides every good configuration behind it.
-/

namespace ShellPractice.ConfigSearch

section Check

variable {search : ConfigSearch} {files : FileTree} {before after : List (Path × Format)}
  {candidate : Path × Format} {config : Config} {usesDefaults : Bool}

theorem load_checked_of_flawless (listed : search.candidates = before ++ candidate :: after)
    (nothing : ∀ earlier ∈ before, ∀ other, ¬ Holds files earlier other)
    (holds : Holds files candidate config) (flawless : config.flaw? = none) :
    (search.load files ⟨usesDefaults, true⟩).value.2 = .ok config := by
  obtain ⟨reports, -, equal⟩ := load_of_holds ⟨usesDefaults, true⟩ listed nothing holds
  rw [equal]
  exact Config.check_eq_ok_iff.mpr ⟨flawless, rfl⟩

theorem load_checked_of_flaw {flaw : ConfigFlaw}
    (listed : search.candidates = before ++ candidate :: after)
    (nothing : ∀ earlier ∈ before, ∀ other, ¬ Holds files earlier other)
    (holds : Holds files candidate config) (flawed : config.flaw? = some flaw) :
    (search.load files ⟨usesDefaults, true⟩).value.2 =
      .error (.configInvalid flaw.field flaw.reason) := by
  obtain ⟨reports, -, equal⟩ := load_of_holds ⟨usesDefaults, true⟩ listed nothing holds
  rw [equal]
  simp only [if_true, Config.check, flawed]

/-- Before the first configuration without a flaw, whatever holds a configuration ends the search. -/
theorem load_checked_of_cover (listed : search.candidates = before ++ candidate :: after)
    (first : ∀ earlier ∈ before, ∀ other, Holds files earlier other → other.flaw? ≠ none)
    {front rest : List (Path × Format)} {cover : Path × Format} {held : Config}
    (split : before = front ++ cover :: rest)
    (nothing : ∀ earlier ∈ front, ∀ other, ¬ Holds files earlier other)
    (holds : Holds files cover held) :
    ∃ flaw, held.flaw? = some flaw ∧ (search.load files ⟨usesDefaults, true⟩).value.2 =
      .error (.configInvalid flaw.field flaw.reason) := by
  subst split
  obtain ⟨flaw, flawed⟩ := Option.ne_none_iff_exists'.mp (first cover (by simp) held holds)
  rw [List.append_assoc, List.cons_append] at listed
  exact ⟨flaw, flawed, load_checked_of_flaw listed nothing holds flawed⟩

/-- The first configuration without a flaw is the result of a search that checks exactly if no
candidate before it holds a configuration.  Otherwise the first of those that do is flawed, and the
result is the error about it. -/
theorem load_checked_eq_ok_iff (listed : search.candidates = before ++ candidate :: after)
    (first : ∀ earlier ∈ before, ∀ other, Holds files earlier other → other.flaw? ≠ none)
    (holds : Holds files candidate config) (flawless : config.flaw? = none) :
    ((search.load files ⟨usesDefaults, true⟩).value.2 = .ok config ↔
        ∀ earlier ∈ before, ∀ other, ¬ Holds files earlier other) ∧
      ∀ front cover rest held, before = front ++ cover :: rest →
        (∀ earlier ∈ front, ∀ other, ¬ Holds files earlier other) →
        Holds files cover held →
        ∃ flaw, held.flaw? = some flaw ∧
          (search.load files ⟨usesDefaults, true⟩).value.2 =
            .error (.configInvalid flaw.field flaw.reason) := by
  refine ⟨⟨fun loaded => ?_, fun nothing => ?_⟩, ?_⟩
  · rcases nothing_or_exists_first files before with
      nothing | ⟨front, cover, rest, held, split, nothing, found⟩
    · exact nothing
    · -- The search would have ended with an error there.
      obtain ⟨flaw, -, failed⟩ := load_checked_of_cover listed first split nothing found
      rw [failed] at loaded
      cases loaded
  · exact load_checked_of_flawless listed nothing holds flawless
  · intro front cover rest held split nothing found
    exact load_checked_of_cover listed first split nothing found

end Check

/-- A file that is no document, a directory, a missing file, and behind them a good file. -/
def brokenFiles : FileTree :=
  ⟨[(["a.toml"], .file "[".toUTF8), (["a.json"], .directory), (["b.json"], .file "{}".toUTF8)], []⟩

def brokenCandidates : List (Path × Format) :=
  [(⟨"a.toml"⟩, .toml), (⟨"a.json"⟩, .json), (⟨"b.toml"⟩, .toml)]

theorem holds_of_text {files : FileTree} {path : Path} {format : Format} {text : String}
    {config : Config} (content : files.readText path = .ok text)
    (decoded : format.decode Config.ofDocument? text = .ok config) :
    Holds files (path, format) config :=
  holds_iff.mpr (Config.loadAs_eq_ok_iff.mpr ⟨text, content, decoded⟩)

theorem decode_emptyObject : Format.json.decode Config.ofDocument? "{}" = .ok Config.standard := by
  rfl

/-- Files that hold no configuration hide nothing, whatever is wrong with them. -/
theorem load_checked_brokenFiles :
    (inPaths [⟨"a"⟩, ⟨"b"⟩]).candidates = brokenCandidates ++ (⟨"b.json"⟩, .json) :: [] ∧
      (∀ earlier ∈ brokenCandidates, ∀ other, ¬ Holds brokenFiles earlier other) ∧
      ((inPaths [⟨"a"⟩, ⟨"b"⟩]).load brokenFiles ⟨true, true⟩).value.2 = .ok Config.standard := by
  have listed : (inPaths [⟨"a"⟩, ⟨"b"⟩]).candidates =
      brokenCandidates ++ (⟨"b.json"⟩, .json) :: [] := by rfl
  have nothing : ∀ earlier ∈ brokenCandidates, ∀ other, ¬ Holds brokenFiles earlier other := by
    simp only [← readable?_eq_none_iff_holds, brokenCandidates, List.forall_mem_cons,
      List.not_mem_nil, IsEmpty.forall_iff, implies_true, and_true]
    exact ⟨rfl, rfl, rfl⟩
  have holds : Holds brokenFiles (⟨"b.json"⟩, .json) Config.standard :=
    holds_of_text (by rfl) decode_emptyObject
  have first : ∀ earlier ∈ brokenCandidates,
      ∀ other, Holds brokenFiles earlier other → other.flaw? ≠ none :=
    fun earlier member other found => absurd found (nothing earlier member other)
  exact ⟨listed, nothing,
    (load_checked_eq_ok_iff listed first holds Config.flaw?_standard).1.mpr nothing⟩

/-- The text of a configuration with an empty prompt delimiter. -/
def flawedText : String :=
  "[terminal]\nprompt_delimiter = \"\"\n"

def flawedConfig : Config :=
  { Config.standard with terminal := { TerminalSettings.standard with delimiter := "" } }

theorem decode_flawedText :
    (Format.toml.decode Config.ofDocument? flawedText).toOption = some flawedConfig := by
  decide +kernel

/-- A good file behind the flawed one. -/
def flawedFiles : FileTree :=
  ⟨[(["config.toml"], .file flawedText.toUTF8), (["config.json"], .file "{}".toUTF8)], []⟩

theorem candidates_flawed :
    (inPaths [⟨"config"⟩]).candidates =
      [(⟨"config.toml"⟩, .toml)] ++ (⟨"config.json"⟩, .json) :: [] := by
  rfl

theorem holds_flawed : Holds flawedFiles (⟨"config.toml"⟩, .toml) flawedConfig := by
  have content : flawedFiles.readText ⟨"config.toml"⟩ = .ok flawedText := by rfl
  refine holds_of_text content ?_
  have decoded := decode_flawedText
  cases result : Format.toml.decode Config.ofDocument? flawedText with
  | error reason => simp [result, Except.toOption] at decoded
  | ok config => simpa [result, Except.toOption] using decoded

/-- A flawed configuration does hide a good one. -/
theorem not_load_checked :
    ¬ ∀ (search : ConfigSearch) (files : FileTree) (usesDefaults : Bool)
        (before after : List (Path × Format)) (candidate : Path × Format) (config : Config),
      search.candidates = before ++ candidate :: after →
      (∀ earlier ∈ before, ∀ other, Holds files earlier other → other.flaw? ≠ none) →
      Holds files candidate config → config.flaw? = none →
      (search.load files ⟨usesDefaults, true⟩).value.2 = .ok config := by
  intro claimed
  have flawed : flawedConfig.flaw? = some .emptyDelimiter := by decide
  have listed : (inPaths [⟨"config"⟩]).candidates =
      [] ++ (⟨"config.toml"⟩, .toml) :: [(⟨"config.json"⟩, .json)] := candidates_flawed
  have failed : ((inPaths [⟨"config"⟩]).load flawedFiles ⟨true, true⟩).value.2 =
      .error (.configInvalid "terminal.prompt_delimiter" "Prompt delimiter cannot be empty") :=
    load_checked_of_flaw listed (by simp) holds_flawed flawed
  have first : ∀ earlier ∈ [((⟨"config.toml"⟩ : Path), Format.toml)],
      ∀ other, Holds flawedFiles earlier other → other.flaw? ≠ none := by
    intro earlier member other found
    obtain rfl := List.mem_singleton.mp member
    have same := (holds_iff.mp holds_flawed).symm.trans (holds_iff.mp found)
    rw [← Except.ok.inj same, flawed]
    exact Option.some_ne_none _
  have loaded := claimed (inPaths [⟨"config"⟩]) flawedFiles true _ _ _ _ candidates_flawed first
    (holds_of_text (by rfl) decode_emptyObject) Config.flaw?_standard
  rw [failed] at loaded
  cases loaded

end ShellPractice.ConfigSearch
