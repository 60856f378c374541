import Mathlib.Data.List.Induction
import Mathlib.Data.List.Infix
import Mathlib.Logic.Relation
import Mathlib.Tactic.SplitIfs
import ShellPractice.CommandLine.Options

/-!
# What arguments spell

Arguments are accepted exactly if they spell uses of options one after the other: a flag by one
argument, an option with its value by two.  What a value looks like does not matter.  Of the uses
only the last one of each option counts, so uses of different options may change places.  Other
arguments are refused for the argument at which the longest beginning that spells uses ends.
-/

namespace ShellPractice.CommandLine

def Flag.names : Flag → List String
  | list => ["--list"]
  | debug => ["--debug", "-d"]

def ValueOption.names : ValueOption → List String
  | config => ["--config", "-c"]
  | lesson => ["--lesson", "-l"]
  | transcript => ["--transcript", "-t"]

/-- The options that ask for help or for the version. -/
def informationNames : List String :=
  ["--help", "-?", "--version", "-v"]

/-- An argument that is the name of no option. -/
structure IsForeign (argument : String) : Prop where
  noFlag : ∀ flag : Flag, argument ∉ flag.names
  noValueOption : ∀ option : ValueOption, argument ∉ option.names
  noInformation : argument ∉ informationNames

/-- One use of an option. -/
inductive Use where
  | flag (which : Flag)
  | valued (which : ValueOption) (value : String)
  deriving DecidableEq

/-- The option that is used. -/
def Use.option : Use → Flag ⊕ ValueOption
  | .flag which => .inl which
  | .valued which _ => .inr which

/-- The value that a use gives to an option. -/
def Use.valueFor? (option : ValueOption) : Use → Option String
  | .flag _ => none
  | .valued other value => if other = option then some value else none

def Use.apply (options : Options) : Use → Options
  | .flag which => which.set options
  | .valued which value => which.set options value

/-- The last value that uses give to an option. -/
def lastValue? (uses : List Use) (option : ValueOption) : Option String :=
  (uses.filterMap (Use.valueFor? option)).getLast?

/-- The options with the last value of each, and with the flags that are used. -/
def Options.ofUses (uses : List Use) : Options where
  configPath := (lastValue? uses .config).map Path.mk
  lesson := lastValue? uses .lesson
  transcriptPath := (lastValue? uses .transcript).map Path.mk
  list := decide (Use.flag .list ∈ uses)
  debug := decide (Use.flag .debug ∈ uses)

/-- Arguments that spell uses one after the other. -/
inductive Spells : List String → List Use → Prop
  | nil : Spells [] []
  | flag {flag : Flag} {name : String} {arguments : List String} {uses : List Use}
      (named : name ∈ flag.names) (spells : Spells arguments uses) :
      Spells (name :: arguments) (.flag flag :: uses)
  | valued {option : ValueOption} {name : String} {arguments : List String} {uses : List Use}
      (named : name ∈ option.names) (value : String) (spells : Spells arguments uses) :
      Spells (name :: value :: arguments) (.valued option value :: uses)

/-- Arguments that are nothing but uses of options. -/
def AreUses (arguments : List String) : Prop :=
  ∃ uses, Spells arguments uses

/-- An argument with which no use can begin, given the arguments after it, and why. -/
inductive Breaks (argument : String) : List String → Misuse → Prop
  | missingValue {option : ValueOption} (named : argument ∈ option.names) :
      Breaks argument [] option.missing
  | unknown {after : List String} (foreign : IsForeign argument)
      (dashed : argument.toList.head? = some '-') :
      Breaks argument after (.unknownOption argument)
  | unexpected {after : List String} (foreign : IsForeign argument)
      (undashed : argument.toList.head? ≠ some '-') :
      Breaks argument after (.unexpectedArgument argument)

/-- Help or the version is asked for where a use could begin, not by a value. -/
def AsksForInformation (arguments : List String) : Prop :=
  ∃ before name after, arguments = before ++ name :: after ∧ AreUses before ∧
    name ∈ informationNames

/-- Two neighbors that use different options change places. -/
inductive Exchanged : List Use → List Use → Prop
  | neighbors {first second : Use} (different : first.option ≠ second.option)
      (before after : List Use) :
      Exchanged (before ++ first :: second :: after) (before ++ second :: first :: after)

section Names

variable {argument : String} {flag : Flag} {option : ValueOption} {misuse : Misuse}

/-- What the name of an argument lets it be read as. -/
inductive IsReadAs (argument : String) : Argument → Prop
  | valued {option : ValueOption} (named : argument ∈ option.names) :
      IsReadAs argument (.valued option)
  | flag {flag : Flag} (named : argument ∈ flag.names) : IsReadAs argument (.flag flag)
  | help (named : argument ∈ informationNames) : IsReadAs argument .help
  | version (named : argument ∈ informationNames) : IsReadAs argument .version
  | unknown (dashed : argument.toList.head? = some '-') :
      IsReadAs argument (.misuse (.unknownOption argument))
  | unexpected (undashed : argument.toList.head? ≠ some '-') :
      IsReadAs argument (.misuse (.unexpectedArgument argument))

theorem isReadAs_of (argument : String) : IsReadAs argument (Argument.of argument) := by
  unfold Argument.of
  split_ifs with config lesson transcript list debug help version dashed
  · exact .valued (by simpa [ValueOption.names] using config)
  · exact .valued (by simpa [ValueOption.names] using lesson)
  · exact .valued (by simpa [ValueOption.names] using transcript)
  · exact .flag (by simpa [Flag.names] using list)
  · exact .flag (by simpa [Flag.names] using debug)
  · exact .help (by rcases help with rfl | rfl <;> decide)
  · exact .version (by rcases version with rfl | rfl <;> decide)
  · exact .unknown dashed
  · exact .unexpected dashed

theorem Argument.of_eq_flag_iff : Argument.of argument = .flag flag ↔ argument ∈ flag.names := by
  constructor
  · intro read
    have named := isReadAs_of argument
    rw [read] at named
    cases named
    assumption
  · intro named
    cases flag <;> simp only [Flag.names, List.mem_cons, List.not_mem_nil, or_false] at named
    · subst named
      decide
    · rcases named with rfl | rfl <;> decide

theorem Argument.of_eq_valued_iff :
    Argument.of argument = .valued option ↔ argument ∈ option.names := by
  constructor
  · intro read
    have named := isReadAs_of argument
    rw [read] at named
    cases named
    assumption
  · intro named
    cases option <;>
      simp only [ValueOption.names, List.mem_cons, List.not_mem_nil, or_false] at named <;>
      rcases named with rfl | rfl <;> decide

theorem Argument.of_eq_information_iff :
    (Argument.of argument = .help ∨ Argument.of argument = .version) ↔
      argument ∈ informationNames := by
  constructor
  · intro read
    have named := isReadAs_of argument
    rcases read with help | version
    · rw [help] at named
      cases named
      assumption
    · rw [version] at named
      cases named
      assumption
  · intro named
    simp only [informationNames, List.mem_cons, List.not_mem_nil, or_false] at named
    rcases named with rfl | rfl | rfl | rfl <;> decide

theorem isForeign_of_misuse (read : Argument.of argument = .misuse misuse) :
    IsForeign argument where
  noFlag flag named := by
    cases (Argument.of_eq_flag_iff.mpr named).symm.trans read
  noValueOption option named := by
    cases (Argument.of_eq_valued_iff.mpr named).symm.trans read
  noInformation named := by
    rcases Argument.of_eq_information_iff.mpr named with help | version
    · cases help.symm.trans read
    · cases version.symm.trans read

theorem IsForeign.of_eq (foreign : IsForeign argument) :
    Argument.of argument = .misuse (if argument.toList.head? = some '-'
      then .unknownOption argument else .unexpectedArgument argument) := by
  have named := isReadAs_of argument
  generalize Argument.of argument = read at named ⊢
  cases named with
  | valued named => exact absurd named (foreign.noValueOption _)
  | flag named => exact absurd named (foreign.noFlag _)
  | help named => exact absurd named foreign.noInformation
  | version named => exact absurd named foreign.noInformation
  | unknown dashed => rw [if_pos dashed]
  | unexpected undashed => rw [if_neg undashed]

theorem IsForeign.exists_breaks (foreign : IsForeign argument) (after : List String) :
    ∃ misuse, Breaks argument after misuse := by
  by_cases dashed : argument.toList.head? = some '-'
  · exact ⟨_, .unknown foreign dashed⟩
  · exact ⟨_, .unexpected foreign dashed⟩

end Names

/-! ### What uses ask for -/

/-- One more use changes what the uses before it ask for. -/
theorem Options.ofUses_concat (uses : List Use) (use : Use) :
    Options.ofUses (uses ++ [use]) = use.apply (Options.ofUses uses) := by
  have values (option : ValueOption) : lastValue? (uses ++ [use]) option =
      (use.valueFor? option).or (lastValue? uses option) := by
    rw [lastValue?, List.filterMap_append, List.getLast?_append, lastValue?]
    cases given : use.valueFor? option <;> simp [given]
  cases use with
  | flag flag => cases flag <;> simp [ofUses, values, Use.apply, Use.valueFor?, Flag.set]
  | valued option value =>
    cases option <;> simp [ofUses, values, Use.apply, Use.valueFor?, ValueOption.set]

theorem Options.foldl_apply_none (uses : List Use) :
    uses.foldl Use.apply Options.none = Options.ofUses uses := by
  induction uses using List.reverseRecOn with
  | nil => rfl
  | append_singleton uses use ih =>
    rw [List.foldl_append, List.foldl_cons, List.foldl_nil, ih, ofUses_concat]

/-- Uses of different options do not touch the same setting. -/
theorem Use.apply_comm {first second : Use} (different : first.option ≠ second.option)
    (options : Options) :
    first.apply (second.apply options) = second.apply (first.apply options) := by
  cases first with
  | flag first =>
    cases second with
    | flag second => cases first <;> cases second <;> rfl
    | valued second value => cases first <;> cases second <;> rfl
  | valued first value =>
    cases second with
    | flag second => cases first <;> cases second <;> rfl
    | valued second other =>
      have distinct : first ≠ second := fun same => different (congrArg Sum.inr same)
      cases first <;> cases second <;> simp_all [apply, ValueOption.set]

theorem Options.ofUses_of_exchanged {uses others : List Use} (exchanged : Exchanged uses others) :
    Options.ofUses others = Options.ofUses uses := by
  obtain ⟨different, before, after⟩ := exchanged
  rw [← foldl_apply_none, ← foldl_apply_none, List.foldl_append, List.foldl_append]
  simp only [List.foldl_cons, Use.apply_comm different]

/-- Uses of different options may change places, as often as one likes. -/
theorem Options.ofUses_of_reordered {uses others : List Use}
    (reordered : Relation.ReflTransGen Exchanged uses others) :
    Options.ofUses others = Options.ofUses uses := by
  induction reordered with
  | refl => rfl
  | tail _ exchanged ih => rw [ofUses_of_exchanged exchanged, ih]

/-! ### Reading arguments -/

/-- Arguments that spell uses are read use by use, whatever follows them. -/
theorem requestAfter_of_spells {arguments : List String} {uses : List Use}
    (spells : Spells arguments uses) (options : Options) (rest : List String) :
    requestAfter options (arguments ++ rest) =
      requestAfter (uses.foldl Use.apply options) rest := by
  induction spells generalizing options with
  | nil => rfl
  | flag named spells ih =>
    rw [List.cons_append, requestAfter, Argument.of_eq_flag_iff.mpr named]
    exact ih _
  | valued named value spells ih =>
    rw [List.cons_append, requestAfter, Argument.of_eq_valued_iff.mpr named]
    exact ih _

theorem requestAfter_of_breaks {argument : String} {after : List String} {misuse : Misuse}
    (breaks : Breaks argument after misuse) (options : Options) :
    requestAfter options (argument :: after) = .refuse misuse := by
  rw [requestAfter]
  cases breaks with
  | missingValue named => rw [Argument.of_eq_valued_iff.mpr named]
  | unknown foreign dashed => rw [foreign.of_eq, if_pos dashed]
  | unexpected foreign undashed => rw [foreign.of_eq, if_neg undashed]

theorem requestAfter_of_information {name : String} (named : name ∈ informationNames)
    (options : Options) (after : List String) :
    requestAfter options (name :: after) = .showHelp ∨
      requestAfter options (name :: after) = .showVersion := by
  rw [requestAfter]
  rcases Argument.of_eq_information_iff.mpr named with help | version
  · rw [help]
    exact .inl rfl
  · rw [version]
    exact .inr rfl

/-- Where a reading of uses ends: behind the last argument, at a request for information, or at an
argument that breaks it off. -/
inductive Stops : List String → Prop
  | atEnd : Stops []
  | information {name : String} {after : List String} (named : name ∈ informationNames) :
      Stops (name :: after)
  | broken {argument : String} {after : List String} {misuse : Misuse}
      (breaks : Breaks argument after misuse) : Stops (argument :: after)

/-! ### The longest beginning that spells uses -/

section Beginnings

variable {name : String} {rest : List String}

theorem areUses_flag_iff {flag : Flag} (named : name ∈ flag.names) :
    AreUses (name :: rest) ↔ AreUses rest := by
  constructor
  · rintro ⟨uses, spells⟩
    cases spells with
    | flag _ spells => exact ⟨_, spells⟩
    | valued other value spells =>
      cases (Argument.of_eq_flag_iff.mpr named).symm.trans (Argument.of_eq_valued_iff.mpr other)
  · rintro ⟨uses, spells⟩
    exact ⟨_, .flag named spells⟩

theorem areUses_valued_iff {option : ValueOption} (named : name ∈ option.names) :
    AreUses (name :: rest) ↔ ∃ value after, rest = value :: after ∧ AreUses after := by
  constructor
  · rintro ⟨uses, spells⟩
    cases spells with
    | flag other spells =>
      cases (Argument.of_eq_valued_iff.mpr named).symm.trans (Argument.of_eq_flag_iff.mpr other)
    | valued _ value spells => exact ⟨value, _, rfl, _, spells⟩
  · rintro ⟨value, after, rfl, uses, spells⟩
    exact ⟨_, .valued named value spells⟩

/-- Every reading starts with uses and then stops. -/
theorem exists_areUses_append (arguments : List String) :
    ∃ before rest, arguments = before ++ rest ∧ AreUses before ∧ Stops rest := by
  have nothing : AreUses [] := ⟨[], .nil⟩
  -- The cases are those in which one argument is read; an option takes its value with it.
  induction Options.none, arguments using requestAfter.induct with
  | case1 options => exact ⟨[], [], rfl, nothing, .atEnd⟩
  | case2 options name after help =>
    have named := Argument.of_eq_information_iff.mp (.inl help)
    exact ⟨[], _, rfl, nothing, .information named⟩
  | case3 options name after version =>
    have named := Argument.of_eq_information_iff.mp (.inr version)
    exact ⟨[], _, rfl, nothing, .information named⟩
  | case4 options argument after misuse read =>
    obtain ⟨misuse, breaks⟩ := (isForeign_of_misuse read).exists_breaks after
    exact ⟨[], _, rfl, nothing, .broken breaks⟩
  | case5 options name after flag read ih =>
    obtain ⟨before, rest, rfl, uses, stops⟩ := ih
    have named := Argument.of_eq_flag_iff.mp read
    exact ⟨name :: before, rest, rfl, (areUses_flag_iff named).mpr uses, stops⟩
  | case6 options name option read =>
    have named := Argument.of_eq_valued_iff.mp read
    exact ⟨[], _, rfl, nothing, .broken (.missingValue named)⟩
  | case7 options name option read value after ih =>
    obtain ⟨before, rest, rfl, uses, stops⟩ := ih
    have named := Argument.of_eq_valued_iff.mp read
    have longer := (areUses_valued_iff named).mpr ⟨value, before, rfl, uses⟩
    exact ⟨name :: value :: before, rest, rfl, longer, stops⟩

theorem Spells.areUses_rest {before rest : List String} {uses : List Use}
    (spells : Spells before uses) (whole : AreUses (before ++ rest)) : AreUses rest := by
  induction spells with
  | nil => exact whole
  | flag named spells ih => exact ih ((areUses_flag_iff named).mp whole)
  | valued named value spells ih =>
    obtain ⟨_, _, same, later⟩ := (areUses_valued_iff named).mp whole
    cases same
    exact ih later

/-- No use begins with an argument that breaks a reading off. -/
theorem Breaks.not_areUses {after rest : List String} {misuse : Misuse}
    (breaks : Breaks name after misuse) (within : rest <+: after) : ¬ AreUses (name :: rest) := by
  intro whole
  cases breaks with
  | missingValue named =>
    obtain rfl := List.prefix_nil.mp within
    obtain ⟨_, _, same, -⟩ := (areUses_valued_iff named).mp whole
    cases same
  | unknown foreign _ | unexpected foreign _ =>
    obtain ⟨uses, spells⟩ := whole
    cases spells with
    | flag named _ => exact foreign.noFlag _ named
    | valued named _ _ => exact foreign.noValueOption _ named

theorem Breaks.prefix_of_areUses {before after longer : List String} {misuse : Misuse}
    (breaks : Breaks name after misuse) (uses : AreUses before)
    (within : longer <+: before ++ name :: after) (more : AreUses longer) :
    longer <+: before := by
  rcases List.prefix_or_prefix_of_prefix within (List.prefix_append before _) with
    inside | ⟨rest, rfl⟩
  · exact inside
  · obtain ⟨spelled, spells⟩ := uses
    have left := spells.areUses_rest more
    rw [List.prefix_append_right_inj] at within
    cases rest with
    | nil => rw [List.append_nil]
    | cons first rest =>
      obtain ⟨rfl, inside⟩ := List.cons_prefix_cons.mp within
      exact absurd left (breaks.not_areUses inside)

end Beginnings

/-! ### Every request -/

theorem Request.of_spelled {arguments : List String} {uses : List Use}
    (spells : Spells arguments uses) : Request.of arguments = .run (Options.ofUses uses) := by
  have read := requestAfter_of_spells spells Options.none []
  rw [List.append_nil, Options.foldl_apply_none] at read
  exact read

/-- What becomes of arguments: they are uses, ask for information, or break off. -/
theorem Request.of_cases (arguments : List String) :
    (∃ uses, Spells arguments uses ∧ Request.of arguments = .run (Options.ofUses uses)) ∨
    (AsksForInformation arguments ∧
      (Request.of arguments = .showHelp ∨ Request.of arguments = .showVersion)) ∨
    ∃ before argument after misuse, arguments = before ++ argument :: after ∧ AreUses before ∧
      Breaks argument after misuse ∧ Request.of arguments = .refuse misuse := by
  obtain ⟨before, rest, rfl, beginning, stops⟩ := exists_areUses_append arguments
  obtain ⟨uses, spells⟩ := beginning
  have read := requestAfter_of_spells spells Options.none rest
  rw [Options.foldl_apply_none] at read
  cases stops with
  | atEnd =>
    rw [List.append_nil]
    exact .inl ⟨uses, spells, of_spelled spells⟩
  | information named =>
    refine .inr (.inl ⟨⟨before, _, _, rfl, ⟨uses, spells⟩, named⟩, ?_⟩)
    rw [Request.of, read]
    exact requestAfter_of_information named _ _
  | broken breaks =>
    refine .inr (.inr ⟨before, _, _, _, rfl, ⟨uses, spells⟩, breaks, ?_⟩)
    rw [Request.of, read, requestAfter_of_breaks breaks]

theorem Request.of_eq_run_iff {arguments : List String} {options : Options} :
    Request.of arguments = .run options ↔
      ∃ uses, Spells arguments uses ∧ options = Options.ofUses uses := by
  constructor
  · intro accepted
    rcases of_cases arguments with ⟨uses, spells, read⟩ | ⟨-, help | version⟩ | broken
    · cases read.symm.trans accepted
      exact ⟨uses, spells, rfl⟩
    · cases help.symm.trans accepted
    · cases version.symm.trans accepted
    · obtain ⟨_, _, _, _, -, -, -, refused⟩ := broken
      cases refused.symm.trans accepted
  · rintro ⟨uses, spells, rfl⟩
    exact of_spelled spells

theorem not_asksForInformation_of_areUses {arguments : List String} (uses : AreUses arguments) :
    ¬ AsksForInformation arguments := by
  rintro ⟨before, name, after, rfl, ⟨spelled, spells⟩, named⟩
  obtain ⟨all, whole⟩ := uses
  have accepted := Request.of_spelled whole
  rw [Request.of, requestAfter_of_spells spells] at accepted
  rcases requestAfter_of_information named (spelled.foldl Use.apply Options.none) after with
    help | version
  · cases help.symm.trans accepted
  · cases version.symm.trans accepted

theorem not_asksForInformation_of_free {arguments : List String}
    (free : ∀ argument ∈ arguments, argument ∉ informationNames) :
    ¬ AsksForInformation arguments := by
  rintro ⟨before, name, after, rfl, -, named⟩
  exact free name (by simp) named

/-- Arguments that do not ask for information are accepted exactly if they spell uses.  What they
ask for is then the last value of each option and the flags that are used, so uses of different
options may change places.  Otherwise the argument that is refused is the one at which the longest
beginning of the arguments that spells uses ends; the error says what is missing or names it. -/
theorem Request.of_eq_run_iff_spells {arguments : List String}
    (free : ¬ AsksForInformation arguments) :
    (∀ options, Request.of arguments = .run options ↔
      ∃ uses, Spells arguments uses ∧ options = Options.ofUses uses) ∧
    (∀ uses others reordered, Spells arguments uses →
      Relation.ReflTransGen Exchanged uses others → Spells reordered others →
        Request.of reordered = Request.of arguments) ∧
    (¬ AreUses arguments → ∃ before argument after misuse,
      arguments = before ++ argument :: after ∧ AreUses before ∧
        (∀ longer, longer <+: arguments → AreUses longer → longer <+: before) ∧
        Breaks argument after misuse ∧ Request.of arguments = .refuse misuse) ∧
    ValueOption.config.missing.message = "Missing config file path" ∧
    ValueOption.lesson.missing.message = "Missing lesson id" ∧
    ValueOption.transcript.missing.message = "Missing transcript file path" ∧
    ∀ argument, (Misuse.unknownOption argument).message = "Unknown option: " ++ argument ∧
      (Misuse.unexpectedArgument argument).message = "Unexpected argument: " ++ argument := by
  refine ⟨fun options => of_eq_run_iff, ?_, ?_, rfl, rfl, rfl, fun argument => ⟨rfl, rfl⟩⟩
  · intro uses others reordered spells exchanges spelled
    rw [of_spelled spelled, of_spelled spells, Options.ofUses_of_reordered exchanges]
  · intro wrong
    rcases Request.of_cases arguments with ⟨uses, spells, -⟩ | ⟨asks, -⟩ | broken
    · exact absurd ⟨uses, spells⟩ wrong
    · exact absurd asks free
    · obtain ⟨before, argument, after, misuse, rfl, beginning, breaks, refused⟩ := broken
      refine ⟨before, argument, after, misuse, rfl, beginning, ?_, breaks, refused⟩
      intro longer within more
      exact breaks.prefix_of_areUses beginning within more

/-- Values that are spelled like options, and one option used twice. -/
def disguised : List String :=
  ["-c", "--list", "--debug", "-l", "--help", "--config", "-v"]

def disguisedUses : List Use :=
  [.valued .config "--list", .flag .debug, .valued .lesson "--help", .valued .config "-v"]

theorem spells_disguised : Spells disguised disguisedUses :=
  .valued (by decide) _ (.flag (by decide) (.valued (by decide) _ (.valued (by decide) _ .nil)))

/-- A value that looks like its option, and the option again without a value. -/
def unfinished : List String :=
  ["--list", "-t", "-t", "-t"]

theorem Request.of_eq_run_iff_spells_disguised :
    Request.of disguised = .run ⟨some ⟨"-v"⟩, some "--help", none, false, true⟩ ∧
      Request.of ["-d", "-c", "--list", "--config", "-v", "--lesson", "--help"] =
        Request.of disguised ∧
      ∃ before argument after misuse, unfinished = before ++ argument :: after ∧
        AreUses before ∧ Breaks argument after misuse ∧
        Request.of unfinished = .refuse misuse := by
  obtain ⟨accepted, reordered, -⟩ :=
    Request.of_eq_run_iff_spells (not_asksForInformation_of_areUses ⟨_, spells_disguised⟩)
  refine ⟨(accepted _).mpr ⟨_, spells_disguised, by decide⟩, ?_, ?_⟩
  · refine reordered _
      [.flag .debug, .valued .config "--list", .valued .config "-v", .valued .lesson "--help"] _
      spells_disguised ?_ ?_
    · exact .tail (.single (.neighbors (by decide) [] _)) (.neighbors (by decide) [_, _] [])
    · exact .flag (by decide) (.valued (by decide) _ (.valued (by decide) _
        (.valued (by decide) _ .nil)))
  · have free : ¬ AsksForInformation unfinished := not_asksForInformation_of_free (by decide)
    have wrong : ¬ AreUses unfinished := by
      rintro ⟨uses, spells⟩
      have refused : Request.of unfinished = .refuse .missingTranscriptPath := by decide
      cases refused.symm.trans (Request.of_spelled spells)
    obtain ⟨before, argument, after, misuse, split, beginning, -, breaks, refused⟩ :=
      (Request.of_eq_run_iff_spells free).2.2.1 wrong
    exact ⟨before, argument, after, misuse, split, beginning, breaks, refused⟩

end ShellPractice.CommandLine
