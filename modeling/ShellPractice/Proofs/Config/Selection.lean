import Mathlib.Data.Finset.Insert
import ShellPractice.Proofs.Config.Search
import ShellPractice.Proofs.Config.Store
import ShellPractice.Proofs.FileTree.Saving

/-!
# Files that leave settings out

A configuration file may give any of the settings and leave out the others, which have their
defaults then.  The sections and the settings stand in any order, other names may stand among them,
and a section with no setting to give may be missing.
-/

namespace ShellPractice

open Document

/-- The settings of a configuration, one by one. -/
inductive Setting where
  | directory
  | delimiter
  | banner
  | restoresBanner
  | lowersArguments
  | maxEntries
  | catalogPath
  | defaultLesson
  deriving DecidableEq

namespace Setting

/-- The settings of the terminal, in order. -/
def ofTerminal : List Setting :=
  [.directory, .delimiter, .banner, .restoresBanner, .lowersArguments, .maxEntries]

/-- The settings of the lessons, in order. -/
def ofLessons : List Setting :=
  [.catalogPath, .defaultLesson]

section Choice

variable {α : Type} (chosen : Finset Setting) (setting : Setting)

/-- A value for a setting that is among the chosen ones, and another for the rest. -/
def pick (value other : α) : α :=
  if setting ∈ chosen then value else other

theorem pick_of_both (property : α → Prop) {value other : α} (first : property value)
    (second : property other) : property (setting.pick chosen value other) := by
  rw [pick]
  split
  · exact first
  · exact second

theorem pick_map {β : Type} (f : α → β) (value other : α) :
    setting.pick chosen (f value) (f other) = f (setting.pick chosen value other) :=
  (apply_ite f _ _ _).symm

/-- A field that stands only if its setting is chosen has its default otherwise. -/
theorem withDefault_pick (default : α) (read : Document → Option α) (given : Option Document) :
    withDefault default read (setting.pick chosen given none) =
      setting.pick chosen (withDefault default read given) (some default) :=
  (setting.pick_map chosen (withDefault default read) given none).symm

end Choice

/-- Fields of a record, those of settings that are not chosen being left out. -/
def select (chosen : Finset Setting) (settings : List Setting)
    (fields : List (String × Option Document)) : List (String × Option Document) :=
  List.zipWith (fun setting field => (field.1, setting.pick chosen field.2 none)) settings fields

theorem present_select_sublist (chosen : Finset Setting) (settings : List Setting)
    (fields : List (String × Option Document)) :
    (present (select chosen settings fields)).Sublist (present fields) := by
  induction settings generalizing fields with
  | nil => exact List.nil_sublist _
  | cons setting settings ih =>
    cases fields with
    | nil => exact List.nil_sublist _
    | cons field fields =>
      obtain ⟨name, value⟩ := field
      rw [select, List.zipWith_cons_cons, ← select, present_cons, present_cons]
      have step : ((setting.pick chosen value none).map (name, ·)).toList.Sublist
          (value.map (name, ·)).toList :=
        setting.pick_of_both chosen
          (fun left => (Option.map (name, ·) left).toList.Sublist (value.map (name, ·)).toList)
          (List.Sublist.refl _) (List.nil_sublist _)
      exact step.append (ih fields)

end Setting

namespace TerminalSettings

/-- The settings of a terminal, those that are not chosen having their defaults. -/
def chosenOver (chosen : Finset Setting) (settings : TerminalSettings) : TerminalSettings where
  directory := Setting.directory.pick chosen settings.directory standard.directory
  delimiter := Setting.delimiter.pick chosen settings.delimiter standard.delimiter
  banner := Setting.banner.pick chosen settings.banner standard.banner
  restoresBanner := Setting.restoresBanner.pick chosen settings.restoresBanner
    standard.restoresBanner
  lowersArguments := Setting.lowersArguments.pick chosen settings.lowersArguments
    standard.lowersArguments
  maxEntries := Setting.maxEntries.pick chosen settings.maxEntries standard.maxEntries

/-- The chosen settings of a terminal by name. -/
def selection (chosen : Finset Setting) (settings : TerminalSettings) :
    List (String × Option Document) :=
  Setting.select chosen Setting.ofTerminal
    (settings.members.map fun member => (member.1, some member.2))

theorem ofDocument?_of_gives {conventions : Conventions} {chosen : Finset Setting}
    {settings : TerminalSettings} {given : List (String × Document)}
    (gives : Gives conventions (settings.selection chosen) given) :
    ofDocument? conventions (.object given) = some (settings.chosenOver chosen) := by
  have read : fields? conventions fieldNames (.object given) = _ :=
    gives.fields?_eq (by decide : fieldNames.Nodup)
  rw [ofDocument?, read]
  simp [selection, Setting.select, Setting.ofTerminal, members, Setting.withDefault_pick,
    withDefault_some, text?, bool?, list?_texts, word?_integer, Setting.pick_map, chosenOver]

theorem present_selection_sublist (chosen : Finset Setting) (settings : TerminalSettings) :
    (present (settings.selection chosen)).Sublist settings.members := by
  have fewer := Setting.present_select_sublist chosen Setting.ofTerminal
    (settings.members.map fun member => (member.1, some member.2))
  rwa [present_map_some] at fewer

end TerminalSettings

namespace LessonSettings

/-- The settings of the lessons, those that are not chosen being absent. -/
def chosenOver (chosen : Finset Setting) (settings : LessonSettings) : LessonSettings where
  catalogPath := Setting.catalogPath.pick chosen settings.catalogPath none
  defaultLesson := Setting.defaultLesson.pick chosen settings.defaultLesson none

/-- The chosen settings of the lessons by name. -/
def selection (chosen : Finset Setting) (settings : LessonSettings) :
    List (String × Option Document) :=
  Setting.select chosen Setting.ofLessons settings.members

theorem ofDocument?_of_gives {conventions : Conventions} {chosen : Finset Setting}
    {settings : LessonSettings} {given : List (String × Document)}
    (gives : Gives conventions (settings.selection chosen) given) :
    ofDocument? conventions (.object given) = some (settings.chosenOver chosen) := by
  have read : fields? conventions fieldNames (.object given) = _ :=
    gives.fields?_eq (by decide : fieldNames.Nodup)
  have catalog : withDefault none (optional? text?)
      (settings.catalogPath.map fun path => .text path.text) =
        some (settings.catalogPath.map Path.text) := by
    cases settings.catalogPath <;> rfl
  have lesson : withDefault none (optional? text?) (settings.defaultLesson.map .text) =
      some settings.defaultLesson := by
    cases settings.defaultLesson <;> rfl
  have path : (Setting.catalogPath.pick chosen (settings.catalogPath.map Path.text) none).map
      Path.mk = Setting.catalogPath.pick chosen settings.catalogPath none := by
    have same : (settings.catalogPath.map Path.text).map Path.mk = settings.catalogPath := by
      cases settings.catalogPath <;> rfl
    rw [← Setting.pick_map chosen _ (Option.map Path.mk), same, Option.map_none]
  rw [ofDocument?, read]
  simp [selection, Setting.select, Setting.ofLessons, members, Setting.withDefault_pick, catalog,
    lesson, path, Setting.pick_map, chosenOver]

theorem present_selection_sublist (chosen : Finset Setting) (settings : LessonSettings) :
    (present (settings.selection chosen)).Sublist (present settings.members) :=
  Setting.present_select_sublist chosen Setting.ofLessons settings.members

end LessonSettings

namespace Config

section Reading

variable {conventions : Conventions} {chosen : Finset Setting} {config : Config}

/-- A configuration with the chosen settings of another and the defaults of the rest. -/
def chosenOver (chosen : Finset Setting) (config : Config) : Config where
  terminal := config.terminal.chosenOver chosen
  lessons := config.lessons.chosenOver chosen

theorem flaw?_chosenOver (flawless : config.flaw? = none) :
    (config.chosenOver chosen).flaw? = none := by
  -- Each condition is about one setting, and the defaults meet all of them.
  rw [flaw?_eq_none_iff] at flawless ⊢
  obtain ⟨directory, delimiter, positive, bounded, lesson⟩ := flawless
  obtain ⟨directory', delimiter', positive', bounded', lesson'⟩ :=
    flaw?_eq_none_iff.mp flaw?_standard
  exact ⟨Setting.directory.pick_of_both chosen (Text.isBlankText · = false) directory directory',
    Setting.delimiter.pick_of_both chosen (String.isEmpty · = false) delimiter delimiter',
    Setting.maxEntries.pick_of_both chosen (· ≠ 0) positive positive',
    Setting.maxEntries.pick_of_both chosen (¬mostEntries < ·) bounded bounded',
    Setting.defaultLesson.pick_of_both chosen (Option.any Text.isBlankText · = false) lesson
      lesson'⟩

/-- Members of a section, which may be missing if there is nothing to give in it. -/
def GivesSection (conventions : Conventions) (fields : List (String × Option Document)) :
    Option (List (String × Document)) → Prop
  | some members => Gives conventions fields members
  | none => present fields = []

/-- A section that is missing is read like an empty one. -/
theorem withDefault_of_givesSection {α : Type} {default value : α} {read : Document → Option α}
    {fields : List (String × Option Document)} {given : Option (List (String × Document))}
    (gives : GivesSection conventions fields given)
    (inverse : ∀ members, Gives conventions fields members →
      read (.object members) = some value)
    (empty : read (.object []) = some default) :
    withDefault default read (given.map .object) = some value := by
  cases given with
  | some members => exact inverse members gives
  | none =>
    have nothing : Gives conventions fields [] := by
      rw [← show present fields = [] from gives]
      exact gives_present conventions fields
    exact empty.symm.trans (inverse [] nothing)

/-- Members of a file that gives the chosen settings of a configuration and no others. -/
def GivesChosen (conventions : Conventions) (chosen : Finset Setting) (config : Config)
    (members : List (String × Document)) : Prop :=
  ∃ terminal lessons : Option (List (String × Document)),
    Gives conventions [("terminal", terminal.map .object), ("lessons", lessons.map .object)]
        members ∧
      GivesSection conventions (config.terminal.selection chosen) terminal ∧
      GivesSection conventions (config.lessons.selection chosen) lessons

theorem ofDocument?_of_givesChosen {members : List (String × Document)}
    (given : GivesChosen conventions chosen config members) :
    ofDocument? conventions (.object members) = some (config.chosenOver chosen) := by
  obtain ⟨terminal, lessons, sections, terminalGiven, lessonsGiven⟩ := given
  have read : fields? conventions ["terminal", "lessons"] (.object members) = _ :=
    sections.fields?_eq (by decide : ["terminal", "lessons"].Nodup)
  have terminalRead : withDefault standard.terminal _ _ = _ :=
    withDefault_of_givesSection terminalGiven (fun _ => TerminalSettings.ofDocument?_of_gives)
      (TerminalSettings.ofDocument?_empty conventions)
  have lessonsRead : withDefault standard.lessons _ _ = _ :=
    withDefault_of_givesSection lessonsGiven (fun _ => LessonSettings.ofDocument?_of_gives)
      (LessonSettings.ofDocument?_empty conventions)
  rw [ofDocument?, read]
  simp [terminalRead, lessonsRead, chosenOver]

/-- A file that gives some settings is checked with the defaults of the others. -/
theorem load_of_givesChosen {files : FileTree} {path : Path} {text : String}
    {members : List (String × Document)} (content : files.readText path = .ok text)
    (read : (Format.ofPath path).read? text = some (.object members))
    (given : GivesChosen (Format.ofPath path).conventions chosen config members) :
    load files path = (config.chosenOver chosen).check := by
  have decoded : (Format.ofPath path).decode ofDocument? text = .ok (config.chosenOver chosen) := by
    simp only [Format.decode, read, ofDocument?_of_givesChosen given]
  rw [load, loadAs_eq_ok_iff.mpr ⟨text, content, decoded⟩]
  rfl

end Reading

/-- The chosen settings of a configuration by section. -/
def chosenSections (chosen : Finset Setting) (config : Config) :
    List (String × List (String × Document)) :=
  [("terminal", present (config.terminal.selection chosen)),
    ("lessons", present (config.lessons.selection chosen))]

theorem givesChosen_chosenSections (conventions : Conventions) (chosen : Finset Setting)
    (config : Config) :
    GivesChosen conventions chosen config
      ((config.chosenSections chosen).map fun table => (table.1, .object table.2)) :=
  ⟨some _, some _, gives_present conventions [_, _], gives_present conventions _,
    gives_present conventions _⟩

theorem exists_text_of_chosen (config : Config) (chosen : Finset Setting) (format : Format) :
    ∃ text members, format.read? text = some (.object members) ∧
      GivesChosen format.conventions chosen config members := by
  have terminal := config.terminal.present_selection_sublist chosen
  have lessons := config.lessons.present_selection_sublist chosen
  cases format with
  | toml =>
    have proper : ∀ table ∈ config.chosenSections chosen, Toml.IsSection table := by
      simp [chosenSections, config.terminal.isSection.sublist terminal,
        config.lessons.isSection.sublist lessons]
    obtain ⟨text, -, read⟩ := Toml.read?_write? _ proper (by simp [chosenSections])
    exact ⟨text, _, read, givesChosen_chosenSections _ chosen config⟩
  | json =>
    have faithful : Json.IsFaithful (.object
        ((config.chosenSections chosen).map fun table => (table.1, .object table.2))) := by
      apply Json.IsFaithful.object
      simp [chosenSections, config.terminal.isFaithful_members.sublist terminal,
        config.lessons.isFaithful_present.sublist lessons]
    exact ⟨_, _, Json.read?_write faithful, givesChosen_chosenSections _ chosen config⟩

/-- From a file that gives some settings of a flawless configuration, the configuration with these
settings and the defaults of the others is loaded, in whatever order they are given and whatever
else stands beside them that is no error in the notation itself.  In JSON nothing is one; in TOML a
word is that is written like a number and stands for none.  Every choice of settings has such a
file in every format. -/
theorem load_partial {config : Config} (flawless : config.flaw? = none)
    (chosen : Finset Setting) :
    (∀ (files : FileTree) (path : Path) (text : String) (members : List (String × Document)),
        files.readText path = .ok text →
          (Format.ofPath path).read? text = some (.object members) →
            GivesChosen (Format.ofPath path).conventions chosen config members →
              load files path = .ok (config.chosenOver chosen)) ∧
      ∀ format : Format, ∃ text members, format.read? text = some (.object members) ∧
        GivesChosen format.conventions chosen config members := by
  constructor
  · intro files path text members content read given
    rw [load_of_givesChosen content read given]
    exact check_eq_ok_iff.mpr ⟨flaw?_chosenOver flawless, rfl⟩
  · exact exists_text_of_chosen config chosen

/-- Two settings of the terminal out of order, with one that does not exist between them. -/
def looseTerminal : List (String × Document) :=
  [("restore_banner_on_clear", .bool true), ("prompt", .array [.null]),
    ("welcome_banner", .texts oddConfig.terminal.banner)]

/-- A file without the section of the lessons. -/
def looseMembers : List (String × Document) :=
  [("version", .integer 2), ("terminal", .object looseTerminal)]

def looseFiles : FileTree :=
  ⟨[(["shell.json"], .file (Json.write (.object looseMembers)).toUTF8)], []⟩

theorem load_partial_oddConfig :
    load looseFiles ⟨"shell.json"⟩ = .ok { Config.standard with
      terminal := { TerminalSettings.standard with
        banner := oddConfig.terminal.banner
        restoresBanner := true } } := by
  have flawless : oddConfig.flaw? = none := by decide
  have format : Format.ofPath ⟨"shell.json"⟩ = .json := by decide
  have faithful : Json.IsFaithful (.object looseMembers) := by
    have terminal : Json.IsFaithful (.object looseTerminal) :=
      .object (by simp [looseTerminal, Json.IsFaithful.bool, Json.IsFaithful.array,
        Json.IsFaithful.null, Json.isFaithful_texts])
    exact .object (by simp [looseMembers, terminal, Json.IsFaithful.integer])
  have terminal : Gives Json.conventions (oddConfig.terminal.selection {.banner, .restoresBanner})
      looseTerminal := ⟨List.Perm.swap _ _ _, fun _ _ _ => rfl⟩
  have given : GivesChosen (Format.ofPath ⟨"shell.json"⟩).conventions {.banner, .restoresBanner}
      oddConfig looseMembers := by
    rw [format]
    exact ⟨some looseTerminal, none, ⟨List.Perm.refl _, fun _ _ _ => rfl⟩, terminal, rfl⟩
  have content : looseFiles.readText ⟨"shell.json"⟩ = .ok (Json.write (.object looseMembers)) :=
    FileTree.readText_of_read rfl
  have read : (Format.ofPath ⟨"shell.json"⟩).read? (Json.write (.object looseMembers)) =
      some (.object looseMembers) := by
    rw [format, Format.read?, Json.read?_write faithful]
  -- In two steps: with `given` at once the unifier would evaluate the texts of the files.
  have loaded := (load_partial flawless {.banner, .restoresBanner}).1 looseFiles ⟨"shell.json"⟩
    (Json.write (.object looseMembers)) looseMembers content read
  exact loaded given

end Config

end ShellPractice
