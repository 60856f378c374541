import ShellPractice.Config.Store
import ShellPractice.Proofs.Config.Document
import ShellPractice.Proofs.Json.RoundTrip
import ShellPractice.Proofs.Toml.RoundTrip

/-!
# Saved configuration

What is saved is loaded again, from a file of either format, unless the check on loading objects to
it.
-/

namespace ShellPractice

open Document

theorem Toml.isWritable_texts (values : List String) : Toml.IsWritable (.texts values) :=
  .array fun item member => by
    obtain ⟨value, -, rfl⟩ := List.mem_map.mp member
    exact .text value

theorem isHeld_toNat (value : UInt64) : Toml.IsHeld value.toNat := by
  have bound := value.toNat_lt
  have low : -Int.pow 2 127 ≤ 0 := by decide
  have high : ((2 ^ 64 : Nat) : Int) ≤ Int.pow 2 128 := by decide
  exact ⟨by omega, by omega⟩

theorem TerminalSettings.isSection (settings : TerminalSettings) :
    Toml.IsSection ("terminal", settings.members) where
  bare := (by decide : Toml.IsBareName "terminal")
  distinct := (by decide : fieldNames.Nodup)
  names := (by decide : ∀ name ∈ fieldNames, Toml.IsBareName name)
  values := by
    simp [members, Toml.isWritable_texts, isHeld_toNat, Toml.IsWritable.scalar,
      Toml.IsScalar.text, Toml.IsScalar.bool, Toml.IsScalar.integer]

theorem LessonSettings.isSection (settings : LessonSettings) :
    Toml.IsSection ("lessons", present settings.members) where
  bare := (by decide : Toml.IsBareName "lessons")
  distinct := by
    obtain ⟨catalog, lesson⟩ := settings
    cases catalog <;> cases lesson <;> simp [members, present]
  names := by
    have bare : ∀ name ∈ fieldNames, Toml.IsBareName name := by decide
    intro name member
    obtain ⟨entry, inside, rfl⟩ := List.mem_map.mp member
    exact bare entry.1 (mem_names_of_mem_present inside)
  values := by
    obtain ⟨catalog, lesson⟩ := settings
    cases catalog <;> cases lesson <;>
      simp [members, present, Toml.IsWritable.scalar, Toml.IsScalar.text]

theorem LessonSettings.isFaithful_allMembers (settings : LessonSettings) :
    Json.IsFaithful (.object settings.allMembers) := by
  obtain ⟨catalog, lesson⟩ := settings
  refine .object ?_
  cases catalog <;> cases lesson <;>
    simp [allMembers, members, ofOption, Json.IsFaithful.text, Json.IsFaithful.null]

theorem LessonSettings.isFaithful_present (settings : LessonSettings) :
    Json.IsFaithful (.object (present settings.members)) := by
  obtain ⟨catalog, lesson⟩ := settings
  refine .object ?_
  cases catalog <;> cases lesson <;> simp [members, present, Json.IsFaithful.text]

theorem TerminalSettings.isFaithful_members (settings : TerminalSettings) :
    Json.IsFaithful (.object settings.members) :=
  .object (by
    simp [members, Json.IsFaithful.text, Json.IsFaithful.bool, Json.IsFaithful.integer,
      Json.isFaithful_texts])

theorem Config.isFaithful_toDocument (config : Config) : Json.IsFaithful config.toDocument := by
  have lessons := config.lessons.isFaithful_allMembers
  rw [LessonSettings.allMembers] at lessons
  exact .object (by simp [config.terminal.isFaithful_members, lessons])

namespace Config

theorem decode_write (config : Config) :
    Format.json.decode ofDocument? (Json.write config.toDocument) = .ok config := by
  have read := Json.read?_write config.isFaithful_toDocument
  simp [Format.decode, Format.read?, read, ofDocument?_toDocument]

/-- Every configuration has a text in every format, which describes it. -/
theorem exists_write? (config : Config) (format : Format) :
    ∃ text, config.write? format = some text ∧ format.decode ofDocument? text = .ok config := by
  cases format with
  | toml =>
    obtain ⟨text, written, read⟩ := Toml.read?_write? config.sections
      (by simp [sections, TerminalSettings.isSection, LessonSettings.isSection])
      (by simp [sections])
    refine ⟨text, written, ?_⟩
    simp [Format.decode, Format.read?, read, ofDocument?_sections]
  | json => exact ⟨Json.write config.toDocument, rfl, config.decode_write⟩

/-- A configuration that was saved is loaded again if it has no flaw, and its first flaw is reported
otherwise. -/
theorem load_of_save {config : Config} {files saved : FileTree} {path : Path}
    (success : config.save files path = (saved, .ok ())) :
    load saved path =
      match config.flaw? with
      | some flaw => .error (.configInvalid flaw.field flaw.reason)
      | none => .ok config := by
  obtain ⟨text, written, read⟩ := config.exists_write? (Format.ofPath path)
  -- Saving succeeds only after the text was written, whatever directories were made before.
  have content : saved.readText path = .ok text := by
    unfold save at success
    split at success
    · cases success
    · simp only [written] at success
      split at success
      · cases success
      · rename_i written
        cases success
        exact FileTree.readText_writeText written
  have loaded : loadAs saved path (Format.ofPath path) = .ok config := by
    simp [loadAs, content, read]
  rw [load, loaded]
  rfl

/-- A configuration with texts that every form of writing has to treat with care. -/
def oddConfig : Config where
  terminal := {
    directory := "'\\\"\"\"\n"
    delimiter := "\x01\r\n\x7f"
    banner := ["", "\"\"\"\n", "'\\'", "é😀\t"]
    restoresBanner := true
    lowersArguments := false
    maxEntries := 1000000 }
  lessons := ⟨some ⟨"a\\b'''"⟩, none⟩

/-- The same configuration with a flaw, which saving does not mind. -/
def flawedConfig : Config :=
  { oddConfig with terminal := { oddConfig.terminal with delimiter := "" } }

theorem load_of_save_oddConfig :
    (oddConfig.save ⟨[], []⟩ ⟨"settings/shell.toml"⟩).2 = .ok () ∧
      load (oddConfig.save ⟨[], []⟩ ⟨"settings/shell.toml"⟩).1 ⟨"settings/shell.toml"⟩ =
        .ok oddConfig ∧
      (flawedConfig.save ⟨[], []⟩ ⟨"shell.json"⟩).2 = .ok () ∧
      load (flawedConfig.save ⟨[], []⟩ ⟨"shell.json"⟩).1 ⟨"shell.json"⟩ =
        .error (.configInvalid "terminal.prompt_delimiter" "Prompt delimiter cannot be empty") := by
  have saved : oddConfig.save ⟨[], []⟩ ⟨"settings/shell.toml"⟩ =
      ((oddConfig.save ⟨[], []⟩ ⟨"settings/shell.toml"⟩).1, .ok ()) := Prod.ext rfl rfl
  have savedToo : flawedConfig.save ⟨[], []⟩ ⟨"shell.json"⟩ =
      ((flawedConfig.save ⟨[], []⟩ ⟨"shell.json"⟩).1, .ok ()) := Prod.ext rfl rfl
  have flawless : oddConfig.flaw? = none := by decide
  have flawed : flawedConfig.flaw? = some .emptyDelimiter := by decide
  refine ⟨congrArg Prod.snd saved, ?_, congrArg Prod.snd savedToo, ?_⟩
  · rw [load_of_save saved, flawless]
  · rw [load_of_save savedToo, flawed]
    rfl

end Config

end ShellPractice
