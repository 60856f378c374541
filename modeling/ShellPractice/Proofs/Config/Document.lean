import ShellPractice.Config.Document
import ShellPractice.Proofs.Document.Record

/-!
# Configuration read back from its documents

In one notation absent settings stand as `null` and in the other they are left out.  Both documents
describe the same configuration.
-/

namespace ShellPractice

open Document

theorem word?_integer (value : UInt64) : word? (.integer value.toNat) = some value := by
  have bound := value.toNat_lt
  rw [word?, if_pos ⟨by omega, by simp [UInt64.size]; omega⟩]
  simp

theorem TerminalSettings.ofDocument?_members (conventions : Conventions)
    (settings : TerminalSettings) :
    ofDocument? conventions (.object settings.members) = some settings := by
  have read : fields? conventions fieldNames (.object settings.members) = _ :=
    fields?_object conventions settings.members (by simp [members])
  rw [ofDocument?, read, Option.bind_eq_bind, Option.bind_some]
  simp [members, withDefault_some, text?, bool?, list?_texts, word?_integer]

theorem TerminalSettings.ofDocument?_empty (conventions : Conventions) :
    ofDocument? conventions (.object []) = some standard :=
  rfl

namespace LessonSettings

theorem ofDocument?_empty (conventions : Conventions) :
    ofDocument? conventions (.object []) = some Config.standard.lessons :=
  rfl

/-- Absent settings may be left out. -/
theorem ofDocument?_present (conventions : Conventions) (settings : LessonSettings) :
    ofDocument? conventions (.object (present settings.members)) = some settings := by
  have read : fields? conventions fieldNames (.object (present settings.members)) = _ :=
    fields?_present conventions settings.members (by simp [members])
  obtain ⟨catalog, lesson⟩ := settings
  rw [ofDocument?, read]
  cases catalog <;> cases lesson <;> simp [members, withDefault, optional?, text?]

/-- The members of a document in which absent settings stand as `null`. -/
def allMembers (settings : LessonSettings) : List (String × Document) :=
  settings.members.map fun member => (member.1, ofOption member.2)

theorem ofDocument?_allMembers (conventions : Conventions) (settings : LessonSettings) :
    ofDocument? conventions (.object settings.allMembers) = some settings := by
  have read : fields? conventions fieldNames (.object settings.allMembers) = _ :=
    fields?_object conventions settings.allMembers (by simp [allMembers, members])
  obtain ⟨catalog, lesson⟩ := settings
  rw [ofDocument?, read]
  cases catalog <;> cases lesson <;>
    simp [allMembers, members, withDefault_some, optional?, text?, ofOption]

end LessonSettings

namespace Config

theorem ofDocument?_sections (conventions : Conventions) (config : Config) :
    ofDocument? conventions
      (.object (config.sections.map fun table => (table.1, .object table.2))) = some config := by
  have read : fields? conventions ["terminal", "lessons"]
      (.object (config.sections.map fun table => (table.1, .object table.2))) = _ :=
    fields?_object conventions
      [("terminal", .object config.terminal.members),
        ("lessons", .object (present config.lessons.members))] (by simp)
  rw [ofDocument?, read]
  simp [withDefault_some, TerminalSettings.ofDocument?_members,
    LessonSettings.ofDocument?_present]

theorem ofDocument?_toDocument (conventions : Conventions) (config : Config) :
    ofDocument? conventions config.toDocument = some config := by
  have read : fields? conventions ["terminal", "lessons"] config.toDocument = _ :=
    fields?_object conventions
      [("terminal", .object config.terminal.members),
        ("lessons", .object config.lessons.allMembers)] (by simp)
  rw [ofDocument?, read]
  simp [withDefault_some, TerminalSettings.ofDocument?_members,
    LessonSettings.ofDocument?_allMembers]

end Config

end ShellPractice
