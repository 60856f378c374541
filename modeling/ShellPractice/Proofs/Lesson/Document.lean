import ShellPractice.Lesson.Document
import ShellPractice.Proofs.Document.Record

/-!
# Lessons read back from their documents

The document of a lesson has every field of it, so it describes that lesson again, whatever the
conventions of the notation are.
-/

namespace ShellPractice

open Document

theorem Difficulty.ofDocument?_name (conventions : Conventions) (difficulty : Difficulty) :
    ofDocument? conventions (.text difficulty.name) = some difficulty := by
  rw [ofDocument?, choice?]
  cases difficulty <;> decide

theorem Exercise.ofDocument?_toDocument (conventions : Conventions) (exercise : Exercise) :
    ofDocument? conventions exercise.toDocument = some exercise := by
  have read := fields?_object conventions
    [("command", .text exercise.command), ("description", .text exercise.description),
      ("explanation", .text exercise.explanation)] (by simp)
  simp only [List.map_cons, List.map_nil] at read
  rw [ofDocument?, toDocument, read]
  rfl

theorem Lesson.ofDocument?_toDocument (conventions : Conventions) (lesson : Lesson) :
    ofDocument? conventions lesson.toDocument = some lesson := by
  have read := fields?_object conventions
    [("id", .text lesson.id), ("title", .text lesson.title),
      ("description", .text lesson.description), ("difficulty", .text lesson.difficulty.name),
      ("working_directory", .text lesson.directory),
      ("expected_commands", .texts lesson.expected),
      ("exercises", .array (lesson.exercises.map Exercise.toDocument))] (by simp)
  have exercises := list?_array_map lesson.exercises
    fun exercise _ => Exercise.ofDocument?_toDocument conventions exercise
  simp only [List.map_cons, List.map_nil] at read
  rw [ofDocument?, toDocument, fieldNames, read]
  simp [required, withDefault_some, text?, Difficulty.ofDocument?_name, list?_texts, exercises]

/-- A document with a list of lessons holds these lessons. -/
theorem Lesson.listOfDocument?_object (conventions : Conventions) (lessons : List Lesson) :
    listOfDocument? conventions
      (.object [("lessons", .array (lessons.map toDocument))]) = some lessons := by
  have read := fields?_object conventions
    [("lessons", .array (lessons.map toDocument))] (by simp)
  have items := list?_array_map lessons
    fun lesson _ => Lesson.ofDocument?_toDocument conventions lesson
  simp only [List.map_cons, List.map_nil] at read
  rw [listOfDocument?, read]
  simp [withDefault_some, items]

end ShellPractice
