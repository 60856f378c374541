import ShellPractice.Document.Record
import ShellPractice.Lesson.Basic

/-!
# Lessons and plans as documents

A plan is written with its whole state.  A lesson needs an id and a title; what else is left out is
empty, for beginners, and in the default working directory.  A lesson file holds its lessons under
one name.
-/

namespace ShellPractice

open Document

/-- The difficulty that a document names. -/
def Difficulty.ofDocument? (conventions : Conventions) : Document → Option Difficulty :=
  choice? conventions all name

namespace Plan

/-- The state of a plan that a document describes. -/
def ofDocument? (conventions : Conventions) (document : Document) : Option Plan := do
  match ← fields? conventions ["expected_commands", "cursor", "completed"] document with
  | [expected, cursor, completed] =>
    some {
      expected := ← required (list? text?) expected
      cursor := (← required word? cursor).toNat
      completed := ← required (list? text?) completed }
  | _ => none

/-- A document for the state of a plan. -/
def toDocument (plan : Plan) : Document :=
  .object [("expected_commands", .texts plan.expected), ("cursor", .integer plan.cursor),
    ("completed", .texts plan.completed)]

end Plan

namespace Exercise

/-- The exercise that a document describes. -/
def ofDocument? (conventions : Conventions) (document : Document) : Option Exercise := do
  match ← fields? conventions ["command", "description", "explanation"] document with
  | [command, description, explanation] =>
    some {
      command := ← required text? command
      description := ← required text? description
      explanation := ← required text? explanation }
  | _ => none

/-- A document for an exercise. -/
def toDocument (exercise : Exercise) : Document :=
  .object [("command", .text exercise.command), ("description", .text exercise.description),
    ("explanation", .text exercise.explanation)]

end Exercise

namespace Lesson

/-- The names of the fields, in order. -/
def fieldNames : List String :=
  ["id", "title", "description", "difficulty", "working_directory", "expected_commands",
    "exercises"]

/-- The lesson that a document describes. -/
def ofDocument? (conventions : Conventions) (document : Document) : Option Lesson := do
  match ← fields? conventions fieldNames document with
  | [id, title, description, difficulty, directory, expected, exercises] =>
    some {
      id := ← required text? id
      title := ← required text? title
      description := ← withDefault "" text? description
      difficulty := ← withDefault .beginner (Difficulty.ofDocument? conventions) difficulty
      directory := ← withDefault defaultDirectory text? directory
      expected := ← withDefault [] (list? text?) expected
      exercises := ← withDefault [] (list? (Exercise.ofDocument? conventions)) exercises }
  | _ => none

/-- A document for a lesson, with every field. -/
def toDocument (lesson : Lesson) : Document :=
  .object [("id", .text lesson.id), ("title", .text lesson.title),
    ("description", .text lesson.description),
    ("difficulty", .text lesson.difficulty.name),
    ("working_directory", .text lesson.directory),
    ("expected_commands", .texts lesson.expected),
    ("exercises", .array (lesson.exercises.map Exercise.toDocument))]

/-- The lessons that the document of a lesson file holds. -/
def listOfDocument? (conventions : Conventions) (document : Document) : Option (List Lesson) := do
  match ← fields? conventions ["lessons"] document with
  | [lessons] => withDefault [] (list? (ofDocument? conventions)) lessons
  | _ => none

end Lesson

end ShellPractice
