import ShellPractice.Lesson.Catalog
import ShellPractice.Text.Padding

/-!
# The list of lessons

One line a lesson, in columns.  A lesson that cannot be finished, since a step repeats an earlier
one, is marked.
-/

namespace ShellPractice.CommandLine

/-- The mark of a lesson that cannot be finished. -/
def repeatMark (lesson : Lesson) : String :=
  match lesson.repeatedStep? with
  | some step =>
    " (stops at step " ++ toString (step + 1) ++ ": repeats a completed command)"
  | none => ""

/-- The line of a lesson. -/
def listingLine (lesson : Lesson) : String :=
  Text.padRight 8 lesson.id ++ " " ++ Text.padRight 24 lesson.title ++ " " ++
    Text.padRight 13 lesson.difficulty.name ++ " " ++ toString lesson.expected.length ++
    " steps  " ++ lesson.description ++ repeatMark lesson ++ "\n"

/-- The lines of all lessons, in the order of the catalog. -/
def listing (catalog : Catalog) : String :=
  String.join (catalog.lessons.map listingLine)

end ShellPractice.CommandLine
