import ShellPractice.Config.Store
import ShellPractice.Lesson.Catalog
import ShellPractice.Lesson.Document
import ShellPractice.Log

/-!
# Lesson files

Lessons are imported from files in either format, and exported one by one as JSON.
-/

namespace ShellPractice.Catalog

/-- Adds the lessons of a text in a format.  The answer lists their ids. -/
def importText (catalog : Catalog) (format : Format) (text : String) :
    Catalog × Except Error (List String) :=
  match format.decode Lesson.listOfDocument? text with
  | .error reason => (catalog, .error (.lessonImportFailed reason))
  | .ok lessons => catalog.addAll lessons

/-- Adds the lessons of a file, in the format that its extension names. -/
def loadFile (catalog : Catalog) (files : FileTree) (path : Path) :
    Logged (Catalog × Except Error (List String)) :=
  match files.readText path with
  | .error error => pure (catalog, .error (.file error.message))
  | .ok text =>
    match catalog.importText (Format.ofPath path) text with
    | (extended, .ok ids) => do
      Logged.record (.lessonsLoaded ids.length path.text)
      pure (extended, .ok ids)
    | result => pure result

/-- A lesson as JSON text. -/
def exportJson (catalog : Catalog) (id : String) : Except Error String :=
  (catalog.get id).map fun lesson => Json.write lesson.toDocument

end ShellPractice.Catalog
