import ShellPractice.Lesson.File

/-!
# Operations on a catalog

Every way to change a catalog, as one step that leaves a catalog and an answer whether it succeeds
or fails.
-/

namespace ShellPractice.Catalog

/-- A change that is asked for. -/
inductive Operation where
  | add (lesson : Lesson)
  | remove (id : String)
  | importText (format : Format) (text : String)
  | loadFile (files : FileTree) (path : Path)

/-- What a successful operation answers. -/
inductive Answer where
  | added
  | removed (lesson : Lesson)
  | imported (ids : List String)
  deriving DecidableEq, Repr

/-- The catalog after an operation, and the answer or the reason of its failure. -/
def perform (catalog : Catalog) : Operation → Catalog × Except Error Answer
  | .add lesson =>
    match catalog.add lesson with
    | .ok extended => (extended, .ok .added)
    | .error error => (catalog, .error error)
  | .remove id =>
    match catalog.remove id with
    | .ok (lesson, rest) => (rest, .ok (.removed lesson))
    | .error error => (catalog, .error error)
  | .importText format text =>
    ((catalog.importText format text).1, (catalog.importText format text).2.map .imported)
  | .loadFile files path =>
    ((catalog.loadFile files path).value.1, (catalog.loadFile files path).value.2.map .imported)

namespace Operation

/-- The lessons that an operation imports, where they can be read. -/
def lessons? : Operation → Option (List Lesson)
  | add _ | remove _ => none
  | importText format text => (format.decode Lesson.listOfDocument? text).toOption
  | loadFile files path =>
    (files.readText path).toOption.bind fun text =>
      ((Format.ofPath path).decode Lesson.listOfDocument? text).toOption

end Operation

theorem importText_of_read {catalog : Catalog} {format : Format} {text : String}
    {lessons : List Lesson}
    (read : (format.decode Lesson.listOfDocument? text).toOption = some lessons) :
    catalog.importText format text = catalog.addAll lessons := by
  rw [importText]
  cases result : format.decode Lesson.listOfDocument? text with
  | error reason => simp [result, Except.toOption] at read
  | ok decoded =>
    obtain rfl : decoded = lessons := by simpa [result, Except.toOption] using read
    rfl

theorem importText_of_unread {catalog : Catalog} {format : Format} {text : String}
    (unread : (format.decode Lesson.listOfDocument? text).toOption = none) :
    (catalog.importText format text).1 = catalog := by
  rw [importText]
  cases result : format.decode Lesson.listOfDocument? text with
  | error reason => rfl
  | ok decoded => simp [result, Except.toOption] at unread

/-- A file is imported as its text is; only the log differs. -/
theorem value_loadFile (catalog : Catalog) (files : FileTree) (path : Path) :
    (catalog.loadFile files path).value =
      match files.readText path with
      | .error error => (catalog, .error (.file error.message))
      | .ok text => catalog.importText (Format.ofPath path) text := by
  rw [loadFile]
  cases files.readText path with
  | error error => rfl
  | ok text =>
    rcases imported : catalog.importText (Format.ofPath path) text with ⟨final, error | ids⟩ <;>
      simp [imported]

theorem perform_of_lessons? {operation : Operation} {lessons : List Lesson}
    (read : operation.lessons? = some lessons) (catalog : Catalog) :
    catalog.perform operation =
      ((catalog.addAll lessons).1, (catalog.addAll lessons).2.map .imported) := by
  cases operation with
  | add lesson => cases read
  | remove id => cases read
  | importText format text => rw [perform, importText_of_read read]
  | loadFile files path =>
    rw [perform, value_loadFile]
    simp only [Operation.lessons?] at read
    cases content : files.readText path with
    | error error => simp [content, Except.toOption] at read
    | ok text =>
      rw [content] at read
      simp only [importText_of_read read]

/-- An operation that fails before it has read any lessons changes nothing. -/
theorem perform_of_lessons?_eq_none {catalog : Catalog} {operation : Operation} {error : Error}
    (unread : operation.lessons? = none) (failed : (catalog.perform operation).2 = .error error) :
    (catalog.perform operation).1 = catalog := by
  cases operation with
  | add lesson =>
    rw [perform] at failed ⊢
    cases result : catalog.add lesson with
    | error error => rfl
    | ok extended => simp [result] at failed
  | remove id =>
    rw [perform] at failed ⊢
    cases result : catalog.remove id with
    | error error => rfl
    | ok removed => simp [result] at failed
  | importText format text => exact importText_of_unread unread
  | loadFile files path =>
    rw [perform, value_loadFile]
    simp only [Operation.lessons?] at unread
    cases content : files.readText path with
    | error error => rfl
    | ok text =>
      rw [content] at unread
      exact importText_of_unread unread

end ShellPractice.Catalog
