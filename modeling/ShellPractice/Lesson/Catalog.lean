import ShellPractice.Error
import ShellPractice.Lesson.BuiltIn

/-!
# The catalog of lessons

Lessons in the order in which they are offered, each with an id of its own.  Some of them are
protected and cannot be taken out again.
-/

namespace ShellPractice

/-- The lessons on offer. -/
structure Catalog where
  lessons : List Lesson
  /-- The ids of the lessons that cannot be removed. -/
  protectedIds : List String
  deriving DecidableEq, Repr

namespace Catalog

/-- The catalog without lessons. -/
def empty : Catalog :=
  ⟨[], []⟩

/-- The catalog of the lessons that are always there. -/
def builtIn : Catalog :=
  ⟨Lesson.builtIn, Lesson.builtIn.map Lesson.id⟩

/-- The lesson with an id. -/
def find? (catalog : Catalog) (id : String) : Option Lesson :=
  catalog.lessons.find? fun lesson => lesson.id == id

/-- Whether a lesson has the id. -/
def has (catalog : Catalog) (id : String) : Bool :=
  catalog.lessons.any fun lesson => lesson.id == id

/-- The lesson with an id, or the error that there is none. -/
def get (catalog : Catalog) (id : String) : Except Error Lesson :=
  match catalog.find? id with
  | some lesson => .ok lesson
  | none => .error (.lessonNotFound id)

/-- Why a lesson cannot be added. -/
def objection? (catalog : Catalog) (lesson : Lesson) : Option Error :=
  match lesson.flaw? with
  | some flaw => some (.ofLessonFlaw lesson flaw)
  | none => if catalog.has lesson.id then some (.lessonAlreadyExists lesson.id) else none

/-- The catalog with one more lesson at its end. -/
def push (catalog : Catalog) (lesson : Lesson) : Catalog :=
  { catalog with lessons := catalog.lessons ++ [lesson] }

/-- Adds a lesson at the end. -/
def add (catalog : Catalog) (lesson : Lesson) : Except Error Catalog :=
  match catalog.objection? lesson with
  | some error => .error error
  | none => .ok (catalog.push lesson)

/-- The catalog without the first lesson that has the id. -/
def erase (catalog : Catalog) (id : String) : Catalog :=
  { catalog with lessons := catalog.lessons.eraseP fun lesson => lesson.id == id }

/-- Takes out a lesson that is not protected; the answer is the lesson and the catalog without
it. -/
def remove (catalog : Catalog) (id : String) : Except Error (Lesson × Catalog) :=
  if catalog.protectedIds.contains id then .error (.cannotRemoveBuiltIn id)
  else
    match catalog.find? id with
    | none => .error (.lessonNotFound id)
    | some lesson => .ok (lesson, catalog.erase id)

/-- Adds lessons one by one up to the first that cannot be added; the lessons before that one stay
in the catalog.  The answer lists the ids that were added. -/
def addEach (catalog : Catalog) : List Lesson → Catalog × Except Error (List String)
  | [] => (catalog, .ok [])
  | lesson :: rest =>
    match catalog.add lesson with
    | .error error => (catalog, .error error)
    | .ok extended =>
      let (final, ids) := extended.addEach rest
      (final, ids.map (lesson.id :: ·))

/-- Adds the lessons of a file in order.  Each is checked against the catalog as it stands before
any of them is added. -/
def addAll (catalog : Catalog) (lessons : List Lesson) :
    Catalog × Except Error (List String) :=
  match lessons.findSome? catalog.objection? with
  | some error => (catalog, .error error)
  | none => catalog.addEach lessons

@[simp]
theorem lessons_push (catalog : Catalog) (lesson : Lesson) :
    (catalog.push lesson).lessons = catalog.lessons ++ [lesson] :=
  rfl

theorem find?_push (catalog : Catalog) (lesson : Lesson) (id : String) :
    (catalog.push lesson).find? id =
      (catalog.find? id).or (if lesson.id = id then some lesson else none) := by
  by_cases same : lesson.id = id <;> simp [find?, List.find?_append, same]

theorem isSome_find? (catalog : Catalog) (id : String) :
    (catalog.find? id).isSome = catalog.has id := by
  rw [Bool.eq_iff_iff]
  simp [find?, has]

theorem add_eq_ok_iff {catalog extended : Catalog} {lesson : Lesson} :
    catalog.add lesson = .ok extended ↔
      catalog.objection? lesson = none ∧ extended = catalog.push lesson := by
  unfold add
  cases catalog.objection? lesson <;> simp [eq_comm]

end Catalog

end ShellPractice
