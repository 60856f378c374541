import ShellPractice.Proofs.Catalog.Import
import ShellPractice.Proofs.Catalog.Operation

/-!
# What a failed operation leaves behind

Operations check before they change anything, and the lessons of a file are all checked before the
first is added.  This check does not compare the lessons of the file with each other, so lessons
that share an id are noticed too late: the ones before the first repeated id stay in the catalog.
This is the only failure that changes a catalog.
-/

namespace ShellPractice.Catalog

theorem addAll_of_acceptable {catalog : Catalog} {lessons : List Lesson}
    (acceptable : ∀ lesson ∈ lessons, catalog.objection? lesson = none) :
    catalog.addAll lessons = catalog.addEach lessons := by
  rw [addAll, List.findSome?_eq_none_iff.mpr acceptable]

theorem fst_addAll_of_objection {catalog : Catalog} {lessons : List Lesson} {error : Error}
    (objection : lessons.findSome? catalog.objection? = some error) :
    (catalog.addAll lessons).1 = catalog := by
  rw [addAll, objection]

/-- Lessons that share an id are added up to the first repeated one, when each of them is
acceptable by itself. -/
theorem perform_of_firstRepeat? {catalog : Catalog} {operation : Operation}
    {lessons : List Lesson} {index : Nat} (read : operation.lessons? = some lessons)
    (acceptable : ∀ lesson ∈ lessons, catalog.objection? lesson = none)
    (found : Lesson.firstRepeat? (lessons.map Lesson.id) = some index) :
    ∃ lesson, lessons[index]? = some lesson ∧
      catalog.perform operation =
        (catalog.extend (lessons.take index), .error (.lessonAlreadyExists lesson.id)) := by
  obtain ⟨lesson, here, stopped⟩ := addEach_of_repeat acceptable found
  refine ⟨lesson, here, ?_⟩
  rw [perform_of_lessons? read, addAll_of_acceptable acceptable, stopped]
  rfl

/-- A failed import changes the catalog only if its lessons are acceptable one at a time and two
of them share an id. -/
theorem repeats_of_failed_changes {catalog : Catalog} {operation : Operation} {error : Error}
    (failed : (catalog.perform operation).2 = .error error)
    (changed : (catalog.perform operation).1 ≠ catalog) :
    ∃ lessons, operation.lessons? = some lessons ∧
      (∀ lesson ∈ lessons, catalog.objection? lesson = none) ∧
      ¬ (lessons.map Lesson.id).Nodup := by
  cases read : operation.lessons? with
  | none => exact absurd (perform_of_lessons?_eq_none read failed) changed
  | some lessons =>
    rw [perform_of_lessons? read] at failed changed
    cases checked : lessons.findSome? catalog.objection? with
    | some objection => exact absurd (fst_addAll_of_objection checked) changed
    | none =>
      have acceptable := List.findSome?_eq_none_iff.mp checked
      refine ⟨lessons, rfl, acceptable, fun distinct => ?_⟩
      rw [addAll_of_acceptable acceptable, addEach_of_nodup acceptable distinct] at failed
      cases failed

/-- Something stands before a repeated item, so a catalog that keeps it has grown. -/
theorem extend_take_ne_self {catalog : Catalog} {lessons : List Lesson} {index : Nat}
    (found : Lesson.firstRepeat? (lessons.map Lesson.id) = some index) :
    catalog.extend (lessons.take index) ≠ catalog := by
  obtain ⟨⟨id, before, -⟩, -⟩ := Lesson.firstRepeat?_eq_some_iff.mp found
  rw [← List.map_take] at before
  intro same
  rw [extend_eq_self_iff.mp same] at before
  cases before

/-- A failed operation leaves the catalog as it was, unless it imports lessons that would each be
accepted alone and two of which share an id.  Then the lessons before the first repeated id stay,
and the error names this id. -/
theorem failed_perform_changes_iff (catalog : Catalog) (operation : Operation) :
    ((∃ error, (catalog.perform operation).2 = .error error) ∧
        (catalog.perform operation).1 ≠ catalog ↔
      ∃ lessons, operation.lessons? = some lessons ∧
        (∀ lesson ∈ lessons, lesson.flaw? = none ∧ catalog.has lesson.id = false) ∧
        ¬ (lessons.map Lesson.id).Nodup) ∧
    ∀ lessons index, operation.lessons? = some lessons →
      (∀ lesson ∈ lessons, lesson.flaw? = none ∧ catalog.has lesson.id = false) →
      Lesson.firstRepeat? (lessons.map Lesson.id) = some index →
      ∃ lesson, lessons[index]? = some lesson ∧
        catalog.perform operation =
          (catalog.extend (lessons.take index), .error (.lessonAlreadyExists lesson.id)) := by
  simp only [← objection?_eq_none_iff]
  refine ⟨⟨?_, ?_⟩, fun lessons index => perform_of_firstRepeat?⟩
  · rintro ⟨⟨error, failed⟩, changed⟩
    exact repeats_of_failed_changes failed changed
  · rintro ⟨lessons, read, acceptable, repeated⟩
    obtain ⟨index, found⟩ := Option.ne_none_iff_exists'.mp
      (mt Lesson.firstRepeat?_eq_none_iff.mp repeated)
    obtain ⟨lesson, -, stopped⟩ := perform_of_firstRepeat? read acceptable found
    rw [stopped]
    exact ⟨⟨_, rfl⟩, extend_take_ne_self found⟩

/-- Two lessons of one id. -/
def twins : List Lesson :=
  [.ofExercises "a" "First" "" .beginner [], .ofExercises "a" "Second" "" .beginner []]

/-- A file with two lessons of one id. -/
def twinsFile : String :=
  "[[lessons]]\nid = \"a\"\ntitle = \"First\"\n[[lessons]]\nid = \"a\"\ntitle = \"Second\"\n"

/-- The import of two lessons of one id fails and leaves the first of them in the catalog. -/
theorem perform_twinsFile :
    (Operation.importText .toml twinsFile).lessons? = some twins ∧
      (∀ lesson ∈ twins, lesson.flaw? = none ∧ empty.has lesson.id = false) ∧
      Lesson.firstRepeat? (twins.map Lesson.id) = some 1 ∧
      empty.perform (.importText .toml twinsFile) =
        (⟨twins.take 1, []⟩, .error (.lessonAlreadyExists "a")) := by
  have read : (Operation.importText .toml twinsFile).lessons? = some twins := by decide +kernel
  have acceptable : ∀ lesson ∈ twins, lesson.flaw? = none ∧ empty.has lesson.id = false := by
    decide +kernel
  have found : Lesson.firstRepeat? (twins.map Lesson.id) = some 1 := by decide +kernel
  refine ⟨read, acceptable, found, ?_⟩
  obtain ⟨lesson, here, stopped⟩ :=
    (failed_perform_changes_iff empty _).2 twins 1 read acceptable found
  obtain rfl : twins[1] = lesson := by simpa [twins] using here
  exact stopped

end ShellPractice.Catalog
