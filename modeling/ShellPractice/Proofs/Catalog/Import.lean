import ShellPractice.Lesson.Catalog
import ShellPractice.Proofs.Lesson.Repetition

/-!
# Adding several lessons

Lessons that a catalog accepts one at a time are all added when their ids differ.  Otherwise the
lessons before the first repeated id are added, and the lesson that repeats it is refused.
-/

namespace ShellPractice.Catalog

/-- The catalog with more lessons at its end. -/
def extend (catalog : Catalog) (lessons : List Lesson) : Catalog :=
  { catalog with lessons := catalog.lessons ++ lessons }

@[simp]
theorem extend_nil (catalog : Catalog) : catalog.extend [] = catalog := by
  simp [extend]

@[simp]
theorem extend_push (catalog : Catalog) (lesson : Lesson) (lessons : List Lesson) :
    (catalog.push lesson).extend lessons = catalog.extend (lesson :: lessons) := by
  simp [extend, push]

theorem extend_eq_self_iff {catalog : Catalog} {lessons : List Lesson} :
    catalog.extend lessons = catalog ↔ lessons = [] := by
  cases catalog
  simp [extend]

theorem has_extend (catalog : Catalog) (lessons : List Lesson) (id : String) :
    (catalog.extend lessons).has id = (catalog.has id || (lessons.map Lesson.id).contains id) := by
  simp only [extend, has, List.any_append, List.contains_eq_any_beq, List.any_map]
  congr 2
  funext lesson
  simp [eq_comm]

theorem objection?_eq_none_iff {catalog : Catalog} {lesson : Lesson} :
    catalog.objection? lesson = none ↔ lesson.flaw? = none ∧ catalog.has lesson.id = false := by
  unfold objection?
  cases lesson.flaw? <;> simp

/-- After more lessons were added, the only new objection is that one of them has the id. -/
theorem objection?_extend {catalog : Catalog} {lesson : Lesson}
    (acceptable : catalog.objection? lesson = none) (lessons : List Lesson) :
    (catalog.extend lessons).objection? lesson =
      if lesson.id ∈ lessons.map Lesson.id then some (.lessonAlreadyExists lesson.id)
      else none := by
  obtain ⟨flawless, free⟩ := objection?_eq_none_iff.mp acceptable
  by_cases taken : lesson.id ∈ lessons.map Lesson.id <;>
    simp [objection?, flawless, has_extend, free, taken]

theorem objection?_push {catalog : Catalog} {lesson other : Lesson}
    (acceptable : catalog.objection? lesson = none) (different : other.id ≠ lesson.id) :
    (catalog.push other).objection? lesson = none := by
  have extended := objection?_extend acceptable [other]
  rw [← extend_push, extend_nil] at extended
  simpa [Ne.symm different] using extended

theorem addEach_append {catalog : Catalog} {first : List Lesson} (rest : List Lesson)
    (acceptable : ∀ lesson ∈ first, catalog.objection? lesson = none)
    (distinct : (first.map Lesson.id).Nodup) :
    catalog.addEach (first ++ rest) =
      (((catalog.extend first).addEach rest).1,
        ((catalog.extend first).addEach rest).2.map (first.map Lesson.id ++ ·)) := by
  induction first generalizing catalog with
  | nil =>
    rcases result : catalog.addEach rest with ⟨final, error | ids⟩ <;> simp [Except.map, result]
  | cons lesson first ih =>
    simp only [List.map_cons, List.nodup_cons, List.mem_map, not_exists, not_and] at distinct
    obtain ⟨fresh, distinct⟩ := distinct
    have added : catalog.add lesson = .ok (catalog.push lesson) :=
      add_eq_ok_iff.mpr ⟨acceptable lesson List.mem_cons_self, rfl⟩
    have later : ∀ other ∈ first, (catalog.push lesson).objection? other = none := by
      intro other member
      exact objection?_push (acceptable other (List.mem_cons_of_mem _ member))
        (Ne.symm (fresh other member))
    rw [List.cons_append, addEach, added]
    simp only [ih later distinct, extend_push]
    cases ((catalog.extend (lesson :: first)).addEach rest).2 <;> rfl

theorem addEach_of_nodup {catalog : Catalog} {lessons : List Lesson}
    (acceptable : ∀ lesson ∈ lessons, catalog.objection? lesson = none)
    (distinct : (lessons.map Lesson.id).Nodup) :
    catalog.addEach lessons = (catalog.extend lessons, .ok (lessons.map Lesson.id)) := by
  have whole := addEach_append [] acceptable distinct
  rw [List.append_nil] at whole
  simp [whole, addEach, Except.map]

/-- Of acceptable lessons, those before the first repeated id are added. -/
theorem addEach_of_repeat {catalog : Catalog} {lessons : List Lesson} {index : Nat}
    (acceptable : ∀ lesson ∈ lessons, catalog.objection? lesson = none)
    (found : Lesson.firstRepeat? (lessons.map Lesson.id) = some index) :
    ∃ lesson, lessons[index]? = some lesson ∧
      catalog.addEach lessons =
        (catalog.extend (lessons.take index), .error (.lessonAlreadyExists lesson.id)) := by
  have distinct := Lesson.nodup_take_of_firstRepeat? found
  obtain ⟨⟨id, before, here⟩, -⟩ := Lesson.firstRepeat?_eq_some_iff.mp found
  rw [← List.map_take] at before distinct
  rw [List.getElem?_map, Option.map_eq_some_iff] at here
  obtain ⟨lesson, here, rfl⟩ := here
  refine ⟨lesson, here, ?_⟩
  obtain ⟨below, rfl⟩ := List.getElem?_eq_some_iff.mp here
  have refused : (catalog.extend (lessons.take index)).add lessons[index] =
      .error (.lessonAlreadyExists lessons[index].id) := by
    rw [add, objection?_extend (acceptable _ (List.getElem_mem below)), if_pos before]
  have split : lessons = lessons.take index ++ lessons[index] :: lessons.drop (index + 1) := by
    rw [← List.drop_eq_getElem_cons below, List.take_append_drop]
  have kept : ∀ lesson ∈ lessons.take index, catalog.objection? lesson = none :=
    fun lesson member => acceptable lesson (List.mem_of_mem_take member)
  have stopped := addEach_append (lessons[index] :: lessons.drop (index + 1)) kept distinct
  rw [← split, addEach, refused] at stopped
  exact stopped

end ShellPractice.Catalog
