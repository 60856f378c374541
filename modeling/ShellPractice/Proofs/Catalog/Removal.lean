import ShellPractice.Proofs.Catalog.Acceptance

/-!
# Adding and removing

A lesson is added at the end and found, and removed, by its id.  Because ids differ and every protected
id belongs to a lesson that is already there, each of the two undoes the other and passes over all
other lessons.
-/

namespace ShellPractice.Catalog

variable {catalog : Catalog}

theorem remove_eq_ok_iff {id : String} {lesson : Lesson} {rest : Catalog} :
    catalog.remove id = .ok (lesson, rest) ↔
      id ∉ catalog.protectedIds ∧ catalog.get id = .ok lesson ∧ rest = catalog.erase id := by
  rw [get_eq_ok_iff, remove]
  by_cases guarded : id ∈ catalog.protectedIds
  · simp [guarded]
  · cases catalog.find? id with
    | none => simp [guarded]
    | some found => simp [guarded, eq_comm]

theorem get_push_of_ne {lesson : Lesson} {id : String} (other : id ≠ lesson.id) :
    (catalog.push lesson).get id = catalog.get id := by
  rw [get, find?_push, if_neg (Ne.symm other), Option.or_none, get]

/-- What was added last is taken off again. -/
theorem erase_push_self {lesson : Lesson} (free : catalog.has lesson.id = false) :
    (catalog.push lesson).erase lesson.id = catalog := by
  rw [has, List.any_eq_false] at free
  rw [erase, lessons_push, List.eraseP_append_right _ free]
  simp [push]

/-- Where no id stands twice, erasing passes over all lessons but one. -/
theorem lessons_erase (distinct : (catalog.lessons.map Lesson.id).Nodup) (id : String) :
    (catalog.erase id).lessons = catalog.lessons.filter fun lesson => lesson.id ≠ id := by
  change catalog.lessons.eraseP (fun lesson => lesson.id == id) = _
  generalize catalog.lessons = lessons at distinct ⊢
  induction lessons with
  | nil => rfl
  | cons lesson lessons ih =>
    obtain ⟨fresh, distinct⟩ := List.nodup_cons.mp distinct
    by_cases same : lesson.id = id
    · have others : ∀ other ∈ lessons, decide (other.id ≠ id) = true := by
        intro other member
        rw [decide_eq_true_eq]
        intro equal
        rw [same, ← equal] at fresh
        exact fresh (List.mem_map_of_mem member)
      rw [List.eraseP_cons_of_pos (by simpa using same),
        List.filter_cons_of_neg (by simpa using same), List.filter_eq_self.mpr others]
    · rw [List.eraseP_cons_of_neg (by simpa using same),
        List.filter_cons_of_pos (by simpa using same), ih distinct]

theorem get_erase_self (distinct : (catalog.lessons.map Lesson.id).Nodup) (id : String) :
    (catalog.erase id).get id = .error (.lessonNotFound id) := by
  have absent : (catalog.erase id).find? id = none := by
    rw [find?, lessons_erase distinct, List.find?_eq_none]
    intro lesson member
    simpa using (List.mem_filter.mp member).2
  rw [get, absent]

theorem get_erase_of_ne (distinct : (catalog.lessons.map Lesson.id).Nodup) {id other : String}
    (different : other ≠ id) : (catalog.erase id).get other = catalog.get other := by
  have sameFound : (catalog.erase id).find? other = catalog.find? other := by
    rw [find?, find?, lessons_erase distinct, List.find?_filter]
    congr 1
    funext lesson
    by_cases found : lesson.id = other
    · simp [found, different]
    · simp [found]
  rw [get, sameFound, get]

/-- Adding a lesson and removing it again are inverse, and neither touches another lesson. -/
theorem add_remove_inverse (reachable : catalog.Reachable) :
    (∀ lesson extended, catalog.add lesson = .ok extended →
        extended.get lesson.id = .ok lesson ∧
          (∀ id, id ≠ lesson.id → extended.get id = catalog.get id) ∧
          extended.remove lesson.id = .ok (lesson, catalog)) ∧
      ∀ id lesson rest, catalog.remove id = .ok (lesson, rest) →
        catalog.get id = .ok lesson ∧ rest.get id = .error (.lessonNotFound id) ∧
          (∀ other, other ≠ id → rest.get other = catalog.get other) ∧
          rest.lessons = catalog.lessons.filter (fun other => other.id ≠ id) ∧
          rest.protectedIds = catalog.protectedIds := by
  obtain ⟨start, kept⟩ := reachable.exists_keeps
  constructor
  · intro lesson extended added
    obtain ⟨acceptable, rfl⟩ := add_eq_ok_iff.mp added
    have free := (objection?_eq_none_iff.mp acceptable).2
    have unguarded : lesson.id ∉ catalog.protectedIds := by
      intro guarded
      rw [reachable.has_of_mem_protectedIds guarded] at free
      cases free
    refine ⟨get_push_self free, fun id other => get_push_of_ne other, ?_⟩
    exact remove_eq_ok_iff.mpr ⟨unguarded, get_push_self free, (erase_push_self free).symm⟩
  · intro id lesson rest removed
    obtain ⟨-, found, rfl⟩ := remove_eq_ok_iff.mp removed
    exact ⟨found, get_erase_self kept.distinct id,
      fun other different => get_erase_of_ne kept.distinct different,
      lessons_erase kept.distinct id, rfl⟩

/-- The lessons that are always there and two more. -/
def stocked : Catalog :=
  builtIn.performAll (couple.map .add)

theorem add_remove_inverse_stocked :
    (∃ extended, stocked.add (.ofExercises "own" "Own" "" .expert []) = .ok extended ∧
        extended.get oddLesson.id = stocked.get oddLesson.id ∧
        extended.remove "own" = .ok (.ofExercises "own" "Own" "" .expert [], stocked)) ∧
      ∃ rest, stocked.remove oddLesson.id = .ok (oddLesson, rest) ∧
        rest.get oddLesson.id = .error (.lessonNotFound oddLesson.id) ∧
        rest.lessons.length = 9 ∧ rest.get "lab9" = stocked.get "lab9" := by
  have reachable : stocked.Reachable := ⟨builtIn, couple.map .add, Or.inr rfl, rfl⟩
  obtain ⟨whenAdded, whenRemoved⟩ := add_remove_inverse reachable
  have added : stocked.add (.ofExercises "own" "Own" "" .expert []) = .ok _ :=
    add_eq_ok_iff.mpr ⟨by decide, rfl⟩
  have removed : stocked.remove oddLesson.id = .ok (oddLesson, _) :=
    remove_eq_ok_iff.mpr ⟨by decide, by decide, rfl⟩
  obtain ⟨-, others, back⟩ := whenAdded _ _ added
  obtain ⟨-, gone, kept, left, -⟩ := whenRemoved _ _ _ removed
  refine ⟨⟨_, added, others _ (by decide), back⟩, _, removed, gone, ?_, kept _ (by decide)⟩
  rw [left]
  decide

end ShellPractice.Catalog
