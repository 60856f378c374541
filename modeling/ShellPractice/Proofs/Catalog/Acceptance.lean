import ShellPractice.Proofs.Catalog.Export

/-!
# Which lessons are imported

Lessons are imported exactly if none of them has a flaw, none has an id of the catalog, and their ids
differ.  They stand behind the lessons of the catalog then, in the order of the file, and can be taken
out again: every protected id belongs to a lesson that was there before.
-/

namespace ShellPractice.Catalog

variable {catalog : Catalog} {lessons : List Lesson}

/-- All lessons are added, or the answer is an error. -/
theorem addAll_eq_ok_iff {ids : List String} :
    (catalog.addAll lessons).2 = .ok ids ↔
      (∀ lesson ∈ lessons, catalog.objection? lesson = none) ∧ (lessons.map Lesson.id).Nodup ∧
        ids = lessons.map Lesson.id := by
  cases checked : lessons.findSome? catalog.objection? with
  | some error =>
    obtain ⟨lesson, member, objection⟩ := List.exists_of_findSome?_eq_some checked
    have refused : (catalog.addAll lessons).2 = .error error := by rw [addAll, checked]
    rw [refused]
    constructor
    · intro added
      cases added
    · rintro ⟨acceptable, -⟩
      rw [acceptable lesson member] at objection
      cases objection
  | none =>
    have acceptable := List.findSome?_eq_none_iff.mp checked
    rw [addAll_of_acceptable acceptable]
    cases found : Lesson.firstRepeat? (lessons.map Lesson.id) with
    | none =>
      have distinct := Lesson.firstRepeat?_eq_none_iff.mp found
      rw [addEach_of_nodup acceptable distinct, Except.ok.injEq, eq_comm]
      exact ⟨fun same => ⟨acceptable, distinct, same⟩, fun all => all.2.2⟩
    | some index =>
      obtain ⟨lesson, -, stopped⟩ := addEach_of_repeat acceptable found
      rw [stopped]
      constructor
      · intro added
        cases added
      · rintro ⟨-, distinct, -⟩
        rw [Lesson.firstRepeat?_eq_none_iff.mpr distinct] at found
        cases found

theorem fst_addAll_of_ok {ids : List String} (added : (catalog.addAll lessons).2 = .ok ids) :
    (catalog.addAll lessons).1 = catalog.extend lessons := by
  obtain ⟨acceptable, distinct, -⟩ := addAll_eq_ok_iff.mp added
  rw [addAll_of_acceptable acceptable, addEach_of_nodup acceptable distinct]

/-- Every protected id is the id of a lesson in the catalog. -/
theorem Reachable.has_of_mem_protectedIds (reachable : catalog.Reachable) {id : String}
    (guarded : id ∈ catalog.protectedIds) : catalog.has id = true := by
  obtain ⟨start, operations, known, rfl⟩ := reachable
  have kept := keeps_performAll known operations
  have there : ∃ lesson ∈ start.lessons, lesson.id = id := by
    rw [kept.protectedIds] at guarded
    rcases known with rfl | rfl
    · cases guarded
    · exact List.mem_map.mp guarded
  obtain ⟨lesson, member, same⟩ := there
  rw [has, List.any_eq_true]
  exact ⟨lesson, kept.beginning.subset member, beq_iff_eq.mpr same⟩

theorem remove_of_mem {lesson : Lesson} (distinct : (catalog.lessons.map Lesson.id).Nodup)
    (member : lesson ∈ catalog.lessons) (free : lesson.id ∉ catalog.protectedIds) :
    catalog.remove lesson.id = .ok (lesson, catalog.erase lesson.id) := by
  have found := get_eq_ok_iff.mp (get_of_mem distinct member)
  rw [remove, if_neg (by simpa using free), found]

/-- An import succeeds exactly if no lesson has a flaw, no id is taken and the ids differ.  Then it
is an append: the lessons follow those of the catalog, the answer lists their ids, and each of them
can be removed. -/
theorem importText_eq_ok_iff (reachable : catalog.Reachable) {format : Format} {text : String}
    (read : format.decode Lesson.listOfDocument? text = .ok lessons) :
    ((∃ ids, (catalog.importText format text).2 = .ok ids) ↔
        (∀ lesson ∈ lessons, lesson.flaw? = none) ∧
          (∀ lesson ∈ lessons, catalog.has lesson.id = false) ∧
          (lessons.map Lesson.id).Nodup) ∧
      ∀ ids, (catalog.importText format text).2 = .ok ids →
        (catalog.importText format text).1.lessons = catalog.lessons ++ lessons ∧
          ids = lessons.map Lesson.id ∧
          (catalog.importText format text).1.protectedIds = catalog.protectedIds ∧
          ∀ lesson ∈ lessons, ∃ rest,
            (catalog.importText format text).1.remove lesson.id = .ok (lesson, rest) := by
  have imported : catalog.importText format text = catalog.addAll lessons := by
    rw [importText, read]
  rw [imported]
  refine ⟨⟨?_, ?_⟩, fun ids added => ?_⟩
  · rintro ⟨ids, added⟩
    obtain ⟨acceptable, distinct, -⟩ := addAll_eq_ok_iff.mp added
    simp only [objection?_eq_none_iff] at acceptable
    exact ⟨fun lesson member => (acceptable lesson member).1,
      fun lesson member => (acceptable lesson member).2, distinct⟩
  · rintro ⟨flawless, free, distinct⟩
    refine ⟨lessons.map Lesson.id, addAll_eq_ok_iff.mpr ⟨?_, distinct, rfl⟩⟩
    intro lesson member
    exact objection?_eq_none_iff.mpr ⟨flawless lesson member, free lesson member⟩
  · obtain ⟨acceptable, distinct, rfl⟩ := addAll_eq_ok_iff.mp added
    obtain ⟨start, kept⟩ := reachable.exists_keeps
    have grown := kept.of_growsTo ⟨lessons, acceptable, distinct, rfl⟩
    rw [fst_addAll_of_ok added]
    refine ⟨rfl, rfl, rfl, fun lesson member => ?_⟩
    have free : lesson.id ∉ catalog.protectedIds := by
      intro guarded
      have taken := reachable.has_of_mem_protectedIds guarded
      rw [(objection?_eq_none_iff.mp (acceptable lesson member)).2] at taken
      cases taken
    exact ⟨_, remove_of_mem grown.distinct (List.mem_append_right _ member) free⟩

/-- The text of a lesson file. -/
def lessonsFile (lessons : List Lesson) : String :=
  Json.write (.object [("lessons", .array (lessons.map Lesson.toDocument))])

/-- Every list of lessons has a lesson file. -/
theorem decode_lessonsFile (lessons : List Lesson) :
    Format.json.decode Lesson.listOfDocument? (lessonsFile lessons) = .ok lessons := by
  have items : Json.IsFaithful (.array (lessons.map Lesson.toDocument)) := by
    refine .array fun item member => ?_
    obtain ⟨lesson, -, rfl⟩ := List.mem_map.mp member
    exact lesson.isFaithful_toDocument
  have file : Json.IsFaithful (.object [("lessons", .array (lessons.map Lesson.toDocument))]) :=
    .object (by simp [items])
  have read : Format.json.read? (lessonsFile lessons) = _ := Json.read?_write file
  simp only [Format.decode, read, Lesson.listOfDocument?_object]

/-- Two lessons of different ids. -/
def couple : List Lesson :=
  [oddLesson, .ofExercises "lab9" "Ninth" "" .beginner [⟨"ls", "", ""⟩]]

theorem importText_couple :
    (∃ ids, (builtIn.importText .json (lessonsFile couple)).2 = .ok ids) ∧
      (builtIn.importText .json (lessonsFile couple)).1.lessons = builtIn.lessons ++ couple ∧
      ∀ lesson ∈ couple, ∃ rest,
        (builtIn.importText .json (lessonsFile couple)).1.remove lesson.id = .ok (lesson, rest) := by
  have reachable : builtIn.Reachable := ⟨builtIn, [], Or.inr rfl, rfl⟩
  obtain ⟨accepted, append⟩ := importText_eq_ok_iff reachable (decode_lessonsFile couple)
  have added := accepted.mpr ⟨by decide, by decide, by decide⟩
  obtain ⟨ids, answer⟩ := added
  obtain ⟨lessons, -, -, removable⟩ := append ids answer
  exact ⟨⟨ids, answer⟩, lessons, removable⟩

end ShellPractice.Catalog
