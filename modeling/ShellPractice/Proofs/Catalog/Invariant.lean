import ShellPractice.Proofs.Catalog.Atomicity

/-!
# What every catalog keeps

Whatever an operation does, it either adds lessons that the catalog accepts and whose ids differ,
or takes out one lesson that is not protected.  So a catalog holds no id twice and no lesson with a
flaw, and the protected lessons with which it started stay where they are.
-/

namespace ShellPractice.Catalog

/-- The catalog after several operations, whether they succeed or fail. -/
def performAll (catalog : Catalog) (operations : List Operation) : Catalog :=
  operations.foldl (fun before operation => (before.perform operation).1) catalog

/-- A catalog that grows by lessons that it accepts and whose ids differ. -/
def GrowsTo (catalog extended : Catalog) : Prop :=
  ∃ added, (∀ lesson ∈ added, catalog.objection? lesson = none) ∧
    (added.map Lesson.id).Nodup ∧ extended = catalog.extend added

theorem growsTo_self (catalog : Catalog) : catalog.GrowsTo catalog :=
  ⟨[], by simp, by simp, by simp⟩

theorem growsTo_push {catalog : Catalog} {lesson : Lesson}
    (acceptable : catalog.objection? lesson = none) : catalog.GrowsTo (catalog.push lesson) :=
  ⟨[lesson], by simpa using acceptable, by simp, by rw [← extend_push, extend_nil]⟩

/-- Of several lessons those before the first that cannot be added are added. -/
theorem growsTo_addAll (catalog : Catalog) (lessons : List Lesson) :
    catalog.GrowsTo (catalog.addAll lessons).1 := by
  cases checked : lessons.findSome? catalog.objection? with
  | some error =>
    rw [fst_addAll_of_objection checked]
    exact catalog.growsTo_self
  | none =>
    have acceptable := List.findSome?_eq_none_iff.mp checked
    rw [addAll_of_acceptable acceptable]
    cases found : Lesson.firstRepeat? (lessons.map Lesson.id) with
    | none =>
      have distinct := Lesson.firstRepeat?_eq_none_iff.mp found
      exact ⟨lessons, acceptable, distinct, by rw [addEach_of_nodup acceptable distinct]⟩
    | some index =>
      obtain ⟨lesson, -, stopped⟩ := addEach_of_repeat acceptable found
      have distinct := Lesson.nodup_take_of_firstRepeat? found
      rw [← List.map_take] at distinct
      refine ⟨lessons.take index, ?_, distinct, by rw [stopped]⟩
      exact fun lesson member => acceptable lesson (List.mem_of_mem_take member)

theorem growsTo_importText (catalog : Catalog) (format : Format) (text : String) :
    catalog.GrowsTo (catalog.importText format text).1 := by
  rw [importText]
  cases format.decode Lesson.listOfDocument? text with
  | error reason => exact catalog.growsTo_self
  | ok lessons => exact catalog.growsTo_addAll lessons

/-- What one operation can do to a catalog. -/
theorem perform_cases (catalog : Catalog) (operation : Operation) :
    catalog.GrowsTo (catalog.perform operation).1 ∨
      ∃ id ∉ catalog.protectedIds, (catalog.perform operation).1 = catalog.erase id := by
  cases operation with
  | add lesson =>
    left
    rw [perform]
    cases result : catalog.add lesson with
    | error error => exact catalog.growsTo_self
    | ok extended =>
      obtain ⟨acceptable, rfl⟩ := add_eq_ok_iff.mp result
      exact growsTo_push acceptable
  | remove id =>
    rw [perform, remove]
    by_cases guarded : catalog.protectedIds.contains id = true
    · rw [if_pos guarded]
      exact Or.inl catalog.growsTo_self
    · rw [if_neg guarded]
      cases catalog.find? id with
      | none => exact Or.inl catalog.growsTo_self
      | some lesson => exact Or.inr ⟨id, by simpa using guarded, rfl⟩
  | importText format text => exact Or.inl (catalog.growsTo_importText format text)
  | loadFile files path =>
    left
    rw [perform, value_loadFile]
    cases files.readText path with
    | error error => exact catalog.growsTo_self
    | ok text => exact catalog.growsTo_importText (Format.ofPath path) text

/-- What stays true of a catalog that came from another one by operations. -/
structure Keeps (catalog origin : Catalog) : Prop where
  distinct : (catalog.lessons.map Lesson.id).Nodup
  flawless : ∀ lesson ∈ catalog.lessons, lesson.flaw? = none
  protectedIds : catalog.protectedIds = origin.protectedIds
  beginning : origin.lessons <+: catalog.lessons

section Steps

variable {origin catalog : Catalog}

theorem Keeps.of_growsTo {extended : Catalog} (kept : catalog.Keeps origin)
    (grows : catalog.GrowsTo extended) : extended.Keeps origin := by
  obtain ⟨added, acceptable, distinct, rfl⟩ := grows
  have fresh (lesson : Lesson) (member : lesson ∈ added) :
      lesson.flaw? = none ∧ catalog.has lesson.id = false :=
    objection?_eq_none_iff.mp (acceptable lesson member)
  refine ⟨?_, ?_, kept.protectedIds, kept.beginning.trans (List.prefix_append _ _)⟩
  · rw [extend, List.map_append, List.nodup_append]
    refine ⟨kept.distinct, distinct, ?_⟩
    rintro id here _ there rfl
    obtain ⟨lesson, member, rfl⟩ := List.mem_map.mp there
    obtain ⟨other, present, same⟩ := List.mem_map.mp here
    have absent := (fresh lesson member).2
    rw [has, List.any_eq_false] at absent
    exact absent other present (by simpa using same)
  · intro lesson member
    rcases List.mem_append.mp member with old | new
    · exact kept.flawless lesson old
    · exact (fresh lesson new).1

/-- Taking out a lesson that is not protected passes over the protected ones. -/
theorem Keeps.erase (kept : catalog.Keeps origin)
    (guarded : ∀ lesson ∈ origin.lessons, lesson.id ∈ origin.protectedIds) {id : String}
    (free : id ∉ catalog.protectedIds) : (catalog.erase id).Keeps origin := by
  have shorter : (catalog.erase id).lessons.Sublist catalog.lessons := List.eraseP_sublist
  refine ⟨kept.distinct.sublist (shorter.map Lesson.id),
    fun lesson member => kept.flawless lesson (shorter.subset member), kept.protectedIds, ?_⟩
  obtain ⟨rest, whole⟩ := kept.beginning
  -- Every lesson of the start is protected, so the one to erase is found behind them.
  rw [Catalog.erase, ← whole, List.eraseP_append_right]
  · exact List.prefix_append _ _
  · intro lesson member same
    rw [kept.protectedIds, ← beq_iff_eq.mp same] at free
    exact free (guarded lesson member)

theorem Keeps.perform (kept : catalog.Keeps origin)
    (guarded : ∀ lesson ∈ origin.lessons, lesson.id ∈ origin.protectedIds)
    (operation : Operation) : (catalog.perform operation).1.Keeps origin := by
  rcases catalog.perform_cases operation with grows | ⟨id, free, erased⟩
  · exact kept.of_growsTo grows
  · rw [erased]
    exact kept.erase guarded free

theorem Keeps.performAll (kept : catalog.Keeps origin)
    (guarded : ∀ lesson ∈ origin.lessons, lesson.id ∈ origin.protectedIds)
    (operations : List Operation) : (catalog.performAll operations).Keeps origin := by
  induction operations generalizing catalog with
  | nil => exact kept
  | cons operation rest ih => exact ih (kept.perform guarded operation)

end Steps

theorem keeps_empty : empty.Keeps empty :=
  ⟨List.nodup_nil, by simp [empty], rfl, List.prefix_refl _⟩

theorem keeps_builtIn : builtIn.Keeps builtIn :=
  ⟨by decide, by decide, rfl, List.prefix_refl _⟩

/-- A catalog that grew out of the one without lessons or the one of the lessons that are always
there. -/
theorem keeps_performAll {start : Catalog} (known : start = empty ∨ start = builtIn)
    (operations : List Operation) : (start.performAll operations).Keeps start := by
  rcases known with rfl | rfl
  · exact keeps_empty.performAll (by simp [empty]) operations
  · refine keeps_builtIn.performAll ?_ operations
    exact fun lesson member => List.mem_map_of_mem member

/-- A catalog that operations lead to from one of those to start with. -/
def Reachable (catalog : Catalog) : Prop :=
  ∃ start operations, (start = empty ∨ start = builtIn) ∧ catalog = start.performAll operations

theorem Reachable.exists_keeps {catalog : Catalog} (reachable : catalog.Reachable) :
    ∃ start, catalog.Keeps start := by
  obtain ⟨start, operations, known, rfl⟩ := reachable
  exact ⟨start, keeps_performAll known operations⟩

/-- Where no id stands twice, a lesson is found by its id. -/
theorem get_of_mem {catalog : Catalog} {lesson : Lesson}
    (distinct : (catalog.lessons.map Lesson.id).Nodup) (member : lesson ∈ catalog.lessons) :
    catalog.get lesson.id = .ok lesson := by
  have present : (catalog.find? lesson.id).isSome = true := by
    rw [isSome_find?, has, List.any_eq_true]
    exact ⟨lesson, member, beq_self_eq_true _⟩
  obtain ⟨other, found⟩ := Option.isSome_iff_exists.mp present
  have same : other.id = lesson.id := by simpa using List.find?_some found
  obtain rfl : other = lesson :=
    List.inj_on_of_nodup_map distinct (List.mem_of_find?_eq_some found) member same
  rw [get, found]

/-- After any operations, successful or not: ids differ, no lesson has a flaw, the protected ids are
those of the start, and the lessons that are always there stand unchanged at the beginning. -/
theorem performAll_keeps_start (operations : List Operation) :
    (∀ start, start = empty ∨ start = builtIn →
        ((start.performAll operations).lessons.map Lesson.id).Nodup ∧
          (∀ lesson ∈ (start.performAll operations).lessons, lesson.flaw? = none) ∧
          (start.performAll operations).protectedIds = start.protectedIds) ∧
      (builtIn.performAll operations).lessons.take 8 = Lesson.builtIn ∧
      ∀ lesson ∈ Lesson.builtIn,
        (builtIn.performAll operations).get lesson.id = .ok lesson := by
  refine ⟨fun start known => ?_, ?_, fun lesson member => ?_⟩
  · have kept := keeps_performAll known operations
    exact ⟨kept.distinct, kept.flawless, kept.protectedIds⟩
  · have kept := keeps_performAll (Or.inr rfl) operations
    exact (List.prefix_iff_eq_take.mp kept.beginning).symm
  · have kept := keeps_performAll (Or.inr rfl) operations
    exact get_of_mem kept.distinct (kept.beginning.subset member)

/-- Adding a lesson, adding it again, and removing a protected one. -/
def busyDay : List Operation :=
  [.add (.ofExercises "own" "Own" "" .expert [⟨"ls", "", ""⟩]),
    .add (.ofExercises "own" "Again" "" .beginner []), .remove "lab1"]

theorem performAll_busyDay :
    (builtIn.performAll busyDay).lessons.length = 9 ∧
      ((builtIn.performAll busyDay).lessons.map Lesson.id).Nodup ∧
      (builtIn.performAll busyDay).protectedIds = builtIn.protectedIds ∧
      (builtIn.performAll busyDay).get "lab1" = .ok Lesson.navigationBasics := by
  obtain ⟨kept, -, found⟩ := performAll_keeps_start busyDay
  obtain ⟨distinct, -, guarded⟩ := kept builtIn (Or.inr rfl)
  exact ⟨by decide, distinct, guarded, found Lesson.navigationBasics List.mem_cons_self⟩

end ShellPractice.Catalog
