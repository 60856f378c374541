import ShellPractice.Proofs.Catalog.Invariant
import ShellPractice.Proofs.Json.RoundTrip
import ShellPractice.Proofs.Lesson.Document

/-!
# Lessons that go from one catalog to another

A lesson is exported as text.  Put into a lesson file, this text is imported by any catalog that
does not have the lesson yet, and the lesson there is the same in every field.
-/

namespace ShellPractice

open Json

theorem Exercise.isFaithful_toDocument (exercise : Exercise) : IsFaithful exercise.toDocument :=
  .object (by simp [IsFaithful.text])

theorem Lesson.isFaithful_toDocument (lesson : Lesson) : IsFaithful lesson.toDocument := by
  have exercises : IsFaithful (.array (lesson.exercises.map Exercise.toDocument)) := by
    refine .array fun item member => ?_
    obtain ⟨exercise, -, rfl⟩ := List.mem_map.mp member
    exact exercise.isFaithful_toDocument
  exact .object (by simp [IsFaithful.text, isFaithful_texts, exercises])

namespace Catalog

/-- A lesson file with one lesson, given its text. -/
def lessonFile (lesson : String) : String :=
  "\x7b\"lessons\": [" ++ lesson ++ "]\x7d"

theorem toList_lessonFile (lesson : String) :
    (lessonFile lesson).toList =
      '\x7b' :: (quotedChars "lessons" ++
        ':' :: ' ' :: '[' :: (lesson.toList ++ [']', '\x7d'])) := by
  have opening : "\x7b\"lessons\": [".toList =
      '\x7b' :: (quotedChars "lessons" ++ [':', ' ', '[']) := by decide
  simp [lessonFile, opening]

/-- The lesson file with a written lesson is read as a list of this lesson. -/
theorem read?_lessonFile (lesson : Lesson) :
    Json.read? (lessonFile (Json.write lesson.toDocument)) =
      some (.object [("lessons", .array [lesson.toDocument])]) := by
  have written : (Json.write lesson.toDocument).toList = writtenAt 0 lesson.toDocument := by
    simp [Json.write]
  have name : (quotedChars "lessons").length = 9 := by decide
  have length : (lessonFile (Json.write lesson.toDocument)).length + 1 =
      (writtenAt 0 lesson.toDocument).length + 14 + 2 := by
    rw [← String.length_toList, toList_lessonFile, written]
    simp [name]
    omega
  have list : value? ((writtenAt 0 lesson.toDocument).length + 14)
      ('[' :: (writtenAt 0 lesson.toDocument ++ [']', '\x7d'])) = _ :=
    value?_array_of_one lesson.isFaithful_toDocument (by omega) ['\x7d']
  rw [Json.read?, length, toList_lessonFile, written, value?_object_of_one list]
  rfl

theorem decode_lessonFile (lesson : Lesson) :
    (Format.json.decode Lesson.listOfDocument?
      (lessonFile (Json.write lesson.toDocument))).toOption = some [lesson] := by
  have list := Lesson.listOfDocument?_object Format.json.conventions [lesson]
  rw [List.map_singleton] at list
  rw [Format.decode, Format.read?, read?_lessonFile]
  simp only [list, Except.toOption]

theorem get_eq_ok_iff {catalog : Catalog} {id : String} {lesson : Lesson} :
    catalog.get id = .ok lesson ↔ catalog.find? id = some lesson := by
  rw [get]
  cases catalog.find? id <;> simp

theorem flaw?_of_get {catalog : Catalog} {id : String} {lesson : Lesson}
    (reachable : catalog.Reachable) (found : catalog.get id = .ok lesson) :
    lesson.flaw? = none := by
  obtain ⟨start, kept⟩ := reachable.exists_keeps
  exact kept.flawless lesson (List.mem_of_find?_eq_some (get_eq_ok_iff.mp found))

theorem id_of_get {catalog : Catalog} {id : String} {lesson : Lesson}
    (found : catalog.get id = .ok lesson) : lesson.id = id := by
  simpa using List.find?_some (get_eq_ok_iff.mp found)

theorem get_push_self {catalog : Catalog} {lesson : Lesson}
    (free : catalog.has lesson.id = false) :
    (catalog.push lesson).get lesson.id = .ok lesson := by
  have absent : catalog.find? lesson.id = none := by
    rw [← Option.not_isSome_iff_eq_none, isSome_find?, free]
    simp
  rw [get_eq_ok_iff, find?_push, absent, if_pos rfl, Option.none_or]

/-- Whatever a catalog exports, any catalog without its id takes in and finds unchanged. -/
theorem importText_exportJson {source target : Catalog} {id : String} {lesson : Lesson}
    (reachable : source.Reachable) (found : source.get id = .ok lesson)
    (free : target.has id = false) :
    ∃ text, source.exportJson id = .ok text ∧
      target.importText .json (lessonFile text) = (target.push lesson, .ok [id]) ∧
      (target.push lesson).get id = .ok lesson := by
  obtain rfl := id_of_get found
  refine ⟨Json.write lesson.toDocument, by rw [exportJson, found]; rfl, ?_, get_push_self free⟩
  have acceptable : target.objection? lesson = none :=
    objection?_eq_none_iff.mpr ⟨flaw?_of_get reachable found, free⟩
  rw [importText_of_read (decode_lessonFile lesson),
    addAll_of_acceptable (by simpa using acceptable),
    addEach_of_nodup (by simpa using acceptable) (by simp), ← extend_push, extend_nil]
  rfl

/-- A lesson with quotes, backslashes, control characters and characters beyond ASCII. -/
def oddLesson : Lesson :=
  .ofExercises "\"a\\\n\x01é😀" "\t\x7f" "" .expert [⟨"echo \"\"", "\r", "\x08\x0c/"⟩, ⟨"", "", ""⟩]

theorem importText_exportJson_oddLesson :
    (builtIn.performAll [.add oddLesson]).get oddLesson.id = .ok oddLesson ∧
      empty.has oddLesson.id = false ∧
      ∃ text, (builtIn.performAll [.add oddLesson]).exportJson oddLesson.id = .ok text ∧
        empty.importText .json (lessonFile text) = (empty.push oddLesson, .ok [oddLesson.id]) ∧
        (empty.push oddLesson).get oddLesson.id = .ok oddLesson := by
  have reachable : (builtIn.performAll [.add oddLesson]).Reachable :=
    ⟨builtIn, [.add oddLesson], Or.inr rfl, rfl⟩
  have found : (builtIn.performAll [.add oddLesson]).get oddLesson.id = .ok oddLesson := by decide
  have free : empty.has oddLesson.id = false := rfl
  exact ⟨found, free, importText_exportJson reachable found free⟩

end Catalog

end ShellPractice
