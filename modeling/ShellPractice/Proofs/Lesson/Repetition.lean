import Mathlib.Data.List.Nodup
import ShellPractice.Lesson.Basic

/-!
# Repeated commands

The search for the first position of a list whose item also stands before it, compared with lists
that hold nothing twice: the items before that position are distinct, and the search fails exactly
if all of them are.
-/

namespace ShellPractice.Lesson

/-- The item at a position also stands before it. -/
def RepeatsAt (commands : List String) (index : Nat) : Prop :=
  ∃ command ∈ commands.take index, commands[index]? = some command

theorem RepeatsAt.lt_length {commands : List String} {index : Nat}
    (repeats : RepeatsAt commands index) : index < commands.length := by
  obtain ⟨command, -, found⟩ := repeats
  exact (List.getElem?_eq_some_iff.mp found).1

theorem any_contains_take_iff {commands : List String} {index : Nat} :
    commands[index]?.any (commands.take index).contains = true ↔ RepeatsAt commands index := by
  simp [RepeatsAt, Option.any_eq_true, and_comm]

theorem nodup_take_iff {commands : List String} {count : Nat} :
    (commands.take count).Nodup ↔ ∀ index < count, ¬ RepeatsAt commands index := by
  induction count with
  | zero => simp
  | succ count ih =>
    have last : (∀ index < count + 1, ¬ RepeatsAt commands index) ↔
        (∀ index < count, ¬ RepeatsAt commands index) ∧ ¬ RepeatsAt commands count := by
      constructor
      · intro never
        exact ⟨fun index below => never index (by omega), never count (by omega)⟩
      · rintro ⟨before, here⟩ index below
        rcases Nat.lt_succ_iff_lt_or_eq.mp below with earlier | rfl
        · exact before index earlier
        · exact here
    rw [last, ← ih, List.take_add_one]
    cases found : commands[count]? with
    | none => simp [RepeatsAt, found]
    | some command =>
      simp only [Option.toList_some, List.nodup_append, RepeatsAt, found]
      simp only [List.nodup_singleton, List.mem_singleton, Option.some.injEq]
      grind

theorem firstRepeat?_eq_some_iff {commands : List String} {index : Nat} :
    firstRepeat? commands = some index ↔
      RepeatsAt commands index ∧ ∀ earlier < index, ¬ RepeatsAt commands earlier := by
  simp only [firstRepeat?, List.find?_range_eq_some, any_contains_take_iff, List.mem_range,
    Bool.not_eq_true', ← Bool.not_eq_true]
  constructor
  · rintro ⟨repeats, -, first⟩
    exact ⟨repeats, first⟩
  · rintro ⟨repeats, first⟩
    exact ⟨repeats, repeats.lt_length, first⟩

theorem firstRepeat?_eq_none_iff {commands : List String} :
    firstRepeat? commands = none ↔ commands.Nodup := by
  rw [firstRepeat?, List.find?_range_eq_none]
  simp only [Bool.not_eq_true', ← Bool.not_eq_true, any_contains_take_iff]
  rw [← nodup_take_iff, List.take_length]

theorem nodup_take_of_firstRepeat? {commands : List String} {index : Nat}
    (found : firstRepeat? commands = some index) : (commands.take index).Nodup :=
  nodup_take_iff.mpr (firstRepeat?_eq_some_iff.mp found).2

end ShellPractice.Lesson
