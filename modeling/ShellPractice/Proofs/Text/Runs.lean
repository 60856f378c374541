import Mathlib.Data.List.TakeDrop

/-!
# Runs of characters

A reader that takes characters as long as they are of one kind takes exactly those of a text that
was put in front of a character of another kind.
-/

namespace ShellPractice.Text

variable {α : Type} {inside : α → Bool} {run rest : List α}

theorem ne_of_inside {item mark : α} (within : inside item = true) (outside : inside mark = false) :
    item ≠ mark := by
  rintro rfl
  simp [within] at outside

/-- An item of a kind is none of the marks that are not of this kind. -/
theorem contains_eq_false_of_inside [BEq α] [LawfulBEq α] {item : α} {marks : List α}
    (within : inside item = true) (outside : marks.all (fun mark => !inside mark) = true) :
    marks.contains item = false := by
  rw [← Bool.not_eq_true, List.contains_iff_mem]
  intro member
  have other := List.all_eq_true.mp outside item member
  simp [within] at other

/-- Whether a run of one kind of items ends before a list. -/
def EndsRun (inside : α → Bool) (rest : List α) : Prop :=
  ∀ item ∈ rest.head?, inside item = false

theorem endsRun_nil : EndsRun inside [] := by
  simp [EndsRun]

theorem endsRun_cons {item : α} : EndsRun inside (item :: rest) ↔ inside item = false := by
  simp [EndsRun]

theorem endsRun_dropWhile (items : List α) : EndsRun inside (items.dropWhile inside) := by
  intro item first
  have stopped := List.head?_dropWhile_not inside items
  rw [Option.mem_def.mp first] at stopped
  exact stopped

theorem EndsRun.mono {other : α → Bool} (ends : EndsRun inside rest)
    (narrower : ∀ item, other item = true → inside item = true) : EndsRun other rest := by
  intro item first
  have outside := ends item first
  rw [← Bool.not_eq_true] at outside ⊢
  exact fun within => outside (narrower item within)

theorem takeWhile_of_endsRun (ends : EndsRun inside rest) : rest.takeWhile inside = [] := by
  cases rest with
  | nil => rfl
  | cons item rest => rw [List.takeWhile_cons, endsRun_cons.mp ends, if_neg (by simp)]

theorem dropWhile_of_endsRun (ends : EndsRun inside rest) : rest.dropWhile inside = rest := by
  cases rest with
  | nil => rfl
  | cons item rest => rw [List.dropWhile_cons, endsRun_cons.mp ends, if_neg (by simp)]

theorem takeWhile_append (all : ∀ item ∈ run, inside item = true) (ends : EndsRun inside rest) :
    (run ++ rest).takeWhile inside = run := by
  rw [List.takeWhile_append_of_pos all, takeWhile_of_endsRun ends, List.append_nil]

theorem dropWhile_append (all : ∀ item ∈ run, inside item = true) (ends : EndsRun inside rest) :
    (run ++ rest).dropWhile inside = rest := by
  rw [List.dropWhile_append_of_pos all, dropWhile_of_endsRun ends]

theorem span_append (all : ∀ item ∈ run, inside item = true) (ends : EndsRun inside rest) :
    (run ++ rest).span inside = (run, rest) := by
  rw [List.span_eq_takeWhile_dropWhile, takeWhile_append all ends, dropWhile_append all ends]

end ShellPractice.Text
