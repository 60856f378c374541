import Mathlib.Data.List.Induction
import ShellPractice.Proofs.Plan.Standing

/-!
# What a run of lines completes

A plan takes every line that matches its next command and passes over the others.  This greedy
choice is the best one: after a run the completed commands are the longest beginning of the
expected ones, up to the first repeated command, that the lines contain in order.
-/

namespace ShellPractice.Plan

section Subsequences

variable {α : Type} {pattern text : List α}

theorem append_singleton_sublist_iff {item last : α} :
    (pattern ++ [item]).Sublist (text ++ [last]) ↔
      (pattern ++ [item]).Sublist text ∨ item = last ∧ pattern.Sublist text := by
  rw [← List.reverse_sublist, List.reverse_concat, List.reverse_concat, List.sublist_cons_iff,
    ← List.reverse_concat, List.reverse_sublist]
  simp [and_comm]

theorem take_add_one_sublist_iff {count : Nat} {last : α} (below : count < pattern.length) :
    (pattern.take (count + 1)).Sublist (text ++ [last]) ↔
      (pattern.take (count + 1)).Sublist text ∨
        pattern[count]? = some last ∧ (pattern.take count).Sublist text := by
  rw [List.take_add_one, List.getElem?_eq_getElem below, Option.toList_some,
    append_singleton_sublist_iff, Option.some.injEq]

theorem take_sublist_of_take_add_one {count : Nat} {last : α} (below : count < pattern.length)
    (contained : (pattern.take (count + 1)).Sublist (text ++ [last])) :
    (pattern.take count).Sublist text := by
  rcases (take_add_one_sublist_iff below).mp contained with before | ⟨-, shorter⟩
  · exact (List.take_sublist_take_left (Nat.le_succ count)).trans before
  · exact shorter

/-- The longest beginning of a pattern that a text contains grows with the next item of the
pattern, and with no other. -/
theorem isGreatest_take_sublist_append [DecidableEq α] {bound reached : Nat}
    (bounded : bound ≤ pattern.length)
    (greatest : IsGreatest {count | count ≤ bound ∧ (pattern.take count).Sublist text} reached)
    (last : α) :
    IsGreatest {count | count ≤ bound ∧ (pattern.take count).Sublist (text ++ [last])}
      (if reached < bound ∧ pattern[reached]? = some last then reached + 1 else reached) := by
  obtain ⟨⟨within, contained⟩, largest⟩ := greatest
  have shorter {count : Nat} (inside : count + 1 ≤ bound)
      (longer : (pattern.take (count + 1)).Sublist (text ++ [last])) : count ≤ reached :=
    largest ⟨by omega, take_sublist_of_take_add_one (by omega) longer⟩
  by_cases grows : reached < bound ∧ pattern[reached]? = some last
  · rw [if_pos grows]
    obtain ⟨below, next⟩ := grows
    refine ⟨⟨below, ?_⟩, ?_⟩
    · exact (take_add_one_sublist_iff (by omega)).mpr (Or.inr ⟨next, contained⟩)
    · rintro (_ | count) ⟨inside, longer⟩
      · exact Nat.zero_le _
      · exact Nat.succ_le_succ (shorter inside longer)
  · rw [if_neg grows]
    refine ⟨⟨within, contained.trans (List.sublist_append_left _ _)⟩, ?_⟩
    rintro (_ | count) ⟨inside, longer⟩
    · exact Nat.zero_le _
    · have near := shorter inside longer
      rcases (take_add_one_sublist_iff (by omega)).mp longer with before | ⟨next, -⟩
      · exact largest ⟨inside, before⟩
      · -- The item would have been matched if it were the next one.
        rcases Nat.lt_or_eq_of_le near with earlier | rfl
        · exact earlier
        · exact absurd ⟨inside, next⟩ grows

end Subsequences

/-- What is compared of a typed line. -/
def typedForm (line : String) : String :=
  Text.lowerCase (Text.trim line)

theorem isTyped_iff {command line : String} :
    isTyped command line = true ↔ Text.lowerCase command = typedForm line := by
  rw [isTyped, beq_iff_eq, typedForm, eq_comm]

theorem any_isTyped_iff {expected : List String} {count : Nat} {line : String} :
    expected[count]?.any (isTyped · line) = true ↔
      (expected.map Text.lowerCase)[count]? = some (typedForm line) := by
  rw [List.getElem?_map, Option.map_eq_some_iff, Option.any_eq_true]
  simp only [isTyped_iff]

/-- A run completes the longest beginning of the commands that it contains. -/
theorem exists_isGreatest_run_start (expected lines : List String) :
    ∃ reached,
      IsGreatest {count | count ≤ limit expected ∧
        ((expected.map Text.lowerCase).take count).Sublist (lines.map typedForm)} reached ∧
      (start expected).run lines = after expected reached := by
  have bound : limit expected ≤ (expected.map Text.lowerCase).length := by
    simpa using limit_le_length expected
  induction lines using List.reverseRecOn with
  | nil =>
    refine ⟨0, ⟨⟨Nat.zero_le _, by simp⟩, ?_⟩, (after_zero expected).symm⟩
    rintro count ⟨within, contained⟩
    have empty := contained.length_le
    rw [List.length_take, Nat.min_eq_left (Nat.le_trans within bound)] at empty
    exact empty
  | append_singleton lines line ih =>
    obtain ⟨reached, greatest, standing⟩ := ih
    have extended := isGreatest_take_sublist_append bound greatest (typedForm line)
    refine ⟨_, by rwa [List.map_append], ?_⟩
    rw [run_append, standing]
    exact (advance_after greatest.1.1 line).trans (by simp only [any_isTyped_iff])

theorem reached_mono {expected lines more : List String} {reached later : Nat}
    (greatest : IsGreatest {count | count ≤ limit expected ∧
      ((expected.map Text.lowerCase).take count).Sublist (lines.map typedForm)} reached)
    (greatestLater : IsGreatest {count | count ≤ limit expected ∧
      ((expected.map Text.lowerCase).take count).Sublist ((lines ++ more).map typedForm)} later) :
    reached ≤ later := by
  obtain ⟨within, contained⟩ := greatest.1
  apply greatestLater.2
  refine ⟨within, contained.trans ?_⟩
  rw [List.map_append]
  exact List.sublist_append_left _ _

/-- The state of a plan after any lines: its completed commands are the longest beginning of the
expected ones, not beyond the first repeated one, that the lines contain in order, apart from case
and the blanks around the lines.  More lines never take anything back. -/
theorem run_start_eq_longest_contained (expected lines : List String) :
    ∃ bound reached,
      IsLeast {index | index = expected.length ∨
        ∃ command ∈ expected.take index, expected[index]? = some command} bound ∧
      IsGreatest {count | count ≤ bound ∧
        ((expected.take count).map Text.lowerCase).Sublist
          (lines.map fun line => Text.lowerCase (Text.trim line))} reached ∧
      (start expected).run lines =
        ⟨expected, min reached (expected.length - 1), expected.take reached⟩ ∧
      ((start expected).run lines).completed.Nodup ∧
      ∀ more,
        ((start expected).run lines).completed <+:
            ((start expected).run (lines ++ more)).completed ∧
          ((start expected).run lines).cursor ≤ ((start expected).run (lines ++ more)).cursor := by
  obtain ⟨reached, greatest, standing⟩ := exists_isGreatest_run_start expected lines
  refine ⟨limit expected, reached, isLeast_limit expected, ?_, standing, ?_, fun more => ?_⟩
  · simp only [List.map_take]
    exact greatest
  · rw [standing]
    exact nodup_take_of_le_limit greatest.1.1
  · obtain ⟨later, greatestLater, standingLater⟩ :=
      exists_isGreatest_run_start expected (lines ++ more)
    have forward := reached_mono greatest greatestLater
    rw [standing, standingLater, cursor_after, cursor_after]
    exact ⟨List.take_prefix_take_left forward, by omega⟩

end ShellPractice.Plan
