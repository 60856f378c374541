import Mathlib.Data.List.Forall2
import ShellPractice.Proofs.Plan.Stall
import ShellPractice.Proofs.Text.UpperCase

/-!
# Typing the commands of a plan

Whoever types the commands of a plan one after the other completes each of them, unless one repeats
an earlier one.  A command may be typed in upper case as long as lower case makes the same of it as
of the command.  Most letters allow this, and all of ASCII; those whose upper-case form is that of
other letters do not.
-/

namespace ShellPractice.Plan

theorem isTyped_self {command : String} (trimmed : Text.trim command = command) :
    isTyped command command = true := by
  rw [isTyped_iff, typedForm, trimmed]

theorem forall₂_isTyped_iff {commands lines : List String} :
    List.Forall₂ (fun command line => isTyped command line = true) commands lines ↔
      commands.map Text.lowerCase = lines.map typedForm := by
  rw [← List.forall₂_eq_eq_eq, List.forall₂_map_left_iff, List.forall₂_map_right_iff]
  simp only [isTyped_iff]

/-- The lines are the remaining commands exactly if each of them completes one. -/
theorem outcomes_after_eq_iff {expected rest lines : List String} {count : Nat}
    (distinct : expected.Nodup) (remaining : expected.drop count = rest)
    (lengths : lines.length = rest.length) :
    (after expected count).outcomes lines =
        rest.mapIdx (fun index command => .advanced command (count + index)) ↔
      List.Forall₂ (fun command line => isTyped command line = true) rest lines := by
  induction rest generalizing count lines with
  | nil =>
    obtain rfl := List.length_eq_zero_iff.mp lengths
    exact iff_of_true rfl List.Forall₂.nil
  | cons command rest ih =>
    obtain ⟨line, lines, rfl⟩ := List.exists_cons_of_length_eq_add_one lengths
    have next : expected[count]? = some command := by
      rw [← List.head?_drop, remaining, List.head?_cons]
    have below : count < limit expected := by
      rw [limit_eq_length_iff.mpr distinct]
      exact (List.getElem?_eq_some_iff.mp next).1
    have remainingNext : expected.drop (count + 1) = rest := by
      rw [← List.tail_drop, remaining, List.tail_cons]
    have later := ih remainingNext (Nat.succ.inj lengths)
    rw [outcomes, List.mapIdx_cons, List.forall₂_cons, List.cons.injEq, ← later, Nat.add_zero,
      outcome_after_of_lt below next]
    by_cases typed : isTyped command line = true
    · rw [(after_of_isTyped below next typed).2, if_pos typed]
      simp only [typed, true_and, Nat.add_assoc, Nat.add_comm 1]
    · simp [typed]

/-- Lines that are the commands in order bring a plan to its end. -/
theorem run_start_of_typed {expected lines : List String} (distinct : expected.Nodup)
    (typed : List.Forall₂ (fun command line => isTyped command line = true) expected lines) :
    (start expected).run lines = after expected expected.length := by
  obtain ⟨reached, greatest, standing⟩ := exists_isGreatest_run_start expected lines
  rw [limit_eq_length_iff.mpr distinct] at greatest
  have contained : ((expected.map Text.lowerCase).take expected.length).Sublist
      (lines.map typedForm) := by
    rw [← forall₂_isTyped_iff.mp typed]
    exact List.take_sublist _ _
  have whole := greatest.2 ⟨Nat.le_refl _, contained⟩
  rw [standing, Nat.le_antisymm greatest.1.1 whole]

theorem complete_run_start_iff {expected lines : List String} (distinct : expected.Nodup)
    (lengths : lines.length = expected.length) :
    ((start expected).run lines).complete = true ↔
      expected ≠ [] ∧
        List.Forall₂ (fun command line => isTyped command line = true) expected lines := by
  have bound := limit_eq_length_iff.mpr distinct
  constructor
  · intro complete
    obtain ⟨reached, greatest, standing⟩ := exists_isGreatest_run_start expected lines
    rw [standing, complete_after greatest.1.1] at complete
    obtain ⟨rfl, nonempty, -⟩ := complete
    refine ⟨List.length_pos_iff.mp nonempty, forall₂_isTyped_iff.mpr ?_⟩
    have contained := greatest.1.2
    rw [bound, ← List.map_take, List.take_length] at contained
    exact contained.eq_of_length (by rw [List.length_map, List.length_map, lengths])
  · rintro ⟨nonempty, typed⟩
    rw [run_start_of_typed distinct typed, ← bound, complete_after (Nat.le_refl _)]
    exact ⟨rfl, List.length_pos_iff.mpr nonempty, bound⟩

section Shouting

/-- Whether a line is a command in upper case, with any blanks around it. -/
def IsShouted (command line : String) : Prop :=
  ∃ before after, Text.isBlankText before = true ∧ Text.isBlankText after = true ∧
    line = before ++ Text.upperCase command ++ after

theorem isTyped_iff_of_shouted {command line : String} (trimmed : Text.trim command = command)
    (shouted : IsShouted command line) :
    isTyped command line = true ↔ Text.survivesUpperCase command = true := by
  obtain ⟨before, after, blanksBefore, blanksAfter, rfl⟩ := shouted
  rw [isTyped_iff, typedForm, Text.trim_blanks_around blanksBefore blanksAfter,
    Text.trim_upperCase_of_trimmed trimmed, eq_comm, Text.lowerCase_upperCase_eq_iff]

theorem forall₂_isTyped_iff_of_shouted {commands lines : List String}
    (trimmed : ∀ command ∈ commands, Text.trim command = command)
    (shouted : List.Forall₂ IsShouted commands lines) :
    List.Forall₂ (fun command line => isTyped command line = true) commands lines ↔
      ∀ command ∈ commands, Text.survivesUpperCase command = true := by
  induction shouted with
  | nil => exact iff_of_true List.Forall₂.nil fun command member => absurd member List.not_mem_nil
  | cons here _ ih =>
    rw [List.forall_mem_cons] at trimmed
    rw [List.forall₂_cons, List.forall_mem_cons, isTyped_iff_of_shouted trimmed.1 here,
      ih trimmed.2]

/-- Typing the commands of a plan in upper case completes each of them exactly if lower case makes
of each what it makes of the command, letter by letter.  Then, and only then, it completes a plan
that has a command.  All commands in ASCII are among these. -/
theorem run_start_of_shouted {expected lines : List String} (distinct : expected.Nodup)
    (trimmed : ∀ command ∈ expected, Text.trim command = command)
    (shouted : List.Forall₂ IsShouted expected lines) :
    ((start expected).outcomes lines =
        expected.mapIdx (fun index command => .advanced command index) ↔
      ∀ command ∈ expected, Text.survivesUpperCase command = true) ∧
    (((start expected).run lines).complete = true ↔
      expected ≠ [] ∧ ∀ command ∈ expected, Text.survivesUpperCase command = true) ∧
    ∀ command ∈ expected, Text.IsAscii command → Text.survivesUpperCase command = true := by
  have typed := forall₂_isTyped_iff_of_shouted trimmed shouted
  have lengths := shouted.length_eq.symm
  refine ⟨?_, ?_, fun command _ => Text.survivesUpperCase_of_isAscii⟩
  · have completed := outcomes_after_eq_iff distinct List.drop_zero lengths
    simp only [Nat.zero_add] at completed
    rw [← after_zero, completed, typed]
  · rw [complete_run_start_iff distinct lengths, typed]

/-- A Latin and a Greek command, whose final sigma comes back from a capital one. -/
theorem run_start_of_shouted_greek :
    (start ["ls", "cat λόγος"]).outcomes [" LS", "CAT ΛΌΓΟΣ\t"] =
        [.advanced "ls" 0, .advanced "cat λόγος" 1] ∧
      ((start ["ls", "cat λόγος"]).run [" LS", "CAT ΛΌΓΟΣ\t"]).complete = true := by
  have shouted : List.Forall₂ IsShouted ["ls", "cat λόγος"] [" LS", "CAT ΛΌΓΟΣ\t"] :=
    .cons ⟨" ", "", by decide +kernel⟩ (.cons ⟨"", "\t", by decide +kernel⟩ .nil)
  have survives : ∀ command ∈ ["ls", "cat λόγος"], Text.survivesUpperCase command = true := by
    decide +kernel
  obtain ⟨completed, ended, -⟩ := run_start_of_shouted (by decide) (by decide +kernel) shouted
  exact ⟨completed.mpr survives, ended.mpr ⟨List.cons_ne_nil _ _, survives⟩⟩

/-- The sharp s has the upper-case form of two letters, and lower case does not join them again. -/
theorem not_run_start_of_shouted :
    ["cat straße"].Nodup ∧
      (∀ command ∈ ["cat straße"],
        Text.isBlankText command = false ∧ Text.trim command = command) ∧
      List.Forall₂ IsShouted ["cat straße"] ["CAT STRASSE"] ∧
      (start ["cat straße"]).outcomes ["CAT STRASSE"] = [.notExpected] ∧
      ((start ["cat straße"]).run ["CAT STRASSE"]).complete = false := by
  refine ⟨by decide, by decide +kernel, .cons ⟨"", "", by decide +kernel⟩ .nil, ?_, ?_⟩ <;>
    decide +kernel

end Shouting

end ShellPractice.Plan
