import Mathlib.Data.List.DropRight
import ShellPractice.Text.Blank

/-!
# What trimming keeps

Trimming takes a run of blanks away at each end of a text and nothing else.  A text is blank exactly
if what is left of it is, and it is trimmed exactly if it neither starts nor ends with a blank.
-/

namespace ShellPractice.Text

theorem all_isBlank_dropWhile (text : List Char) :
    (text.dropWhile isBlank).all isBlank = text.all isBlank := by
  induction text with
  | nil => rfl
  | cons c rest ih =>
    by_cases blank : isBlank c = true
    · rw [List.dropWhile_cons_of_pos blank, ih, List.all_cons, blank, Bool.true_and]
    · rw [List.dropWhile_cons_of_neg blank]

theorem all_isBlank_trimChars (text : List Char) :
    (trimChars text).all isBlank = text.all isBlank := by
  rw [trimChars, trimEndChars, List.all_reverse, all_isBlank_dropWhile, List.all_reverse,
    trimStartChars, all_isBlank_dropWhile]

theorem isBlankText_trim (text : String) : isBlankText (trim text) = isBlankText text := by
  rw [isBlankText, toList_trim, all_isBlank_trimChars, isBlankText]

theorem all_isBlank_takeWhile (text : List Char) :
    (text.takeWhile isBlank).all isBlank = true := by
  rw [List.all_eq_true]
  exact fun c member => List.mem_takeWhile_imp member

/-- Trimming takes a run of blanks away at each end. -/
theorem exists_eq_trimChars (text : List Char) :
    ∃ before after, text = before ++ trimChars text ++ after ∧
      before.all isBlank = true ∧ after.all isBlank = true := by
  have start : text = text.takeWhile isBlank ++ trimStartChars text :=
    List.takeWhile_append_dropWhile.symm
  have stop : trimStartChars text =
      trimChars text ++ ((trimStartChars text).reverse.takeWhile isBlank).reverse := by
    rw [trimChars, trimEndChars, ← List.reverse_append, List.takeWhile_append_dropWhile,
      List.reverse_reverse]
  refine ⟨text.takeWhile isBlank, ((trimStartChars text).reverse.takeWhile isBlank).reverse, ?_,
    all_isBlank_takeWhile text, ?_⟩
  · rw [List.append_assoc, ← stop]
    exact start
  · rw [List.all_reverse]
    exact all_isBlank_takeWhile _

theorem trimChars_blanks_append {before : List Char} (blank : before.all isBlank = true)
    (text : List Char) : trimChars (before ++ text) = trimChars text := by
  have skipped : (before ++ text).dropWhile isBlank = text.dropWhile isBlank := by
    rw [List.dropWhile_append, dropWhile_isBlank_eq_nil_iff.mpr blank]
    rfl
  rw [trimChars, trimChars, trimStartChars, trimStartChars, skipped]

theorem trimChars_append_blanks {after : List Char} (blank : after.all isBlank = true)
    (text : List Char) : trimChars (text ++ after) = trimChars text := by
  have backwards : after.reverse.dropWhile isBlank = [] := by
    rw [dropWhile_isBlank_eq_nil_iff, List.all_reverse, blank]
  have dropped (front : List Char) : trimEndChars (front ++ after) = trimEndChars front := by
    rw [trimEndChars, trimEndChars, List.reverse_append, List.dropWhile_append, backwards]
    rfl
  rw [trimChars, trimStartChars, List.dropWhile_append]
  split
  next nothing =>
    rw [dropWhile_isBlank_eq_nil_iff.mpr blank, trimChars, trimStartChars,
      List.isEmpty_iff.mp nothing]
  next => rw [dropped, trimChars, trimStartChars]

theorem trim_blanks_around {before after : String} (blankBefore : isBlankText before = true)
    (blankAfter : isBlankText after = true) (text : String) :
    trim (before ++ text ++ after) = trim text := by
  rw [trim, String.toList_append, String.toList_append, trimChars_append_blanks blankAfter,
    trimChars_blanks_append blankBefore, trim]

theorem length_trimChars_le (text : List Char) : (trimChars text).length ≤ text.length := by
  obtain ⟨before, after, whole, -, -⟩ := exists_eq_trimChars text
  have lengths := congrArg List.length whole
  rw [List.length_append, List.length_append] at lengths
  omega

theorem mem_of_mem_trimChars {text : List Char} {c : Char} (member : c ∈ trimChars text) :
    c ∈ text := by
  obtain ⟨before, after, whole, -, -⟩ := exists_eq_trimChars text
  rw [whole]
  exact List.mem_append_left _ (List.mem_append_right _ member)

/-- A trimmed text neither starts nor ends with a blank. -/
theorem trimChars_eq_self_iff {text : List Char} :
    trimChars text = text ↔
      (∀ c ∈ text.head?, isBlank c = false) ∧ ∀ c ∈ text.getLast?, isBlank c = false := by
  constructor
  · intro trimmed
    constructor
    · intro c first
      obtain ⟨rest, rfl⟩ := List.head?_eq_some_iff.mp first
      by_contra blank
      have single : [c].all isBlank = true := by simpa using blank
      have shorter := length_trimChars_le rest
      rw [← trimChars_blanks_append single, List.singleton_append, trimmed,
        List.length_cons] at shorter
      omega
    · intro c last
      obtain ⟨front, rfl⟩ := List.getLast?_eq_some_iff.mp last
      by_contra blank
      have single : [c].all isBlank = true := by simpa using blank
      have shorter := length_trimChars_le front
      rw [← trimChars_append_blanks single, trimmed, List.length_append,
        List.length_singleton] at shorter
      omega
  · rintro ⟨first, last⟩
    have start : trimStartChars text = text := by
      cases text with
      | nil => rfl
      | cons c rest =>
        rw [trimStartChars, List.dropWhile_cons_of_neg (by simpa using first c)]
    rw [trimChars, start, trimEndChars]
    cases backwards : text.reverse with
    | nil => simpa using backwards.symm
    | cons c rest =>
      have ended : isBlank c = false := by
        apply last
        rw [← List.head?_reverse, backwards]
        rfl
      rw [List.dropWhile_cons_of_neg (by simpa using ended), ← backwards, List.reverse_reverse]

@[simp]
theorem trimChars_trimChars (text : List Char) : trimChars (trimChars text) = trimChars text := by
  obtain ⟨before, after, whole, blanksBefore, blanksAfter⟩ := exists_eq_trimChars text
  conv_rhs => rw [whole]
  rw [trimChars_append_blanks blanksAfter, trimChars_blanks_append blanksBefore]

@[simp]
theorem trim_trim (text : String) : trim (trim text) = trim text := by
  rw [trim, toList_trim, trimChars_trimChars, trim]

end ShellPractice.Text
