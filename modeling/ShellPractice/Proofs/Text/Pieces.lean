import Mathlib.Data.List.TakeWhile
import ShellPractice.Text.Lines

/-!
# The pieces between separators

Splitting goes on behind every separator, loses nothing but the separators, and does not care how
items are written as long as the separator is written in a way of its own.
-/

namespace ShellPractice.Text

theorem splitAt_eq_splitOn {α : Type} [BEq α] (separator : α) (items : List α) :
    splitAt separator items = items.splitOn separator := by
  rw [List.splitOn_eq_splitOnP]
  induction items with
  | nil => rfl
  | cons item rest ih =>
    rw [List.splitOnP_cons_eq_if_splitOnPPrepend, List.splitOnPPrepend_eq_modifyHead, ← ih]
    by_cases equal : item == separator
    · simp [splitAt, equal]
    · obtain ⟨piece, pieces, split⟩ := List.exists_cons_of_ne_nil (splitAt_ne_nil separator rest)
      simp [splitAt, equal, split]

variable {α β : Type} [BEq α] [LawfulBEq α]

/-- Items without the separator go to the first piece of what follows them. -/
theorem splitAt_append_of_not_mem {separator : α} {items rest piece : List α}
    {pieces : List (List α)} (without : separator ∉ items)
    (split : splitAt separator rest = piece :: pieces) :
    splitAt separator (items ++ rest) = (items ++ piece) :: pieces := by
  induction items with
  | nil => exact split
  | cons item items ih =>
    have unequal : (item == separator) = false := by
      simp only [List.mem_cons, not_or] at without
      simp [Ne.symm without.1]
    simp [splitAt, unequal, ih fun member => without (List.mem_cons_of_mem _ member)]

theorem splitAt_append (separator : α) (first rest : List α) :
    splitAt separator (first ++ separator :: rest) =
      splitAt separator first ++ splitAt separator rest := by
  induction first with
  | nil => simp [splitAt]
  | cons item first ih =>
    by_cases equal : item == separator
    · simp [splitAt, equal, ih]
    · obtain ⟨piece, pieces, split⟩ := List.exists_cons_of_ne_nil (splitAt_ne_nil separator first)
      simp [splitAt, equal, ih, split]

theorem not_mem_of_mem_splitAt {separator : α} {items piece : List α}
    (member : piece ∈ splitAt separator items) : separator ∉ piece := by
  induction items generalizing piece with
  | nil =>
    rw [splitAt, List.mem_singleton] at member
    simp [member]
  | cons item rest ih =>
    by_cases equal : item == separator
    · rw [splitAt, if_pos equal, List.mem_cons] at member
      rcases member with rfl | later
      · exact List.not_mem_nil
      · exact ih later
    · obtain ⟨first, pieces, split⟩ := List.exists_cons_of_ne_nil (splitAt_ne_nil separator rest)
      rw [split] at ih
      simp only [splitAt, if_neg equal, split, List.mem_cons] at member
      rcases member with rfl | later
      · have other : separator ≠ item := by
          rintro rfl
          exact equal (beq_self_eq_true _)
        rw [List.mem_cons, not_or]
        exact ⟨other, ih List.mem_cons_self⟩
      · exact ih (List.mem_cons_of_mem _ later)

/-- What follows the last separator is the last piece. -/
theorem exists_splitAt_eq_concat (separator : α) (items : List α) :
    ∃ pieces, splitAt separator items =
      pieces ++ [(items.reverse.takeWhile (· != separator)).reverse] := by
  have without : separator ∉ (items.reverse.takeWhile (· != separator)).reverse := by
    intro member
    simpa using List.mem_takeWhile_imp (List.mem_reverse.mp member)
  have last : splitAt separator (items.reverse.takeWhile (· != separator)).reverse =
      [(items.reverse.takeWhile (· != separator)).reverse] := by
    simpa using splitAt_append_of_not_mem without (rfl : splitAt separator [] = [[]])
  have whole : items = (items.reverse.dropWhile (· != separator)).reverse ++
      (items.reverse.takeWhile (· != separator)).reverse := by
    rw [← List.reverse_append, List.takeWhile_append_dropWhile, List.reverse_reverse]
  cases before : items.reverse.dropWhile (· != separator) with
  | nil =>
    rw [before, List.reverse_nil, List.nil_append] at whole
    exact ⟨[], by rw [← whole] at last ⊢; simpa using last⟩
  | cons item earlier =>
    have equal : item = separator := by
      have stopped := List.head?_dropWhile_not (· != separator) items.reverse
      simpa [before] using stopped
    rw [before, List.reverse_cons, List.append_assoc, List.singleton_append, equal] at whole
    refine ⟨splitAt separator earlier.reverse, ?_⟩
    rw [← last, ← splitAt_append, ← whole]

/-- Items that are written as several symbols each are split where the symbol of the separator
stands, if nothing else is written with this symbol. -/
theorem splitAt_flatMap [BEq β] [LawfulBEq β] {separator : α} {symbol : β} {write : α → List β}
    (written : write separator = [symbol])
    (apart : ∀ item, item ≠ separator → symbol ∉ write item) (items : List α) :
    splitAt symbol (items.flatMap write) =
      (splitAt separator items).map fun piece => piece.flatMap write := by
  induction items with
  | nil => rfl
  | cons item rest ih =>
    by_cases equal : item = separator
    · subst equal
      simp [splitAt, written, ih]
    · obtain ⟨piece, pieces, split⟩ := List.exists_cons_of_ne_nil (splitAt_ne_nil separator rest)
      rw [split, List.map_cons] at ih
      rw [List.flatMap_cons, splitAt_append_of_not_mem (apart item equal) ih]
      simp [splitAt, equal, split]

/-- The lines of a text, joined by newlines, are the text again. -/
theorem intercalate_lines (text : String) : "\n".intercalate (lines text) = text := by
  apply String.toList_injective
  have pieces : (lines text).map String.toList = splitAt '\n' text.toList := by
    rw [lines, List.map_map]
    exact List.map_id'' (fun _ => String.toList_ofList) _
  rw [String.toList_intercalate, pieces, splitAt_eq_splitOn]
  exact List.intercalate_splitOn '\n'

theorem newline_not_mem_of_mem_lines {text line : String} (member : line ∈ lines text) :
    '\n' ∉ line.toList := by
  obtain ⟨piece, inside, rfl⟩ := List.mem_map.mp member
  rw [String.toList_ofList]
  exact not_mem_of_mem_splitAt inside

theorem lines_append_newline (first rest : String) :
    lines (first ++ "\n" ++ rest) = lines first ++ lines rest := by
  have split : (first ++ "\n" ++ rest).toList = first.toList ++ '\n' :: rest.toList := by
    simp
  rw [lines, split, splitAt_append, List.map_append, lines, lines]

end ShellPractice.Text
