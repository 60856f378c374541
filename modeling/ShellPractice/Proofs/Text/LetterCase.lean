import ShellPractice.Proofs.Text.Keyword
import ShellPractice.Proofs.Text.LowerCaseWords

/-!
# The case of Latin letters

Two texts that differ in the case of the letters `A` to `Z` only are trimmed, split at a space and
split into words alike.  Their lower-case forms are equal: a letter of one case may stand for the
other also where it decides which form a capital sigma takes.
-/

namespace ShellPractice.Text

theorem isBlank_comp_toLower : isBlank ∘ Char.toLower = isBlank :=
  funext isBlank_toLower

theorem trimChars_map_toLower (text : List Char) :
    trimChars (text.map Char.toLower) = (trimChars text).map Char.toLower := by
  rw [trimChars, trimEndChars, trimStartChars, List.dropWhile_map, isBlank_comp_toLower,
    ← List.map_reverse, List.dropWhile_map, isBlank_comp_toLower, ← List.map_reverse, trimChars,
    trimEndChars, trimStartChars]

theorem wordsOfChars_map_toLower (text : List Char) :
    wordsOfChars (text.map Char.toLower) = (wordsOfChars text).map (List.map Char.toLower) := by
  induction text using words_induction with
  | nil => rfl
  | blank c rest blank ih =>
    have lowered : isBlank c.toLower = true := by rw [isBlank_toLower, blank]
    rw [List.map_cons, wordsOfChars_cons_of_blank lowered, wordsOfChars_cons_of_blank blank, ih]
  | word word rest nonempty solid follows ih =>
    have solidLowered : IsSolid (word.map Char.toLower) := by
      intro d member
      obtain ⟨c, inside, rfl⟩ := List.mem_map.mp member
      rw [isBlank_toLower]
      exact solid c inside
    have followsLowered : FollowsWord (rest.map Char.toLower) := by
      intro d first
      rw [List.head?_map, Option.mem_def, Option.map_eq_some_iff] at first
      obtain ⟨c, inside, rfl⟩ := first
      rw [isBlank_toLower]
      exact follows c inside
    have nonemptyLowered : word.map Char.toLower ≠ [] := mt List.map_eq_nil_iff.mp nonempty
    rw [List.map_append, wordsOfChars_append nonemptyLowered solidLowered followsLowered,
      wordsOfChars_append nonempty solid follows, ih, List.map_cons]

section Twins

variable {first second : String} (same : sameLetters first second = true)

include same

theorem sameLetters_trim : sameLetters (trim first) (trim second) = true := by
  rw [sameLetters_iff, foldLetters, foldLetters] at *
  rw [toList_trim, toList_trim, ← trimChars_map_toLower, same, trimChars_map_toLower]

theorem map_foldLetters_words : (words first).map foldLetters = (words second).map foldLetters := by
  have folded (text : String) :
      (words text).map foldLetters = wordsOfChars (text.toList.map Char.toLower) := by
    rw [wordsOfChars_map_toLower, words, List.map_map]
    apply List.map_congr_left
    intro word _
    rw [Function.comp_apply, foldLetters, String.toList_ofList]
  rw [folded, folded]
  exact congrArg wordsOfChars (sameLetters_iff.mp same)

/-- Where one text has a space, the other has one too. -/
theorem exists_eq_append_of_sameLetters {head rest : String} (whole : first = head ++ " " ++ rest) :
    ∃ front back, second = front ++ " " ++ back ∧ sameLetters head front = true ∧
      sameLetters rest back = true := by
  have chars : second.toList.map Char.toLower =
      foldLetters head ++ (' ' :: foldLetters rest) := by
    rw [← foldLetters, ← sameLetters_iff.mp same, whole]
    simp [foldLetters]
  obtain ⟨front, after, split, frontFolded, afterFolded⟩ := List.map_eq_append_iff.mp chars
  obtain ⟨space, back, rfl, lowered, backFolded⟩ := List.map_eq_cons_iff.mp afterFolded
  obtain rfl := toLower_eq_space_iff.mp lowered
  refine ⟨String.ofList front, String.ofList back, ?_, ?_, ?_⟩
  · apply String.toList_injective
    simp [split]
  · rw [sameLetters_iff, foldLetters.eq_def (String.ofList front), String.toList_ofList,
      frontFolded]
  · rw [sameLetters_iff, foldLetters.eq_def (String.ofList back), String.toList_ofList, backFolded]

end Twins

section Context

/-- A letter between `A` and `Z` or its lower-case form. -/
theorem toLower_eq_self_or (c : Char) :
    c.toLower = c ∨ (0x41 ≤ c.toNat ∧ c.toNat ≤ 0x5A) ∧
      0x61 ≤ c.toLower.toNat ∧ c.toLower.toNat ≤ 0x7A := by
  have lowered := toNat_toLower c
  by_cases capital : 65 ≤ c.toNat ∧ c.toNat ≤ 90
  · rw [if_pos capital] at lowered
    exact Or.inr ⟨capital, by omega, by omega⟩
  · rw [if_neg capital] at lowered
    exact Or.inl (Char.toNat_inj.mp lowered)

/-- The code points of ranges, as a number whose bits stand for them. -/
def rangeSet (ranges : List (Nat × Nat)) : Nat :=
  ranges.foldr (fun range bits => bits ||| (1 <<< (range.2 + 1 - range.1) - 1) <<< range.1) 0

theorem testBit_rangeSet (ranges : List (Nat × Nat)) (code : Nat) :
    (rangeSet ranges).testBit code = inRanges ranges code := by
  induction ranges with
  | nil => exact Nat.zero_testBit code
  | cons range ranges ih =>
    rw [rangeSet, List.foldr_cons, ← rangeSet, Nat.testBit_or, ih, Nat.testBit_shiftLeft,
      Nat.one_shiftLeft, Nat.testBit_two_pow_sub_one, inRanges, inRanges, List.any_cons,
      Bool.or_comm]
    congr 1
    rw [Bool.eq_iff_iff]
    simp only [Bool.and_eq_true, decide_eq_true_eq]
    omega

-- The sets are compared as numbers, because a comparison of all pairs of ranges takes seconds.
theorem casedRanges_disjoint : rangeSet casedRanges &&& rangeSet caseIgnorableRanges = 0 := by
  decide +kernel

theorem not_ignorable_of_cased {code : Nat} (cased : inRanges casedRanges code = true) :
    inRanges caseIgnorableRanges code = false := by
  have both := Nat.testBit_and (rangeSet casedRanges) (rangeSet caseIgnorableRanges) code
  rw [casedRanges_disjoint, testBit_rangeSet, testBit_rangeSet, cased, Nat.zero_testBit,
    Bool.true_and] at both
  exact both.symm

theorem cased_of_range {range : Nat × Nat} {code : Nat} (member : range ∈ casedRanges)
    (above : range.1 ≤ code) (below : code ≤ range.2) : inRanges casedRanges code = true := by
  rw [inRanges, List.any_eq_true]
  refine ⟨range, member, ?_⟩
  rw [Bool.and_eq_true, decide_eq_true_eq, decide_eq_true_eq]
  exact ⟨above, below⟩

/-- Whether two characters play the same part in the context of another one. -/
def SamePart (c d : Char) : Prop :=
  inRanges casedRanges c.toNat = inRanges casedRanges d.toNat ∧
    inRanges caseIgnorableRanges c.toNat = inRanges caseIgnorableRanges d.toNat

theorem samePart_of_cased {c d : Char} (first : inRanges casedRanges c.toNat = true)
    (second : inRanges casedRanges d.toNat = true) : SamePart c d := by
  rw [SamePart, first, second, not_ignorable_of_cased first, not_ignorable_of_cased second]
  exact ⟨rfl, rfl⟩

theorem SamePart.meetsCased_cons {c d : Char} (part : SamePart c d) {rest others : List Char}
    (same : meetsCased rest = meetsCased others) :
    meetsCased (c :: rest) = meetsCased (d :: others) := by
  obtain ⟨cased, ignored⟩ := part
  unfold meetsCased at *
  cases skipped : inRanges caseIgnorableRanges d.toNat with
  | true => simpa [ignored, skipped] using same
  | false => simp [ignored, skipped, cased]

theorem samePart_toLower (c : Char) : SamePart c.toLower c := by
  rcases toLower_eq_self_or c with same | ⟨⟨above, below⟩, aboveLowered, belowLowered⟩
  · rw [same]
    exact ⟨rfl, rfl⟩
  · have capitals : ((0x41, 0x5A) : Nat × Nat) ∈ casedRanges := by decide
    have smalls : ((0x61, 0x7A) : Nat × Nat) ∈ casedRanges := by decide
    exact samePart_of_cased (cased_of_range smalls aboveLowered belowLowered)
      (cased_of_range capitals above below)

theorem meetsCased_map_toLower (text : List Char) :
    meetsCased (text.map Char.toLower) = meetsCased text := by
  induction text with
  | nil => rfl
  | cons c rest ih => exact (samePart_toLower c).meetsCased_cons ih

theorem endsWord_map_toLower (before after : List Char) :
    endsWord (before.map Char.toLower) (after.map Char.toLower) = endsWord before after := by
  rw [endsWord, meetsCased_map_toLower, meetsCased_map_toLower, endsWord]

theorem lowerIn_map_toLower (before : List Char) (c : Char) (after : List Char) :
    lowerIn (before.map Char.toLower) c.toLower (after.map Char.toLower) =
      lowerIn before c after := by
  rcases toLower_eq_self_or c with same | ⟨⟨-, below⟩, -, belowLowered⟩
  · rw [same, lowerIn, endsWord_map_toLower, lowerIn]
  · rw [lowerIn_of_ascii (by omega), lowerIn_of_ascii (by omega), toLower_toLower]

theorem lowerFrom_map_toLower (before text : List Char) :
    lowerFrom (before.map Char.toLower) (text.map Char.toLower) = lowerFrom before text := by
  induction text generalizing before with
  | nil => rfl
  | cons c after ih =>
    have later := ih (c :: before)
    rw [List.map_cons] at later
    rw [List.map_cons, lowerFrom, lowerFrom, lowerIn_map_toLower, later]

end Context

theorem lowerCase_eq_of_sameLetters {first second : String}
    (same : sameLetters first second = true) : lowerCase first = lowerCase second := by
  have lowered (text : String) : lowerChars text.toList = lowerChars (foldLetters text) :=
    (lowerFrom_map_toLower [] text.toList).symm
  rw [lowerCase, lowerCase, lowered, lowered second, sameLetters_iff.mp same]

end ShellPractice.Text
