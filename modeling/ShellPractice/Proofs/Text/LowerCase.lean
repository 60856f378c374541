import Mathlib.Data.Bool.AllAny
import Mathlib.Data.List.Basic
import ShellPractice.Text.Blank
import ShellPractice.Text.Letters
import ShellPractice.Text.LowerCase

/-!
# Lower case, blanks and Latin letters

Lower case takes no blank away and makes none.  It agrees with the lower case of the letters `A` to
`Z` on texts of ASCII characters, and the only ASCII text that it makes of another character is the
letter `k`, from the sign for the unit Kelvin.
-/

namespace ShellPractice.Text

/-- No blank character has a code point between the two. -/
def noBlankBetween (first last : Nat) : Bool :=
  0x20 < first && (last < 0x85 || 0xA0 < first) && (last < 0x1680 || 0x1680 < first) &&
    (last < 0x2000 || 0x205F < first) && (last < 0x3000 || 0x3000 < first)

theorem isBlank_of_noBlankBetween {first last : Nat} {c : Char}
    (avoids : noBlankBetween first last = true) (above : first ≤ c.toNat) (below : c.toNat ≤ last) :
    isBlank c = false := by
  simp only [noBlankBetween, Bool.and_eq_true, Bool.or_eq_true, decide_eq_true_eq] at avoids
  simp only [isBlank, Bool.or_eq_false_iff, Bool.and_eq_false_iff, decide_eq_false_iff_not,
    beq_eq_false_iff_ne, ne_eq]
  omega

/-- The image of the last code point of a run. -/
def CaseRun.lastImage (run : CaseRun) : Nat :=
  run.image + (run.last - run.first)

theorem CaseRun.le_of_covers {run : CaseRun} {code : Nat} (covered : run.covers code = true) :
    run.first ≤ code ∧ code ≤ run.last := by
  simp only [covers, Bool.and_eq_true, decide_eq_true_eq] at covered
  exact covered.1

theorem CaseRun.apply_le_lastImage {run : CaseRun} {code : Nat} (covered : run.covers code = true) :
    run.image ≤ run.apply code ∧ run.apply code ≤ run.lastImage := by
  obtain ⟨above, below⟩ := run.le_of_covers covered
  simp only [apply, lastImage]
  omega

theorem CaseRun.toNat_ofNat_apply {run : CaseRun} {code : Nat}
    (valid : run.lastImage < 0xD800 ∨ 0xDFFF < run.image ∧ run.lastImage < 0x110000)
    (covered : run.covers code = true) : (Char.ofNat (run.apply code)).toNat = run.apply code := by
  have image := run.apply_le_lastImage covered
  have validChar : (run.apply code).isValidChar := by
    rcases valid with low | high
    · exact Or.inl (by omega)
    · exact Or.inr (by omega)
  rw [Char.ofNat, dif_pos validChar]
  rfl

theorem CaseRun.isBlank_eq_of_covers {run : CaseRun} {c d : Char}
    (source : noBlankBetween run.first run.last = true)
    (target : noBlankBetween run.image run.lastImage = true)
    (covered : run.covers c.toNat = true) (moved : d.toNat = run.apply c.toNat) :
    isBlank d = isBlank c := by
  have place := run.le_of_covers covered
  have image := run.apply_le_lastImage covered
  rw [isBlank_of_noBlankBetween source place.1 place.2,
    isBlank_of_noBlankBetween target (by omega) (by omega)]

theorem lastImage_valid : ∀ run ∈ lowerCaseRuns,
    run.lastImage < 0xD800 ∨ 0xDFFF < run.image ∧ run.lastImage < 0x110000 := by
  rw [← List.all_iff_forall_prop]
  decide

theorem lowerCaseRuns_noBlank : ∀ run ∈ lowerCaseRuns,
    noBlankBetween run.first run.last = true ∧
      noBlankBetween run.image run.lastImage = true := by
  rw [← List.all_iff_forall_prop]
  decide

theorem lowerCaseRuns_beyond_ascii : ∀ run ∈ lowerCaseRuns.tail,
    128 ≤ run.first ∧ (128 ≤ run.image ∨ run.first = 0x212A ∧ run.last = 0x212A) := by
  rw [← List.all_iff_forall_prop]
  decide

/-- A character is moved by a run of the table, or stays where no run covers it. -/
theorem lowerChar_cases (c : Char) :
    (lowerChar c = c ∧ ∀ run ∈ lowerCaseRuns, ¬ run.covers c.toNat) ∨
      ∃ run ∈ lowerCaseRuns, run.covers c.toNat = true ∧
        (lowerChar c).toNat = run.apply c.toNat := by
  cases found : lowerCaseRuns.find? fun run => run.covers c.toNat with
  | none => exact Or.inl ⟨by rw [lowerChar, found], List.find?_eq_none.mp found⟩
  | some run =>
    have covered := List.find?_some found
    have member := List.mem_of_find?_eq_some found
    refine Or.inr ⟨run, member, covered, ?_⟩
    rw [lowerChar, found]
    exact run.toNat_ofNat_apply (lastImage_valid run member) covered

@[simp]
theorem isBlank_lowerChar (c : Char) : isBlank (lowerChar c) = isBlank c := by
  rcases lowerChar_cases c with ⟨same, -⟩ | ⟨run, member, covered, moved⟩
  · rw [same]
  · obtain ⟨source, target⟩ := lowerCaseRuns_noBlank run member
    exact run.isBlank_eq_of_covers source target covered moved

theorem toNat_toLower (c : Char) :
    c.toLower.toNat = if 65 ≤ c.toNat ∧ c.toNat ≤ 90 then c.toNat + 32 else c.toNat := by
  have capital : (c.val ≥ 'A'.val ∧ c.val ≤ 'Z'.val) ↔ 65 ≤ c.toNat ∧ c.toNat ≤ 90 := by
    simp only [ge_iff_le, UInt32.le_iff_toNat_le]
    rfl
  unfold Char.toLower
  by_cases inside : 65 ≤ c.toNat ∧ c.toNat ≤ 90
  · rw [dif_pos (capital.mpr inside), if_pos inside]
    have distance : ('a'.val - 'A'.val).toNat = 32 := by decide
    change (c.val + ('a'.val - 'A'.val)).toNat = c.val.toNat + 32
    change 65 ≤ c.val.toNat ∧ c.val.toNat ≤ 90 at inside
    rw [UInt32.toNat_add, distance]
    omega
  · rw [dif_neg (mt capital.mp inside), if_neg inside]

theorem toLower_toLower (c : Char) : c.toLower.toLower = c.toLower := by
  apply Char.toNat_inj.mp
  have lowered := toNat_toLower c
  rw [toNat_toLower c.toLower, if_neg]
  split at lowered <;> omega

theorem toNat_toLower_lt_iff (c : Char) : c.toLower.toNat < 128 ↔ c.toNat < 128 := by
  rw [toNat_toLower]
  split <;> omega

theorem lowerCaseRuns_eq_cons :
    lowerCaseRuns = ⟨0x41, 0x5A, 1, 0x61⟩ :: lowerCaseRuns.tail :=
  rfl

theorem lowerChar_of_ascii {c : Char} (ascii : c.toNat < 128) : lowerChar c = c.toLower := by
  have lowered := toNat_toLower c
  apply Char.toNat_inj.mp
  rcases lowerChar_cases c with ⟨same, uncovered⟩ | ⟨run, member, covered, moved⟩
  · have small : ¬ (65 ≤ c.toNat ∧ c.toNat ≤ 90) := by
      intro capital
      refine uncovered ⟨0x41, 0x5A, 1, 0x61⟩ ?_ (by simp [CaseRun.covers, capital, Nat.mod_one])
      rw [lowerCaseRuns_eq_cons]
      exact List.mem_cons_self
    rw [same, lowered, if_neg small]
  · have place := run.le_of_covers covered
    rw [lowerCaseRuns_eq_cons, List.mem_cons] at member
    rcases member with rfl | later
    · rw [moved, lowered, if_pos (by simpa using place), CaseRun.apply]
      simp only at place ⊢
      omega
    · have start := (lowerCaseRuns_beyond_ascii run later).1
      omega

theorem lowerIn_of_usual {c : Char} (sigma : c ≠ 'Σ') (dotted : c ≠ 'İ') (before after : List Char) :
    lowerIn before c after = [lowerChar c] := by
  rw [lowerIn, if_neg sigma, if_neg dotted]

/-- All but two characters are mapped one by one, wherever they stand. -/
theorem lowerIn_cases (before : List Char) (c : Char) (after : List Char) :
    (c = 'Σ' ∧ (lowerIn before c after = ['ς'] ∨ lowerIn before c after = ['σ'])) ∨
      (c = 'İ' ∧ lowerIn before c after = ['i', '\u0307']) ∨
      (c ≠ 'Σ' ∧ c ≠ 'İ' ∧ lowerIn before c after = [lowerChar c]) := by
  by_cases sigma : c = 'Σ'
  · refine Or.inl ⟨sigma, ?_⟩
    rw [lowerIn, if_pos sigma]
    cases endsWord before after with
    | true => exact Or.inl rfl
    | false => exact Or.inr rfl
  · by_cases dotted : c = 'İ'
    · refine Or.inr (Or.inl ⟨dotted, ?_⟩)
      rw [lowerIn, if_neg sigma, if_pos dotted]
    · exact Or.inr (Or.inr ⟨sigma, dotted, lowerIn_of_usual sigma dotted before after⟩)

theorem isBlank_of_mem_lowerIn {before after : List Char} {c d : Char}
    (member : d ∈ lowerIn before c after) : isBlank d = isBlank c := by
  rcases lowerIn_cases before c after with ⟨rfl, same | same⟩ | ⟨rfl, same⟩ | ⟨-, -, same⟩
  · rw [same, List.mem_singleton] at member
    rw [member]
    rfl
  · rw [same, List.mem_singleton] at member
    rw [member]
    rfl
  · rw [same, List.mem_pair] at member
    rcases member with rfl | rfl <;> rfl
  · rw [same, List.mem_singleton] at member
    rw [member, isBlank_lowerChar]

theorem lowerIn_ne_nil (before : List Char) (c : Char) (after : List Char) :
    lowerIn before c after ≠ [] := by
  rcases lowerIn_cases before c after with ⟨-, same | same⟩ | ⟨-, same⟩ | ⟨-, -, same⟩ <;>
    rw [same] <;> exact List.cons_ne_nil _ _

theorem lowerIn_of_ascii {c : Char} (ascii : c.toNat < 128) (before after : List Char) :
    lowerIn before c after = [c.toLower] := by
  have sigma : c ≠ 'Σ' := by
    rintro rfl
    exact absurd ascii (by decide)
  have dotted : c ≠ 'İ' := by
    rintro rfl
    exact absurd ascii (by decide)
  rw [lowerIn_of_usual sigma dotted, lowerChar_of_ascii ascii]

theorem exists_of_mem_lowerFrom {before text : List Char} {d : Char}
    (member : d ∈ lowerFrom before text) :
    ∃ c ∈ text, ∃ earlier after, d ∈ lowerIn earlier c after := by
  induction text generalizing before with
  | nil => cases member
  | cons c after ih =>
    rw [lowerFrom, List.mem_append] at member
    rcases member with here | later
    · exact ⟨c, List.mem_cons_self, before, after, here⟩
    · obtain ⟨e, inside, found⟩ := ih later
      exact ⟨e, List.mem_cons_of_mem c inside, found⟩

theorem exists_lowerIn_subset_lowerFrom {text : List Char} {c : Char} (member : c ∈ text)
    (before : List Char) : ∃ earlier after, lowerIn earlier c after ⊆ lowerFrom before text := by
  induction text generalizing before with
  | nil => cases member
  | cons first after ih =>
    rw [lowerFrom]
    rcases List.mem_cons.mp member with rfl | later
    · exact ⟨before, after, List.subset_append_left _ _⟩
    · obtain ⟨earlier, rest, inside⟩ := ih later (first :: before)
      exact ⟨earlier, rest, List.subset_append_of_subset_right _ inside⟩

/-- Characters with a lower case of one character wherever they stand are mapped one by one. -/
theorem lowerFrom_eq_map {text : List Char} {f : Char → Char}
    (single : ∀ c ∈ text, ∀ before after, lowerIn before c after = [f c]) (before : List Char) :
    lowerFrom before text = text.map f := by
  induction text generalizing before with
  | nil => rfl
  | cons c after ih =>
    rw [List.forall_mem_cons] at single
    rw [lowerFrom, single.1, ih single.2, List.map_cons, List.singleton_append]

theorem all_isBlank_lowerFrom (before text : List Char) :
    (lowerFrom before text).all isBlank = text.all isBlank := by
  rw [Bool.eq_iff_iff, List.all_eq_true, List.all_eq_true]
  constructor
  · intro blank c member
    obtain ⟨earlier, after, inside⟩ := exists_lowerIn_subset_lowerFrom member before
    obtain ⟨d, found⟩ := List.exists_mem_of_ne_nil _ (lowerIn_ne_nil earlier c after)
    rw [← isBlank_of_mem_lowerIn found]
    exact blank d (inside found)
  · intro blank d member
    obtain ⟨c, inside, earlier, after, found⟩ := exists_of_mem_lowerFrom member
    rw [isBlank_of_mem_lowerIn found]
    exact blank c inside

theorem isBlankText_lowerCase (text : String) :
    isBlankText (lowerCase text) = isBlankText text := by
  rw [isBlankText, toList_lowerCase, lowerChars, all_isBlank_lowerFrom, isBlankText]

theorem ascii_of_foldLetters {text : String}
    (ascii : ∀ c ∈ foldLetters text, c.toNat < 128) : ∀ c ∈ text.toList, c.toNat < 128 := by
  intro c member
  exact (toNat_toLower_lt_iff c).mp (ascii _ (List.mem_map_of_mem member))

/-- A character is in ASCII or the sign for the unit Kelvin, so its lower case is in ASCII. -/
def HasPlainLetter (c : Char) : Prop :=
  c.toNat < 128 ∨ c = '\u212A'

/-- The lower case of a character with a plain letter. -/
def plainLetter (c : Char) : Char :=
  if c = '\u212A' then 'k' else c.toLower

theorem plainLetter_of_ne {c : Char} (usual : c ≠ '\u212A') : plainLetter c = c.toLower := by
  rw [plainLetter, if_neg usual]

theorem toLower_plainLetter (c : Char) : (plainLetter c).toLower = plainLetter c := by
  unfold plainLetter
  split
  · rfl
  · exact toLower_toLower c

theorem hasPlainLetter_of_plainLetter {c : Char} (ascii : (plainLetter c).toNat < 128) :
    HasPlainLetter c := by
  by_cases kelvin : c = '\u212A'
  · exact Or.inr kelvin
  · rw [plainLetter_of_ne kelvin, toNat_toLower_lt_iff] at ascii
    exact Or.inl ascii

theorem lowerIn_of_hasPlainLetter {c : Char} (plain : HasPlainLetter c) (before after : List Char) :
    lowerIn before c after = [plainLetter c] := by
  by_cases kelvin : c = '\u212A'
  · subst kelvin
    rw [lowerIn_of_usual (by decide) (by decide)]
    decide
  · rw [plainLetter_of_ne kelvin]
    exact lowerIn_of_ascii (plain.resolve_right kelvin) before after

theorem lowerChar_of_not_hasPlainLetter {c : Char} (exotic : ¬ HasPlainLetter c) :
    128 ≤ (lowerChar c).toNat := by
  rw [HasPlainLetter, not_or] at exotic
  obtain ⟨beyond, notKelvin⟩ := exotic
  rcases lowerChar_cases c with ⟨same, -⟩ | ⟨run, member, covered, moved⟩
  · rw [same]
    omega
  · have place := run.le_of_covers covered
    have image := run.apply_le_lastImage covered
    rw [lowerCaseRuns_eq_cons, List.mem_cons] at member
    rcases member with rfl | later
    · simp only at place
      omega
    · rcases (lowerCaseRuns_beyond_ascii run later).2 with target | ⟨first, last⟩
      · omega
      · have code : c.toNat = 0x212A := by omega
        exact absurd (Char.toNat_inj.mp code) notKelvin

/-- The lower case of every other character has a character that is not in ASCII. -/
theorem exists_mem_lowerIn {c : Char} (exotic : ¬ HasPlainLetter c) (before after : List Char) :
    ∃ d ∈ lowerIn before c after, 128 ≤ d.toNat := by
  rcases lowerIn_cases before c after with ⟨-, same | same⟩ | ⟨-, same⟩ | ⟨-, -, same⟩
  · rw [same]
    exact ⟨'ς', List.mem_singleton_self _, by decide⟩
  · rw [same]
    exact ⟨'σ', List.mem_singleton_self _, by decide⟩
  · rw [same]
    exact ⟨'\u0307', by decide, by decide⟩
  · rw [same]
    exact ⟨lowerChar c, List.mem_singleton_self _, lowerChar_of_not_hasPlainLetter exotic⟩

theorem lowerFrom_of_hasPlainLetter {text : List Char} (plain : ∀ c ∈ text, HasPlainLetter c)
    (before : List Char) : lowerFrom before text = text.map plainLetter :=
  lowerFrom_eq_map (fun c member => lowerIn_of_hasPlainLetter (plain c member)) before

theorem map_plainLetter {text : List Char} (usual : '\u212A' ∉ text) :
    text.map plainLetter = text.map Char.toLower := by
  apply List.map_congr_left
  intro c member
  apply plainLetter_of_ne
  rintro rfl
  exact usual member

theorem lowerFrom_of_ascii {text : List Char} (ascii : ∀ c ∈ text, c.toNat < 128)
    (before : List Char) : lowerFrom before text = text.map Char.toLower := by
  have usual : '\u212A' ∉ text := fun member => absurd (ascii _ member) (by decide)
  rw [lowerFrom_of_hasPlainLetter (fun c member => Or.inl (ascii c member)), map_plainLetter usual]

theorem hasPlainLetter_of_lowerFrom {before text : List Char}
    (ascii : ∀ d ∈ lowerFrom before text, d.toNat < 128) : ∀ c ∈ text, HasPlainLetter c := by
  intro c member
  by_contra exotic
  obtain ⟨earlier, after, inside⟩ := exists_lowerIn_subset_lowerFrom member before
  obtain ⟨d, found, beyond⟩ := exists_mem_lowerIn exotic earlier after
  exact absurd (ascii d (inside found)) (Nat.not_lt.mpr beyond)

/-- Lower case makes a text a keyword in ASCII exactly if its letters are those of the keyword, where
the sign for the unit Kelvin counts as a letter. -/
theorem sameLetters_lowerCase_iff {keyword : String}
    (ascii : ∀ c ∈ foldLetters keyword, c.toNat < 128) (text : String) :
    sameLetters (lowerCase text) keyword = true ↔
      text.toList.map plainLetter = foldLetters keyword := by
  have lowered (plain : ∀ c ∈ text.toList, HasPlainLetter c) :
      foldLetters (lowerCase text) = text.toList.map plainLetter := by
    rw [foldLetters, toList_lowerCase, lowerChars, lowerFrom_of_hasPlainLetter plain, List.map_map]
    exact List.map_congr_left fun c _ => toLower_plainLetter c
  rw [sameLetters_iff]
  constructor
  · intro same
    rw [← same] at ascii
    have plain := ascii_of_foldLetters ascii
    rw [toList_lowerCase] at plain
    rw [← lowered (hasPlainLetter_of_lowerFrom plain), same]
  · intro same
    rw [← same] at ascii
    have plain : ∀ c ∈ text.toList, HasPlainLetter c := fun c member =>
      hasPlainLetter_of_plainLetter (ascii _ (List.mem_map_of_mem member))
    rw [lowered plain, same]

/-- Lower case does not matter for the comparison with a keyword in ASCII without the letter
`k`. -/
theorem sameLetters_lowerCase {keyword : String}
    (ascii : ∀ c ∈ foldLetters keyword, c.toNat < 128 ∧ c ≠ 'k') (text : String) :
    sameLetters (lowerCase text) keyword = sameLetters text keyword := by
  rw [Bool.eq_iff_iff, sameLetters_lowerCase_iff (fun c member => (ascii c member).1),
    sameLetters_iff]
  constructor
  · intro same
    have usual : '\u212A' ∉ text.toList := by
      intro member
      have letter : 'k' ∈ text.toList.map plainLetter := List.mem_map_of_mem member
      rw [same] at letter
      exact (ascii 'k' letter).2 rfl
    rw [foldLetters, ← map_plainLetter usual, same]
  · intro same
    have usual : '\u212A' ∉ text.toList := by
      intro member
      rw [← same] at ascii
      exact absurd (ascii_of_foldLetters (fun c inside => (ascii c inside).1) _ member) (by decide)
    rw [map_plainLetter usual, ← foldLetters, same]

end ShellPractice.Text
