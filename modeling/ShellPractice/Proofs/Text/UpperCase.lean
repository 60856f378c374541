import ShellPractice.Proofs.Text.LetterCase

/-!
# Upper case

The full upper-case form of a text, which is made letter by letter.  The form of most letters is the
letter whose lower-case form they are, and the tables here have the forms of the others.  Lower case
makes the same of a text and of its upper-case form, unless a letter has the form of other letters
or a small sigma is not the one that its place asks for.
-/

namespace ShellPractice.Text

/-- The run from the images of a run back to its code points. -/
def CaseRun.inverse (run : CaseRun) : CaseRun :=
  ⟨run.image, run.lastImage, run.stride, run.first⟩

/-- Letters whose upper-case form is that of other letters.  A run leads to the first character of
the form, and the characters after it follow. -/
def foreignForms : List (CaseRun × List Nat) :=
  [(⟨0xB5, 0xB5, 1, 0x39C⟩, []), (⟨0xDF, 0xDF, 1, 0x53⟩, [0x53]), (⟨0x131, 0x131, 1, 0x49⟩, []),
    (⟨0x149, 0x149, 1, 0x2BC⟩, [0x4E]), (⟨0x17F, 0x17F, 1, 0x53⟩, []),
    (⟨0x1F0, 0x1F0, 1, 0x4A⟩, [0x30C]), (⟨0x345, 0x345, 1, 0x399⟩, []),
    (⟨0x390, 0x390, 1, 0x399⟩, [0x308, 0x301]), (⟨0x3B0, 0x3B0, 1, 0x3A5⟩, [0x308, 0x301]),
    (⟨0x3D0, 0x3D0, 1, 0x392⟩, []), (⟨0x3D1, 0x3D1, 1, 0x398⟩, []), (⟨0x3D5, 0x3D5, 1, 0x3A6⟩, []),
    (⟨0x3D6, 0x3D6, 1, 0x3A0⟩, []), (⟨0x3F0, 0x3F0, 1, 0x39A⟩, []), (⟨0x3F1, 0x3F1, 1, 0x3A1⟩, []),
    (⟨0x3F5, 0x3F5, 1, 0x395⟩, []), (⟨0x587, 0x587, 1, 0x535⟩, [0x552]),
    (⟨0x1C80, 0x1C80, 1, 0x412⟩, []), (⟨0x1C81, 0x1C81, 1, 0x414⟩, []),
    (⟨0x1C82, 0x1C82, 1, 0x41E⟩, []), (⟨0x1C83, 0x1C84, 1, 0x421⟩, []),
    (⟨0x1C85, 0x1C85, 1, 0x422⟩, []), (⟨0x1C86, 0x1C86, 1, 0x42A⟩, []),
    (⟨0x1C87, 0x1C87, 1, 0x462⟩, []), (⟨0x1C88, 0x1C88, 1, 0xA64A⟩, []),
    (⟨0x1E96, 0x1E96, 1, 0x48⟩, [0x331]), (⟨0x1E97, 0x1E97, 1, 0x54⟩, [0x308]),
    (⟨0x1E98, 0x1E98, 1, 0x57⟩, [0x30A]), (⟨0x1E99, 0x1E99, 1, 0x59⟩, [0x30A]),
    (⟨0x1E9A, 0x1E9A, 1, 0x41⟩, [0x2BE]), (⟨0x1E9B, 0x1E9B, 1, 0x1E60⟩, []),
    (⟨0x1F50, 0x1F50, 1, 0x3A5⟩, [0x313]), (⟨0x1F52, 0x1F52, 1, 0x3A5⟩, [0x313, 0x300]),
    (⟨0x1F54, 0x1F54, 1, 0x3A5⟩, [0x313, 0x301]), (⟨0x1F56, 0x1F56, 1, 0x3A5⟩, [0x313, 0x342]),
    (⟨0x1F80, 0x1F87, 1, 0x1F08⟩, [0x399]), (⟨0x1F88, 0x1F8F, 1, 0x1F08⟩, [0x399]),
    (⟨0x1F90, 0x1F97, 1, 0x1F28⟩, [0x399]), (⟨0x1F98, 0x1F9F, 1, 0x1F28⟩, [0x399]),
    (⟨0x1FA0, 0x1FA7, 1, 0x1F68⟩, [0x399]), (⟨0x1FA8, 0x1FAF, 1, 0x1F68⟩, [0x399]),
    (⟨0x1FB2, 0x1FB2, 1, 0x1FBA⟩, [0x399]), (⟨0x1FB3, 0x1FB3, 1, 0x391⟩, [0x399]),
    (⟨0x1FB4, 0x1FB4, 1, 0x386⟩, [0x399]), (⟨0x1FB6, 0x1FB6, 1, 0x391⟩, [0x342]),
    (⟨0x1FB7, 0x1FB7, 1, 0x391⟩, [0x342, 0x399]), (⟨0x1FBC, 0x1FBC, 1, 0x391⟩, [0x399]),
    (⟨0x1FBE, 0x1FBE, 1, 0x399⟩, []), (⟨0x1FC2, 0x1FC2, 1, 0x1FCA⟩, [0x399]),
    (⟨0x1FC3, 0x1FC3, 1, 0x397⟩, [0x399]), (⟨0x1FC4, 0x1FC4, 1, 0x389⟩, [0x399]),
    (⟨0x1FC6, 0x1FC6, 1, 0x397⟩, [0x342]), (⟨0x1FC7, 0x1FC7, 1, 0x397⟩, [0x342, 0x399]),
    (⟨0x1FCC, 0x1FCC, 1, 0x397⟩, [0x399]), (⟨0x1FD2, 0x1FD2, 1, 0x399⟩, [0x308, 0x300]),
    (⟨0x1FD3, 0x1FD3, 1, 0x399⟩, [0x308, 0x301]), (⟨0x1FD6, 0x1FD6, 1, 0x399⟩, [0x342]),
    (⟨0x1FD7, 0x1FD7, 1, 0x399⟩, [0x308, 0x342]), (⟨0x1FE2, 0x1FE2, 1, 0x3A5⟩, [0x308, 0x300]),
    (⟨0x1FE3, 0x1FE3, 1, 0x3A5⟩, [0x308, 0x301]), (⟨0x1FE4, 0x1FE4, 1, 0x3A1⟩, [0x313]),
    (⟨0x1FE6, 0x1FE6, 1, 0x3A5⟩, [0x342]), (⟨0x1FE7, 0x1FE7, 1, 0x3A5⟩, [0x308, 0x342]),
    (⟨0x1FF2, 0x1FF2, 1, 0x1FFA⟩, [0x399]), (⟨0x1FF3, 0x1FF3, 1, 0x3A9⟩, [0x399]),
    (⟨0x1FF4, 0x1FF4, 1, 0x38F⟩, [0x399]), (⟨0x1FF6, 0x1FF6, 1, 0x3A9⟩, [0x342]),
    (⟨0x1FF7, 0x1FF7, 1, 0x3A9⟩, [0x342, 0x399]), (⟨0x1FFC, 0x1FFC, 1, 0x3A9⟩, [0x399]),
    (⟨0xFB00, 0xFB00, 1, 0x46⟩, [0x46]), (⟨0xFB01, 0xFB01, 1, 0x46⟩, [0x49]),
    (⟨0xFB02, 0xFB02, 1, 0x46⟩, [0x4C]), (⟨0xFB03, 0xFB03, 1, 0x46⟩, [0x46, 0x49]),
    (⟨0xFB04, 0xFB04, 1, 0x46⟩, [0x46, 0x4C]), (⟨0xFB05, 0xFB05, 1, 0x53⟩, [0x54]),
    (⟨0xFB06, 0xFB06, 1, 0x53⟩, [0x54]), (⟨0xFB13, 0xFB13, 1, 0x544⟩, [0x546]),
    (⟨0xFB14, 0xFB14, 1, 0x544⟩, [0x535]), (⟨0xFB15, 0xFB15, 1, 0x544⟩, [0x53B]),
    (⟨0xFB16, 0xFB16, 1, 0x54E⟩, [0x546]), (⟨0xFB17, 0xFB17, 1, 0x544⟩, [0x53D])]

/-- Letters that share their upper-case form with another letter of the same lower case: those in
title case and the final sigma. -/
def sharedForms : List CaseRun :=
  [⟨0x1C5, 0x1C5, 1, 0x1C4⟩, ⟨0x1C8, 0x1C8, 1, 0x1C7⟩, ⟨0x1CB, 0x1CB, 1, 0x1CA⟩,
    ⟨0x1F2, 0x1F2, 1, 0x1F1⟩, ⟨0x3C2, 0x3C2, 1, 0x3A3⟩]

/-- The upper-case mapping of all other letters. -/
def upperCaseRuns : List CaseRun :=
  sharedForms ++ lowerCaseRuns.map CaseRun.inverse

/-- The upper-case form of a character. -/
def upperChar (c : Char) : List Char :=
  match foreignForms.find? fun form => form.1.covers c.toNat with
  | some (run, others) => Char.ofNat (run.apply c.toNat) :: others.map Char.ofNat
  | none =>
    match upperCaseRuns.find? fun run => run.covers c.toNat with
    | some run => [Char.ofNat (run.apply c.toNat)]
    | none => [c]

/-- The upper-case form of a list of characters. -/
def upperChars (text : List Char) : List Char :=
  text.flatMap upperChar

/-- The upper-case form of a text. -/
def upperCase (text : String) : String :=
  String.ofList (upperChars text.toList)

@[simp]
theorem toList_upperCase (text : String) :
    (upperCase text).toList = upperChars text.toList := by
  simp [upperCase]

/-- Whether the upper-case form of a character is that of other letters. -/
def hasForeignForm (c : Char) : Bool :=
  foreignForms.any fun form => form.1.covers c.toNat

theorem upperChar_of_foreign {c : Char} (foreign : hasForeignForm c = true) :
    ∃ form ∈ foreignForms, form.1.covers c.toNat = true ∧
      upperChar c = Char.ofNat (form.1.apply c.toNat) :: form.2.map Char.ofNat := by
  unfold upperChar
  cases found : foreignForms.find? fun form => form.1.covers c.toNat with
  | some form =>
    have covered := List.find?_some found
    exact ⟨form, List.mem_of_find?_eq_some found, covered, rfl⟩
  | none =>
    rw [hasForeignForm, List.any_eq_true] at foreign
    obtain ⟨form, member, covered⟩ := foreign
    exact absurd covered (List.find?_eq_none.mp found form member)

theorem upperChar_of_own {c : Char} (own : hasForeignForm c = false) :
    (∃ run ∈ upperCaseRuns, run.covers c.toNat = true ∧
        upperChar c = [Char.ofNat (run.apply c.toNat)]) ∨ upperChar c = [c] := by
  have unlisted : (foreignForms.find? fun form => form.1.covers c.toNat) = none :=
    List.find?_eq_none.mpr (List.any_eq_false.mp own)
  rw [upperChar, unlisted]
  cases found : upperCaseRuns.find? fun run => run.covers c.toNat with
  | some run =>
    have covered := List.find?_some found
    exact Or.inl ⟨run, List.mem_of_find?_eq_some found, covered, rfl⟩
  | none => exact Or.inr rfl

section Blanks

theorem upperCaseRuns_images : ∀ run ∈ foreignForms.map Prod.fst ++ upperCaseRuns,
    (run.lastImage < 0xD800 ∨ 0xDFFF < run.image ∧ run.lastImage < 0x110000) ∧
      noBlankBetween run.first run.last = true ∧
      noBlankBetween run.image run.lastImage = true := by
  rw [← List.all_iff_forall_prop]
  decide +kernel

theorem foreignForms_noBlank : ∀ form ∈ foreignForms,
    ∀ other ∈ form.2, isBlank (Char.ofNat other) = false := by
  decide +kernel

theorem isBlank_upperCaseRuns {run : CaseRun} {c : Char}
    (member : run ∈ foreignForms.map Prod.fst ++ upperCaseRuns)
    (covered : run.covers c.toNat = true) :
    isBlank (Char.ofNat (run.apply c.toNat)) = isBlank c := by
  obtain ⟨valid, source, target⟩ := upperCaseRuns_images run member
  exact run.isBlank_eq_of_covers source target covered (run.toNat_ofNat_apply valid covered)

theorem isBlank_of_mem_upperChar {c d : Char} (member : d ∈ upperChar c) :
    isBlank d = isBlank c := by
  cases foreign : hasForeignForm c with
  | true =>
    obtain ⟨form, inside, covered, same⟩ := upperChar_of_foreign foreign
    have inRuns : form.1 ∈ foreignForms.map Prod.fst ++ upperCaseRuns :=
      List.mem_append_left _ (List.mem_map_of_mem inside)
    rw [same, List.mem_cons, List.mem_map] at member
    rcases member with rfl | ⟨other, later, rfl⟩
    · exact isBlank_upperCaseRuns inRuns covered
    · obtain ⟨-, source, -⟩ := upperCaseRuns_images form.1 inRuns
      have place := form.1.le_of_covers covered
      rw [foreignForms_noBlank form inside other later,
        isBlank_of_noBlankBetween source place.1 place.2]
  | false =>
    rcases upperChar_of_own foreign with ⟨run, inside, covered, same⟩ | same
    · rw [same, List.mem_singleton] at member
      rw [member]
      exact isBlank_upperCaseRuns (List.mem_append_right _ inside) covered
    · rw [same, List.mem_singleton] at member
      rw [member]

theorem upperChar_ne_nil (c : Char) : upperChar c ≠ [] := by
  unfold upperChar
  split
  · exact List.cons_ne_nil _ _
  · split <;> exact List.cons_ne_nil _ _

theorem trimChars_upperChars_of_trimmed {text : List Char} (trimmed : trimChars text = text) :
    trimChars (upperChars text) = upperChars text := by
  rw [trimChars_eq_self_iff] at trimmed ⊢
  obtain ⟨first, last⟩ := trimmed
  constructor
  · intro d front
    cases text with
    | nil => cases front
    | cons c rest =>
      rw [upperChars, List.flatMap_cons, List.head?_append_of_ne_nil _ (upperChar_ne_nil c)]
        at front
      rw [isBlank_of_mem_upperChar (List.mem_of_mem_head? front)]
      exact first c rfl
  · intro d back
    cases text using List.reverseRecOn with
    | nil => cases back
    | append_singleton front c _ =>
      rw [upperChars, List.flatMap_append, List.flatMap_singleton,
        List.getLast?_append_of_ne_nil _ (upperChar_ne_nil c)] at back
      rw [isBlank_of_mem_upperChar (List.mem_of_mem_getLast? back)]
      exact last c (by rw [List.getLast?_concat]; rfl)

theorem trim_upperCase_of_trimmed {text : String} (trimmed : trim text = text) :
    trim (upperCase text) = upperCase text := by
  apply String.toList_injective
  rw [toList_trim, toList_upperCase]
  exact trimChars_upperChars_of_trimmed (trimChars_of_trim_eq trimmed)

end Blanks

section Foreign

/-- The code points of the letters with a foreign form. -/
def foreignCodes : List Nat :=
  foreignForms.flatMap fun form => form.1.codes

/-- The code points that foreign forms start with. -/
def foreignStarts : List Nat :=
  foreignForms.flatMap fun form => form.1.codes.map form.1.apply

-- Again the sets are numbers, so that each code point of the mapping costs two looked-up bits.
theorem foreignCodes_disjoint : bitSet foreignCodes &&& bitSet foreignStarts = 0 := by
  decide +kernel

theorem lowerCaseRuns_foreign :
    (lowerCaseRuns.all fun run => run.codes.all fun code =>
      if (bitSet foreignCodes).testBit (run.apply code) then !(bitSet foreignStarts).testBit code
      else !(bitSet foreignCodes).testBit code) = true := by
  decide +kernel

/-- Lower case leads from letters with a foreign form to such letters, and from the letters that
foreign forms start with to others. -/
theorem CaseRun.foreign_apply {run : CaseRun} {code : Nat} (member : run ∈ lowerCaseRuns)
    (covered : run.covers code = true) :
    (if (bitSet foreignCodes).testBit (run.apply code) then !(bitSet foreignStarts).testBit code
      else !(bitSet foreignCodes).testBit code) = true := by
  have checked := List.all_eq_true.mp lowerCaseRuns_foreign run member
  exact List.all_eq_true.mp checked code (run.mem_codes covered)

theorem testBit_foreignCodes_lowerChar {c : Char} (member : c.toNat ∈ foreignCodes) :
    (bitSet foreignCodes).testBit (lowerChar c).toNat = true := by
  have here := testBit_bitSet member
  rcases lowerChar_cases c with ⟨same, -⟩ | ⟨run, inside, covered, moved⟩
  · rw [same, here]
  · have checked := run.foreign_apply inside covered
    rw [← moved, here] at checked
    by_contra absent
    rw [if_neg absent] at checked
    cases checked

theorem testBit_foreignCodes_lowerChar_of_start {c : Char} (member : c.toNat ∈ foreignStarts) :
    (bitSet foreignCodes).testBit (lowerChar c).toNat = false := by
  have here := testBit_bitSet member
  rw [← Bool.not_eq_true]
  intro foreign
  rcases lowerChar_cases c with ⟨same, -⟩ | ⟨run, inside, covered, moved⟩
  · have both := Nat.testBit_and (bitSet foreignCodes) (bitSet foreignStarts) c.toNat
    rw [same] at foreign
    rw [foreignCodes_disjoint, foreign, here, Nat.zero_testBit] at both
    cases both
  · have checked := run.foreign_apply inside covered
    rw [← moved, if_pos foreign, here] at checked
    cases checked

theorem ne_of_toNat_mem {c d : Char} {codes : List Nat} (member : c.toNat ∈ codes)
    (absent : d.toNat ∉ codes) : c ≠ d := by
  rintro rfl
  exact absent member

/-- Whatever is around a letter with a foreign form, lower case tells its form from it. -/
theorem exists_upperChar_of_foreign {c : Char} (foreign : hasForeignForm c = true) :
    ∃ d rest, upperChar c = d :: rest ∧ ∀ before after earlier later,
      ∃ e f, e ≠ f ∧ lowerIn earlier d later = [e] ∧ lowerIn before c after = [f] := by
  obtain ⟨form, inside, covered, same⟩ := upperChar_of_foreign foreign
  have inRuns : form.1 ∈ foreignForms.map Prod.fst ++ upperCaseRuns :=
    List.mem_append_left _ (List.mem_map_of_mem inside)
  have moved := form.1.toNat_ofNat_apply (upperCaseRuns_images form.1 inRuns).1 covered
  have source : c.toNat ∈ foreignCodes :=
    List.mem_flatMap.mpr ⟨form, inside, form.1.mem_codes covered⟩
  have start : (Char.ofNat (form.1.apply c.toNat)).toNat ∈ foreignStarts := by
    rw [moved]
    exact List.mem_flatMap.mpr ⟨form, inside, List.mem_map_of_mem (form.1.mem_codes covered)⟩
  refine ⟨_, _, same, fun before after earlier later => ⟨_, _, ?_,
    lowerIn_of_usual (ne_of_toNat_mem start (by decide))
      (ne_of_toNat_mem start (by decide)) earlier later,
    lowerIn_of_usual (ne_of_toNat_mem source (by decide))
      (ne_of_toNat_mem source (by decide)) before after⟩⟩
  intro equal
  have clash := testBit_foreignCodes_lowerChar_of_start start
  rw [equal, testBit_foreignCodes_lowerChar source] at clash
  cases clash

end Foreign

section Own

/-- Whether a run ends before the next one begins. -/
def CaseRun.Before (run next : CaseRun) : Prop :=
  run.first ≤ run.last ∧ run.last < next.first
  deriving Decidable

instance : Trans CaseRun.Before CaseRun.Before CaseRun.Before where
  trans first second := ⟨first.1, Nat.lt_trans (Nat.lt_of_lt_of_le first.2 second.1) second.2⟩

theorem lowerCaseRuns_isChain : lowerCaseRuns.IsChain CaseRun.Before := by
  decide +kernel

theorem eq_of_covers {run other : CaseRun} {code : Nat} (member : run ∈ lowerCaseRuns)
    (otherMember : other ∈ lowerCaseRuns) (covered : run.covers code = true)
    (otherCovered : other.covers code = true) : run = other := by
  have sorted := List.pairwise_iff_getElem.mp lowerCaseRuns_isChain.pairwise
  have place := run.le_of_covers covered
  have otherPlace := other.le_of_covers otherCovered
  obtain ⟨index, below, rfl⟩ := List.getElem_of_mem member
  obtain ⟨otherIndex, otherBelow, rfl⟩ := List.getElem_of_mem otherMember
  rcases Nat.lt_trichotomy index otherIndex with earlier | rfl | later
  · have apart := (sorted index otherIndex below otherBelow earlier).2
    omega
  · rfl
  · have apart := (sorted otherIndex index otherBelow below later).2
    omega

theorem lowerChar_of_covers {run : CaseRun} {c : Char} (member : run ∈ lowerCaseRuns)
    (covered : run.covers c.toNat = true) : (lowerChar c).toNat = run.apply c.toNat := by
  rcases lowerChar_cases c with ⟨-, uncovered⟩ | ⟨other, inside, otherCovered, moved⟩
  · exact absurd covered (uncovered run member)
  · rw [moved, eq_of_covers inside member otherCovered covered]

theorem CaseRun.covers_apply_inverse {run : CaseRun} {code : Nat} (ordered : run.first ≤ run.last)
    (covered : run.inverse.covers code = true) :
    run.covers (run.inverse.apply code) = true ∧ run.apply (run.inverse.apply code) = code := by
  have place := run.inverse.le_of_covers covered
  simp only [covers, Bool.and_eq_true, decide_eq_true_eq, beq_iff_eq] at covered ⊢
  simp only [inverse, lastImage, apply] at place covered ⊢
  have distance : run.first + (code - run.image) - run.first = code - run.image := by omega
  rw [distance]
  exact ⟨⟨⟨by omega, by omega⟩, covered.2⟩, by omega⟩

theorem caseCodes_cased :
    bitSet (lowerCaseRuns.flatMap fun run => run.codes ++ run.inverse.codes) &&&
        rangeSet casedRanges =
      bitSet (lowerCaseRuns.flatMap fun run => run.codes ++ run.inverse.codes) := by
  decide +kernel

theorem cased_of_mem_codes {run : CaseRun} {code : Nat} (member : run ∈ lowerCaseRuns)
    (inside : code ∈ run.codes ++ run.inverse.codes) : inRanges casedRanges code = true := by
  have whole : code ∈ lowerCaseRuns.flatMap fun run => run.codes ++ run.inverse.codes :=
    List.mem_flatMap.mpr ⟨run, member, inside⟩
  have both := congrArg (Nat.testBit · code) caseCodes_cased
  simp only [Nat.testBit_and, testBit_bitSet whole, testBit_rangeSet, Bool.true_and] at both
  exact both

theorem lowerCaseRuns_sources : ∀ run ∈ lowerCaseRuns,
    run.first ≤ run.last ∧ run.covers 0x130 = false ∧
      (run.covers 0x3A3 = true → run.apply 0x3A3 = 0x3C3) := by
  rw [← List.all_iff_forall_prop]
  decide

/-- Whether the character `d` is a capital that lower case takes to the lower case of `c`, if `c` is
none of the small sigmas. -/
structure IsCapitalOf (d c : Char) : Prop where
  part : SamePart d c
  lowered : (d = 'Σ' ∧ (c = 'σ' ∨ c = 'ς')) ∨
    (c ≠ 'σ' ∧ c ≠ 'ς' ∧ ∀ before after, lowerIn before d after = lowerIn before c after)

theorem isCapitalOf_of_inverse {run : CaseRun} {c d : Char} (member : run ∈ lowerCaseRuns)
    (covered : run.inverse.covers c.toNat = true) (moved : d.toNat = run.inverse.apply c.toNat)
    (sigma : c ≠ 'σ') (final : c ≠ 'ς') : IsCapitalOf d c := by
  obtain ⟨ordered, undotted, sigmaImage⟩ := lowerCaseRuns_sources run member
  obtain ⟨back, forth⟩ := run.covers_apply_inverse ordered covered
  rw [← moved] at back forth
  have dotted : d ≠ 'İ' := by
    rintro rfl
    rw [show run.covers 0x130 = true from back] at undotted
    cases undotted
  have capital : d ≠ 'Σ' := by
    rintro rfl
    apply sigma
    apply Char.toNat_inj.mp
    rw [← forth]
    exact sigmaImage back
  have lowered : lowerChar d = c := by
    apply Char.toNat_inj.mp
    rw [lowerChar_of_covers member back, forth]
  have stays : IsLowered c := by
    rw [← lowered]
    exact isLowered_lowerChar capital dotted
  constructor
  · exact samePart_of_cased
      (cased_of_mem_codes member (List.mem_append_left _ (run.mem_codes back)))
      (cased_of_mem_codes member (List.mem_append_right _ (run.inverse.mem_codes covered)))
  · refine Or.inr ⟨sigma, final, fun before after => ?_⟩
    rw [lowerIn_of_usual capital dotted, lowered, stays.lowerIn_eq]

/-- A letter in title case shares its lower case with the capital. -/
theorem sharedForms_title : ∀ run ∈ sharedForms, run.first = run.last ∧
    (Char.ofNat run.first = 'ς' ∨
      (∀ code ∈ [run.first, run.image],
        code ≠ 0x3A3 ∧ code ≠ 0x130 ∧ inRanges casedRanges code = true) ∧
      lowerChar (Char.ofNat run.image) = lowerChar (Char.ofNat run.first)) := by
  decide +kernel

theorem upperChar_sigma : upperChar 'σ' = ['Σ'] ∧ upperChar 'ς' = ['Σ'] := by
  decide

theorem isCapitalOf_of_shared {run : CaseRun} {c d : Char} (member : run ∈ sharedForms)
    (covered : run.covers c.toNat = true) (moved : d.toNat = run.apply c.toNat)
    (sigma : c ≠ 'σ') (final : c ≠ 'ς') : IsCapitalOf d c := by
  obtain ⟨single, title⟩ := sharedForms_title run member
  have place := run.le_of_covers covered
  have source : run.first = c.toNat := by omega
  have image : run.image = d.toNat := by
    rw [moved, CaseRun.apply]
    omega
  rw [source, image, Char.ofNat_toNat, Char.ofNat_toNat] at title
  rcases title with impossible | ⟨usual, lowered⟩
  · exact absurd impossible final
  · obtain ⟨small, dottedSmall, casedSmall⟩ := usual c.toNat List.mem_cons_self
    obtain ⟨capital, dotted, casedCapital⟩ :=
      usual d.toNat (List.mem_cons_of_mem _ List.mem_cons_self)
    refine ⟨samePart_of_cased casedCapital casedSmall,
      Or.inr ⟨sigma, final, fun before after => ?_⟩⟩
    rw [lowerIn_of_usual (fun same => capital (congrArg Char.toNat same))
        (fun same => dotted (congrArg Char.toNat same)),
      lowerIn_of_usual (fun same => small (congrArg Char.toNat same))
        (fun same => dottedSmall (congrArg Char.toNat same)), lowered]

/-- A character without a foreign form has one of a single character. -/
theorem exists_upperChar_of_own {c : Char} (own : hasForeignForm c = false) :
    ∃ d, upperChar c = [d] ∧ IsCapitalOf d c := by
  by_cases small : c = 'σ' ∨ c = 'ς'
  · refine ⟨'Σ', ?_, samePart_of_cased (by decide) ?_, Or.inl ⟨rfl, small⟩⟩
    · rcases small with rfl | rfl
      · exact upperChar_sigma.1
      · exact upperChar_sigma.2
    · rcases small with rfl | rfl <;> decide
  · rw [not_or] at small
    obtain ⟨sigma, final⟩ := small
    rcases upperChar_of_own own with ⟨run, inside, covered, same⟩ | same
    · refine ⟨_, same, ?_⟩
      have moved := run.toNat_ofNat_apply
        (upperCaseRuns_images run (List.mem_append_right _ inside)).1 covered
      rw [upperCaseRuns, List.mem_append, List.mem_map] at inside
      rcases inside with shared | ⟨source, member, rfl⟩
      · exact isCapitalOf_of_shared shared covered moved sigma final
      · exact isCapitalOf_of_inverse member covered moved sigma final
    · exact ⟨c, same, ⟨rfl, rfl⟩, Or.inr ⟨sigma, final, fun _ _ => rfl⟩⟩

end Own

section Recovery

/-- Whether a letter between these neighbours comes back from upper case: a small sigma if a capital
one would become the same here, and any other letter if its form is not that of other letters. -/
def survivesIn (before : List Char) (c : Char) (after : List Char) : Bool :=
  if c = 'σ' then !endsWord before after
  else if c = 'ς' then endsWord before after
  else !hasForeignForm c

/-- Whether each letter of the rest of a text whose earlier characters are given backwards does. -/
def survivesFrom : List Char → List Char → Bool
  | _, [] => true
  | before, c :: after => survivesIn before c after && survivesFrom (c :: before) after

/-- Whether no letter of a text has a foreign form and each small sigma has the form for its place:
the final one where it ends a word, and the other one elsewhere. -/
def survivesUpperCase (text : String) : Bool :=
  survivesFrom [] text.toList

theorem length_lowerIn (before : List Char) (c : Char) (after : List Char) :
    (lowerIn before c after).length = if c = 'İ' then 2 else 1 := by
  rcases lowerIn_cases before c after with ⟨rfl, same | same⟩ | ⟨rfl, same⟩ | ⟨-, dotted, same⟩
  · rw [same]
    rfl
  · rw [same]
    rfl
  · rw [same]
    rfl
  · rw [same, if_neg dotted]
    rfl

theorem own_of_survivesIn {before after : List Char} {c : Char}
    (survives : survivesIn before c after = true) : hasForeignForm c = false := by
  unfold survivesIn at survives
  split at survives
  next sigma =>
    rw [sigma]
    decide
  next =>
    split at survives
    next final =>
      rw [final]
      decide
    next => simpa using survives

theorem survivesIn_of_foreign {c : Char} (foreign : hasForeignForm c = true)
    (before after : List Char) : survivesIn before c after = false := by
  rw [← Bool.not_eq_true]
  intro survives
  rw [own_of_survivesIn survives] at foreign
  cases foreign

theorem own_of_survivesFrom {before text : List Char}
    (survives : survivesFrom before text = true) : ∀ c ∈ text, hasForeignForm c = false := by
  induction text generalizing before with
  | nil => exact fun c member => absurd member List.not_mem_nil
  | cons c after ih =>
    rw [survivesFrom, Bool.and_eq_true] at survives
    exact List.forall_mem_cons.mpr ⟨own_of_survivesIn survives.1, ih survives.2⟩

theorem meetsCased_upperChars {text : List Char} (own : ∀ c ∈ text, hasForeignForm c = false) :
    meetsCased (upperChars text) = meetsCased text := by
  induction text with
  | nil => rfl
  | cons c rest ih =>
    rw [List.forall_mem_cons] at own
    obtain ⟨d, same, capital⟩ := exists_upperChar_of_own own.1
    rw [upperChars, List.flatMap_cons, same, List.singleton_append]
    exact capital.part.meetsCased_cons (ih own.2)

theorem IsCapitalOf.length_lowerIn_eq {d c : Char} (capital : IsCapitalOf d c)
    (before after earlier later : List Char) :
    (lowerIn earlier d later).length = (lowerIn before c after).length := by
  rw [length_lowerIn, length_lowerIn]
  rcases capital.lowered with ⟨rfl, rfl | rfl⟩ | ⟨-, -, same⟩
  · rfl
  · rfl
  · rw [← length_lowerIn [] d [], ← length_lowerIn [] c [], same]

theorem isLowered_sigma : IsLowered 'σ' ∧ IsLowered 'ς' :=
  ⟨⟨by decide, by decide, by decide⟩, ⟨by decide, by decide, by decide⟩⟩

theorem IsCapitalOf.lowerIn_eq_iff {d c : Char} (capital : IsCapitalOf d c)
    (own : hasForeignForm c = false) (before after : List Char) :
    lowerIn before d after = lowerIn before c after ↔ survivesIn before c after = true := by
  rcases capital.lowered with ⟨rfl, rfl | rfl⟩ | ⟨sigma, final, same⟩
  · rw [isLowered_sigma.1.lowerIn_eq, lowerIn, if_pos rfl, survivesIn, if_pos rfl]
    cases endsWord before after <;> decide
  · have other : 'ς' ≠ 'σ' := by decide
    rw [isLowered_sigma.2.lowerIn_eq, lowerIn, if_pos rfl, survivesIn, if_neg other, if_pos rfl]
    cases endsWord before after <;> decide
  · rw [survivesIn, if_neg sigma, if_neg final, own]
    exact iff_of_true (same before after) rfl

/-- Lower case takes the upper-case form of a text to the lower case of the text exactly if each of
its letters survives. -/
theorem lowerFrom_upperChars_iff {upper before : List Char} (text : List Char)
    (same : meetsCased upper = meetsCased before) :
    lowerFrom upper (upperChars text) = lowerFrom before text ↔
      survivesFrom before text = true := by
  induction text generalizing upper before with
  | nil => exact iff_of_true rfl rfl
  | cons c after ih =>
    rw [upperChars, List.flatMap_cons, ← upperChars]
    cases foreign : hasForeignForm c with
    | true =>
      obtain ⟨d, rest, form, apart⟩ := exists_upperChar_of_foreign foreign
      obtain ⟨e, f, different, formLowered, lowered⟩ :=
        apart before after upper (rest ++ upperChars after)
      rw [form, List.cons_append, lowerFrom, lowerFrom, formLowered, lowered, survivesFrom,
        survivesIn_of_foreign foreign, List.singleton_append, List.singleton_append]
      simp [different]
    | false =>
      obtain ⟨d, form, capital⟩ := exists_upperChar_of_own foreign
      have later := ih (capital.part.meetsCased_cons same)
      have lengths := capital.length_lowerIn_eq before after upper (upperChars after)
      rw [form, List.singleton_append, lowerFrom, lowerFrom,
        List.append_eq_append_iff_of_size_eq_left lengths, later, survivesFrom, Bool.and_eq_true]
      refine and_congr_left fun survives => ?_
      -- The rest has no foreign forms now, so its upper-case form ends a word where it does.
      have context : endsWord upper (upperChars after) = endsWord before after := by
        rw [endsWord, endsWord, same, meetsCased_upperChars (own_of_survivesFrom survives)]
      rw [lowerIn, context, ← lowerIn]
      exact capital.lowerIn_eq_iff foreign before after

theorem lowerCase_upperCase_eq_iff {text : String} :
    lowerCase (upperCase text) = lowerCase text ↔ survivesUpperCase text = true := by
  rw [survivesUpperCase, ← lowerFrom_upperChars_iff text.toList rfl, ← String.toList_inj,
    toList_lowerCase, toList_lowerCase, toList_upperCase, lowerChars, lowerChars]

theorem foreignForms_beyond_ascii : ∀ form ∈ foreignForms, 128 ≤ form.1.first := by
  rw [← List.all_iff_forall_prop]
  decide

theorem survivesIn_of_ascii {c : Char} (ascii : c.toNat < 128) (before after : List Char) :
    survivesIn before c after = true := by
  have own : hasForeignForm c = false := by
    rw [hasForeignForm, List.any_eq_false]
    intro form member covered
    have place := form.1.le_of_covers covered
    have beyond := foreignForms_beyond_ascii form member
    omega
  have sigma : c ≠ 'σ' := by
    rintro rfl
    exact absurd ascii (by decide)
  have final : c ≠ 'ς' := by
    rintro rfl
    exact absurd ascii (by decide)
  rw [survivesIn, if_neg sigma, if_neg final, own]
  rfl

theorem survivesFrom_of_ascii {text : List Char} (ascii : ∀ c ∈ text, c.toNat < 128)
    (before : List Char) : survivesFrom before text = true := by
  induction text generalizing before with
  | nil => rfl
  | cons c after ih =>
    rw [List.forall_mem_cons] at ascii
    rw [survivesFrom, survivesIn_of_ascii ascii.1, ih ascii.2]
    rfl

theorem survivesUpperCase_of_isAscii {text : String} (ascii : IsAscii text) :
    survivesUpperCase text = true :=
  survivesFrom_of_ascii ascii []

end Recovery
end ShellPractice.Text
