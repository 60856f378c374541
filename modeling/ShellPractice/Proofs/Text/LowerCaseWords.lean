import ShellPractice.Proofs.Text.LowerCase
import ShellPractice.Proofs.Text.Words

/-!
# Lower case between blanks

A blank is neither a letter nor passed over by the rule for a capital sigma, so the lower case of a
text is that of the pieces between its blanks.  Trimming and splitting into words can therefore be
done before or after.  A text in lower case stays as it is.
-/

namespace ShellPractice.Text

/-- The ranges of the blanks. -/
def blankRanges : List (Nat × Nat) :=
  [(0x09, 0x0D), (0x20, 0x20), (0x85, 0x85), (0xA0, 0xA0), (0x1680, 0x1680), (0x2000, 0x200A),
    (0x2028, 0x2029), (0x202F, 0x202F), (0x205F, 0x205F), (0x3000, 0x3000)]

theorem inRanges_blankRanges {c : Char} (blank : isBlank c = true) :
    inRanges blankRanges c.toNat = true := by
  simp only [isBlank, Bool.or_eq_true, Bool.and_eq_true, decide_eq_true_eq, beq_iff_eq] at blank
  simp only [inRanges, blankRanges, List.any_cons, List.any_nil, Bool.or_eq_true,
    Bool.and_eq_true, decide_eq_true_eq, Bool.or_false]
  omega

/-- Whether two ranges have no code point in common. -/
def apart (first second : Nat × Nat) : Bool :=
  first.2.blt second.1 || second.2.blt first.1

theorem inRanges_eq_false_of_apart {ranges others : List (Nat × Nat)} {code : Nat}
    (separate : (ranges.all fun range => others.all (apart range)) = true)
    (inside : inRanges others code = true) : inRanges ranges code = false := by
  rw [inRanges, List.any_eq_true] at inside
  obtain ⟨other, otherMember, here⟩ := inside
  rw [inRanges, List.any_eq_false]
  intro range member there
  have checked := List.all_eq_true.mp (List.all_eq_true.mp separate range member) other otherMember
  simp only [apart, Bool.or_eq_true, Nat.blt_eq] at checked
  simp only [Bool.and_eq_true, decide_eq_true_eq] at here there
  omega

theorem casedRanges_apart :
    (casedRanges.all fun range => blankRanges.all (apart range)) = true := by
  decide

theorem caseIgnorableRanges_apart :
    (caseIgnorableRanges.all fun range => blankRanges.all (apart range)) = true := by
  decide +kernel

section Blanks

variable {gap : Char} (blank : isBlank gap = true)

include blank

theorem meetsCased_append_blank (text more : List Char) :
    meetsCased (text ++ gap :: more) = meetsCased text := by
  have inside := inRanges_blankRanges blank
  have uncased := inRanges_eq_false_of_apart casedRanges_apart inside
  have kept := inRanges_eq_false_of_apart caseIgnorableRanges_apart inside
  unfold meetsCased
  induction text with
  | nil => simp [kept, uncased]
  | cons c rest ih =>
    cases ignored : inRanges caseIgnorableRanges c.toNat with
    | true => simpa [ignored] using ih
    | false => simp [ignored]

theorem lowerIn_blank (before after : List Char) : lowerIn before gap after = [gap] := by
  have sigma : gap ≠ 'Σ' := by
    rintro rfl
    exact absurd blank (by decide)
  have dotted : gap ≠ 'İ' := by
    rintro rfl
    exact absurd blank (by decide)
  rw [lowerIn_of_usual sigma dotted]
  rcases lowerChar_cases gap with ⟨same, -⟩ | ⟨run, member, covered, -⟩
  · rw [same]
  · obtain ⟨above, below⟩ := run.le_of_covers covered
    have solid := isBlank_of_noBlankBetween (lowerCaseRuns_noBlank run member).1 above below
    rw [blank] at solid
    cases solid

theorem lowerIn_append_blank_left (before more : List Char) (c : Char) (after : List Char) :
    lowerIn (before ++ gap :: more) c after = lowerIn before c after := by
  rw [lowerIn, endsWord, meetsCased_append_blank blank, ← endsWord, ← lowerIn]

theorem lowerIn_append_blank_right (before : List Char) (c : Char) (after more : List Char) :
    lowerIn before c (after ++ gap :: more) = lowerIn before c after := by
  rw [lowerIn, endsWord, meetsCased_append_blank blank, ← endsWord, ← lowerIn]

theorem lowerFrom_append_blank_left (before more text : List Char) :
    lowerFrom (before ++ gap :: more) text = lowerFrom before text := by
  induction text generalizing before with
  | nil => rfl
  | cons c after ih =>
    have later := ih (c :: before)
    rw [List.cons_append] at later
    rw [lowerFrom, lowerFrom, lowerIn_append_blank_left blank, later]

theorem lowerFrom_append_blank_right (before text more : List Char) :
    lowerFrom before (text ++ gap :: more) =
      lowerFrom before text ++ gap :: lowerChars more := by
  induction text generalizing before with
  | nil =>
    have later := lowerFrom_append_blank_left blank [] before more
    rw [List.nil_append] at later
    simp only [List.nil_append, lowerFrom, lowerIn_blank blank, later, lowerChars,
      List.singleton_append]
  | cons c after ih =>
    rw [List.cons_append, lowerFrom, lowerFrom, lowerIn_append_blank_right blank, ih,
      List.append_assoc]

theorem lowerChars_append_blank (text more : List Char) :
    lowerChars (text ++ gap :: more) = lowerChars text ++ gap :: lowerChars more :=
  lowerFrom_append_blank_right blank [] text more

end Blanks

theorem lowerChars_cons_of_blank {c : Char} (blank : isBlank c = true) (rest : List Char) :
    lowerChars (c :: rest) = c :: lowerChars rest :=
  lowerChars_append_blank blank [] rest

/-- The lower case of a text is taken apart from what comes before, where it starts with a blank. -/
theorem lowerChars_append_of_follows {rest : List Char} (follows : FollowsWord rest)
    (text : List Char) : lowerChars (text ++ rest) = lowerChars text ++ lowerChars rest := by
  cases rest with
  | nil => exact congrArg lowerChars (List.append_nil text) |>.trans (List.append_nil _).symm
  | cons c more =>
    have blank := followsWord_cons_iff.mp follows
    rw [lowerChars_append_blank blank, lowerChars_cons_of_blank blank]

theorem FollowsWord.lowerChars {rest : List Char} (follows : FollowsWord rest) :
    FollowsWord (lowerChars rest) := by
  cases rest with
  | nil => exact followsWord_nil
  | cons c more =>
    have blank := followsWord_cons_iff.mp follows
    rw [lowerChars_cons_of_blank blank]
    exact followsWord_cons_iff.mpr blank

theorem lowerChars_blanks_append {before : List Char} (blank : before.all isBlank = true)
    (text : List Char) : lowerChars (before ++ text) = before ++ lowerChars text := by
  induction before with
  | nil => rfl
  | cons c before ih =>
    rw [List.all_cons, Bool.and_eq_true] at blank
    rw [List.cons_append, lowerChars_cons_of_blank blank.1, ih blank.2, List.cons_append]

theorem lowerChars_append_blanks {after : List Char} (blank : after.all isBlank = true)
    (text : List Char) : lowerChars (text ++ after) = lowerChars text ++ after := by
  have unchanged : lowerChars after = after := by
    simpa [lowerChars, lowerFrom] using lowerChars_blanks_append blank []
  rw [lowerChars_append_of_follows (followsWord_of_all blank), unchanged]

theorem isSolid_lowerFrom {text : List Char} (solid : IsSolid text) (before : List Char) :
    IsSolid (lowerFrom before text) := by
  intro d member
  obtain ⟨c, inside, earlier, after, found⟩ := exists_of_mem_lowerFrom member
  rw [isBlank_of_mem_lowerIn found]
  exact solid c inside

theorem lowerFrom_concat (before text : List Char) (last : Char) :
    ∃ front, lowerFrom before (text ++ [last]) =
      front ++ lowerIn (text.reverse ++ before) last [] := by
  induction text generalizing before with
  | nil => exact ⟨[], List.append_nil _⟩
  | cons c after ih =>
    obtain ⟨front, later⟩ := ih (c :: before)
    refine ⟨lowerIn before c (after ++ [last]) ++ front, ?_⟩
    rw [List.cons_append, lowerFrom, later, List.append_assoc, List.reverse_cons, List.append_assoc,
      List.singleton_append]

theorem trimChars_lowerChars_of_trimmed {text : List Char} (trimmed : trimChars text = text) :
    trimChars (lowerChars text) = lowerChars text := by
  rw [trimChars_eq_self_iff] at trimmed ⊢
  obtain ⟨first, last⟩ := trimmed
  constructor
  · intro d member
    cases text with
    | nil => cases member
    | cons c rest =>
      have here : d ∈ (lowerIn [] c rest).head? := by
        rw [lowerChars, lowerFrom,
          List.head?_append_of_ne_nil _ (lowerIn_ne_nil [] c rest)] at member
        exact member
      rw [isBlank_of_mem_lowerIn (List.mem_of_mem_head? here)]
      exact first c rfl
  · intro d member
    rcases text.eq_nil_or_concat' with rfl | ⟨rest, c, rfl⟩
    · cases member
    · obtain ⟨front, ended⟩ := lowerFrom_concat [] rest c
      rw [lowerChars, ended, List.getLast?_append_of_ne_nil _ (lowerIn_ne_nil _ c [])] at member
      rw [isBlank_of_mem_lowerIn (List.mem_of_mem_getLast? member)]
      exact last c (by simp)

theorem trimChars_lowerChars (text : List Char) :
    trimChars (lowerChars text) = lowerChars (trimChars text) := by
  obtain ⟨before, after, whole, blanksBefore, blanksAfter⟩ := exists_eq_trimChars text
  have lowered : lowerChars text = before ++ lowerChars (trimChars text) ++ after := by
    conv_lhs => rw [whole]
    rw [lowerChars_append_blanks blanksAfter, lowerChars_blanks_append blanksBefore]
  rw [lowered, trimChars_append_blanks blanksAfter, trimChars_blanks_append blanksBefore,
    trimChars_lowerChars_of_trimmed (trimChars_trimChars text)]

theorem trim_lowerCase (text : String) : trim (lowerCase text) = lowerCase (trim text) := by
  rw [trim, toList_lowerCase, trimChars_lowerChars, lowerCase, toList_trim]

theorem wordsOfChars_lowerChars (text : List Char) :
    wordsOfChars (lowerChars text) = (wordsOfChars text).map lowerChars := by
  induction text using words_induction with
  | nil => rfl
  | blank c rest blank ih =>
    rw [lowerChars_cons_of_blank blank, wordsOfChars_cons_of_blank blank,
      wordsOfChars_cons_of_blank blank, ih]
  | word word rest nonempty solid follows ih =>
    have solidLowered : IsSolid (lowerChars word) := isSolid_lowerFrom solid []
    have nonemptyLowered : lowerChars word ≠ [] := by
      obtain ⟨c, after, rfl⟩ := List.exists_cons_of_ne_nil nonempty
      exact List.append_ne_nil_of_left_ne_nil (lowerIn_ne_nil [] c after) _
    rw [lowerChars_append_of_follows follows,
      wordsOfChars_append nonemptyLowered solidLowered follows.lowerChars,
      wordsOfChars_append nonempty solid follows, ih, List.map_cons]

theorem words_lowerCase (text : String) : words (lowerCase text) = (words text).map lowerCase := by
  rw [words, toList_lowerCase, wordsOfChars_lowerChars, words, List.map_map, List.map_map]
  apply List.map_congr_left
  intro word _
  rw [Function.comp_apply, Function.comp_apply, lowerCase, String.toList_ofList]

theorem lowerCase_append_space (head rest : String) :
    lowerCase (head ++ " " ++ rest) = lowerCase head ++ " " ++ lowerCase rest := by
  have space : isBlank ' ' = true := by decide
  have lowered := lowerChars_append_blank space head.toList rest.toList
  apply String.toList_injective
  simpa using lowered

/-- Where the lower case of a line has a word before its first blank, the line has one there. -/
theorem exists_of_lowerCase_eq {line head rest : String} (solid : IsSolid head.toList)
    (whole : lowerCase line = head ++ " " ++ rest) :
    ∃ front back, line = front ++ " " ++ back ∧ lowerCase front = head ∧ lowerCase back = rest := by
  have chars : lowerChars line.toList = head.toList ++ ' ' :: rest.toList := by
    have lists := congrArg String.toList whole
    simpa using lists
  obtain ⟨word, after, split, solidWord, follows⟩ := exists_eq_solid_append line.toList
  rw [split, lowerChars_append_of_follows follows] at chars
  have space : FollowsWord (' ' :: rest.toList) := followsWord_cons_iff.mpr rfl
  -- Lower case keeps what is blank, so both sides are cut before their first blank.
  obtain ⟨front, back⟩ :=
    solid_append_inj (isSolid_lowerFrom solidWord []) follows.lowerChars solid space chars
  cases after with
  | nil => cases back
  | cons c more =>
    rw [lowerChars_cons_of_blank (followsWord_cons_iff.mp follows)] at back
    obtain ⟨rfl, lowered⟩ := List.cons.inj back
    refine ⟨String.ofList word, String.ofList more, ?_, ?_, ?_⟩
    · apply String.toList_injective
      rw [split]
      simp
    · apply String.toList_injective
      rw [toList_lowerCase, String.toList_ofList]
      exact front
    · apply String.toList_injective
      rw [toList_lowerCase, String.toList_ofList]
      exact lowered

/-- Whether lower case leaves a character as it is. -/
def IsLowered (c : Char) : Prop :=
  c ≠ 'Σ' ∧ c ≠ 'İ' ∧ lowerChar c = c

/-- The code points that a run covers. -/
def CaseRun.codes (run : CaseRun) : List Nat :=
  (List.range ((run.last - run.first) / run.stride + 1)).map fun step =>
    run.first + run.stride * step

theorem CaseRun.mem_codes {run : CaseRun} {code : Nat} (covered : run.covers code = true) :
    code ∈ run.codes := by
  simp only [covers, Bool.and_eq_true, decide_eq_true_eq, beq_iff_eq] at covered
  obtain ⟨⟨above, below⟩, hit⟩ := covered
  have steps : run.stride * ((code - run.first) / run.stride) = code - run.first :=
    Nat.mul_div_cancel' (Nat.dvd_of_mod_eq_zero hit)
  have bound : (code - run.first) / run.stride ≤ (run.last - run.first) / run.stride :=
    Nat.div_le_div_right (by omega)
  rw [codes, List.mem_map]
  refine ⟨(code - run.first) / run.stride, ?_, ?_⟩
  · exact List.mem_range.mpr (Nat.lt_succ_of_le bound)
  · omega

/-- A set of code points, as a number whose bits stand for them. -/
def bitSet (codes : List Nat) : Nat :=
  codes.foldr (fun code bits => bits ||| 1 <<< code) 0

theorem testBit_bitSet {codes : List Nat} {code : Nat} (member : code ∈ codes) :
    (bitSet codes).testBit code = true := by
  induction codes with
  | nil => cases member
  | cons first codes ih =>
    rw [bitSet, List.foldr_cons, ← bitSet, Nat.testBit_or, Bool.or_eq_true]
    rcases List.mem_cons.mp member with rfl | later
    · rw [Nat.one_shiftLeft]
      exact Or.inr Nat.testBit_two_pow_self
    · exact Or.inl (ih later)

/-- The code points that lower case moves. -/
def movedCodes : Nat :=
  bitSet (lowerCaseRuns.flatMap CaseRun.codes)

-- One bit is looked up for each image, where a comparison of all pairs of runs would take longer.
theorem lowerCaseRuns_image_stays :
    (lowerCaseRuns.all fun run =>
      run.codes.all fun code => !movedCodes.testBit (run.apply code)) = true := by
  decide +kernel

theorem CaseRun.not_covers_apply {run other : CaseRun} {code : Nat} (member : run ∈ lowerCaseRuns)
    (otherMember : other ∈ lowerCaseRuns) (covered : run.covers code = true) :
    ¬ other.covers (run.apply code) := by
  intro moved
  have inside : run.apply code ∈ lowerCaseRuns.flatMap CaseRun.codes :=
    List.mem_flatMap_of_mem otherMember (other.mem_codes moved)
  have checked := List.all_eq_true.mp lowerCaseRuns_image_stays run member
  have stays := List.all_eq_true.mp checked code (run.mem_codes covered)
  rw [movedCodes, testBit_bitSet inside] at stays
  cases stays

theorem lowerCaseRuns_image_ne : ∀ run ∈ lowerCaseRuns,
    (run.lastImage < 0x130 ∨ 0x130 < run.image) ∧ (run.lastImage < 0x3A3 ∨ 0x3A3 < run.image) := by
  rw [← List.all_iff_forall_prop]
  decide

theorem lowerChar_eq_self {c : Char} (uncovered : ∀ run ∈ lowerCaseRuns, ¬ run.covers c.toNat) :
    lowerChar c = c := by
  rw [lowerChar, List.find?_eq_none.mpr uncovered]

theorem isLowered_lowerChar {c : Char} (sigma : c ≠ 'Σ') (dotted : c ≠ 'İ') :
    IsLowered (lowerChar c) := by
  rcases lowerChar_cases c with ⟨same, -⟩ | ⟨run, member, covered, moved⟩
  · exact ⟨by rwa [same], by rwa [same], by rw [same, same]⟩
  · have image := run.apply_le_lastImage covered
    obtain ⟨notDotted, notSigma⟩ := lowerCaseRuns_image_ne run member
    refine ⟨?_, ?_, lowerChar_eq_self fun other inside => ?_⟩
    · intro same
      have code : (lowerChar c).toNat = 0x3A3 := by rw [same]; rfl
      omega
    · intro same
      have code : (lowerChar c).toNat = 0x130 := by rw [same]; rfl
      omega
    · rw [moved]
      exact CaseRun.not_covers_apply member inside covered

theorem isLowered_of_mem_lowerIn {before after : List Char} {c d : Char}
    (member : d ∈ lowerIn before c after) : IsLowered d := by
  rcases lowerIn_cases before c after with ⟨-, same | same⟩ | ⟨-, same⟩ | ⟨sigma, dotted, same⟩
  · rw [same, List.mem_singleton] at member
    rw [member]
    exact ⟨by decide, by decide, by decide⟩
  · rw [same, List.mem_singleton] at member
    rw [member]
    exact ⟨by decide, by decide, by decide⟩
  · rw [same, List.mem_pair] at member
    rcases member with rfl | rfl <;> exact ⟨by decide, by decide, by decide⟩
  · rw [same, List.mem_singleton] at member
    rw [member]
    exact isLowered_lowerChar sigma dotted

theorem isLowered_of_mem_lowerFrom {before text : List Char} {d : Char}
    (member : d ∈ lowerFrom before text) : IsLowered d := by
  obtain ⟨c, -, earlier, after, found⟩ := exists_of_mem_lowerFrom member
  exact isLowered_of_mem_lowerIn found

theorem IsLowered.lowerIn_eq {c : Char} (lowered : IsLowered c) (before after : List Char) :
    lowerIn before c after = [c] := by
  obtain ⟨sigma, dotted, same⟩ := lowered
  rw [lowerIn_of_usual sigma dotted, same]

theorem lowerFrom_of_isLowered {text : List Char} (lowered : ∀ c ∈ text, IsLowered c)
    (before : List Char) : lowerFrom before text = text := by
  have kept := lowerFrom_eq_map (fun c member => (lowered c member).lowerIn_eq) before
  rwa [List.map_id'] at kept

/-- A text is in lower case exactly if each of its characters is. -/
theorem lowerCase_eq_self_iff {text : String} :
    lowerCase text = text ↔ ∀ c ∈ text.toList, IsLowered c := by
  constructor
  · intro same c member
    rw [← same, toList_lowerCase] at member
    exact isLowered_of_mem_lowerFrom member
  · intro lowered
    rw [lowerCase, lowerChars, lowerFrom_of_isLowered lowered, String.ofList_toList]

@[simp]
theorem lowerCase_lowerCase (text : String) : lowerCase (lowerCase text) = lowerCase text := by
  rw [lowerCase_eq_self_iff, toList_lowerCase]
  exact fun c member => isLowered_of_mem_lowerFrom member

theorem lowerCase_append {first second : String} (firstLowered : lowerCase first = first)
    (secondLowered : lowerCase second = second) :
    lowerCase (first ++ second) = first ++ second := by
  rw [lowerCase_eq_self_iff] at firstLowered secondLowered ⊢
  rw [String.toList_append, List.forall_mem_append]
  exact ⟨firstLowered, secondLowered⟩

end ShellPractice.Text
