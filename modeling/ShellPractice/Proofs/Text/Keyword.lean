import ShellPractice.Proofs.Text.LowerCase
import ShellPractice.Proofs.Text.Words
import ShellPractice.Text.Keyword

/-!
# Keywords by characters

A line is cut after as many bytes as its keyword takes.  For a keyword in ASCII this is a cut after
as many characters: the line opens with the keyword exactly if its first characters are those of
the keyword and a space, in any case of the letters.  A keyword without blanks is then what the line
holds up to its first blank.
-/

namespace ShellPractice.Text

/-- Whether a text consists of ASCII characters. -/
def IsAscii (text : String) : Prop :=
  ∀ c ∈ text.toList, c.toNat < 128

theorem isAscii_push_iff {text : String} {c : Char} :
    IsAscii (text.push c) ↔ IsAscii text ∧ c.toNat < 128 := by
  simp only [IsAscii, String.toList_push, List.forall_mem_append, List.forall_mem_singleton]

theorem utf8ByteSize_of_isAscii {text : String} (ascii : IsAscii text) :
    text.utf8ByteSize = text.toList.length := by
  induction text using String.push_induction with
  | empty => rfl
  | push text c ih =>
    obtain ⟨front, last⟩ := isAscii_push_iff.mp ascii
    have single : c.utf8Size = 1 := by
      rw [Char.utf8Size_eq_one_iff, UInt32.le_iff_toNat_le]
      exact Nat.le_of_lt_succ last
    rw [String.utf8ByteSize_push, ih front, single, String.toList_push, List.length_append,
      List.length_singleton]

/-- Texts that differ in the case of letters only are in ASCII together. -/
theorem isAscii_of_sameLetters {first second : String} (same : sameLetters first second = true)
    (ascii : IsAscii second) : IsAscii first := by
  have folded : ∀ c ∈ foldLetters first, c.toNat < 128 := by
    intro c member
    rw [sameLetters_iff.mp same, foldLetters, List.mem_map] at member
    obtain ⟨d, inside, rfl⟩ := member
    exact (toNat_toLower_lt_iff d).mpr (ascii d inside)
  exact ascii_of_foldLetters folded

theorem length_of_sameLetters {first second : String} (same : sameLetters first second = true) :
    first.toList.length = second.toList.length := by
  have lengths := congrArg List.length (sameLetters_iff.mp same)
  rwa [foldLetters, foldLetters, List.length_map, List.length_map] at lengths

theorem rawEndPos_of_sameLetters {first second : String} (same : sameLetters first second = true)
    (ascii : IsAscii second) : first.rawEndPos = second.rawEndPos := by
  have sizes : first.utf8ByteSize = second.utf8ByteSize := by
    rw [utf8ByteSize_of_isAscii (isAscii_of_sameLetters same ascii),
      utf8ByteSize_of_isAscii ascii, length_of_sameLetters same]
  exact String.Pos.Raw.ext sizes

theorem pos?_eq_some_iff {text : String} {offset : String.Pos.Raw} {boundary : text.Pos} :
    text.pos? offset = some boundary ↔ boundary.offset = offset := by
  rw [String.pos?, String.Slice.pos?]
  constructor
  · intro found
    split at found
    · rw [Option.map_some, Option.some.injEq] at found
      rw [← found]
      rfl
    · cases found
  · rintro rfl
    have valid : boundary.offset.isValidForSlice text.toSlice = true :=
      String.Pos.Raw.isValidForSlice_eq_true_iff.mpr boundary.isValid.toSlice
    rw [dif_pos valid, Option.map_some]
    congr 1

theorem afterOpening?_eq_some_iff_cut {line opening argument : String} :
    afterOpening? line opening = some argument ↔
      ∃ boundary, line.pos? opening.rawEndPos = some boundary ∧
        sameLetters (line.sliceTo boundary).copy opening = true ∧
        trim (line.sliceFrom boundary).copy = argument := by
  simp only [afterOpening?]
  cases line.pos? opening.rawEndPos with
  | none => simp
  | some boundary => simp

/-- A cut by bytes finds an opening in ASCII exactly where the characters of the line spell it. -/
theorem afterOpening?_eq_some_iff {line opening argument : String} (ascii : IsAscii opening) :
    afterOpening? line opening = some argument ↔
      ∃ head rest, line = head ++ rest ∧ sameLetters head opening = true ∧
        trim rest = argument := by
  rw [afterOpening?_eq_some_iff_cut]
  constructor
  · rintro ⟨boundary, -, same, rfl⟩
    exact ⟨_, _, boundary.splits.eq_append, same, rfl⟩
  · rintro ⟨head, rest, whole, same, rfl⟩
    have split := String.Pos.splits_ofEqAppend whole
    refine ⟨_, ?_, ?_, by rw [split.copy_sliceFrom_eq]⟩
    · rw [pos?_eq_some_iff, split.offset_eq_rawEndPos, rawEndPos_of_sameLetters same ascii]
    · rw [split.copy_sliceTo_eq]
      exact same

theorem toLower_eq_space_iff {c : Char} : c.toLower = ' ' ↔ c = ' ' := by
  rw [← Char.toNat_inj, ← Char.toNat_inj, toNat_toLower]
  have code : ' '.toNat = 32 := rfl
  split <;> omega

theorem sameLetters_push_space_iff {head keyword : String} :
    sameLetters head (keyword.push ' ') = true ↔
      ∃ front, head = front ++ " " ∧ sameLetters front keyword = true := by
  simp only [sameLetters_iff, foldLetters, String.toList_push, List.map_append, List.map_singleton]
  constructor
  · intro same
    obtain ⟨front, last, whole, letters, space⟩ := List.map_eq_append_iff.mp same
    obtain ⟨c, rfl, lowered⟩ := List.map_eq_singleton_iff.mp space
    obtain rfl := toLower_eq_space_iff.mp lowered
    refine ⟨String.ofList front, ?_, by rw [String.toList_ofList, letters]⟩
    apply String.toList_injective
    rw [whole, String.toList_append, String.toList_ofList]
    rfl
  · rintro ⟨front, rfl, letters⟩
    rw [String.toList_append, List.map_append, letters]
    rfl

/-- What follows a keyword is found by characters, wherever the bytes of other lines end. -/
theorem afterKeyword?_eq_some_iff {line keyword argument : String} (ascii : IsAscii keyword) :
    afterKeyword? line keyword = some argument ↔
      ∃ head rest, line = head ++ " " ++ rest ∧ sameLetters head keyword = true ∧
        trim rest = argument := by
  have opening : IsAscii (keyword.push ' ') := isAscii_push_iff.mpr ⟨ascii, by decide⟩
  rw [afterKeyword?, afterOpening?_eq_some_iff opening]
  constructor
  · rintro ⟨head, rest, whole, opens, rfl⟩
    obtain ⟨front, rfl, letters⟩ := sameLetters_push_space_iff.mp opens
    exact ⟨front, rest, whole, letters, rfl⟩
  · rintro ⟨front, rest, whole, letters, rfl⟩
    exact ⟨_, rest, whole, sameLetters_push_space_iff.mpr ⟨front, rfl, letters⟩, rfl⟩

@[simp]
theorem isBlank_toLower (c : Char) : isBlank c.toLower = isBlank c := by
  simp only [isBlank, toNat_toLower]
  split
  · rw [Bool.eq_iff_iff]
    simp only [Bool.or_eq_true, Bool.and_eq_true, decide_eq_true_eq, beq_iff_eq]
    omega
  · rfl

theorem isSolid_of_sameLetters {first second : String} (same : sameLetters first second = true)
    (solid : IsSolid second.toList) : IsSolid first.toList := by
  intro c member
  have folded : c.toLower ∈ foldLetters second := by
    rw [← sameLetters_iff.mp same]
    exact List.mem_map_of_mem member
  obtain ⟨d, inside, lowered⟩ := List.mem_map.mp folded
  rw [← isBlank_toLower c, ← lowered, isBlank_toLower]
  exact solid d inside

/-- The characters of a line up to its first blank. -/
def opening (line : String) : List Char :=
  line.toList.takeWhile (!isBlank ·)

theorem opening_append {head rest : String} (solid : IsSolid head.toList)
    (follows : FollowsWord rest.toList) : opening (head ++ rest) = head.toList := by
  rw [opening, String.toList_append, takeWhile_solid_append solid follows]

theorem opening_of_sameLetters {line keyword : String} (same : sameLetters line keyword = true)
    (solid : IsSolid keyword.toList) : (opening line).map Char.toLower = foldLetters keyword := by
  have stops : FollowsWord "".toList := followsWord_nil
  have whole := opening_append (isSolid_of_sameLetters same solid) stops
  rw [String.append_empty] at whole
  rw [whole, ← sameLetters_iff.mp same, foldLetters]

theorem opening_of_head {head rest keyword : String} (same : sameLetters head keyword = true)
    (solid : IsSolid keyword.toList) :
    (opening (head ++ " " ++ rest)).map Char.toLower = foldLetters keyword := by
  have stops : FollowsWord (" " ++ rest).toList := by
    rw [String.toList_append]
    exact followsWord_cons_iff.mpr rfl
  have cut := opening_append (isSolid_of_sameLetters same solid) stops
  rw [String.append_assoc, cut, ← sameLetters_iff.mp same, foldLetters]

end ShellPractice.Text
