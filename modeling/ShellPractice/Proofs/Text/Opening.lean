import ShellPractice.Proofs.Text.Keyword
import ShellPractice.Proofs.Text.TypedLines

/-!
# Cutting a line by bytes

A text in UTF-8 can be cut after a number of its bytes only where a character ends.  An opening in
ASCII has as many bytes as characters, so a line that starts with it can be cut behind it, and a
line that cannot be cut there does not start with it.
-/

namespace ShellPractice.Text

/-- Why a text cannot be cut. -/
inductive CutFault where
  | beyondEnd
  | insideCharacter
  deriving DecidableEq

/-- The first bytes of a text as a text. -/
def front (text : String) (count : Nat) : Except CutFault String :=
  if text.utf8ByteSize < count then .error .beyondEnd
  else (String.fromUTF8? (text.toUTF8.extract 0 count)).elim (.error .insideCharacter) .ok

/-- The bytes of a text behind its first ones as a text. -/
def back (text : String) (count : Nat) : Except CutFault String :=
  if text.utf8ByteSize < count then .error .beyondEnd
  else (String.fromUTF8? (text.toUTF8.extract count text.utf8ByteSize)).elim
    (.error .insideCharacter) .ok

/-- What follows an opening, read by bytes.  The line is cut twice: a fault of the first cut means
that the opening is not there, one of the second cut is not caught. -/
def afterOpeningBytes (line opening : String) : Except CutFault (Option String) :=
  match front line opening.utf8ByteSize with
  | .error _ => .ok none
  | .ok head =>
    if sameLetters head opening then
      (back line opening.utf8ByteSize).map fun rest => some (trim rest)
    else .ok none

/-- The first characters of a line are those of an opening, in any case of the letters. -/
def OpensWith (line opening : String) : Prop :=
  (line.toList.take opening.length).map Char.toLower = opening.toList.map Char.toLower

instance (line opening : String) : Decidable (OpensWith line opening) :=
  inferInstanceAs (Decidable (_ = _))

variable {text line opening : String}

theorem front_boundary (boundary : text.Pos) :
    front text boundary.offset.byteIdx = .ok (text.sliceTo boundary).copy := by
  have within : boundary.offset.byteIdx ≤ text.utf8ByteSize := boundary.isValid.le_utf8ByteSize
  rw [front, if_neg (Nat.not_lt.mpr within), String.toUTF8_eq_toByteArray,
    ← boundary.splits.toByteArray_left_eq, ← String.toUTF8_eq_toByteArray, fromUTF8?_toUTF8]
  rfl

theorem back_boundary (boundary : text.Pos) :
    back text boundary.offset.byteIdx = .ok (text.sliceFrom boundary).copy := by
  have within : boundary.offset.byteIdx ≤ text.utf8ByteSize := boundary.isValid.le_utf8ByteSize
  rw [back, if_neg (Nat.not_lt.mpr within), String.toUTF8_eq_toByteArray,
    ← String.size_toByteArray, ← boundary.splits.toByteArray_eq_right,
    ← String.toUTF8_eq_toByteArray, fromUTF8?_toUTF8]
  rfl

/-- A text can be cut only where a character ends. -/
theorem exists_boundary_of_front {head : String} {offset : String.Pos.Raw}
    (cut : front text offset.byteIdx = .ok head) :
    ∃ boundary, text.pos? offset = some boundary := by
  unfold front at cut
  split at cut
  next => cases cut
  next within =>
    have valid : (text.toByteArray.extract 0 offset.byteIdx).IsValidUTF8 := by
      by_contra invalid
      rw [String.toUTF8_eq_toByteArray, String.fromUTF8?, dif_neg invalid] at cut
      cases cut
    have boundary : offset.IsValid text := by
      rw [String.Pos.Raw.isValid_iff_isValidUTF8_extract_zero]
      exact ⟨Nat.not_lt.mp within, valid⟩
    exact ⟨⟨offset, boundary⟩, pos?_eq_some_iff.mpr rfl⟩

/-- The second cut is made only where the first one could be. -/
theorem afterOpeningBytes_eq (line opening : String) :
    afterOpeningBytes line opening = .ok (afterOpening? line opening) := by
  unfold afterOpeningBytes afterOpening?
  cases found : line.pos? opening.rawEndPos with
  | none =>
    cases cut : front line opening.rawEndPos.byteIdx with
    | error fault =>
      rw [String.byteIdx_rawEndPos] at cut
      rw [cut]
    | ok head =>
      obtain ⟨boundary, there⟩ := exists_boundary_of_front cut
      cases found.symm.trans there
  | some boundary =>
    have size : boundary.offset.byteIdx = opening.utf8ByteSize :=
      congrArg String.Pos.Raw.byteIdx (pos?_eq_some_iff.mp found)
    rw [← size, front_boundary, back_boundary]
    dsimp only
    split <;> rfl

theorem opensWith_append {head : String} (same : sameLetters head opening = true)
    (rest : String) : OpensWith (head ++ rest) opening := by
  have length : head.toList.length = opening.length := length_of_sameLetters same
  rw [OpensWith, String.toList_append, ← length, List.take_left]
  exact sameLetters_iff.mp same

theorem sameLetters_take (opens : OpensWith line opening) :
    sameLetters (String.ofList (line.toList.take opening.length)) opening = true := by
  rw [sameLetters_iff, foldLetters, String.toList_ofList]
  exact opens

theorem afterOpening?_eq_ite (ascii : IsAscii opening) :
    afterOpening? line opening =
      if OpensWith line opening then
        some (trim (String.ofList (line.toList.drop opening.length)))
      else none := by
  by_cases opens : OpensWith line opening
  · rw [if_pos opens, afterOpening?_eq_some_iff ascii]
    refine ⟨_, _, ?_, sameLetters_take opens, rfl⟩
    rw [← String.ofList_append, List.take_append_drop, String.ofList_toList]
  · rw [if_neg opens, Option.eq_none_iff_forall_ne_some]
    intro argument found
    obtain ⟨head, rest, rfl, same, -⟩ := (afterOpening?_eq_some_iff ascii).mp found
    exact opens (opensWith_append same rest)

theorem not_opensWith_of_fault (ascii : IsAscii opening) {fault : CutFault}
    (failed : front line opening.utf8ByteSize = .error fault) : ¬ OpensWith line opening := by
  intro opens
  have found : afterOpening? line opening = _ := afterOpening?_eq_ite ascii
  rw [if_pos opens, afterOpening?_eq_some_iff_cut] at found
  obtain ⟨boundary, there, -⟩ := found
  have size : boundary.offset.byteIdx = opening.utf8ByteSize :=
    congrArg String.Pos.Raw.byteIdx (pos?_eq_some_iff.mp there)
  rw [← size, front_boundary] at failed
  cases failed

/-- What follows an opening in ASCII is read by bytes without a fault, and is what the characters
of the line say: the line starts with the opening exactly if its first characters, as many as the
opening has, are those of the opening, and the others are the rest.  Where no character ends after
as many bytes as the opening has, or the line has fewer, these characters are others. -/
theorem afterOpeningBytes_eq_ite (line : String) {opening : String} (ascii : IsAscii opening) :
    afterOpeningBytes line opening = .ok (afterOpening? line opening) ∧
      afterOpening? line opening =
        (if OpensWith line opening then
          some (trim (String.ofList (line.toList.drop opening.length)))
        else none) ∧
      ∀ fault, front line opening.utf8ByteSize = .error fault → ¬ OpensWith line opening :=
  ⟨afterOpeningBytes_eq line opening, afterOpening?_eq_ite ascii,
    fun _ failed => not_opensWith_of_fault ascii failed⟩

/-- A line that opens with a keyword, one with a character over the end of the opening, and one with
fewer bytes. -/
theorem afterOpeningBytes_eq_ite_samples :
    afterOpeningBytes "CD  Größe " "cd " = .ok (some "Größe") ∧
      (front "c日本" 3 = .error .insideCharacter ∧
        afterOpeningBytes "c日本" "cd " = .ok none) ∧
      (front "é" 3 = .error .beyondEnd ∧ afterOpeningBytes "é" "cd " = .ok none) := by
  have ascii : IsAscii "cd " := by simp [IsAscii]
  obtain ⟨opened, characters, -⟩ := afterOpeningBytes_eq_ite "CD  Größe " ascii
  obtain ⟨cut, shorter, inside⟩ := afterOpeningBytes_eq_ite "c日本" ascii
  obtain ⟨ended, fewer, beyond⟩ := afterOpeningBytes_eq_ite "é" ascii
  refine ⟨?_, ⟨by decide, ?_⟩, by decide, ?_⟩
  · rw [opened, characters]
    decide
  · rw [cut, shorter, if_neg (inside .insideCharacter (by decide))]
  · rw [ended, fewer, if_neg (beyond .beyondEnd (by decide))]

end ShellPractice.Text
