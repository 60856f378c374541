import Mathlib.Data.List.DropRight
import Mathlib.Tactic.SplitIfs
import ShellPractice.Proofs.Text.Pieces

/-!
# Typed lines of a text

In a text that is typed the lines of bytes are the lines of characters: no character but a newline
is written with the byte of a newline.
-/

namespace ShellPractice.Text

/-- The lines of a text that is typed, without their newlines.  What follows the last newline is a
line when there is anything. -/
def textLines (text : String) : List String :=
  let pieces := lines text
  if pieces.getLast?.any String.isEmpty then pieces.dropLast else pieces

theorem dropLineEnd_eq (line : String) :
    dropLineEnd line = String.ofList (line.toList.rdropWhile fun c => c == '\n' || c == '\r') :=
  rfl

theorem not_mem_utf8EncodeChar {c : Char} (other : c ≠ '\n') :
    (10 : UInt8) ∉ String.utf8EncodeChar c := by
  have code : c.val.toNat ≠ 10 := fun same => other (Char.ext (UInt32.toNat_inj.mp same))
  intro member
  have value : ∃ byte ∈ String.utf8EncodeChar c, byte.toNat = 10 := ⟨10, member, rfl⟩
  revert value
  rw [String.utf8EncodeChar]
  generalize c.val.toNat = code at code
  split_ifs <;>
    simp only [List.mem_cons, List.not_mem_nil, or_false, exists_eq_or_imp, exists_eq_left,
      UInt8.toNat_ofNat'] <;>
    omega

theorem toList_toUTF8 (text : String) :
    text.toUTF8.data.toList = text.toList.flatMap String.utf8EncodeChar := by
  have bytes : text.toByteArray = text.toList.utf8Encode := by
    rw [← String.toByteArray_ofList, String.ofList_toList]
  rw [String.toUTF8_eq_toByteArray, bytes, List.utf8Encode, List.data_toByteArray]

theorem fromUTF8?_toUTF8 (text : String) : String.fromUTF8? text.toUTF8 = some text := by
  rw [String.toUTF8_eq_toByteArray, String.fromUTF8?, dif_pos text.isValidUTF8]
  exact congrArg some (String.toByteArray_inj.mp rfl)

theorem fromUTF8?_flatMap (piece : List Char) :
    String.fromUTF8? (piece.flatMap String.utf8EncodeChar).toByteArray =
      some (String.ofList piece) := by
  have bytes : (piece.flatMap String.utf8EncodeChar).toByteArray =
      (String.ofList piece).toUTF8 := by
    rw [String.toUTF8_eq_toByteArray, String.toByteArray_ofList]
    rfl
  rw [bytes, fromUTF8?_toUTF8]

/-- The typed lines of a text in UTF-8 are those of the text. -/
theorem typedLines_toUTF8 (text : String) :
    typedLines text.toUTF8 = (textLines text).map some := by
  have split : splitAt 10 text.toUTF8.data.toList =
      (splitAt '\n' text.toList).map fun piece => piece.flatMap String.utf8EncodeChar := by
    rw [toList_toUTF8]
    exact splitAt_flatMap (by decide) (fun c other => not_mem_utf8EncodeChar other) text.toList
  have empty : ∀ piece : List Char,
      (piece.flatMap String.utf8EncodeChar).isEmpty = (String.ofList piece).isEmpty := by
    intro piece
    rw [Bool.eq_iff_iff, List.isEmpty_iff, String.isEmpty_iff]
    cases piece <;> simp
  rw [typedLines, byteLines, split, textLines, lines]
  generalize splitAt '\n' text.toList = pieces
  simp only [List.getLast?_map, Option.any_map, empty]
  split <;> simp [← List.map_dropLast, fromUTF8?_flatMap]

end ShellPractice.Text
