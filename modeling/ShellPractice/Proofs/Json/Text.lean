import Mathlib.Tactic.SplitIfs
import ShellPractice.Json.Reader
import ShellPractice.Json.Writer

/-!
# Texts in JSON, written and read

Quotes, backslashes and control characters are written as escapes and all other characters as they
are, so no character of a text looks like its end.
-/

namespace ShellPractice.Json

theorem hexDigit?_hexChar : ∀ n < 16, hexDigit? (hexChar n) = some n := by
  decide

/-- The two digits of a small number after two zeros. -/
theorem hexNumber?_hexChars {n : Nat} (small : n < 256) :
    hexNumber? ['0', '0', hexChar (n / 16), hexChar (n % 16)] = some n := by
  have zero : hexDigit? '0' = some 0 := by decide
  have high := hexDigit?_hexChar (n / 16) (by omega)
  have low := hexDigit?_hexChar (n % 16) (by omega)
  simp only [hexNumber?, List.foldlM_cons, List.foldlM_nil, zero, high, low]
  simp
  omega

/-- The parts of a text with one more in front. -/
def withPiece (c : Char) (result : List Piece × List Char) : List Piece × List Char :=
  (.whole c :: result.1, result.2)

theorem pieces?_short {mark c : Char} (named : escaped? mark = some c) (rest : List Char) :
    pieces? ('\\' :: mark :: rest) = (pieces? rest).map (withPiece c) := by
  have other : mark ≠ 'u' := by
    rintro rfl
    simp [escaped?] at named
  rw [pieces?, named]
  · cases pieces? rest <;> rfl
  · exact fun _ _ _ _ _ isCode => absurd isCode other

theorem pieces?_code {a b c d : Char} {code : Nat} (read : hexNumber? [a, b, c, d] = some code)
    (rest : List Char) :
    pieces? ('\\' :: 'u' :: a :: b :: c :: d :: rest) =
      (pieces? rest).map fun result => (.ofCode code :: result.1, result.2) := by
  rw [pieces?, read]
  cases pieces? rest <;> rfl

theorem pieces?_plain {c : Char} (quote : c ≠ '"') (backslash : c ≠ '\\')
    (visible : ¬ c.toNat < 0x20) (rest : List Char) :
    pieces? (c :: rest) = (pieces? rest).map (withPiece c) := by
  rw [pieces?, if_neg visible]
  · cases pieces? rest <;> rfl
  all_goals simp_all

/-- A written character is read as a part of its text. -/
theorem pieces?_escapedChar (c : Char) (rest : List Char) :
    pieces? (escapedChar c ++ rest) = (pieces? rest).map (withPiece c) := by
  unfold escapedChar
  split_ifs with quote backslash backspace formFeed lineFeed carriageReturn tab control
  · exact pieces?_short (by rw [quote]; decide) rest
  · exact pieces?_short (by rw [backslash]; decide) rest
  · exact pieces?_short (by rw [backspace]; decide) rest
  · exact pieces?_short (by rw [formFeed]; decide) rest
  · exact pieces?_short (by rw [lineFeed]; decide) rest
  · exact pieces?_short (by rw [carriageReturn]; decide) rest
  · exact pieces?_short (by rw [tab]; decide) rest
  · have whole : Piece.ofCode c.toNat = .whole c := by
      rw [Piece.ofCode, if_neg (by omega), Char.ofNat_toNat]
    have read := pieces?_code (hexNumber?_hexChars (n := c.toNat) (by omega)) rest
    rw [whole] at read
    exact read
  · exact pieces?_plain quote backslash control rest

theorem pieces?_flatMap_escapedChar (text rest : List Char) :
    pieces? (text.flatMap escapedChar ++ '"' :: rest) = some (text.map .whole, rest) := by
  induction text with
  | nil => rw [List.flatMap_nil, List.nil_append, pieces?, List.map_nil]
  | cons c text ih =>
    rw [List.flatMap_cons, List.append_assoc, pieces?_escapedChar, ih]
    rfl

theorem join?_map_whole (text : List Char) : Piece.join? (text.map .whole) = some text := by
  induction text with
  | nil => rfl
  | cons c text ih => simp [Piece.join?, ih]

/-- A text between quotes is read back, up to its closing quote. -/
theorem text?_quotedChars (text : String) (rest : List Char) :
    ∃ inner, quotedChars text ++ rest = '"' :: inner ∧ text? inner = some (some text, rest) := by
  refine ⟨text.toList.flatMap escapedChar ++ '"' :: rest, by simp [quotedChars], ?_⟩
  simp [text?, pieces?_flatMap_escapedChar, join?_map_whole]

end ShellPractice.Json
