/-!
# Lines

The pieces of a text between its newlines, and the lines of typed input.  Input arrives as bytes;
each line is decoded on its own, so that one that is not UTF-8 spoils no other.
-/

namespace ShellPractice.Text

/-- The pieces of a list between its occurrences of a separator: always one more than these. -/
def splitAt {α : Type} [BEq α] (separator : α) : List α → List (List α)
  | [] => [[]]
  | item :: rest =>
    if item == separator then [] :: splitAt separator rest
    else
      match splitAt separator rest with
      | piece :: pieces => (item :: piece) :: pieces
      | [] => [[item]]

theorem splitAt_ne_nil {α : Type} [BEq α] (separator : α) (items : List α) :
    splitAt separator items ≠ [] := by
  induction items with
  | nil => simp [splitAt]
  | cons item rest ih =>
    by_cases equal : item == separator
    · simp [splitAt, equal]
    · simp only [splitAt, equal]
      cases split : splitAt separator rest with
      | nil => exact absurd split ih
      | cons piece pieces => simp

/-- The pieces of a text between its newlines. -/
def lines (text : String) : List String :=
  (splitAt '\n' text.toList).map String.ofList

/-- The lines of a byte sequence without their newlines.  Bytes after the last newline are a line
when there are any. -/
def byteLines (input : List UInt8) : List (List UInt8) :=
  let pieces := splitAt 10 input
  if pieces.getLast?.any List.isEmpty then pieces.dropLast else pieces

/-- The lines of typed input in order; `none` stands for a line that is not UTF-8. -/
def typedLines (input : ByteArray) : List (Option String) :=
  (byteLines input.data.toList).map fun line => String.fromUTF8? line.toByteArray

/-- A typed line without the carriage returns and newlines at its end. -/
def dropLineEnd (line : String) : String :=
  String.ofList (line.toList.reverse.dropWhile fun c => c == '\n' || c == '\r').reverse

end ShellPractice.Text
