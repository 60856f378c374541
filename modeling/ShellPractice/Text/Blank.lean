/-!
# Blank characters

The characters of Unicode's White_Space property, and the two operations on lines that rest on
them: dropping the blanks around a text and splitting a text into its words.
-/

namespace ShellPractice.Text

/-- Whether a character has the Unicode property White_Space. -/
def isBlank (c : Char) : Bool :=
  let code := c.toNat
  (0x09 ≤ code && code ≤ 0x0D) || code == 0x20 || code == 0x85 || code == 0xA0 ||
    code == 0x1680 || (0x2000 ≤ code && code ≤ 0x200A) || code == 0x2028 || code == 0x2029 ||
    code == 0x202F || code == 0x205F || code == 0x3000

/-- The characters from the first one that is not blank. -/
def trimStartChars (text : List Char) : List Char :=
  text.dropWhile isBlank

/-- The characters up to the last one that is not blank. -/
def trimEndChars (text : List Char) : List Char :=
  (text.reverse.dropWhile isBlank).reverse

/-- The characters between the first and the last one that are not blank. -/
def trimChars (text : List Char) : List Char :=
  trimEndChars (trimStartChars text)

/-- A text without the blanks around it. -/
def trim (text : String) : String :=
  String.ofList (trimChars text.toList)

@[simp]
theorem toList_trim (text : String) : (trim text).toList = trimChars text.toList := by
  simp [trim]

/-- Whether a text holds nothing but blanks. -/
def isBlankText (text : String) : Bool :=
  text.toList.all isBlank

theorem dropWhile_isBlank_eq_nil_iff {text : List Char} :
    text.dropWhile isBlank = [] ↔ text.all isBlank = true := by
  induction text with
  | nil => simp
  | cons c rest ih => by_cases blank : isBlank c = true <;> simp [blank, ih]

/-- A text has nothing left between its blanks exactly if it is blank. -/
theorem trimChars_eq_nil_iff {text : List Char} :
    trimChars text = [] ↔ text.all isBlank = true := by
  induction text with
  | nil => simp [trimChars, trimStartChars, trimEndChars]
  | cons c rest ih =>
    by_cases blank : isBlank c = true
    · simpa [trimChars, trimStartChars, blank] using ih
    · have whole : (c :: rest).dropWhile isBlank = c :: rest := by simp [blank]
      rw [trimChars, trimStartChars, whole, trimEndChars, List.reverse_eq_nil_iff,
        dropWhile_isBlank_eq_nil_iff, List.all_reverse]

theorem isBlankText_iff {text : String} : isBlankText text = true ↔ trim text = "" := by
  rw [isBlankText, ← trimChars_eq_nil_iff, ← toList_trim, String.toList_eq_nil_iff]

/-- The maximal runs of characters that are not blank, in order. -/
def wordsOfChars : List Char → List (List Char)
  | [] => []
  | c :: rest =>
    if isBlank c then wordsOfChars rest
    else
      match rest with
      | [] => [[c]]
      | next :: _ =>
        if isBlank next then [c] :: wordsOfChars rest
        else
          match wordsOfChars rest with
          | [] => [[c]]
          | word :: words => (c :: word) :: words

/-- The words of a text: its maximal runs of characters that are not blank. -/
def words (text : String) : List String :=
  (wordsOfChars text.toList).map String.ofList

end ShellPractice.Text
