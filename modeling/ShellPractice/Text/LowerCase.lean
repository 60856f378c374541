import ShellPractice.Text.CaseTable

/-!
# Lower case

The full lower-case form of a text.  Most characters are mapped one by one; the capital I with a
dot becomes two characters, and a capital sigma takes its final form where a word ends.
-/

namespace ShellPractice.Text

/-- The lower-case form of a character that has one of a single character. -/
def lowerChar (c : Char) : Char :=
  match lowerCaseRuns.find? fun run => run.covers c.toNat with
  | some run => Char.ofNat (run.apply c.toNat)
  | none => c

/-- Whether the first character that is not case-ignorable is a cased letter. -/
def meetsCased (text : List Char) : Bool :=
  match text.dropWhile fun c => inRanges caseIgnorableRanges c.toNat with
  | c :: _ => inRanges casedRanges c.toNat
  | [] => false

/-- Whether a sigma between these neighbours, the earlier ones read backwards, ends a word. -/
def endsWord (before after : List Char) : Bool :=
  meetsCased before && !meetsCased after

/-- The lower-case form of one character between its neighbours. -/
def lowerIn (before : List Char) (c : Char) (after : List Char) : List Char :=
  if c = 'Σ' then [if endsWord before after then 'ς' else 'σ']
  else if c = 'İ' then ['i', '\u0307']
  else [lowerChar c]

/-- Lower case of the rest of a text whose earlier characters are given backwards. -/
def lowerFrom : List Char → List Char → List Char
  | _, [] => []
  | before, c :: after => lowerIn before c after ++ lowerFrom (c :: before) after

/-- The lower-case form of a list of characters. -/
def lowerChars (text : List Char) : List Char :=
  lowerFrom [] text

/-- The lower-case form of a text. -/
def lowerCase (text : String) : String :=
  String.ofList (lowerChars text.toList)

@[simp]
theorem toList_lowerCase (text : String) :
    (lowerCase text).toList = lowerChars text.toList := by
  simp [lowerCase]

end ShellPractice.Text
