import ShellPractice.Document.Basic
import ShellPractice.Json.Reader
import ShellPractice.Number.Calendar
import ShellPractice.Text.Lines
import ShellPractice.Toml.Text

/-!
# Numbers, dates and truth values in TOML

These are words without quotes around them.  A word goes on over the blanks within its line, so
that a date and its time are one.  Digits may be grouped by single underscores, numbers may be
written in four bases, and a number with a fraction or an exponent must be small enough for a
double.  A word that is written like a number may still stand for none; it is read as a broken
document then, and only a word that is not even written like a value is refused.
-/

namespace ShellPractice.Toml

/-- The characters before which a run of a word ends: blanks, line breaks, the start of a comment,
and the marks between values. -/
def wordEnds : List Char :=
  [' ', '\t', '\r', '\n', '#', '=', ',', '[', ']', '\x7b', '\x7d']

/-- Whether a character may stand in a run of a word. -/
def isWordChar (c : Char) : Bool :=
  !wordEnds.contains c

/-- Whether a word that has come to blanks goes on with a character after them.  Quotes start a text
there, and a dot belongs to no run before it. -/
def resumesWord (c : Char) : Bool :=
  isWordChar c && c != '"' && c != '\x27' && c != '.'

/-- Digits that may be grouped by single underscores, without these. -/
def grouped? (isDigit : Char → Bool) : List Char → Option (List Char)
  | [] => none
  | [c] => if isDigit c then some [c] else none
  | c :: '_' :: rest => if isDigit c then (grouped? isDigit rest).map (c :: ·) else none
  | c :: rest => if isDigit c then (grouped? isDigit rest).map (c :: ·) else none

/-- The digits of a number that does not start with a zero too much. -/
def whole? (text : List Char) : Option (List Char) :=
  match grouped? Char.isDigit text with
  | some ('0' :: _ :: _) => none
  | other => other

/-- The sign of a number, and what follows it. -/
def sign : List Char → Bool × List Char
  | '-' :: text => (true, text)
  | '+' :: text => (false, text)
  | text => (false, text)

/-- A number with its sign. -/
def signed (negative : Bool) (value : Nat) : Int :=
  if negative then -(value : Int) else value

/-- The base that a prefix announces, and the digits after it. -/
def based? : List Char → Option (Nat × List Char)
  | '0' :: 'x' :: digits => some (16, digits)
  | '0' :: 'o' :: digits => some (8, digits)
  | '0' :: 'b' :: digits => some (2, digits)
  | _ => none

/-- The number that digits stand for in a base up to sixteen. -/
def numberIn? (base : Nat) (digits : List Char) : Option Nat :=
  (grouped? (fun c => (Json.hexDigit? c).any (· < base)) digits).map fun digits =>
    digits.foldl (fun value c => base * value + (Json.hexDigit? c).getD 0) 0

/-- An integer that is small enough to be held, or a broken document. -/
def integerOf (value : Int) : Document :=
  if -Int.pow 2 127 ≤ value ∧ value < Int.pow 2 128 then .integer value else .broken

/-- The integer that digits after the prefix of a base stand for, broken where there are none. -/
def based (base : Nat) (digits : List Char) : Option Document :=
  if digits.isEmpty then some .broken
  else (numberIn? base digits).map fun value => integerOf value

/-- Whether a character is a digit in some base. -/
def isAnyDigit (c : Char) : Bool :=
  (Json.hexDigit? c).isSome

/-- Whether parts of a word could be groups of digits, going by the characters at the places where
they meet: each starts with a digit of some base, and all but the last end with one. -/
def meetAtDigits : List (List Char) → Bool
  | [] => true
  | [last] => last.head?.any isAnyDigit
  | part :: parts =>
    part.head?.any isAnyDigit && part.getLast?.any isAnyDigit && meetAtDigits parts

/-- Whether a character keeps a word from being an integer: a space, a dot, or the letter of an
exponent.  A tab does not. -/
def partsInteger (c : Char) : Bool :=
  c == ' ' || c == '.' || c == 'e' || c == 'E'

/-- Whether a word without its sign is written like an integer in groups.  Its first group is made
of digits without a zero in front; the others are judged by the places where they meet. -/
def looksGrouped (text : List Char) : Bool :=
  match text.span Char.isDigit with
  | (first :: _, '_' :: rest) =>
    first != '0' && !rest.any partsInteger && meetAtDigits (Text.splitAt '_' rest)
  | _ => false

/-- The integer that a word is, broken where it is only written like one. -/
def decimal? (word : List Char) : Option Document :=
  let (negative, text) := sign word
  match whole? text with
  | some digits => some (integerOf (signed negative (Json.natural digits)))
  | none => if looksGrouped text then some .broken else none

/-- Whether digits times a power of ten are too large for a double. -/
def overflows (digits : List Char) (exponent : Int) : Bool :=
  let significant := digits.dropWhile (· == '0')
  let size := (significant.length : Int) + exponent
  if significant.isEmpty || size < 308 then false
  else if 310 < size then true
  else
    (Nat.pow 2 54 - 1) * Nat.pow 2 970 * Nat.pow 10 (-exponent).toNat ≤
      Json.natural significant * Nat.pow 10 exponent.toNat

/-- The exponent after its letter. -/
def power? (text : List Char) : Option Int :=
  let (negative, digits) := sign text
  (grouped? Char.isDigit digits).map fun digits => signed negative (Json.natural digits)

/-- The number with a fraction or an exponent that a word is, broken where no double can hold
it. -/
def real? (word : List Char) : Option Document :=
  let (_, text) := sign word
  if text == ['i', 'n', 'f'] || text == ['n', 'a', 'n'] then some (.real (String.ofList word))
  else
    let (mantissa, rest) := text.span fun c => c != 'e' && c != 'E'
    let (whole, places) := mantissa.span (· != '.')
    let fraction? := match places with
      | [] => if rest.isEmpty then none else some []
      | _ :: places => grouped? Char.isDigit places
    let exponent? := match rest with
      | [] => some 0
      | _ :: power => power? power
    match whole? whole, fraction?, exponent? with
    | some whole, some fraction, some exponent =>
      if overflows (whole ++ fraction) (exponent - fraction.length) then some .broken
      else some (.real (String.ofList word))
    | _, _, _ => none

/-- A number of exactly as many digits, and what follows it. -/
def fixed? (count : Nat) (text : List Char) : Option (Nat × List Char) :=
  let digits := text.take count
  if digits.length = count ∧ digits.all Char.isDigit then
    some (Json.natural digits, text.drop count)
  else none

/-- What follows a character. -/
def after? (expected : Char) : List Char → Option (List Char)
  | c :: text => if c = expected then some text else none
  | [] => none

/-- What follows a date that exists. -/
def afterDate? (text : List Char) : Option (List Char) := do
  let (year, text) ← fixed? 4 text
  let (month, text) ← fixed? 2 (← after? '-' text)
  let (day, text) ← fixed? 2 (← after? '-' text)
  if Calendar.isDay year month day then some text else none

/-- What follows a time of day.  Seconds may be left out. -/
def afterTime? (text : List Char) : Option (List Char) := do
  let (hour, text) ← fixed? 2 text
  let (minute, text) ← fixed? 2 (← after? ':' text)
  if 23 < hour ∨ 59 < minute then none
  match text with
  | ':' :: text =>
    let (second, text) ← fixed? 2 text
    if 60 < second then none
    match text with
    | '.' :: text =>
      match text.span Char.isDigit with
      | ([], _) => none
      | (_, after) => some after
    | text => some text
  | text => some text

/-- Whether a text is empty or a distance from universal time. -/
def isZone (text : List Char) : Bool :=
  match text with
  | [] | ['Z'] | ['z'] => true
  | c :: text =>
    if c == '+' || c == '-' then
      match fixed? 2 text with
      | some (hours, ':' :: text) =>
        match fixed? 2 text with
        | some (minutes, []) => hours ≤ 23 && minutes ≤ 59
        | _ => false
      | _ => false
    else false

/-- Whether a text is a time of day. -/
def isTime (text : List Char) : Bool :=
  afterTime? text == some []

/-- Whether a text is a time of day, with or without a distance from universal time. -/
def isZonedTime (text : List Char) : Bool :=
  (afterTime? text).any isZone

/-- Whether a text is a date, a time, or both with a letter or a blank between them. -/
def isMoment (text : List Char) : Bool :=
  isTime text ||
    match afterDate? text with
    | some [] => true
    | some (c :: time) => (c == 'T' || c == 't' || c == ' ') && isZonedTime time
    | none => false

/-- The value that a word is. -/
def word? (word : List Char) : Option Document :=
  if word == ['t', 'r', 'u', 'e'] then some (.bool true)
  else if word == ['f', 'a', 'l', 's', 'e'] then some (.bool false)
  else if isMoment word then some (.moment (String.ofList word))
  else
    match based? word with
    | some (base, digits) => based base digits
    | none => real? word <|> decimal? word

/-- What follows a word and the blanks after it is shorter than the text. -/
theorem length_skipBlanks_lt {text after : List Char} {c : Char}
    (left : text.dropWhile isWordChar = c :: after) :
    (skipBlanks after).length < text.length := by
  have shorter := (List.dropWhile_suffix (l := text) isWordChar).length_le
  have skipped := (List.dropWhile_suffix (l := after) isBlank).length_le
  rw [left, List.length_cons] at shorter
  exact Nat.lt_of_le_of_lt skipped shorter

/-- A word, and what follows it.  Blanks belong to a word where it goes on after them. -/
def splitWord (text : List Char) : List Char × List Char :=
  let run := text.takeWhile isWordChar
  match left : text.dropWhile isWordChar with
  | [] => (run, [])
  | c :: after =>
    if isBlank c && (skipBlanks after).head?.any resumesWord then
      have := length_skipBlanks_lt left
      let (more, rest) := splitWord (skipBlanks after)
      (run ++ c :: after.takeWhile isBlank ++ more, rest)
    else (run, c :: after)
termination_by text.length

end ShellPractice.Toml
