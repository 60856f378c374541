import ShellPractice.Document.Record

/-!
# Reading JSON

The notation of RFC 8259.  Texts are read as sequences of characters and halves of characters, as
their escapes can name halves; two halves that belong together are joined afterwards.
-/

namespace ShellPractice.Json

/-- Whether a character may stand between the parts of a document. -/
def isBlank (c : Char) : Bool :=
  c == ' ' || c == '\t' || c == '\n' || c == '\r'

/-- A text from its first character that is not blank. -/
def skipBlanks (text : List Char) : List Char :=
  text.dropWhile isBlank

/-- The value of a hexadecimal digit. -/
def hexDigit? (c : Char) : Option Nat :=
  if c.isDigit then some (c.toNat - '0'.toNat)
  else if 'a' ≤ c ∧ c ≤ 'f' then some (c.toNat - 'a'.toNat + 10)
  else if 'A' ≤ c ∧ c ≤ 'F' then some (c.toNat - 'A'.toNat + 10)
  else none

/-- The number that hexadecimal digits stand for. -/
def hexNumber? (digits : List Char) : Option Nat :=
  digits.foldlM (fun number c => (hexDigit? c).map (16 * number + ·)) 0

/-- A part of a text: a character, or the code of half a character. -/
inductive Piece where
  | whole (c : Char)
  | half (code : Nat)

namespace Piece

/-- The part that a code of four digits names. -/
def ofCode (code : Nat) : Piece :=
  if 0xD800 ≤ code ∧ code < 0xE000 then half code else whole (Char.ofNat code)

/-- The characters of a sequence of parts, if every half is followed by its other half. -/
def join? : List Piece → Option (List Char)
  | [] => some []
  | whole c :: rest => (join? rest).map (c :: ·)
  | half high :: half low :: rest =>
    if high < 0xDC00 ∧ 0xDC00 ≤ low then
      (join? rest).map (Char.ofNat (0x10000 + (high - 0xD800) * 0x400 + (low - 0xDC00)) :: ·)
    else none
  | half _ :: _ => none

end Piece

/-- The character that a short escape names. -/
def escaped? : Char → Option Char
  | '"' => some '"'
  | '\\' => some '\\'
  | '/' => some '/'
  | 'b' => some '\x08'
  | 'f' => some '\x0c'
  | 'n' => some '\n'
  | 'r' => some '\r'
  | 't' => some '\t'
  | _ => none

/-- The parts of a text up to its closing quote, and what follows the quote. -/
def pieces? : List Char → Option (List Piece × List Char)
  | [] => none
  | '"' :: rest => some ([], rest)
  | '\\' :: 'u' :: a :: b :: c :: d :: rest => do
    let code ← hexNumber? [a, b, c, d]
    let (more, after) ← pieces? rest
    some (.ofCode code :: more, after)
  | '\\' :: c :: rest => do
    let named ← escaped? c
    let (more, after) ← pieces? rest
    some (.whole named :: more, after)
  | c :: rest =>
    if c.toNat < 0x20 then none
    else do
      let (more, after) ← pieces? rest
      some (.whole c :: more, after)

/-- A text after its opening quote; `none` inside stands for one with half a character. -/
def text? (text : List Char) : Option (Option String × List Char) := do
  let (parts, after) ← pieces? text
  some ((Piece.join? parts).map String.ofList, after)

/-- The digits that a text starts with, and what follows them. -/
def digits (text : List Char) : List Char × List Char :=
  text.span Char.isDigit

/-- The fraction that a text starts with, as written; empty when there is none. -/
def fraction? : List Char → Option (List Char × List Char)
  | '.' :: text =>
    match digits text with
    | ([], _) => none
    | (places, after) => some ('.' :: places, after)
  | text => some ([], text)

/-- The sign that an exponent may start with. -/
def exponentSign : List Char → List Char × List Char
  | '+' :: text => (['+'], text)
  | '-' :: text => (['-'], text)
  | text => ([], text)

/-- The exponent that a text starts with, as written; empty when there is none. -/
def exponent? : List Char → Option (List Char × List Char)
  | c :: text =>
    if c == 'e' || c == 'E' then
      let (sign, text) := exponentSign text
      match digits text with
      | ([], _) => none
      | (power, after) => some (c :: sign ++ power, after)
    else some ([], c :: text)
  | [] => some ([], [])

/-- The integer without sign that decimal digits stand for. -/
def natural (digits : List Char) : Nat :=
  digits.foldl (fun number c => 10 * number + (c.toNat - '0'.toNat)) 0

/-- A number after its sign.  Minus zero is no integer. -/
def number? (negative : Bool) (text : List Char) : Option (Document × List Char) := do
  let (whole, text) := digits text
  if whole.isEmpty || (whole.head? == some '0' && whole.length != 1) then none
  let (fraction, text) ← fraction? text
  let (exponent, text) ← exponent? text
  let value : Int := natural whole
  if fraction.isEmpty && exponent.isEmpty && !(negative && value == 0) then
    some (.integer (if negative then -value else value), text)
  else
    let sign := if negative then ['-'] else []
    some (.real (String.ofList (sign ++ whole ++ fraction ++ exponent)), text)

/-- What follows a word at the start of a text. -/
def afterWord? : List Char → List Char → Option (List Char)
  | [], text => some text
  | c :: word, d :: text => if c = d then afterWord? word text else none
  | _ :: _, [] => none

/-- The object with the members, or a broken one if a name is broken. -/
def objectOf (members : List (Option String × Document)) : Document :=
  match members.mapM fun member => member.1.map (·, member.2) with
  | some members => .object members
  | none => .broken

mutual

/-- A document at the start of a text, and what follows it.  The fuel bounds the number of parts
on the way. -/
def value? : Nat → List Char → Option (Document × List Char)
  | 0, _ => none
  | fuel + 1, text =>
    match skipBlanks text with
    | '"' :: text =>
      (text? text).map fun (content, after) => ((content.map .text).getD .broken, after)
    | '[' :: text =>
      match skipBlanks text with
      | ']' :: after => some (.array [], after)
      | text => (items? fuel text).map fun (items, after) => (.array items, after)
    | '\x7b' :: text =>
      match skipBlanks text with
      | '\x7d' :: after => some (.object [], after)
      | text => (members? fuel text).map fun (members, after) => (objectOf members, after)
    | 'n' :: text => (afterWord? ['u', 'l', 'l'] text).map (.null, ·)
    | 't' :: text => (afterWord? ['r', 'u', 'e'] text).map (.bool true, ·)
    | 'f' :: text => (afterWord? ['a', 'l', 's', 'e'] text).map (.bool false, ·)
    | '-' :: text => number? true text
    | text => number? false text

/-- The items of an array up to its closing bracket. -/
def items? : Nat → List Char → Option (List Document × List Char)
  | 0, _ => none
  | fuel + 1, text => do
    let (item, text) ← value? fuel text
    match skipBlanks text with
    | ',' :: text =>
      let (items, after) ← items? fuel text
      some (item :: items, after)
    | ']' :: after => some ([item], after)
    | _ => none

/-- The members of an object up to its closing brace. -/
def members? : Nat → List Char → Option (List (Option String × Document) × List Char)
  | 0, _ => none
  | fuel + 1, text =>
    match skipBlanks text with
    | '"' :: text => do
      let (name, text) ← text? text
      match skipBlanks text with
      | ':' :: text =>
        let (content, text) ← value? fuel text
        match skipBlanks text with
        | ',' :: text =>
          let (members, after) ← members? fuel text
          some ((name, content) :: members, after)
        | '\x7d' :: after => some ([(name, content)], after)
        | _ => none
      | _ => none
    | _ => none

end

/-- The document that a text is. -/
def read? (text : String) : Option Document :=
  match value? (text.length + 1) text.toList with
  | some (document, after) => if (skipBlanks after).isEmpty then some document else none
  | none => none

/-- An array for a record ends with the record, `null` stands beside the name of a choice, and
anything may stand under other names. -/
def conventions : Document.Conventions where
  surplusAllowed := false
  isIgnored _ := true
  isBareChoice
    | .null => true
    | _ => false

end ShellPractice.Json
