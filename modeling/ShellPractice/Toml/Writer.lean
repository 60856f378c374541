import ShellPractice.Document.Basic
import ShellPractice.Json.Writer

/-!
# Writing TOML

A file of sections, each with its entries below its header and an empty line before the next one.
A text is written in the first of several forms that needs no escapes, or with escapes if there is
no such form.  An array of two items or more has one item a line.
-/

namespace ShellPractice.Toml

/-- Whether a character can only be written as an escape. -/
def needsEscape (c : Char) : Bool :=
  (c.toNat < 0x20 && c != '\t' && c != '\n') || c.toNat == 0x7F

/-- The length of the longest run of a character, given the length of the run before. -/
def longestRun (quote : Char) : (run : Nat) → List Char → Nat
  | run, [] => run
  | run, c :: rest =>
    if c = quote then longestRun quote (run + 1) rest else max run (longestRun quote 0 rest)

/-- The forms in which a text can be written. -/
inductive TextForm where
  | basic
  | literal
  | basicLines
  | literalLines
  deriving DecidableEq, Repr

/-- The form in which a text is written. -/
def TextForm.of (text : List Char) : TextForm :=
  let escapes := text.any needsEscape
  let backslash := text.contains '\\'
  let lines := text.contains '\n'
  let double := longestRun '"' 0 text
  let single := longestRun '\x27' 0 text
  if !escapes && !backslash && double == 0 && !lines then .basic
  else if !escapes && single == 0 && !lines then .literal
  else if !escapes && !backslash && double ≤ 2 then .basicLines
  else if !escapes && single ≤ 2 then .literalLines
  else if lines then .basicLines
  else .basic

/-- The upper-case hexadecimal digit of a number below sixteen. -/
def hexChar (n : Nat) : Char :=
  (Nat.digitChar n).toUpper

/-- A character as it stands between double quotes, other than quotes and line breaks. -/
def escapedChar (c : Char) : List Char :=
  if c = '\\' then ['\\', '\\']
  else if c = '\x08' then ['\\', 'b']
  else if c = '\t' then ['\\', 't']
  else if c = '\x0c' then ['\\', 'f']
  else if c = '\r' then ['\\', 'r']
  else if c.toNat < 0x20 || c.toNat == 0x7F then
    ['\\', 'u', '0', '0', hexChar (c.toNat / 16), hexChar (c.toNat % 16)]
  else [c]

/-- A character of a text on one line between double quotes. -/
def lineChar (c : Char) : List Char :=
  if c = '"' then ['\\', '"']
  else if c = '\n' then ['\\', 'n']
  else escapedChar c

/-- A text of several lines between double quotes.  The third quote of a run is escaped, given the
number of quotes just before. -/
def linesChars : (run : Nat) → List Char → List Char
  | _, [] => []
  | run, c :: rest =>
    if c = '"' then
      if run = 2 then '\\' :: '"' :: linesChars 0 rest else '"' :: linesChars (run + 1) rest
    else if c = '\n' then '\n' :: linesChars 0 rest
    else escapedChar c ++ linesChars 0 rest

/-- A text between quotes. -/
def quotedChars (text : List Char) : List Char :=
  let start := if text.contains '\n' then ['\n'] else []
  match TextForm.of text with
  | .basic => '"' :: text.flatMap lineChar ++ ['"']
  | .literal => '\x27' :: text ++ ['\x27']
  | .basicLines => ['"', '"', '"'] ++ start ++ linesChars 0 text ++ ['"', '"', '"']
  | .literalLines =>
    ['\x27', '\x27', '\x27'] ++ start ++ text ++ ['\x27', '\x27', '\x27']

/-- A text, an integer or a truth value. -/
def scalarChars? : Document → Option (List Char)
  | .text value => some (quotedChars value.toList)
  | .integer value => some (toString value).toList
  | .bool value => some (toString value).toList
  | _ => none

/-- A value.  Only scalars and arrays of them are written. -/
def valueChars? : Document → Option (List Char)
  | .array items =>
    (items.mapM scalarChars?).map fun items =>
      match items with
      | [] => ['[', ']']
      | [item] => '[' :: item ++ [']']
      | items =>
        '[' :: '\n' :: items.flatMap (fun item => [' ', ' ', ' ', ' '] ++ item ++ [',', '\n']) ++
          [']']
  | document => scalarChars? document

/-- An entry on a line of its own. -/
def entryChars? (entry : String × Document) : Option (List Char) :=
  (valueChars? entry.2).map fun value => entry.1.toList ++ [' ', '=', ' '] ++ value ++ ['\n']

/-- A section: its header and its entries. -/
def sectionChars? (table : String × List (String × Document)) : Option (List Char) :=
  (table.2.mapM entryChars?).map fun entries =>
    '[' :: table.1.toList ++ [']', '\n'] ++ entries.flatten

/-- The text of a file with the sections, if every value can be written. -/
def write? (sections : List (String × List (String × Document))) : Option String :=
  (sections.mapM sectionChars?).map fun sections =>
    String.ofList (['\n'].intercalate sections)

end ShellPractice.Toml
