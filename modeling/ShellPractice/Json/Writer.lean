import ShellPractice.Document.Basic

/-!
# Writing JSON

Documents are written with one item or member a line, two spaces deeper than what holds it.  An
array without items and an object without members stay on one line.
-/

namespace ShellPractice.Json

/-- The lower-case hexadecimal digit of a number below sixteen. -/
def hexChar (n : Nat) : Char :=
  Nat.digitChar n

/-- A character as it stands between quotes. -/
def escapedChar (c : Char) : List Char :=
  if c = '"' then ['\\', '"']
  else if c = '\\' then ['\\', '\\']
  else if c = '\x08' then ['\\', 'b']
  else if c = '\x0c' then ['\\', 'f']
  else if c = '\n' then ['\\', 'n']
  else if c = '\r' then ['\\', 'r']
  else if c = '\t' then ['\\', 't']
  else if c.toNat < 0x20 then
    ['\\', 'u', '0', '0', hexChar (c.toNat / 16), hexChar (c.toNat % 16)]
  else [c]

/-- A text between quotes. -/
def quotedChars (text : String) : List Char :=
  '"' :: text.toList.flatMap escapedChar ++ ['"']

/-- The start of a new line at a depth. -/
def newLine (depth : Nat) : List Char :=
  '\n' :: List.replicate (2 * depth) ' '

mutual

/-- A document whose first line is at a depth.  A broken document is written as `null`. -/
def writtenAt (depth : Nat) : Document → List Char
  | .null | .broken => ['n', 'u', 'l', 'l']
  | .bool true => ['t', 'r', 'u', 'e']
  | .bool false => ['f', 'a', 'l', 's', 'e']
  | .integer value => (toString value).toList
  | .real literal => literal.toList
  | .text value | .moment value => quotedChars value
  | .array [] => ['[', ']']
  | .array (item :: items) =>
    '[' :: newLine (depth + 1) ++ writtenAt (depth + 1) item ++
      writtenItems (depth + 1) items ++ newLine depth ++ [']']
  | .object [] => ['\x7b', '\x7d']
  | .object ((name, value) :: members) =>
    '\x7b' :: newLine (depth + 1) ++ quotedChars name ++ [':', ' '] ++
      writtenAt (depth + 1) value ++ writtenMembers (depth + 1) members ++ newLine depth ++
      ['\x7d']

/-- The items of an array after the first one. -/
def writtenItems (depth : Nat) : List Document → List Char
  | [] => []
  | item :: items => ',' :: newLine depth ++ writtenAt depth item ++ writtenItems depth items

/-- The members of an object after the first one. -/
def writtenMembers (depth : Nat) : List (String × Document) → List Char
  | [] => []
  | (name, value) :: members =>
    ',' :: newLine depth ++ quotedChars name ++ [':', ' '] ++ writtenAt depth value ++
      writtenMembers depth members

end

/-- The text of a document, without a newline at its end. -/
def write (document : Document) : String :=
  String.ofList (writtenAt 0 document)

end ShellPractice.Json
