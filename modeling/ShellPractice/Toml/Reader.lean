import ShellPractice.Toml.Scalar
import ShellPractice.Toml.Table
import ShellPractice.Toml.Text
import ShellPractice.Document.Record

/-!
# Reading TOML

A file is a sequence of lines, each with a header or with a key and its value.  Arrays and inline
tables may go over several lines, with comments between their parts; only a key with its dots stays
on one line.
-/

namespace ShellPractice.Toml

/-- The most levels of arrays and inline tables, and the most parts of a key. -/
def mostLevels : Nat :=
  80

/-- Skips blanks, line breaks and comments.  At a character that may not stand there it stops. -/
def skipGap : (inComment : Bool) → List Char → List Char
  | _, [] => []
  | inComment, c :: rest =>
    if atLineBreak (c :: rest) then skipGap (inComment && c != '\n') rest
    else if inComment then
      if isVisible c then skipGap true rest else c :: rest
    else if isBlank c then skipGap false rest
    else if c == '#' then skipGap true rest
    else c :: rest

mutual

/-- A value at the start of a text, and what follows it.  The fuel bounds the number of parts on
the way, and the levels that of arrays and inline tables that may still be opened. -/
def value? : (fuel levels : Nat) → List Char → Option (Document × List Char)
  | 0, _, _ => none
  | fuel + 1, levels, text =>
    match text with
    | '"' :: _ | '\x27' :: _ => (text? text).map fun (content, after) => (.text content, after)
    | '[' :: text =>
      match levels with
      | 0 => none
      | levels + 1 =>
        (items? fuel levels (skipGap false text)).map fun (items, after) => (.array items, after)
    | '\x7b' :: text =>
      match levels with
      | 0 => none
      | levels + 1 =>
        (inline? fuel levels [] (skipGap false text)).map fun (table, after) =>
          (table.toDocument, after)
    | text =>
      let (word, after) := splitWord text
      (word? word).map (·, after)

/-- The items of an array up to its closing bracket. -/
def items? : (fuel levels : Nat) → List Char → Option (List Document × List Char)
  | 0, _, _ => none
  | fuel + 1, levels, text =>
    match text with
    | ']' :: after => some ([], after)
    | text => do
      let (item, text) ← value? fuel levels text
      match skipGap false text with
      | ',' :: text =>
        let (items, after) ← items? fuel levels (skipGap false text)
        some (item :: items, after)
      | ']' :: after => some ([item], after)
      | _ => none

/-- The entries of an inline table up to its closing brace, added to those before. -/
def inline? : (fuel levels : Nat) → Table → List Char → Option (Table × List Char)
  | 0, _, _, _ => none
  | fuel + 1, levels, table, text =>
    match text with
    | '\x7d' :: after => some (table, after)
    | text => do
      let (path, text) ← key? mostLevels text
      let text ← after? '=' (skipGap false text)
      let (value, text) ← value? fuel levels (skipGap false text)
      let table ← table.assign value path
      match skipGap false text with
      | ',' :: text => inline? fuel levels table (skipGap false text)
      | '\x7d' :: after => some (table, after)
      | _ => none

end

/-- A file that has been read up to some line. -/
structure Draft where
  root : Table
  /-- The names of the last header. -/
  header : List String

namespace Draft

/-- The draft after a header of a table, or of an element of an array of tables. -/
def openHeader? (draft : Draft) (isElement : Bool) (path : List String) : Option Draft := do
  let name ← path.getLast?
  let change := if isElement then Table.openElement name else Table.openTable name
  let root ← Table.under change path.dropLast draft.root
  some ⟨root, path⟩

/-- The draft after a key with its value. -/
def assign? (draft : Draft) (path : List String) (value : Document) : Option Draft := do
  let root ← Table.under (Table.assign value path) draft.header draft.root
  some { draft with root }

end Draft

/-- What follows a header up to its closing brackets. -/
def header? (isElement : Bool) (text : List Char) : Option (List String × List Char) := do
  let (path, text) ← key? mostLevels (skipBlanks text)
  let text ← after? ']' text
  let text ← if isElement then after? ']' text else some text
  some (path, text)

/-- One header, or one key with its value, and what follows it. -/
def expression? (draft : Draft) : List Char → Option (Draft × List Char)
  | '[' :: '[' :: text => do
    let (path, after) ← header? true text
    some (← draft.openHeader? true path, after)
  | '[' :: text => do
    let (path, after) ← header? false text
    some (← draft.openHeader? false path, after)
  | text => do
    let (path, text) ← key? mostLevels text
    let text ← after? '=' text
    let (value, after) ← value? (text.length + 1) mostLevels (skipBlanks text)
    some (← draft.assign? path value, after)

/-- Whether nothing but blanks and a comment stands before the next line break. -/
def atLineEnd (text : List Char) : Bool :=
  match skipBlanks text with
  | [] | '#' :: _ => true
  | text => atLineBreak text

/-- The draft of a whole file, given the draft of what stands before.  The fuel bounds the number
of lines. -/
def draft? : Nat → Draft → List Char → Option Draft
  | 0, _, _ => none
  | fuel + 1, draft, text =>
    match skipGap false text with
    | [] => some draft
    | text => do
      let (draft, after) ← expression? draft text
      if atLineEnd after then draft? fuel draft after else none

/-- A text without the mark of its encoding at its start. -/
def dropMark : List Char → List Char
  | '\ufeff' :: text => text
  | text => text

/-- The document that a text is. -/
def read? (text : String) : Option Document :=
  (draft? (text.length + 1) ⟨[], []⟩ (dropMark text.toList)).map fun draft =>
    draft.root.toDocument

/-- An array for a record may go on after its last field, something empty stands beside the name of
a choice, and what stands under other names must be whole. -/
def conventions : Document.Conventions where
  surplusAllowed := true
  isIgnored := Document.isWhole
  isBareChoice
    | .array items => items.isEmpty
    | .object members => members.isEmpty
    | _ => false

end ShellPractice.Toml
