import ShellPractice.Json.Reader

/-!
# Texts in TOML

Texts stand between quotes of two kinds.  Between double quotes a backslash starts an escape;
between single quotes every character stands for itself.  Three quotes enclose a text of several
lines, whose first line break is dropped.
-/

namespace ShellPractice.Toml

/-- Whether a character is a blank within a line. -/
def isBlank (c : Char) : Bool :=
  c == ' ' || c == '\t'

/-- A line from its first character that is not blank. -/
def skipBlanks (text : List Char) : List Char :=
  text.dropWhile isBlank

/-- Whether a character may stand in comments and texts. -/
def isVisible (c : Char) : Bool :=
  c == '\t' || (0x20 ≤ c.toNat && c.toNat != 0x7F)

/-- Whether a text starts with a line break that is not a carriage return alone. -/
def atLineBreak : List Char → Bool
  | '\n' :: _ => true
  | '\r' :: '\n' :: _ => true
  | _ => false

/-- A text without the line break at its start. -/
def dropLineBreak : List Char → List Char
  | '\n' :: text => text
  | '\r' :: '\n' :: text => text
  | text => text

/-- The character that a short escape names. -/
def escaped? : Char → Option Char
  | 'b' => some '\x08'
  | 't' => some '\t'
  | 'n' => some '\n'
  | 'f' => some '\x0c'
  | 'r' => some '\r'
  | 'e' => some '\x1b'
  | '"' => some '"'
  | '\\' => some '\\'
  | _ => none

/-- How many hexadecimal digits follow the letter of an escape. -/
def codeLength? : Char → Option Nat
  | 'x' => some 2
  | 'u' => some 4
  | 'U' => some 8
  | _ => none

/-- The character with a code, if there is one. -/
def charOfCode? (code : Nat) : Option Char :=
  if code.isValidChar then some (Char.ofNat code) else none

/-- How much of an escape has been read. -/
inductive Progress where
  /-- Between escapes. -/
  | plain
  /-- After a backslash. -/
  | escape
  /-- Within the code of a character, given the number of missing digits and the code so far. -/
  | code (missing value : Nat)
  /-- After a backslash and a blank; a line break must follow. -/
  | lineEnd
  /-- After a backslash at the end of a line, where blanks and line breaks are skipped. -/
  | lineStart

/-- The quotes in a run of three to five at the start of a text that still belong to the text, and
what follows the run. -/
def closing? (quote : Char) : List Char → Option (List Char × List Char)
  | a :: b :: c :: rest =>
    if a = quote ∧ b = quote ∧ c = quote then
      match rest with
      | [] => some ([], [])
      | d :: rest =>
        if d ≠ quote then some ([], d :: rest)
        else
          match rest with
          | [] => some ([quote], [])
          | e :: rest =>
            if e = quote then some ([quote, quote], rest) else some ([quote], e :: rest)
    else none
  | _ => none

/-- The end of a text at this place: what still belongs to the text, and what follows it. -/
def end? (quote : Char) (multiline : Bool) : List Char → Option (List Char × List Char)
  | [] => none
  | c :: rest =>
    if multiline then closing? quote (c :: rest)
    else if c = quote then some ([], rest)
    else none

/-- Whether the first character of a text may stand in a text in quotes. -/
def mayStand (multiline : Bool) : List Char → Bool
  | [] => false
  | c :: rest => isVisible c || (multiline && atLineBreak (c :: rest))

/-- The rest of a text between double quotes, and what follows it. -/
def escapedText? (multiline : Bool) :
    Progress → List Char → Option (List Char × List Char)
  | _, [] => none
  | .plain, c :: rest =>
    match end? '"' multiline (c :: rest) with
    | some found => some found
    | none =>
      if c = '\\' then escapedText? multiline .escape rest
      else if mayStand multiline (c :: rest) then
        (escapedText? multiline .plain rest).map fun (more, after) => (c :: more, after)
      else none
  | .escape, c :: rest =>
    match escaped? c, codeLength? c with
    | some named, _ =>
      (escapedText? multiline .plain rest).map fun (more, after) => (named :: more, after)
    | none, some missing => escapedText? multiline (.code missing 0) rest
    | none, none =>
      if multiline && isBlank c then escapedText? multiline .lineEnd rest
      else if multiline && c = '\n' then escapedText? multiline .lineStart rest
      else if multiline && atLineBreak (c :: rest) then escapedText? multiline .lineEnd rest
      else none
  | .code missing value, c :: rest =>
    match Json.hexDigit? c with
    | none => none
    | some digit =>
      let value := 16 * value + digit
      if 1 < missing then escapedText? multiline (.code (missing - 1) value) rest
      else
        match charOfCode? value with
        | none => none
        | some named =>
          (escapedText? multiline .plain rest).map fun (more, after) => (named :: more, after)
  | .lineEnd, c :: rest =>
    if c = '\n' then escapedText? multiline .lineStart rest
    else if isBlank c || atLineBreak (c :: rest) then escapedText? multiline .lineEnd rest
    else none
  | .lineStart, c :: rest =>
    if isBlank c || atLineBreak (c :: rest) then escapedText? multiline .lineStart rest
    else
      match end? '"' multiline (c :: rest) with
      | some found => some found
      | none =>
        if c = '\\' then escapedText? multiline .escape rest
        else if mayStand multiline (c :: rest) then
          (escapedText? multiline .plain rest).map fun (more, after) => (c :: more, after)
        else none

/-- The rest of a text between single quotes, and what follows it. -/
def literalText? (multiline : Bool) : List Char → Option (List Char × List Char)
  | [] => none
  | c :: rest =>
    match end? '\x27' multiline (c :: rest) with
    | some found => some found
    | none =>
      if mayStand multiline (c :: rest) then
        (literalText? multiline rest).map fun (more, after) => (c :: more, after)
      else none

/-- A text on one line at the start of a text, and what follows it. -/
def lineText? : List Char → Option (String × List Char)
  | '"' :: rest =>
    (escapedText? false .plain rest).map fun (content, after) => (String.ofList content, after)
  | '\x27' :: rest =>
    (literalText? false rest).map fun (content, after) => (String.ofList content, after)
  | _ => none

/-- A text of any form at the start of a text, and what follows it. -/
def text? : List Char → Option (String × List Char)
  | '"' :: '"' :: '"' :: rest =>
    (escapedText? true .plain (dropLineBreak rest)).map fun (content, after) =>
      (String.ofList content, after)
  | '\x27' :: '\x27' :: '\x27' :: rest =>
    (literalText? true (dropLineBreak rest)).map fun (content, after) =>
      (String.ofList content, after)
  | text => lineText? text

/-- Whether a character may stand in a key without quotes. -/
def isBare (c : Char) : Bool :=
  c.isAlphanum || c == '-' || c == '_'

/-- One part of a key, and what follows it. -/
def keyPart? : List Char → Option (String × List Char)
  | '"' :: rest => lineText? ('"' :: rest)
  | '\x27' :: rest => lineText? ('\x27' :: rest)
  | text =>
    match text.span isBare with
    | ([], _) => none
    | (name, after) => some (String.ofList name, after)

/-- A key of at most as many parts with dots between them, and what follows it and the blanks after
it. -/
def key? : Nat → List Char → Option (List String × List Char)
  | 0, _ => none
  | parts + 1, text => do
    let (name, after) ← keyPart? text
    match skipBlanks after with
    | '.' :: text =>
      let (more, after) ← key? parts (skipBlanks text)
      some (name :: more, after)
    | text => some ([name], text)

end ShellPractice.Toml
