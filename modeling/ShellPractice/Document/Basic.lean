/-!
# Documents

The data that configuration and lesson files hold, whichever notation they are written in: texts,
numbers and truth values, in lists and in objects with named members.
-/

namespace ShellPractice

/-- The content of a file in one of the notations. -/
inductive Document where
  | null
  | bool (value : Bool)
  | integer (value : Int)
  /-- A number that is no integer, as it was written. -/
  | real (literal : String)
  | text (value : String)
  /-- A date or a time of day, as it was written. -/
  | moment (literal : String)
  /-- Something written like a value that stands for none: a text, or an object with a name, that
  holds half a character, or a number without digits or of a size that cannot be held.  It may
  stand where nothing is read from it. -/
  | broken
  | array (items : List Document)
  | object (members : List (String × Document))

namespace Document

/-- The text that a document is. -/
def text? : Document → Option String
  | text value => some value
  | _ => none

/-- The truth value that a document is. -/
def bool? : Document → Option Bool
  | bool value => some value
  | _ => none

/-- The word of 64 bits that a document is. -/
def word? : Document → Option UInt64
  | integer value =>
    if 0 ≤ value ∧ value < UInt64.size then some (UInt64.ofNat value.toNat) else none
  | _ => none

/-- A list, each item of which is read in the same way. -/
def list? {α : Type} (read : Document → Option α) : Document → Option (List α)
  | array items => items.mapM read
  | _ => none

/-- A value that may be absent. -/
def optional? {α : Type} (read : Document → Option α) : Document → Option (Option α)
  | null => some none
  | document => (read document).map some

mutual

/-- Whether no part of a document is broken. -/
def isWhole : Document → Bool
  | broken => false
  | array items => areWhole items
  | object members => membersAreWhole members
  | _ => true

/-- Whether no part of any item is broken. -/
def areWhole : List Document → Bool
  | [] => true
  | item :: items => isWhole item && areWhole items

/-- Whether no part of any member is broken. -/
def membersAreWhole : List (String × Document) → Bool
  | [] => true
  | (_, value) :: members => isWhole value && membersAreWhole members

end

/-- A list of texts. -/
def texts (values : List String) : Document :=
  array (values.map text)

/-- A document for a value that may be absent. -/
def ofOption : Option Document → Document
  | none => null
  | some document => document

/-- The members of an object without those that are absent. -/
def present (members : List (String × Option Document)) : List (String × Document) :=
  members.filterMap fun member => member.2.map (member.1, ·)

end Document

end ShellPractice
