import ShellPractice.Document.Basic

/-!
# Records in documents

A record is written as an object with its fields as members, in any order, among members of other
names; or as an array of its fields in their order, the last ones of which may be left out.  A
choice is written as its name, or as an object whose only member has this name.
-/

namespace ShellPractice.Document

/-- How a notation writes records and choices where the notations differ. -/
structure Conventions where
  /-- Whether an array for a record may go on after its last field.  What follows is not looked
  at. -/
  surplusAllowed : Bool
  /-- Whether a document may stand under a name that no field of the record has. -/
  isIgnored : Document → Bool
  /-- Whether a document may stand beside the name of a choice that has no fields. -/
  isBareChoice : Document → Bool

/-- The documents given for one field name.  Only one may be given. -/
def member? (members : List (String × Document)) (name : String) :
    Option (Option Document) :=
  match members.filter fun member => member.1 == name with
  | [] => some none
  | [member] => some (some member.2)
  | _ => none

/-- The items of an array for as many fields. -/
def padItems : List Document → Nat → List (Option Document)
  | _, 0 => []
  | [], count + 1 => none :: padItems [] count
  | item :: items, count + 1 => some item :: padItems items count

/-- The documents given for the fields of a record, field by field.  A date is a record none of
whose fields is given. -/
def fields? (conventions : Conventions) (names : List String) :
    Document → Option (List (Option Document))
  | object members =>
    if members.all fun member => names.contains member.1 || conventions.isIgnored member.2 then
      names.mapM (member? members)
    else none
  | array items =>
    if conventions.surplusAllowed || items.length ≤ names.length then
      some (padItems items names.length)
    else none
  | moment _ => some (names.map fun _ => none)
  | _ => none

/-- A field that must be given. -/
def required {α : Type} (read : Document → Option α) : Option Document → Option α
  | some document => read document
  | none => none

/-- A field that has a value of its own when it is not given. -/
def withDefault {α : Type} (default : α) (read : Document → Option α) :
    Option Document → Option α
  | some document => read document
  | none => some default

/-- A choice among named values without fields. -/
def choice? {α : Type} (conventions : Conventions) (options : List α) (name : α → String) :
    Document → Option α
  | text chosen => options.find? fun option => name option == chosen
  | object [(chosen, payload)] =>
    if conventions.isBareChoice payload then
      options.find? fun option => name option == chosen
    else none
  | _ => none

end ShellPractice.Document
