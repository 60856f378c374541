import ShellPractice.Document.Basic

/-!
# Tables under construction

A TOML file builds its tables line by line: a header opens a table, and a dotted key opens tables
on its way.  How a table came about decides whether it may be opened or filled again.
-/

namespace ShellPractice.Toml

/-- How a table came about. -/
inductive Origin where
  /-- On the way to a table with a header of its own. -/
  | implied
  /-- On the way to the last part of a dotted key. -/
  | dotted
  /-- By a header. -/
  | explicit
  deriving DecidableEq, Repr

/-- What a name in a table stands for. -/
inductive Item where
  /-- A finished value; nothing can be added to it. -/
  | leaf (value : Document)
  | table (origin : Origin) (entries : List (String × Item))
  /-- The tables of an array that grows by a header each. -/
  | tables (elements : List (List (String × Item)))

/-- The entries of a table, in the order of their first mention. -/
abbrev Table :=
  List (String × Item)

namespace Table

/-- What a name stands for. -/
def find? (table : Table) (name : String) : Option Item :=
  table.lookup name

/-- The table with another item for a name, in its place or at the end. -/
def set : Table → String → Item → Table
  | [], name, item => [(name, item)]
  | (other, old) :: rest, name, item =>
    if other = name then (other, item) :: rest else (other, old) :: set rest name item

/-- The list with its last element changed. -/
def changeLast (change : Table → Option Table) : List Table → Option (List Table)
  | [] => none
  | [element] => (change element).map ([·])
  | element :: rest => (changeLast change rest).map (element :: ·)

/-- Follows the names of a header and changes the table at their end. -/
def under (change : Table → Option Table) : List String → Table → Option Table
  | [], table => change table
  | name :: path, table =>
    match table.find? name with
    | none => (under change path []).map fun inner => table.set name (.table .implied inner)
    | some (.table origin inner) =>
      (under change path inner).map fun inner => table.set name (.table origin inner)
    | some (.tables elements) =>
      (changeLast (under change path) elements).map fun elements =>
        table.set name (.tables elements)
    | some (.leaf _) => none

/-- Opens the table that a header names in the table that holds it. -/
def openTable (name : String) (table : Table) : Option Table :=
  match table.find? name with
  | none => some (table.set name (.table .explicit []))
  | some (.table .implied inner) => some (table.set name (.table .explicit inner))
  | _ => none

/-- Adds an element to the array of tables that a header names. -/
def openElement (name : String) (table : Table) : Option Table :=
  match table.find? name with
  | none => some (table.set name (.tables [[]]))
  | some (.tables elements) => some (table.set name (.tables (elements ++ [[]])))
  | _ => none

/-- Gives a name a value for the first time. -/
def assignName (name : String) (value : Document) (table : Table) : Option Table :=
  match table.find? name with
  | none => some (table.set name (.leaf value))
  | some _ => none

/-- Gives the last part of a dotted key a value.  The tables on its way may not have headers, and
no header can open them afterwards.  An array of tables may be on its way, but not at the end. -/
def assign (value : Document) : List String → Table → Option Table
  | [], _ => none
  | [name], table => assignName name value table
  | name :: path, table =>
    match table.find? name with
    | none =>
      (assign value path []).map fun inner => table.set name (.table .dotted inner)
    | some (.table origin inner) =>
      if origin = .explicit then none
      else (assign value path inner).map fun inner => table.set name (.table .dotted inner)
    | some (.tables elements) =>
      if path.length = 1 then none
      else (changeLast (assign value path) elements).map fun elements =>
        table.set name (.tables elements)
    | some (.leaf _) => none

end Table

mutual

/-- The document that an item has become. -/
def Item.toDocument : Item → Document
  | .leaf value => value
  | .table _ entries => .object (entriesToMembers entries)
  | .tables elements => .array (elementsToItems elements)

/-- The members that the entries of a table have become. -/
def entriesToMembers : List (String × Item) → List (String × Document)
  | [] => []
  | (name, item) :: rest => (name, item.toDocument) :: entriesToMembers rest

/-- The objects that the elements of an array of tables have become. -/
def elementsToItems : List (List (String × Item)) → List Document
  | [] => []
  | element :: rest => .object (entriesToMembers element) :: elementsToItems rest

end

/-- The document that a table has become. -/
def Table.toDocument (table : Table) : Document :=
  .object (entriesToMembers table)

end ShellPractice.Toml
