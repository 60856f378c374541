import ShellPractice.Text.Lines

/-!
# Paths

A path is a text of steps between slashes.  Empty steps and single dots lead nowhere and are left
out, two dots lead to the directory above.  The name of the file is the last step, and its
extension is what follows the last dot of the name.
-/

namespace ShellPractice

/-- A path as it was written. -/
structure Path where
  text : String
  deriving DecidableEq, Repr

namespace Path

/-- Whether a path starts at the root. -/
def isAbsolute (path : Path) : Bool :=
  path.text.toList.head? == some '/'

/-- The steps of a path, in order. -/
def steps (path : Path) : List String :=
  ((Text.splitAt '/' path.text.toList).map String.ofList).filter fun step =>
    step != "" && step != "."

/-- Whether a path can only name a directory, as its last step does not name a file. -/
def endsInDirectory (path : Path) : Bool :=
  match (Text.splitAt '/' path.text.toList).getLast? with
  | some last => last == [] || last == ['.'] || last == ['.', '.']
  | none => true

/-- Whether the last piece of a path is a single dot, slashes behind it aside. -/
def endsInDot (path : Path) : Bool :=
  ((Text.splitAt '/' path.text.toList).filter (· != [])).getLast? == some ['.']

/-- Drops the slashes and the single dots after slashes off a text that is read backwards. -/
def dropTail : List Char → List Char
  | '/' :: rest => dropTail rest
  | '.' :: '/' :: rest => dropTail rest
  | text => text

/-- The last step of a text read backwards, and what stands before it, both backwards.  A dot or
two dots are no name. -/
def nameBackwards? (text : List Char) : Option (List Char × List Char) :=
  let (name, before) := (dropTail text).span (· != '/')
  if name == [] || name == ['.'] || name == ['.', '.'] then none else some (name, before)

/-- The path without its last step, which leads to the directory that holds it. -/
def parent (path : Path) : Path :=
  let (_, before) := (dropTail path.text.toList.reverse).span (· != '/')
  ⟨String.ofList (dropTail before).reverse⟩

/-- The extension of a name, backwards, and the stem before its dot.  A name whose only dot comes
first has no extension. -/
def extensionBackwards? (name : List Char) : Option (List Char × List Char) :=
  match name.span (· != '.') with
  | (extension, '.' :: stem) => if stem.isEmpty then none else some (extension, stem)
  | _ => none

/-- The extension of the file that a path names. -/
def extension? (path : Path) : Option String :=
  match nameBackwards? path.text.toList.reverse with
  | some (name, _) =>
    (extensionBackwards? name).map fun parts => String.ofList parts.1.reverse
  | none => none

/-- The path with another extension in the place of the one it has, or after its name if it has
none.  The old extension is cut off first; a path without a name is left as it is then. -/
def withExtension (path : Path) (extension : String) : Path :=
  let cut := ((path.extension?.map String.length).getD 0)
  let kept := path.text.toList.reverse.drop cut
  match nameBackwards? kept with
  | none => ⟨String.ofList kept.reverse⟩
  | some (name, before) =>
    let stem := ((extensionBackwards? name).map Prod.snd).getD name
    ⟨String.ofList (stem ++ before).reverse ++ "." ++ extension⟩

/-- A path below another one.  An absolute path stands for itself. -/
def join (base path : Path) : Path :=
  if path.isAbsolute || base.text.isEmpty then path
  else if base.text.toList.getLast? == some '/' then ⟨base.text ++ path.text⟩
  else ⟨base.text ++ "/" ++ path.text⟩

instance : Div Path :=
  ⟨join⟩

end Path

end ShellPractice
