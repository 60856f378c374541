import ShellPractice.FileTree.Path

/-!
# Files and directories

A tree of files holds the content of each file under its location, the list of steps from the root.
A path is followed step by step: each step but the last must lead to a directory that exists.
Operations fail for the reasons an operating system has.  Directories that were made stay where
they are when something fails later.

Symbolic links and access rights are left out: every location holds a file, a directory or nothing,
and every file may be read and written.
-/

namespace ShellPractice

/-- Why an operation on files failed. -/
inductive FileError where
  | missing
  | notDirectory
  | isDirectory
  | alreadyExists
  | nameTooLong
  /-- A path holds a character that no path may hold. -/
  | badPath
  /-- The content of the file is not UTF-8. -/
  | notText
  deriving DecidableEq, Repr

/-- The reason in words. -/
def FileError.message : FileError → String
  | missing => "No such file or directory (os error 2)"
  | notDirectory => "Not a directory (os error 20)"
  | isDirectory => "Is a directory (os error 21)"
  | alreadyExists => "File exists (os error 17)"
  | nameTooLong => "File name too long (os error 36)"
  | badPath => "file name contained an unexpected NUL byte"
  | notText => "stream did not contain valid UTF-8"

/-- What stands at a location. -/
inductive FileNode where
  | file (content : ByteArray)
  | directory

/-- Files and directories by their locations.  Of two entries for one location the first one
counts. -/
structure FileTree where
  entries : List (List String × FileNode)
  /-- The location from which paths that are not absolute are followed. -/
  current : List String

namespace FileTree

/-- What stands at a location.  The root is always a directory. -/
def node? (tree : FileTree) (location : List String) : Option FileNode :=
  if location = [] then some .directory else tree.entries.lookup location

/-- The tree with something else at a location. -/
def put (tree : FileTree) (location : List String) (node : FileNode) : FileTree :=
  { tree with entries := (location, node) :: tree.entries }

/-- The longest name, in bytes. -/
def longestName : Nat :=
  255

/-- The longest path, in bytes. -/
def longestPath : Nat :=
  4095

/-- The location one step further.  The step starts at a directory. -/
def step (tree : FileTree) (location : List String) (name : String) :
    Except FileError (List String) :=
  match tree.node? location with
  | none => .error .missing
  | some (.file _) => .error .notDirectory
  | some .directory =>
    if name = ".." then .ok location.dropLast
    else if longestName < name.utf8ByteSize then .error .nameTooLong
    else .ok (location ++ [name])

/-- The location at which steps end.  Nothing needs to stand there. -/
def follow (tree : FileTree) (location : List String) :
    List String → Except FileError (List String)
  | [] => .ok location
  | name :: names => (tree.step location name).bind fun next => follow tree next names

/-- The location at which a path starts. -/
def startOf (tree : FileTree) (path : Path) : List String :=
  if path.isAbsolute then [] else tree.current

/-- Why a path is refused before any step is followed. -/
def refusal? (path : Path) : Option FileError :=
  if path.text.toList.contains '\x00' then some .badPath
  else if path.text.isEmpty then some .missing
  else if longestPath < path.text.utf8ByteSize then some .nameTooLong
  else none

/-- The location that a path names. -/
def locate (tree : FileTree) (path : Path) : Except FileError (List String) :=
  match refusal? path with
  | some error => .error error
  | none => tree.follow (tree.startOf path) path.steps

/-- What stands where a path leads. -/
def get (tree : FileTree) (path : Path) : Except FileError FileNode :=
  match tree.locate path with
  | .error error => .error error
  | .ok location =>
    match tree.node? location with
    | none => .error .missing
    | some (.file content) =>
      if path.endsInDirectory then .error .notDirectory else .ok (.file content)
    | some .directory => .ok .directory

/-- Whether anything stands where a path leads. -/
def exists? (tree : FileTree) (path : Path) : Bool :=
  (tree.get path).isOk

/-- The bytes of a file. -/
def read (tree : FileTree) (path : Path) : Except FileError ByteArray :=
  match tree.get path with
  | .error error => .error error
  | .ok .directory => .error .isDirectory
  | .ok (.file content) => .ok content

/-- The text of a file. -/
def readText (tree : FileTree) (path : Path) : Except FileError String :=
  match tree.read path with
  | .error error => .error error
  | .ok content =>
    match String.fromUTF8? content with
    | some text => .ok text
    | none => .error .notText

/-- The location at which a file can be written.  Its directory must exist.  A name with a slash
behind it is refused as that of a directory, whatever stands there; a dot asks for a directory
before it. -/
def placeFor (tree : FileTree) (path : Path) : Except FileError (List String) :=
  match tree.locate path with
  | .error error => .error error
  | .ok location =>
    match tree.node? location with
    | some .directory => .error .isDirectory
    | some (.file _) =>
      if path.endsInDirectory then
        .error (if path.endsInDot then .notDirectory else .isDirectory)
      else .ok location
    | none =>
      if path.endsInDirectory then .error (if path.endsInDot then .missing else .isDirectory)
      else .ok location

/-- The tree with a file written. -/
def write (tree : FileTree) (path : Path) (content : ByteArray) : Except FileError FileTree :=
  (tree.placeFor path).map fun location => tree.put location (.file content)

/-- The tree with a text file written. -/
def writeText (tree : FileTree) (path : Path) (content : String) : Except FileError FileTree :=
  tree.write path content.toUTF8

/-- Makes the directories that are missing on the way, given whether one was made before it.  The
answer is the tree, with those made up to a failure if there is one.  A file in the way is no
directory; at the last step, and at any step after a directory was made, it is there already. -/
def makeSteps (tree : FileTree) (location : List String) (made : Bool) :
    List String → FileTree × Except FileError Unit
  | [] => (tree, .ok ())
  | name :: names =>
    match tree.step location name with
    | .error error => (tree, .error error)
    | .ok next =>
      match tree.node? next with
      | some .directory => makeSteps tree next made names
      | some (.file _) =>
        (tree, .error (if made || names.isEmpty then .alreadyExists else .notDirectory))
      | none => makeSteps (tree.put next .directory) next true names

/-- Makes the directories above the last step of a path.  Only what stands before that step can be
refused. -/
def makeParents (tree : FileTree) (path : Path) : FileTree × Except FileError Unit :=
  if path.steps.length ≤ 1 then (tree, .ok ())
  else
    match refusal? path.parent with
    | some error => (tree, .error error)
    | none => tree.makeSteps (tree.startOf path) false path.steps.dropLast

/-- Writes a text file after the directories above it are made.  The answer is the tree, which
keeps these directories even if the file cannot be written. -/
def save (tree : FileTree) (path : Path) (content : String) :
    FileTree × Except FileError Unit :=
  match tree.makeParents path with
  | (prepared, .error error) => (prepared, .error error)
  | (prepared, .ok ()) =>
    match prepared.writeText path content with
    | .error error => (prepared, .error error)
    | .ok written => (written, .ok ())

@[simp]
theorem node?_put_self {tree : FileTree} {location : List String} {node : FileNode}
    (below : location ≠ []) : (tree.put location node).node? location = some node := by
  simp [node?, put, below]

theorem node?_put_of_ne {tree : FileTree} {location other : List String} {node : FileNode}
    (different : other ≠ location) :
    (tree.put location node).node? other = tree.node? other := by
  have unequal : (other == location) = false := by simp [different]
  simp [node?, put, List.lookup_cons, unequal]

@[simp]
theorem current_put (tree : FileTree) (location : List String) (node : FileNode) :
    (tree.put location node).current = tree.current :=
  rfl

theorem node?_eq_directory_of_step {tree : FileTree} {location next : List String}
    {name : String} (success : tree.step location name = .ok next) :
    tree.node? location = some .directory := by
  unfold step at success
  split at success <;> simp_all

/-- Following a path never looks at a location that is no directory, so it does not matter what
is put there. -/
theorem follow_put {tree : FileTree} {place : List String} {node : FileNode}
    (free : tree.node? place ≠ some .directory) {names start result : List String}
    (success : tree.follow start names = .ok result) :
    (tree.put place node).follow start names = .ok result := by
  induction names generalizing start with
  | nil => simpa [follow] using success
  | cons name names ih =>
    cases stepped : tree.step start name with
    | error error => simp [follow, stepped, Except.bind] at success
    | ok next =>
      have directory := node?_eq_directory_of_step stepped
      have different : start ≠ place := fun equal => free (equal ▸ directory)
      have same : (tree.put place node).step start name = tree.step start name := by
        simp [step, node?_put_of_ne different]
      simp only [follow, stepped, same, Except.bind] at success ⊢
      exact ih success

theorem locate_put {tree : FileTree} {place location : List String} {node : FileNode}
    {path : Path} (free : tree.node? place ≠ some .directory)
    (success : tree.locate path = .ok location) :
    (tree.put place node).locate path = .ok location := by
  unfold locate at success ⊢
  split at success
  · cases success
  · exact follow_put free success

theorem placeFor_eq_ok_iff {tree : FileTree} {path : Path} {location : List String} :
    tree.placeFor path = .ok location ↔
      tree.locate path = .ok location ∧ tree.node? location ≠ some .directory ∧
        path.endsInDirectory = false := by
  unfold placeFor
  cases tree.locate path with
  | error error => simp
  | ok found =>
    cases stands : tree.node? found with
    | none =>
      cases path.endsInDirectory with
      | true => simp [stands]
      | false =>
        simp only [stands, Bool.false_eq_true, if_false, Except.ok.injEq, and_true, iff_self_and]
        rintro rfl
        simp [stands]
    | some node =>
      cases node with
      | directory =>
        simp only [stands, reduceCtorEq, Except.ok.injEq, false_iff]
        rintro ⟨rfl, free, -⟩
        exact free stands
      | file content =>
        cases path.endsInDirectory with
        | true => simp [stands]
        | false =>
          simp only [stands, Bool.false_eq_true, if_false, Except.ok.injEq, and_true, iff_self_and]
          rintro rfl
          simp [stands]

/-- A file that was written stands where its path leads. -/
theorem write_eq_ok {tree written : FileTree} {path : Path} {content : ByteArray}
    (success : tree.write path content = .ok written) :
    ∃ location, tree.locate path = .ok location ∧ tree.node? location ≠ some .directory ∧
      path.endsInDirectory = false ∧ written = tree.put location (.file content) := by
  unfold write at success
  cases place : tree.placeFor path with
  | error error => simp [place, Except.map] at success
  | ok location =>
    obtain ⟨found, free, isFile⟩ := placeFor_eq_ok_iff.mp place
    rw [place] at success
    exact ⟨location, found, free, isFile, (Except.ok.inj success).symm⟩

/-- The bytes of a file that was just written. -/
theorem read_write {tree written : FileTree} {path : Path} {content : ByteArray}
    (success : tree.write path content = .ok written) : written.read path = .ok content := by
  obtain ⟨location, found, free, isFile, rfl⟩ := write_eq_ok success
  have below : location ≠ [] := by
    rintro rfl
    exact free (by simp [node?])
  simp [read, get, locate_put free found, below, isFile]

/-- The text of a file that was just written. -/
theorem readText_writeText {tree written : FileTree} {path : Path} {text : String}
    (success : tree.writeText path text = .ok written) : written.readText path = .ok text := by
  have same : String.fromUTF8? text.toUTF8 = some text := by
    simp only [String.fromUTF8?, String.toUTF8_eq_toByteArray, dif_pos text.isValidUTF8]
    exact congrArg some (String.toByteArray_inj.mp rfl)
  rw [readText, read_write success]
  simp only [same]

end FileTree

end ShellPractice
