import Mathlib.Data.List.Induction
import ShellPractice.FileTree.Basic
import ShellPractice.Proofs.FileTree.Path
import ShellPractice.Proofs.Text.TypedLines

/-!
# What saving does to a tree of files

Saving makes the directories above a file and then writes the file.  Where the file was there
before, every path leads where it led; otherwise new paths may lead somewhere, but in a tree that
is in order only those that go through a new directory.
-/

namespace ShellPractice.FileTree

variable {tree : FileTree} {start location : List String} {names : List String}

/-- A file is read where a path leads to it and does not name a directory. -/
theorem read_eq_ok_iff {path : Path} {content : ByteArray} :
    tree.read path = .ok content ↔
      path.endsInDirectory = false ∧
        ∃ location, tree.locate path = .ok location ∧
          tree.node? location = some (.file content) := by
  rw [read, get]
  cases tree.locate path with
  | error error => simp
  | ok location =>
    cases stands : tree.node? location with
    | none => simp [stands]
    | some node =>
      cases node with
      | directory => simp [stands]
      | file other => cases path.endsInDirectory <;> simp [stands]

theorem readText_of_read {path : Path} {text : String}
    (content : tree.read path = .ok text.toUTF8) : tree.readText path = .ok text := by
  rw [readText, content]
  simp only [Text.fromUTF8?_toUTF8]

theorem step_eq_ok_iff {name : String} {next : List String} :
    tree.step start name = .ok next ↔
      tree.node? start = some .directory ∧
        (if name = ".." then start.dropLast = next
        else name.utf8ByteSize ≤ longestName ∧ start ++ [name] = next) := by
  rw [step]
  cases stands : tree.node? start with
  | none => simp
  | some node =>
    cases node with
    | file content => simp
    | directory =>
      by_cases up : name = ".."
      · simp [up]
      · by_cases long : longestName < name.utf8ByteSize
        · simp [up, long, Nat.not_le.mpr long]
        · simp [up, long, Nat.not_lt.mp long]

theorem follow_cons_eq_ok_iff {name : String} :
    tree.follow start (name :: names) = .ok location ↔
      ∃ next, tree.step start name = .ok next ∧ tree.follow next names = .ok location := by
  rw [follow]
  cases tree.step start name <;> simp [Except.bind]

/-- The last step on a way starts at a directory, and leads below it unless it leads back. -/
theorem exists_parent_of_follow {name : String} (forward : name ≠ "..")
    (last : names.getLast? = some name) (found : tree.follow start names = .ok location) :
    ∃ parent, tree.node? parent = some .directory ∧ location = parent ++ [name] := by
  induction names generalizing start with
  | nil => cases last
  | cons first rest ih =>
    obtain ⟨next, stepped, followed⟩ := follow_cons_eq_ok_iff.mp found
    cases rest with
    | nil =>
      obtain rfl : first = name := by simpa using last
      obtain ⟨directory, further⟩ := step_eq_ok_iff.mp stepped
      rw [if_neg forward] at further
      obtain rfl : next = location := by simpa [follow] using followed
      exact ⟨start, directory, further.2.symm⟩
    | cons second rest => exact ih (by simpa using last) followed

theorem locate_eq_ok_iff {path : Path} :
    tree.locate path = .ok location ↔
      refusal? path = none ∧ tree.follow (tree.startOf path) path.steps = .ok location := by
  rw [locate]
  cases refusal? path <;> simp

/-- A path that may name a file leads to its name in a directory. -/
theorem exists_parent_of_locate {path : Path} (isFile : path.endsInDirectory = false)
    (found : tree.locate path = .ok location) :
    ∃ parent, tree.node? parent = some .directory ∧
      location = parent ++ [String.ofList path.lastPiece] := by
  obtain ⟨last, forward⟩ := Path.getLast?_steps isFile
  exact exists_parent_of_follow forward last (locate_eq_ok_iff.mp found).2

/-- Directories on a way that was followed need not be made. -/
theorem makeSteps_of_follow {last : String}
    (found : tree.follow start (names ++ [last]) = .ok location) :
    tree.makeSteps start false names = (tree, .ok ()) := by
  induction names generalizing start with
  | nil => rfl
  | cons name rest ih =>
    obtain ⟨next, stepped, followed⟩ := follow_cons_eq_ok_iff.mp found
    -- The next step starts at a directory, so there is one already.
    have directory : tree.node? next = some .directory := by
      cases rest with
      | nil =>
        obtain ⟨_, further, -⟩ := follow_cons_eq_ok_iff.mp followed
        exact (step_eq_ok_iff.mp further).1
      | cons second rest =>
        obtain ⟨_, further, -⟩ := follow_cons_eq_ok_iff.mp followed
        exact (step_eq_ok_iff.mp further).1
    simp only [makeSteps, stepped, directory]
    exact ih followed

/-- No directories are made where a path already leads somewhere. -/
theorem eq_of_makeParents {path : Path} {prepared : FileTree}
    (found : tree.locate path = .ok location) (made : tree.makeParents path = (prepared, .ok ())) :
    prepared = tree := by
  rw [makeParents] at made
  split at made
  · cases made
    rfl
  · rename_i several
    have nonempty : path.steps ≠ [] := fun none => several (by simp [none])
    have followed := (locate_eq_ok_iff.mp found).2
    rw [← List.dropLast_concat_getLast nonempty] at followed
    rw [makeSteps_of_follow followed] at made
    split at made <;> cases made
    rfl

/-! ### A file that was put somewhere -/

section PutFile

variable {place : List String} {content other : ByteArray}

/-- A file that takes no directory's place changes no way: nothing is followed through a file. -/
theorem follow_put_file_eq_ok_iff (free : tree.node? place ≠ some .directory) :
    (tree.put place (.file content)).follow start names = .ok location ↔
      tree.follow start names = .ok location := by
  refine ⟨fun found => ?_, follow_put free⟩
  have below : place ≠ [] := by
    rintro rfl
    exact free (by simp [node?])
  induction names generalizing start with
  | nil => simpa [follow] using found
  | cons name rest ih =>
    obtain ⟨next, stepped, followed⟩ := follow_cons_eq_ok_iff.mp found
    obtain ⟨directory, further⟩ := step_eq_ok_iff.mp stepped
    have elsewhere : start ≠ place := by
      rintro rfl
      simp [below] at directory
    rw [node?_put_of_ne elsewhere] at directory
    exact follow_cons_eq_ok_iff.mpr ⟨next, step_eq_ok_iff.mpr ⟨directory, further⟩, ih followed⟩

theorem locate_put_file_eq_ok_iff (free : tree.node? place ≠ some .directory) {path : Path} :
    (tree.put place (.file content)).locate path = .ok location ↔
      tree.locate path = .ok location := by
  simp only [locate_eq_ok_iff, startOf, current_put, follow_put_file_eq_ok_iff free]

/-- A path that can be read leads to the new file, or it could be read before. -/
theorem read_put_file (free : tree.node? place ≠ some .directory) {path : Path}
    (readable : (tree.put place (.file content)).read path = .ok other) :
    tree.locate path = .ok place ∧ other = content ∨ tree.read path = .ok other := by
  obtain ⟨isFile, location, found, stands⟩ := read_eq_ok_iff.mp readable
  rw [locate_put_file_eq_ok_iff free] at found
  by_cases here : location = place
  · subst here
    have below : location ≠ [] := by
      rintro rfl
      exact free (by simp [node?])
    left
    exact ⟨found, by simpa [below, eq_comm] using stands⟩
  · rw [node?_put_of_ne here] at stands
    exact .inr (read_eq_ok_iff.mpr ⟨isFile, location, found, stands⟩)

end PutFile

/-! ### New directories -/

/-- A tree that has grown by directories. -/
structure AddsDirectories (before after : FileTree) : Prop where
  current : after.current = before.current
  file_iff : ∀ location content, after.node? location = some (.file content) ↔
    before.node? location = some (.file content)

theorem AddsDirectories.refl (tree : FileTree) : AddsDirectories tree tree :=
  ⟨rfl, fun _ _ => Iff.rfl⟩

theorem AddsDirectories.trans {before middle after : FileTree}
    (first : AddsDirectories before middle) (second : AddsDirectories middle after) :
    AddsDirectories before after :=
  ⟨second.current.trans first.current, fun location content =>
    (second.file_iff location content).trans (first.file_iff location content)⟩

theorem addsDirectories_put (free : tree.node? location = none) :
    AddsDirectories tree (tree.put location .directory) := by
  refine ⟨rfl, fun other content => ?_⟩
  by_cases here : other = location
  · subst here
    have below : other ≠ [] := by
      rintro rfl
      simp [node?] at free
    simp [free, below]
  · rw [node?_put_of_ne here]

theorem addsDirectories_makeSteps (tree : FileTree) (start : List String) (made : Bool)
    (names : List String) : AddsDirectories tree (tree.makeSteps start made names).1 := by
  induction names generalizing tree start made with
  | nil => exact .refl tree
  | cons name rest ih =>
    rw [makeSteps]
    cases tree.step start name with
    | error error => exact .refl tree
    | ok next =>
      cases stands : tree.node? next with
      | none => simpa only [stands] using (addsDirectories_put stands).trans (ih _ next true)
      | some node =>
        cases node with
        | file content => simpa only [stands] using .refl tree
        | directory => simpa only [stands] using ih tree next made

theorem addsDirectories_makeParents (tree : FileTree) (path : Path) :
    AddsDirectories tree (tree.makeParents path).1 := by
  rw [makeParents]
  split
  · exact .refl tree
  · split
    · exact .refl tree
    · exact addsDirectories_makeSteps tree _ _ _

/-- A tree in order: what stands anywhere stands in a directory. -/
def IsTree (tree : FileTree) : Prop :=
  ∀ location name, (tree.node? (location ++ [name])).isSome = true →
    tree.node? location = some .directory

/-- A tree is in order if what is above each entry is a directory. -/
theorem isTree_of_entries
    (ordered : ∀ entry ∈ tree.entries, tree.node? entry.1.dropLast = some .directory) :
    tree.IsTree := by
  intro location name stands
  rw [node?, if_neg (by simp), List.lookup_isSome_iff] at stands
  obtain ⟨entry, member, here⟩ := stands
  have above := ordered entry member
  rw [← beq_iff_eq.mp here, List.dropLast_concat] at above
  exact above

theorem IsTree.directory_of_append (ordered : tree.IsTree) {front back : List String}
    (below : back ≠ []) (stands : (tree.node? (front ++ back)).isSome = true) :
    tree.node? front = some .directory := by
  induction back using List.reverseRecOn with
  | nil => exact absurd rfl below
  | append_singleton back name ih =>
    rw [← List.append_assoc] at stands
    have parent := ordered _ _ stands
    cases back with
    | nil => simpa using parent
    | cons first rest => exact ih (by simp) (by simp [parent])

/-- Steps that never lead back lead straight down. -/
theorem append_of_follow (forward : ".." ∉ names)
    (found : tree.follow start names = .ok location) : location = start ++ names := by
  induction names generalizing start with
  | nil => simpa [follow, eq_comm] using found
  | cons name rest ih =>
    simp only [List.mem_cons, not_or] at forward
    obtain ⟨next, stepped, followed⟩ := follow_cons_eq_ok_iff.mp found
    obtain ⟨-, further⟩ := step_eq_ok_iff.mp stepped
    rw [if_neg (Ne.symm forward.1)] at further
    rw [ih forward.2 followed, ← further.2, List.append_assoc, List.singleton_append]

/-- Where something stands in a tree that is in order, a way straight down that can be followed in
another tree can be followed in it. -/
theorem IsTree.follow_of_follow {other : FileTree} (ordered : tree.IsTree)
    (forward : ".." ∉ names) (found : other.follow start names = .ok location)
    (stands : (tree.node? location).isSome = true) :
    tree.follow start names = .ok location := by
  obtain rfl := append_of_follow forward found
  induction names generalizing start with
  | nil => simp [follow]
  | cons name rest ih =>
    simp only [List.mem_cons, not_or] at forward
    obtain ⟨next, stepped, followed⟩ := follow_cons_eq_ok_iff.mp found
    obtain ⟨-, further⟩ := step_eq_ok_iff.mp stepped
    have directory := ordered.directory_of_append (List.cons_ne_nil name rest) stands
    have same : next ++ rest = start ++ name :: rest := by
      rw [if_neg (Ne.symm forward.1)] at further
      rw [← further.2, List.append_assoc, List.singleton_append]
    rw [← same] at followed stands ⊢
    exact follow_cons_eq_ok_iff.mpr
      ⟨next, step_eq_ok_iff.mpr ⟨directory, further⟩, ih forward.2 followed stands⟩

/-- A path without a step back that leads to a file after directories were made led to it before. -/
theorem IsTree.read_of_read {grown : FileTree} (ordered : tree.IsTree)
    (grows : AddsDirectories tree grown) {path : Path} (forward : ".." ∉ path.steps)
    {content : ByteArray} (readable : grown.read path = .ok content) :
    tree.read path = .ok content := by
  obtain ⟨isFile, location, found, stands⟩ := read_eq_ok_iff.mp readable
  obtain ⟨accepted, followed⟩ := locate_eq_ok_iff.mp found
  have stood := (grows.file_iff location content).mp stands
  have start : grown.startOf path = tree.startOf path := by simp only [startOf, grows.current]
  rw [start] at followed
  have before := ordered.follow_of_follow forward followed (by simp [stood])
  exact read_eq_ok_iff.mpr
    ⟨isFile, location, locate_eq_ok_iff.mpr ⟨accepted, before⟩, stood⟩

/-! ### What is saved -/

/-- Whether a file can be written does not depend on what is written. -/
theorem error_write_eq (tree : FileTree) (path : Path) (content other : ByteArray) :
    (tree.write path content).map (fun _ => ()) = (tree.write path other).map fun _ => () := by
  rw [write, write]
  cases tree.placeFor path with
  | error error => rfl
  | ok location => rfl

theorem result_save_eq (tree : FileTree) (path : Path) (text other : String) :
    (tree.save path text).2 = (tree.save path other).2 := by
  unfold save
  obtain ⟨prepared, made⟩ := tree.makeParents path
  cases made with
  | error error => rfl
  | ok =>
    have same := error_write_eq prepared path text.toUTF8 other.toUTF8
    simp only [writeText]
    cases one : prepared.write path text.toUTF8 <;>
      cases two : prepared.write path other.toUTF8 <;> simp_all [Except.map]

end ShellPractice.FileTree
