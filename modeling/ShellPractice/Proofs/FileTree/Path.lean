import ShellPractice.FileTree.Path
import ShellPractice.Proofs.Text.Pieces
import ShellPractice.Proofs.Text.Runs

/-!
# Names and extensions

The last step of a path names a file, unless the path can only name a directory.  A path that is
given an extension and names a file has this extension, and its last step ends in it.
-/

namespace ShellPractice.Path

/-- What stands behind the last slash. -/
def lastPiece (path : Path) : List Char :=
  (path.text.toList.reverse.takeWhile (· != '/')).reverse

theorem endsInDirectory_eq (path : Path) :
    path.endsInDirectory =
      (path.lastPiece == [] || path.lastPiece == ['.'] || path.lastPiece == ['.', '.']) := by
  obtain ⟨pieces, split⟩ := Text.exists_splitAt_eq_concat '/' path.text.toList
  simp only [endsInDirectory, split, List.getLast?_concat, lastPiece]

/-- A path that may name a file ends with the name as its last step. -/
theorem getLast?_steps {path : Path} (isFile : path.endsInDirectory = false) :
    path.steps.getLast? = some (String.ofList path.lastPiece) ∧
      String.ofList path.lastPiece ≠ ".." := by
  obtain ⟨pieces, split⟩ := Text.exists_splitAt_eq_concat '/' path.text.toList
  have named : ∀ text ∈ ["", ".", ".."], String.ofList path.lastPiece ≠ text := by
    intro text member same
    rw [endsInDirectory_eq] at isFile
    have piece : path.lastPiece = text.toList := by rw [← same, String.toList_ofList]
    simp only [List.mem_cons, List.not_mem_nil, or_false] at member
    rcases member with rfl | rfl | rfl <;> simp [piece] at isFile
  refine ⟨?_, named ".." (by simp)⟩
  have kept := named "" (by simp)
  have visible := named "." (by simp)
  simp only [lastPiece] at kept visible ⊢
  simp [steps, split, kept, visible]

/-- A name read backwards goes up to the next slash; one or two dots are none. -/
theorem nameBackwards?_eq_some_iff {text name before : List Char} :
    nameBackwards? text = some (name, before) ↔
      name ∉ [[], ['.'], ['.', '.']] ∧ (dropTail text).takeWhile (· != '/') = name ∧
        (dropTail text).dropWhile (· != '/') = before := by
  rw [nameBackwards?, List.span_eq_takeWhile_dropWhile]
  simp only [Bool.or_eq_true, beq_iff_eq, List.mem_cons, List.not_mem_nil, or_false]
  by_cases improper : ((dropTail text).takeWhile (· != '/') = [] ∨
      (dropTail text).takeWhile (· != '/') = ['.']) ∨
      (dropTail text).takeWhile (· != '/') = ['.', '.']
  · rw [if_pos improper]
    simp only [reduceCtorEq, false_iff]
    rintro ⟨proper, rfl, -⟩
    exact proper (or_assoc.mp improper)
  · rw [if_neg improper]
    simp only [Option.some.injEq, Prod.mk.injEq, iff_and_self]
    rintro ⟨rfl, -⟩
    exact fun other => improper (or_assoc.mpr other)

theorem dropTail_cons {c : Char} {rest : List Char} (name : c ≠ '/') (undotted : c ≠ '.') :
    dropTail (c :: rest) = c :: rest := by
  unfold dropTail
  split <;> simp_all

/-- A path without a name can only name a directory. -/
theorem endsInDirectory_of_nameless {path : Path}
    (nameless : nameBackwards? path.text.toList.reverse = none) : path.endsInDirectory = true := by
  rw [endsInDirectory_eq, lastPiece]
  generalize path.text.toList.reverse = text at nameless
  by_cases proper : (dropTail text).takeWhile (· != '/') ∈ [[], ['.'], ['.', '.']]
  · unfold dropTail at proper
    split at proper
    · simp
    · simp
    · simp only [List.mem_cons, List.not_mem_nil, or_false] at proper
      rcases proper with piece | piece | piece <;> simp [piece]
  · rw [nameBackwards?_eq_some_iff.mpr ⟨proper, rfl, rfl⟩] at nameless
    cases nameless

/-- A name without its extension. -/
def stemBackwards (name : List Char) : List Char :=
  ((extensionBackwards? name).map Prod.snd).getD name

theorem stemBackwards_ne_nil {name : List Char} (proper : name ≠ []) :
    stemBackwards name ≠ [] := by
  rw [stemBackwards, extensionBackwards?]
  split
  · split <;> simp_all
  · simpa using proper

theorem mem_of_mem_stemBackwards {name : List Char} {c : Char} (member : c ∈ stemBackwards name) :
    c ∈ name := by
  rw [stemBackwards, extensionBackwards?, List.span_eq_takeWhile_dropWhile] at member
  split at member
  · rename_i extension stem split
    obtain ⟨rfl, dropped⟩ := Prod.mk.inj split
    have inside : c ∈ stem → c ∈ name := fun member =>
      (List.dropWhile_suffix _).subset (dropped ▸ List.mem_cons_of_mem _ member)
    split at member
    · simpa using member
    · exact inside (by simpa using member)
  · simpa using member

/-- A path that is read backwards, without its extension. -/
def keptBackwards (path : Path) : List Char :=
  path.text.toList.reverse.drop ((path.extension?.map String.length).getD 0)

theorem withExtension_eq (path : Path) (extension : String) :
    path.withExtension extension =
      match nameBackwards? path.keptBackwards with
      | none => ⟨String.ofList path.keptBackwards.reverse⟩
      | some (name, before) =>
        ⟨String.ofList (stemBackwards name ++ before).reverse ++ "." ++ extension⟩ := by
  delta withExtension keptBackwards
  dsimp only
  generalize path.text.toList.reverse.drop _ = kept
  rcases nameBackwards? kept with _ | ⟨name, before⟩ <;> rfl

/-- Whether a text can stand behind the last dot of a name. -/
def IsExtension (extension : String) : Prop :=
  extension ≠ "" ∧ extension.toList.all (fun c => c != '.' && c != '/') = true

instance (extension : String) : Decidable (IsExtension extension) :=
  inferInstanceAs (Decidable (_ ∧ _))

/-- The name of the file is a stem, a dot and the extension. -/
def EndsWith (path : Path) (extension : String) : Prop :=
  ∃ stem before, stem ≠ [] ∧ (∀ c ∈ stem, (c != '/') = true) ∧
    Text.EndsRun (· != '/') before ∧
    path.text.toList.reverse = extension.toList.reverse ++ '.' :: stem ++ before

/-- A path with an extension put to it names a file with this extension, or no file at all. -/
theorem endsWith_withExtension {path : Path} {extension : String}
    (isFile : (path.withExtension extension).endsInDirectory = false) :
    (path.withExtension extension).EndsWith extension := by
  rw [withExtension_eq] at isFile ⊢
  generalize path.keptBackwards = kept at isFile ⊢
  cases found : nameBackwards? kept with
  | none =>
    simp only [found] at isFile
    rw [endsInDirectory_of_nameless (by simpa using found)] at isFile
    cases isFile
  | some parts =>
    obtain ⟨name, before⟩ := parts
    obtain ⟨proper, rfl, rfl⟩ := nameBackwards?_eq_some_iff.mp found
    refine ⟨stemBackwards ((dropTail kept).takeWhile (· != '/')),
      (dropTail kept).dropWhile (· != '/'), ?_, fun c member => ?_, ?_, ?_⟩
    · exact stemBackwards_ne_nil fun empty => proper (by simp [empty])
    · exact List.mem_takeWhile_imp (p := (· != '/')) (mem_of_mem_stemBackwards member)
    · exact Text.endsRun_dropWhile _
    · simp

section EndsWith

variable {path : Path} {extension : String}

theorem takeWhile_name {stem before : List Char} (whole : ∀ c ∈ stem, (c != '/') = true)
    (apart : Text.EndsRun (· != '/') before) (proper : IsExtension extension) :
    (extension.toList.reverse ++ '.' :: stem ++ before).takeWhile (· != '/') =
        extension.toList.reverse ++ '.' :: stem ∧
      (extension.toList.reverse ++ '.' :: stem ++ before).dropWhile (· != '/') = before := by
  have name : ∀ c ∈ extension.toList.reverse ++ '.' :: stem, (c != '/') = true := by
    intro c member
    simp only [List.mem_append, List.mem_reverse, List.mem_cons] at member
    rcases member with inside | rfl | inside
    · have plain := List.all_eq_true.mp proper.2 c inside
      simp only [Bool.and_eq_true] at plain
      exact plain.2
    · rfl
    · exact whole c inside
  exact ⟨Text.takeWhile_append name apart, Text.dropWhile_append name apart⟩

/-- The last step ends with the extension. -/
theorem EndsWith.lastPiece_eq (ends : path.EndsWith extension) (proper : IsExtension extension) :
    ∃ stem, path.lastPiece = stem ++ '.' :: extension.toList := by
  obtain ⟨stem, before, -, whole, apart, text⟩ := ends
  refine ⟨stem.reverse, ?_⟩
  rw [lastPiece, text, (takeWhile_name whole apart proper).1]
  simp

/-- The extension with which the name ends is the extension of the path. -/
theorem EndsWith.extension?_eq (ends : path.EndsWith extension)
    (proper : IsExtension extension) : path.extension? = some extension := by
  obtain ⟨stem, before, kept, whole, apart, text⟩ := ends
  obtain ⟨taken, dropped⟩ := takeWhile_name whole apart proper
  have plain : ∀ c ∈ extension.toList.reverse, (c != '.') = true ∧ (c != '/') = true := by
    intro c member
    have both := List.all_eq_true.mp proper.2 c (List.mem_reverse.mp member)
    simpa only [Bool.and_eq_true] using both
  obtain ⟨c, rest, reversed⟩ : ∃ c rest, extension.toList.reverse = c :: rest :=
    List.exists_cons_of_ne_nil (by simpa using proper.1)
  -- The last character is neither a slash nor a dot, so the name begins with it.
  obtain ⟨undotted, inside⟩ : c ≠ '.' ∧ c ≠ '/' := by simpa using plain c (by simp [reversed])
  have whole : dropTail path.text.toList.reverse = path.text.toList.reverse := by
    rw [text, reversed]
    exact dropTail_cons inside undotted
  have named : nameBackwards? path.text.toList.reverse =
      some (extension.toList.reverse ++ '.' :: stem, before) := by
    rw [nameBackwards?_eq_some_iff, whole, text, taken, dropped]
    exact ⟨by simp [reversed, undotted], rfl, rfl⟩
  have run : (extension.toList.reverse ++ '.' :: stem).span (· != '.') =
      (extension.toList.reverse, '.' :: stem) :=
    Text.span_append (fun c member => (plain c member).1) (Text.endsRun_cons.mpr rfl)
  have parts : extensionBackwards? (extension.toList.reverse ++ '.' :: stem) =
      some (extension.toList.reverse, stem) := by
    rw [extensionBackwards?, run]
    simp [kept]
  simp [extension?, named, parts]

end EndsWith

/-! ### Paths below other paths -/

/-- What stands before a path that is not absolute when it is put below another one. -/
def front (base : Path) : String :=
  if base.text.isEmpty then ""
  else if base.text.toList.getLast? == some '/' then base.text
  else base.text ++ "/"

theorem div_eq (base : Path) {path : Path} (relative : path.isAbsolute = false) :
    base / path = ⟨base.front ++ path.text⟩ := by
  change base.join path = _
  rw [join, front]
  by_cases empty : base.text.isEmpty
  · simp [relative, empty]
  · by_cases slash : base.text.toList.getLast? == some '/' <;> simp [relative, empty, slash]

theorem steps_div (base : Path) {path : Path} (relative : path.isAbsolute = false) :
    (base / path).steps = base.steps ++ path.steps := by
  rw [div_eq base relative, front]
  by_cases empty : base.text = ""
  · simp [steps, empty, Text.splitAt]
  · by_cases slash : base.text.toList.getLast? = some '/'
    · obtain ⟨start, text⟩ := List.getLast?_eq_some_iff.mp slash
      simp [steps, empty, text, Text.splitAt_append, Text.splitAt]
    · have text : (base.text ++ "/" ++ path.text).toList =
          base.text.toList ++ '/' :: path.text.toList := by simp
      simp [steps, empty, slash, Text.splitAt_append]

theorem front_of_name {path : Path} (named : path.lastPiece ≠ []) :
    path.front = path.text ++ "/" := by
  cases text : path.text.toList.reverse with
  | nil => simp [lastPiece, text] at named
  | cons c rest =>
    have name : c ≠ '/' := by
      rintro rfl
      simp [lastPiece, text] at named
    have whole : path.text.toList = rest.reverse ++ [c] := by
      rw [← List.reverse_reverse path.text.toList, text, List.reverse_cons]
    have nonempty : path.text.isEmpty = false := by
      rw [Bool.eq_false_iff, ne_eq, String.isEmpty_iff]
      intro empty
      simp [empty] at whole
    simp [front, nonempty, whole, name]

theorem endsRun_front (base : Path) :
    Text.EndsRun (· != '/') base.front.toList.reverse := by
  intro c first
  rw [List.head?_reverse, front, Option.mem_def] at first
  split at first
  · simp at first
  · split at first
    · rename_i ends
      rw [first, beq_iff_eq, Option.some_inj] at ends
      simp [ends]
    · obtain rfl : '/' = c := by simpa using first
      rfl

theorem lastPiece_div (base : Path) {path : Path} (relative : path.isAbsolute = false) :
    (base / path).lastPiece = path.lastPiece := by
  have nothing := Text.takeWhile_of_endsRun (endsRun_front base)
  rw [div_eq base relative, lastPiece, lastPiece]
  simp only [String.toList_append, List.reverse_append, List.takeWhile_append, nothing,
    List.append_nil]
  split
  · rename_i whole
    rw [(List.takeWhile_prefix _).eq_of_length whole]
  · rfl

/-- Two steps down are one, where the first has a name. -/
theorem div_div (base : Path) {middle path : Path} (relative : middle.isAbsolute = false)
    (alsoRelative : path.isAbsolute = false) (named : middle.lastPiece ≠ []) :
    base / middle / path = base / ⟨middle.text ++ "/" ++ path.text⟩ := by
  have still : Path.isAbsolute ⟨middle.text ++ "/" ++ path.text⟩ = false := by
    cases text : middle.text.toList with
    | nil => simp [lastPiece, text] at named
    | cons c rest => simpa [isAbsolute, text] using relative
  have above : (base / middle).front = (base / middle).text ++ "/" :=
    front_of_name (by rwa [lastPiece_div base relative])
  rw [div_eq _ alsoRelative, above, div_eq base relative, div_eq base still]
  simp [String.append_assoc]

/-- An extension is put behind a name that has none. -/
theorem withExtension_of_undotted {path : Path} (named : path.lastPiece ≠ [])
    (undotted : '.' ∉ path.lastPiece) (extension : String) :
    path.withExtension extension = ⟨path.text ++ "." ++ extension⟩ := by
  rw [lastPiece] at named undotted
  simp only [ne_eq, List.reverse_eq_nil_iff, List.mem_reverse] at named undotted
  have plain : ∀ c ∈ path.text.toList.reverse.takeWhile (· != '/'), (c != '.') = true := by
    intro c member
    simpa using ne_of_mem_of_not_mem member undotted
  have whole : dropTail path.text.toList.reverse = path.text.toList.reverse := by
    cases text : path.text.toList.reverse with
    | nil => rfl
    | cons c rest =>
      rw [text] at named undotted
      by_cases slash : c = '/'
      · simp [slash] at named
      · by_cases dot : c = '.'
        · simp [dot] at undotted
        · exact dropTail_cons slash dot
  have name : nameBackwards? path.text.toList.reverse =
      some (path.text.toList.reverse.takeWhile (· != '/'),
        path.text.toList.reverse.dropWhile (· != '/')) := by
    rw [nameBackwards?_eq_some_iff, whole]
    refine ⟨fun improper => ?_, rfl, rfl⟩
    simp only [List.mem_cons, List.not_mem_nil, or_false] at improper
    rcases improper with piece | piece | piece
    · exact named piece
    · simp [piece] at undotted
    · simp [piece] at undotted
  have none : extensionBackwards? (path.text.toList.reverse.takeWhile (· != '/')) = none := by
    have run := Text.span_append plain Text.endsRun_nil
    rw [List.append_nil] at run
    rw [extensionBackwards?, run]
  have extensionless : path.extension? = Option.none := by
    rw [extension?, name]
    simp [none]
  have kept : path.keptBackwards = path.text.toList.reverse := by
    rw [keptBackwards, extensionless]
    rfl
  simp only [withExtension_eq, kept, name, stemBackwards, none, Option.map_none, Option.getD_none,
    List.takeWhile_append_dropWhile, List.reverse_reverse, String.ofList_toList]

/-- The extension goes to the name at the end. -/
theorem withExtension_div (base : Path) {path : Path} (relative : path.isAbsolute = false)
    (named : path.lastPiece ≠ []) (undotted : '.' ∉ path.lastPiece) (extension : String) :
    (base / path).withExtension extension = base / ⟨path.text ++ "." ++ extension⟩ := by
  have still : Path.isAbsolute ⟨path.text ++ "." ++ extension⟩ = false := by
    cases text : path.text.toList with
    | nil => simp [lastPiece, text] at named
    | cons c rest => simpa [isAbsolute, text] using relative
  rw [withExtension_of_undotted (by rwa [lastPiece_div base relative])
    (by rwa [lastPiece_div base relative]), div_eq base relative, div_eq base still]
  simp [String.append_assoc]

end ShellPractice.Path
