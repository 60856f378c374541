import ShellPractice.Proofs.Json.Number
import ShellPractice.Proofs.Json.Text

/-!
# JSON read back

Documents without fractions, dates and broken parts are read back from their text, at any depth and
in front of any text that does not continue a number.  Blanks between the parts do not matter, and
the length of the text is fuel enough to read it.
-/

namespace ShellPractice.Json

open Text

/-- Documents that are written as what they are. -/
inductive IsFaithful : Document → Prop where
  | null : IsFaithful .null
  | bool (value : Bool) : IsFaithful (.bool value)
  | integer (value : Int) : IsFaithful (.integer value)
  | text (value : String) : IsFaithful (.text value)
  | array {items : List Document} (each : ∀ item ∈ items, IsFaithful item) :
    IsFaithful (.array items)
  | object {members : List (String × Document)}
    (each : ∀ member ∈ members, IsFaithful member.2) : IsFaithful (.object members)

theorem IsFaithful.sublist {members fewer : List (String × Document)}
    (faithful : IsFaithful (.object members)) (kept : fewer.Sublist members) :
    IsFaithful (.object fewer) := by
  cases faithful with
  | object each => exact .object fun member inside => each member (kept.subset inside)

theorem isFaithful_texts (values : List String) : IsFaithful (.texts values) :=
  .array fun item member => by
    obtain ⟨value, -, rfl⟩ := List.mem_map.mp member
    exact .text value

theorem skipBlanks_newLine (depth : Nat) (text : List Char) :
    skipBlanks (newLine depth ++ text) = skipBlanks text := by
  refine List.dropWhile_append_of_pos fun c member => ?_
  rcases List.mem_cons.mp member with rfl | member
  · rfl
  · rw [List.eq_of_mem_replicate member]
    rfl

theorem skipBlanks_cons {c : Char} (visible : isBlank c = false) (text : List Char) :
    skipBlanks (c :: text) = c :: text :=
  dropWhile_of_endsRun (endsRun_cons.mpr visible)

/-- Reading starts at the first character that is not blank. -/
theorem value?_congr {first second : List Char} (same : skipBlanks first = skipBlanks second)
    (fuel : Nat) : value? fuel first = value? fuel second := by
  cases fuel with
  | zero => rw [value?, value?]
  | succ fuel => rw [value?, value?, same]

theorem value?_space (fuel : Nat) (text : List Char) :
    value? fuel (' ' :: text) = value? fuel text := by
  have same : skipBlanks (' ' :: text) = skipBlanks text := rfl
  exact value?_congr same fuel

theorem items?_newLine (fuel depth : Nat) (text : List Char) :
    items? fuel (newLine depth ++ text) = items? fuel text := by
  cases fuel with
  | zero => rw [items?, items?]
  | succ fuel => rw [items?, items?, value?_congr (skipBlanks_newLine depth text)]

theorem members?_newLine (fuel depth : Nat) (text : List Char) :
    members? fuel (newLine depth ++ text) = members? fuel text := by
  cases fuel with
  | zero => rw [members?, members?]
  | succ fuel => rw [members?, members?, skipBlanks_newLine]

/-- What follows an opening bracket and blanks are items, unless it is the closing bracket. -/
theorem value?_array {text inner : List Char} {c : Char} (start : skipBlanks text = c :: inner)
    (notEnd : c ≠ ']') (fuel : Nat) :
    value? (fuel + 1) ('[' :: text) =
      (items? fuel (c :: inner)).map fun result => (.array result.1, result.2) := by
  rw [value?, skipBlanks_cons (by decide)]
  simp only [start]
  split <;> simp_all

theorem value?_object {text inner : List Char} {c : Char} (start : skipBlanks text = c :: inner)
    (notEnd : c ≠ '\x7d') (fuel : Nat) :
    value? (fuel + 1) ('\x7b' :: text) =
      (members? fuel (c :: inner)).map fun result => (objectOf result.1, result.2) := by
  rw [value?, skipBlanks_cons (by decide)]
  simp only [start]
  split <;> simp_all

theorem objectOf_named (members : List (String × Document)) :
    objectOf (members.map fun member => (some member.1, member.2)) = .object members := by
  have whole : (members.map fun member => (some member.1, member.2)).mapM
      (fun member => member.1.map (·, member.2)) = some members := by
    induction members with
    | nil => rfl
    | cons member members ih => simp_all
  rw [objectOf, whole]

theorem isBlank_of_isDigit {c : Char} (digit : c.isDigit = true) : isBlank c = false := by
  rw [← Bool.not_eq_true]
  intro blank
  simp only [isBlank, Bool.or_eq_true, beq_iff_eq] at blank
  rcases blank with ((rfl | rfl) | rfl) | rfl <;> revert digit <;> decide

theorem value?_of_isDigit {c : Char} (digit : c.isDigit = true) (fuel : Nat) (text : List Char) :
    value? (fuel + 1) (c :: text) = number? false (c :: text) := by
  rw [value?, skipBlanks_cons (isBlank_of_isDigit digit)]
  split <;> simp_all

/-- Nothing is skipped of a written document, and it does not look like the end of an array. -/
theorem exists_head_writtenAt {document : Document} (faithful : IsFaithful document)
    (depth : Nat) :
    ∃ c rest, writtenAt depth document = c :: rest ∧ isBlank c = false ∧ c ≠ ']' := by
  cases faithful with
  | null => exact ⟨'n', _, by rw [writtenAt], by decide⟩
  | bool value => cases value <;> exact ⟨_, _, by rw [writtenAt], by decide⟩
  | integer value =>
    rw [writtenAt]
    cases value with
    | ofNat n =>
      obtain ⟨first, rest, digits, digit⟩ := exists_decimalDigits_eq_cons n
      refine ⟨first, rest, (toList_toString_ofNat n).trans digits, isBlank_of_isDigit digit, ?_⟩
      rintro rfl
      revert digit
      decide
    | negSucc n => exact ⟨'-', _, toList_toString_negSucc n, by decide⟩
  | text value => exact ⟨'"', _, by rw [writtenAt, quotedChars, List.cons_append], by decide⟩
  | @array items each =>
    cases items with
    | nil => exact ⟨'[', _, by rw [writtenAt], by decide⟩
    | cons item items => exact ⟨'[', _, by rw [writtenAt]; rfl, by decide⟩
  | @object members each =>
    cases members with
    | nil => exact ⟨'\x7b', _, by rw [writtenAt], by decide⟩
    | cons member members => exact ⟨'\x7b', _, by rw [writtenAt]; rfl, by decide⟩

/-- A document is read from its text, whatever follows that does not continue a number. -/
def ReadsBack (document : Document) : Prop :=
  ∀ depth fuel rest, (writtenAt depth document).length < fuel → EndsRun continuesNumber rest →
    value? fuel (writtenAt depth document ++ rest) = some (document, rest)

theorem readsBack_integer (value : Int) : ReadsBack (.integer value) := by
  rintro depth (_ | fuel) rest enough ends
  · cases enough
  rw [writtenAt]
  cases value with
  | ofNat n =>
    have read := number?_decimalDigits ends false n (by simp)
    obtain ⟨first, more, digits, digit⟩ := exists_decimalDigits_eq_cons n
    rw [Int.ofNat_eq_natCast, toList_toString_ofNat]
    rw [digits, List.cons_append] at read ⊢
    rw [value?_of_isDigit digit, read]
    rfl
  | negSucc n =>
    have read := number?_decimalDigits ends true (n + 1) (by simp)
    rw [toList_toString_negSucc, List.cons_append, value?, skipBlanks_cons (by decide)]
    exact read

theorem readsBack_text (value : String) : ReadsBack (.text value) := by
  rintro depth (_ | fuel) rest enough ends
  · cases enough
  obtain ⟨inner, quoted, read⟩ := text?_quotedChars value rest
  rw [writtenAt, quoted, value?, skipBlanks_cons (by decide)]
  simp [read]

section Parts

variable {ending rest : List Char}

theorem items?_written {item : Document} {items : List Document}
    (each : ∀ other ∈ item :: items, ReadsBack other)
    (closes : skipBlanks ending = ']' :: rest) (ends : EndsRun continuesNumber ending)
    (depth fuel : Nat)
    (enough : (writtenAt depth item ++ writtenItems depth items).length + 1 < fuel) :
    items? fuel (writtenAt depth item ++ writtenItems depth items ++ ending) =
      some (item :: items, rest) := by
  induction items generalizing item fuel with
  | nil =>
    obtain _ | fuel := fuel
    · cases enough
    have read := each item List.mem_cons_self depth fuel ending
      (by simp [writtenItems] at enough; omega) ends
    simp [writtenItems, items?, read, closes]
  | cons next items ih =>
    obtain _ | fuel := fuel
    · cases enough
    rw [writtenItems] at enough ⊢
    have read := each item List.mem_cons_self depth fuel
      (',' :: newLine depth ++ writtenAt depth next ++ writtenItems depth items ++ ending)
      (by simp at enough; omega) (endsRun_cons.mpr (by decide))
    have more := ih (fun other member => each other (List.mem_cons_of_mem item member)) fuel
      (by simp at enough ⊢; omega)
    simp only [List.append_assoc, List.cons_append] at read more ⊢
    rw [items?, read]
    simp [skipBlanks_cons (by decide : isBlank ',' = false), items?_newLine, more]

/-- A last member is read with what ends the object. -/
theorem members?_last {fuel : Nat} {content : Document} {text after : List Char}
    (read : value? fuel text = some (content, after))
    (closes : skipBlanks after = '\x7d' :: rest) (name : String) :
    members? (fuel + 1) (quotedChars name ++ ':' :: ' ' :: text) =
      some ([(some name, content)], rest) := by
  obtain ⟨inner, quoted, named⟩ := text?_quotedChars name (':' :: ' ' :: text)
  rw [quoted, members?, skipBlanks_cons (by decide)]
  simp [named, skipBlanks_cons (by decide : isBlank ':' = false), value?_space, read, closes]

theorem members?_more {fuel : Nat} {content : Document} {text after next : List Char}
    (read : value? fuel text = some (content, after))
    (goesOn : skipBlanks after = ',' :: next) (name : String) :
    members? (fuel + 1) (quotedChars name ++ ':' :: ' ' :: text) =
      (members? fuel next).map fun result => ((some name, content) :: result.1, result.2) := by
  obtain ⟨inner, quoted, named⟩ := text?_quotedChars name (':' :: ' ' :: text)
  rw [quoted, members?, skipBlanks_cons (by decide)]
  cases more : members? fuel next <;>
    simp [named, skipBlanks_cons (by decide : isBlank ':' = false), value?_space, read, goesOn,
      more]

theorem members?_written {member : String × Document} {members : List (String × Document)}
    (each : ∀ other ∈ member :: members, ReadsBack other.2)
    (closes : skipBlanks ending = '\x7d' :: rest) (ends : EndsRun continuesNumber ending)
    (depth fuel : Nat)
    (enough : (writtenAt depth member.2 ++ writtenMembers depth members).length + 1 < fuel) :
    members? fuel (quotedChars member.1 ++ ':' :: ' ' :: (writtenAt depth member.2 ++
        writtenMembers depth members ++ ending)) =
      some ((member :: members).map fun other => (some other.1, other.2), rest) := by
  induction members generalizing member fuel with
  | nil =>
    obtain _ | fuel := fuel
    · cases enough
    have read := each member List.mem_cons_self depth fuel ending
      (by simp [writtenMembers] at enough; omega) ends
    rw [writtenMembers, List.append_nil, members?_last read closes member.1]
    rfl
  | cons next members ih =>
    obtain _ | fuel := fuel
    · cases enough
    rw [writtenMembers] at enough ⊢
    have read := each member List.mem_cons_self depth fuel
      (',' :: newLine depth ++ quotedChars next.1 ++ [':', ' '] ++ writtenAt depth next.2 ++
        writtenMembers depth members ++ ending)
      (by simp at enough; omega) (endsRun_cons.mpr (by decide))
    have more := ih (fun other inside => each other (List.mem_cons_of_mem member inside)) fuel
      (by simp at enough ⊢; omega)
    simp only [List.append_assoc, List.cons_append, List.nil_append] at read more ⊢
    rw [members?_more read (skipBlanks_cons (by decide) _) member.1, members?_newLine, more]
    rfl

end Parts

theorem IsFaithful.readsBack {document : Document} (faithful : IsFaithful document) :
    ReadsBack document := by
  -- A part has less text than the whole, so the fuel that is left is enough for it.
  induction faithful with
  | null =>
    rintro depth (_ | fuel) rest enough -
    · cases enough
    · rw [writtenAt, value?]; rfl
  | bool value =>
    rintro depth (_ | fuel) rest enough -
    · cases enough
    · cases value <;> rw [writtenAt, value?] <;> rfl
  | integer value => exact readsBack_integer value
  | text value => exact readsBack_text value
  | @array items faithful each =>
    rintro depth (_ | fuel) rest enough -
    · cases enough
    cases items with
    | nil => rw [writtenAt, value?]; rfl
    | cons item items =>
      obtain ⟨c, more, start, visible, notEnd⟩ :=
        exists_head_writtenAt (faithful item List.mem_cons_self) (depth + 1)
      rw [writtenAt] at enough ⊢
      have read := items?_written each (skipBlanks_newLine depth (']' :: rest))
        (endsRun_cons.mpr (by decide)) (depth + 1) fuel (by simp at enough ⊢; omega)
      rw [start] at read ⊢
      simp only [List.append_assoc, List.cons_append, List.nil_append] at read ⊢
      rw [value?_array ((skipBlanks_newLine _ _).trans (skipBlanks_cons visible _)) notEnd, read]
      rfl
  | @object members faithful each =>
    rintro depth (_ | fuel) rest enough -
    · cases enough
    cases members with
    | nil => rw [writtenAt, value?]; rfl
    | cons member members =>
      obtain ⟨name, value⟩ := member
      rw [writtenAt] at enough ⊢
      have read := members?_written each (skipBlanks_newLine depth ('\x7d' :: rest))
        (endsRun_cons.mpr (by decide)) (depth + 1) fuel (by simp at enough ⊢; omega)
      simp only [quotedChars, List.append_assoc, List.cons_append, List.nil_append] at read ⊢
      rw [value?_object ((skipBlanks_newLine _ _).trans (skipBlanks_cons (by decide) _))
        (by decide), read]
      simp only [Option.map_some, objectOf_named]

/-- A faithful document is read back from its text. -/
theorem read?_write {document : Document} (faithful : IsFaithful document) :
    read? (write document) = some document := by
  have read := faithful.readsBack 0 ((writtenAt 0 document).length + 1) [] (by omega) endsRun_nil
  rw [List.append_nil] at read
  simp [read?, write, read, skipBlanks]

/-- An array may also stand on one line. -/
theorem value?_array_of_one {item : Document} (faithful : IsFaithful item) {fuel : Nat}
    (enough : (writtenAt 0 item).length + 2 < fuel) (rest : List Char) :
    value? fuel ('[' :: (writtenAt 0 item ++ ']' :: rest)) = some (.array [item], rest) := by
  obtain _ | fuel := fuel
  · cases enough
  obtain ⟨c, more, start, visible, notEnd⟩ := exists_head_writtenAt faithful 0
  have read : items? fuel (writtenAt 0 item ++ writtenItems 0 [] ++ ']' :: rest) = _ :=
    items?_written (by simpa using faithful.readsBack) (skipBlanks_cons (by decide) rest)
      (endsRun_cons.mpr (by decide)) 0 fuel (by simp [writtenItems]; omega)
  rw [writtenItems, List.append_nil, start, List.cons_append] at read
  rw [start, List.cons_append, value?_array (skipBlanks_cons visible _) notEnd, read]
  rfl

theorem value?_object_of_one {fuel : Nat} {content : Document} {text rest : List Char}
    (read : value? fuel text = some (content, '\x7d' :: rest)) (name : String) :
    value? (fuel + 2) ('\x7b' :: (quotedChars name ++ ':' :: ' ' :: text)) =
      some (.object [(name, content)], rest) := by
  have member := members?_last read (skipBlanks_cons (by decide) rest) name
  simp only [quotedChars, List.cons_append] at member ⊢
  rw [value?_object (skipBlanks_cons (by decide) _) (by decide), member]
  rfl

end ShellPractice.Json
