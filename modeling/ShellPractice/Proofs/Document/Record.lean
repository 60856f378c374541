import Mathlib.Data.List.Nodup
import ShellPractice.Document.Record

/-!
# Records that were written as objects

An object that gives some fields of a record, each once, is read field by field, in whatever order
they stand and whatever stands among them under other names.  A field that is left out counts as not
given.
-/

namespace ShellPractice.Document

-- Not by `rfl`: `simp` would leave it to the kernel to compare the defaults, numbers among them.
theorem withDefault_some {α : Type} (default : α) (read : Document → Option α)
    (document : Document) : withDefault default read (some document) = read document := by
  rw [withDefault]

theorem mapM_eq_some_map {α β : Type} {read : α → Option β} {value : α → β} {items : List α}
    (each : ∀ item ∈ items, read item = some (value item)) :
    items.mapM read = some (items.map value) := by
  induction items with
  | nil => rfl
  | cons item items ih =>
    have rest := ih fun other member => each other (List.mem_cons_of_mem _ member)
    simp [each item List.mem_cons_self, rest]

/-- A list is read item by item. -/
theorem list?_array_map {α : Type} {read : Document → Option α} {write : α → Document}
    (values : List α) (inverse : ∀ value ∈ values, read (write value) = some value) :
    list? read (.array (values.map write)) = some values := by
  have each : values.mapM (read ∘ write) = some (values.map id) := mapM_eq_some_map inverse
  rw [list?, List.mapM_map, each, List.map_id]

theorem list?_texts (values : List String) : list? text? (.texts values) = some values :=
  list?_array_map values fun _ _ => rfl

theorem present_cons (name : String) (value : Option Document)
    (given : List (String × Option Document)) :
    present ((name, value) :: given) = (value.map (name, ·)).toList ++ present given := by
  cases value <;> rfl

theorem mem_names_of_mem_present {given : List (String × Option Document)}
    {member : String × Document} (present : member ∈ present given) :
    member.1 ∈ given.map Prod.fst := by
  obtain ⟨field, inside, found⟩ := List.mem_filterMap.mp present
  obtain ⟨document, -, rfl⟩ := Option.map_eq_some_iff.mp found
  exact List.mem_map_of_mem inside

theorem filter_present_eq_nil {given : List (String × Option Document)} {name : String}
    (absent : name ∉ given.map Prod.fst) :
    (present given).filter (fun member => member.1 == name) = [] := by
  rw [List.filter_eq_nil_iff]
  intro member inside same
  exact absent (beq_iff_eq.mp same ▸ mem_names_of_mem_present inside)

/-- Of fields with different names each is the only one of its name. -/
theorem filter_present {given : List (String × Option Document)} {name : String}
    {value : Option Document} (distinct : (given.map Prod.fst).Nodup)
    (member : (name, value) ∈ given) :
    (present given).filter (fun member => member.1 == name) =
      (value.map (name, ·)).toList := by
  induction given with
  | nil => cases member
  | cons first given ih =>
    obtain ⟨other, document⟩ := first
    obtain ⟨fresh, distinct⟩ := List.nodup_cons.mp distinct
    rw [present_cons, List.filter_append]
    rcases List.mem_cons.mp member with same | later
    · obtain ⟨rfl, rfl⟩ := Prod.mk.inj same
      rw [filter_present_eq_nil fresh, List.append_nil]
      cases value <;> simp
    · have different : other ≠ name :=
        fun same => fresh (List.mem_map.mpr ⟨(name, value), later, same.symm⟩)
      rw [ih distinct later]
      cases document <;> simp [different]

/-- Members that give some fields of a record, each once and in any order, among members of other
names that the notation lets pass. -/
structure Gives (conventions : Conventions) (fields : List (String × Option Document))
    (members : List (String × Document)) : Prop where
  known : (members.filter fun member => (fields.map Prod.fst).contains member.1).Perm
    (present fields)
  others : ∀ member ∈ members, member.1 ∉ fields.map Prod.fst →
    conventions.isIgnored member.2 = true

theorem gives_present (conventions : Conventions) (fields : List (String × Option Document)) :
    Gives conventions fields (present fields) := by
  have named (member : String × Document) (inside : member ∈ present fields) :
      (fields.map Prod.fst).contains member.1 = true :=
    List.contains_iff_mem.mpr (mem_names_of_mem_present inside)
  constructor
  · rw [List.filter_eq_self.mpr named]
  · intro member inside unknown
    exact absurd (mem_names_of_mem_present inside) unknown

section Fields

variable {conventions : Conventions} {fields : List (String × Option Document)}
  {members : List (String × Document)}

/-- The order of the members does not matter where each name is given at most once. -/
theorem Gives.filter_eq (gives : Gives conventions fields members)
    (distinct : (fields.map Prod.fst).Nodup) {name : String} {value : Option Document}
    (field : (name, value) ∈ fields) :
    members.filter (fun member => member.1 == name) = (value.map (name, ·)).toList := by
  have narrowed : members.filter (fun member => member.1 == name) =
      (members.filter fun member => (fields.map Prod.fst).contains member.1).filter
        fun member => member.1 == name := by
    rw [List.filter_filter]
    apply List.filter_congr
    intro member inside
    by_cases same : member.1 = name
    · have known : name ∈ fields.map Prod.fst := List.mem_map_of_mem field
      simp [same, known]
    · simp [same]
  have permuted := gives.known.filter fun member => member.1 == name
  rw [← narrowed, filter_present distinct field] at permuted
  cases value with
  | none => exact List.perm_nil.mp permuted
  | some document => exact List.perm_singleton.mp permuted

theorem Gives.member?_eq (gives : Gives conventions fields members)
    (distinct : (fields.map Prod.fst).Nodup) {name : String} {value : Option Document}
    (field : (name, value) ∈ fields) : member? members name = some value := by
  rw [member?, gives.filter_eq distinct field]
  cases value <;> rfl

/-- An object that gives fields of a record is read field by field. -/
theorem Gives.fields?_eq (gives : Gives conventions fields members)
    (distinct : (fields.map Prod.fst).Nodup) :
    fields? conventions (fields.map Prod.fst) (.object members) =
      some (fields.map Prod.snd) := by
  have passed : members.all (fun member =>
      (fields.map Prod.fst).contains member.1 || conventions.isIgnored member.2) = true := by
    rw [List.all_eq_true]
    intro member inside
    by_cases known : member.1 ∈ fields.map Prod.fst
    · rw [List.contains_iff_mem.mpr known, Bool.true_or]
    · rw [gives.others member inside known, Bool.or_true]
  rw [fields?, if_pos passed, List.mapM_map]
  apply mapM_eq_some_map
  intro field inside
  exact gives.member?_eq distinct inside

end Fields

theorem fields?_present (conventions : Conventions) (given : List (String × Option Document))
    (distinct : (given.map Prod.fst).Nodup) :
    fields? conventions (given.map Prod.fst) (.object (present given)) =
      some (given.map Prod.snd) :=
  (gives_present conventions given).fields?_eq distinct

theorem present_map_some (members : List (String × Document)) :
    present (members.map fun member => (member.1, some member.2)) = members := by
  rw [present, List.filterMap_map]
  exact List.filterMap_some

/-- An object with all fields of a record is read field by field. -/
theorem fields?_object (conventions : Conventions) (members : List (String × Document))
    (distinct : (members.map Prod.fst).Nodup) :
    fields? conventions (members.map Prod.fst) (.object members) =
      some (members.map fun member => some member.2) := by
  have read := fields?_present conventions (members.map fun member => (member.1, some member.2))
    (by simpa only [List.map_map, Function.comp_def] using distinct)
  simpa only [present_map_some, List.map_map, Function.comp_def] using read

end ShellPractice.Document
