/-
# Maps from texts

A map from texts to values whose entries are kept in the order of their keys.  Message properties
and the members of JSON objects are such maps: each key occurs once, a later value for a key takes
the place of the earlier one, and listing the entries is deterministic.  The order is part of the
type, so that two maps with the same entries are equal.

Inserting and looking up are defined on plain lists of entries first, because the members of a JSON
object are stored as a list inside the type of JSON values.
-/

namespace DeviceGateway

namespace Entries

variable {α : Type}

/-- Put a value under a key into a list of entries in the order of their keys. -/
def insert (key : String) (value : α) : List (String × α) → List (String × α)
  | [] => [(key, value)]
  | (k, v) :: rest =>
    if key < k then (key, value) :: (k, v) :: rest
    else if key = k then (key, value) :: rest
    else (k, v) :: insert key value rest

/-- The value under a key. -/
def get? (key : String) : List (String × α) → Option α
  | [] => none
  | (k, v) :: rest => if key = k then some v else get? key rest

/-- Entries stand in the strict order of their keys. -/
abbrev Ordered (entries : List (String × α)) : Prop :=
  entries.Pairwise fun first second => first.1 < second.1

theorem mem_keys_insert {key k : String} {value : α} {entries : List (String × α)}
    (present : k ∈ (insert key value entries).map Prod.fst) :
    k = key ∨ k ∈ entries.map Prod.fst := by
  induction entries with
  | nil => simpa [insert] using present
  | cons entry rest ih =>
    obtain ⟨first, v⟩ := entry
    unfold insert at present
    split at present
    · simpa using present
    · split at present
      · simp at present
        rcases present with h | h
        · exact Or.inl h
        · exact Or.inr (by simp [h])
      · simp only [List.map_cons, List.mem_cons] at present ⊢
        rcases present with h | h
        · exact Or.inr (Or.inl h)
        · rcases ih h with h | h
          · exact Or.inl h
          · exact Or.inr (Or.inr h)

/-- Inserting keeps the order of the keys. -/
theorem ordered_insert (key : String) (value : α) {entries : List (String × α)}
    (ordered : Ordered entries) : Ordered (insert key value entries) := by
  induction entries with
  | nil => simp [Ordered, insert]
  | cons entry rest ih =>
    obtain ⟨k, v⟩ := entry
    obtain ⟨above, tail⟩ := List.pairwise_cons.1 ordered
    unfold insert
    split
    case isTrue less =>
      refine List.pairwise_cons.2 ⟨?_, ordered⟩
      intro other member
      rcases List.mem_cons.1 member with rfl | member
      · exact less
      · exact String.lt_trans less (above other member)
    case isFalse notLess =>
      split
      case isTrue same =>
        subst same
        exact List.pairwise_cons.2 ⟨above, tail⟩
      case isFalse different =>
        refine List.pairwise_cons.2 ⟨?_, ih tail⟩
        intro other member
        have greater : k < key := Std.lt_of_le_of_ne notLess (fun h => different h.symm)
        rcases mem_keys_insert (List.mem_map_of_mem member) with h | h
        · simpa [h] using greater
        · obtain ⟨entry, inRest, h⟩ := List.mem_map.1 h
          have := above entry inRest
          rw [h] at this
          exact this

@[simp]
theorem get?_nil (key : String) : get? key ([] : List (String × α)) = none := rfl

/-- After inserting, the key has the new value and every other key the value it had. -/
theorem get?_insert (key other : String) (value : α) (entries : List (String × α)) :
    get? other (insert key value entries) =
      if other = key then some value else get? other entries := by
  induction entries with
  | nil => by_cases h : other = key <;> simp [insert, get?, h]
  | cons entry rest ih =>
    obtain ⟨k, v⟩ := entry
    unfold insert
    split
    · simp [get?]
    · split
      case isTrue same =>
        subst same
        by_cases h : other = key <;> simp [get?, h]
      case isFalse different =>
        by_cases h : other = k
        · have apart : ¬ other = key := fun same => different (same.symm.trans h)
          subst h
          simp [get?, apart]
        · simp [get?, h, ih]

end Entries

/-- A map from texts whose entries stand in the order of their keys. -/
structure TextMap (α : Type) where
  /-- The entries. -/
  entries : List (String × α)
  /-- Each key occurs once, and the keys ascend. -/
  ordered : Entries.Ordered entries := by exact List.Pairwise.nil
deriving DecidableEq, Repr

namespace TextMap

variable {α : Type}

/-- The map without entries. -/
def empty : TextMap α where
  entries := []

instance : Inhabited (TextMap α) := ⟨empty⟩

instance : EmptyCollection (TextMap α) := ⟨empty⟩

/-- Put a value under a key, in the place of an earlier one. -/
def insert (map : TextMap α) (key : String) (value : α) : TextMap α where
  entries := Entries.insert key value map.entries
  ordered := Entries.ordered_insert key value map.ordered

/-- Put a value under a key if there is one to put. -/
def insert? (map : TextMap α) (key : String) : Option α → TextMap α
  | some value => map.insert key value
  | none => map

/-- The value under a key. -/
def get? (map : TextMap α) (key : String) : Option α :=
  Entries.get? key map.entries

/-- The map of a list of entries, where a later entry takes the place of an earlier one. -/
def ofList (entries : List (String × α)) : TextMap α :=
  entries.foldl (fun map entry => map.insert entry.1 entry.2) empty

/-- The entries in the order of their keys. -/
def toList (map : TextMap α) : List (String × α) := map.entries

/-- Whether a map has no entries. -/
def isEmpty (map : TextMap α) : Bool := map.entries.isEmpty

@[ext]
theorem ext {first second : TextMap α} (same : first.entries = second.entries) : first = second := by
  cases first
  cases second
  simp only at same
  subst same
  rfl

@[simp]
theorem get?_empty (key : String) : (empty : TextMap α).get? key = none := rfl

theorem get?_insert (map : TextMap α) (key other : String) (value : α) :
    (map.insert key value).get? other = if other = key then some value else map.get? other :=
  Entries.get?_insert key other value map.entries

@[simp]
theorem get?_insert_self (map : TextMap α) (key : String) (value : α) :
    (map.insert key value).get? key = some value := by
  simp [get?_insert]

theorem get?_insert_of_ne (map : TextMap α) {key other : String} (value : α) (apart : other ≠ key) :
    (map.insert key value).get? other = map.get? other := by
  simp [get?_insert, apart]

end TextMap

end DeviceGateway
