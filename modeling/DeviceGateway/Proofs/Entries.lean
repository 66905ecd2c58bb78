/-
# Looking up and inserting entries

Entries in the order of their keys are inserted one after the other at the end.  Where every key occurs
once, in whatever order, looking up a key finds its value exactly if the two are an entry.
-/

import DeviceGateway.Data.TextMap

namespace DeviceGateway

namespace Entries

variable {α : Type} {key : String} {value : α} {entries : List (String × α)}

/-! ## Inserting -/

theorem mem_insert {entry : String × α} (member : entry ∈ insert key value entries) :
    entry = (key, value) ∨ entry ∈ entries := by
  induction entries with
  | nil => exact .inl (List.mem_singleton.1 member)
  | cons first rest ih =>
    obtain ⟨k, v⟩ := first
    unfold insert at member
    split at member
    case isTrue => exact List.mem_cons.1 member
    case isFalse =>
      split at member
      case isTrue =>
        rcases List.mem_cons.1 member with new | old
        · exact .inl new
        · exact .inr (List.mem_cons_of_mem _ old)
      case isFalse =>
        rcases List.mem_cons.1 member with first | later
        · exact .inr (List.mem_cons.2 (.inl first))
        · rcases ih later with new | old
          · exact .inl new
          · exact .inr (List.mem_cons_of_mem _ old)

/-- A key after all others goes to the end. -/
theorem insert_of_after (after : ∀ entry ∈ entries, entry.1 < key) :
    insert key value entries = entries ++ [(key, value)] := by
  induction entries with
  | nil => rfl
  | cons first rest ih =>
    obtain ⟨k, v⟩ := first
    have less : k < key := after _ List.mem_cons_self
    have apart : key ≠ k := by
      rintro rfl
      exact String.lt_irrefl _ less
    rw [insert, if_neg (String.lt_asymm less), if_neg apart,
      ih fun entry member => after entry (List.mem_cons_of_mem _ member)]
    rfl

/-- Entries in order are inserted to themselves. -/
theorem foldl_insert {before : List (String × α)} (ordered : Ordered (before ++ entries)) :
    entries.foldl (fun found entry => insert entry.1 entry.2 found) before = before ++ entries := by
  induction entries generalizing before with
  | nil => simp
  | cons first rest ih =>
    have after : ∀ entry ∈ before, entry.1 < first.1 := fun entry member =>
      (List.pairwise_append.1 ordered).2.2 entry member first List.mem_cons_self
    rw [List.foldl_cons, insert_of_after after, ih (by simpa using ordered)]
    simp

/-! ## Looking up -/

theorem mem_of_get? (found : get? key entries = some value) : (key, value) ∈ entries := by
  induction entries with
  | nil => cases found
  | cons first rest ih =>
    obtain ⟨k, v⟩ := first
    unfold get? at found
    split at found
    case isTrue same =>
      cases found
      rw [same]
      exact List.mem_cons_self
    case isFalse => exact List.mem_cons_of_mem _ (ih found)

theorem get?_eq_none_iff : get? key entries = none ↔ key ∉ entries.map Prod.fst := by
  induction entries with
  | nil => simp
  | cons first rest ih =>
    obtain ⟨k, v⟩ := first
    rw [get?, List.map_cons, List.mem_cons, not_or, ← ih]
    split
    case isTrue same => simp [same]
    case isFalse apart => simp [apart]

/-- Where every key occurs once, looking one up finds the value that it stands with. -/
theorem get?_eq_some_iff (distinct : (entries.map Prod.fst).Nodup) :
    get? key entries = some value ↔ (key, value) ∈ entries := by
  constructor
  · exact mem_of_get?
  · intro member
    induction entries with
    | nil => cases member
    | cons first rest ih =>
      obtain ⟨k, v⟩ := first
      rw [List.map_cons, List.nodup_cons] at distinct
      rcases List.mem_cons.1 member with same | later
      · cases same
        rw [get?, if_pos rfl]
      · have apart : key ≠ k := by
          rintro rfl
          exact distinct.1 (List.mem_map.2 ⟨_, later, rfl⟩)
        rw [get?, if_neg apart, ih distinct.2 later]

end Entries

namespace TextMap

variable {α : Type} {map : TextMap α} {key other : String}

theorem entries_ofList {entries : List (String × α)} (ordered : Entries.Ordered entries) :
    (ofList entries).entries = entries := by
  have folded : ∀ (entries : List (String × α)) (map : TextMap α),
      (entries.foldl (fun map entry => map.insert entry.1 entry.2) map).entries =
        entries.foldl (fun found entry => Entries.insert entry.1 entry.2 found) map.entries := by
    intro entries
    induction entries with
    | nil => exact fun _ => rfl
    | cons first rest ih => exact fun map => ih (map.insert first.1 first.2)
  rw [ofList, folded]
  exact Entries.foldl_insert ordered

theorem get?_insert?_of_ne (value : Option α) (apart : other ≠ key) :
    (map.insert? key value).get? other = map.get? other := by
  cases value with
  | none => rfl
  | some value => exact get?_insert_of_ne map value apart

/-- A name that was free has just what is put under it. -/
theorem get?_insert? (value : Option α) (free : map.get? key = none) :
    (map.insert? key value).get? other = if other = key then value else map.get? other := by
  cases value with
  | none =>
    split
    case isTrue same => rw [same]; exact free
    case isFalse => rfl
  | some value => exact get?_insert map key other value

end TextMap

end DeviceGateway
