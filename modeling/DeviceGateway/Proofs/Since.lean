/-
# The time since something happened

Whether something happened and has not been undone since.  A history grows at its end, so that what comes
next either happens anew, or leaves things as they are, or undoes them.
-/

import Mathlib.Data.List.Basic

namespace DeviceGateway

variable {α : Type} {mark entry : α} {quiet : α → Prop} {history more : List α}

/-- An entry of a history is followed by quiet entries only. -/
def Since (mark : α) (quiet : α → Prop) (history : List α) : Prop :=
  ∃ before after, history = before ++ mark :: after ∧ ∀ entry ∈ after, quiet entry

theorem not_since_nil : ¬ Since mark quiet [] := by
  rintro ⟨before, after, whole, _⟩
  simp at whole

/-- What comes later does not have the mark and is quiet, or there is nothing of the kind. -/
theorem since_append_iff (unmarked : mark ∉ more) :
    Since mark quiet (history ++ more) ↔ Since mark quiet history ∧ ∀ entry ∈ more, quiet entry := by
  constructor
  · rintro ⟨before, after, whole, silent⟩
    rcases List.append_eq_append_iff.1 whole with ⟨missing, rfl, rest⟩ | ⟨early, rfl, rest⟩
    · exact absurd (rest ▸ List.mem_append_right missing List.mem_cons_self) unmarked
    · cases early with
      | nil => exact absurd (List.nil_append more ▸ rest ▸ List.mem_cons_self) unmarked
      | cons first early =>
        obtain ⟨rfl, rfl⟩ := List.cons.inj rest
        exact ⟨⟨before, early, rfl, fun entry member => silent entry (List.mem_append_left _ member)⟩,
          fun entry member => silent entry (List.mem_append_right _ member)⟩
  · rintro ⟨⟨before, after, rfl, silent⟩, silent'⟩
    refine ⟨before, after ++ more, by simp, ?_⟩
    intro entry member
    rcases List.mem_append.1 member with early | late
    · exact silent entry early
    · exact silent' entry late

theorem since_append_mark (history : List α) : Since mark quiet (history ++ [mark]) :=
  ⟨history, [], rfl, nofun⟩

theorem since_append_singleton_iff :
    Since mark quiet (history ++ [entry]) ↔ entry = mark ∨ quiet entry ∧ Since mark quiet history := by
  by_cases same : entry = mark
  · subst same
    exact ⟨fun _ => .inl rfl, fun _ => since_append_mark history⟩
  · rw [since_append_iff (by simpa using Ne.symm same)]
    simp [same, and_comm]

end DeviceGateway
