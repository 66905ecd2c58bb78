/-
# Cutting what was joined

Cutting a text at a separator gives back the pieces that were joined with it, as long as the separator
occurs in none of them.  A known part that begins with a separator is not found before the separator
occurs.
-/

import DeviceGateway.Text.Split
import Mathlib.Data.List.Basic

namespace DeviceGateway.Text

variable {separator : Char}

/-- A text without the separator is one piece. -/
theorem splitAll_of_not_mem {piece : List Char} (absent : separator ∉ piece) :
    splitAll separator piece = [piece] := by
  induction piece with
  | nil => rfl
  | cons c rest ih =>
    rw [List.mem_cons, not_or] at absent
    rw [splitAll, if_neg (Ne.symm absent.1), ih absent.2]

theorem splitAll_append {piece : List Char} (absent : separator ∉ piece) (rest : List Char) :
    splitAll separator (piece ++ separator :: rest) = piece :: splitAll separator rest := by
  induction piece with
  | nil => rw [List.nil_append, splitAll, if_pos rfl]
  | cons c tail ih =>
    rw [List.mem_cons, not_or] at absent
    rw [List.cons_append, splitAll, if_neg (Ne.symm absent.1), ih absent.2]

/-- Cutting a text that was joined gives the pieces back. -/
theorem splitAll_joinWith {pieces : List (List Char)} (nonempty : pieces ≠ [])
    (absent : ∀ piece ∈ pieces, separator ∉ piece) :
    splitAll separator (joinWith separator pieces) = pieces := by
  induction pieces with
  | nil => exact absurd rfl nonempty
  | cons piece more ih =>
    have first := absent piece List.mem_cons_self
    cases more with
    | nil => exact splitAll_of_not_mem first
    | cons next more =>
      have rest := ih (List.cons_ne_nil next more) fun piece member =>
        absent piece (List.mem_cons_of_mem _ member)
      rw [joinWith, splitAll_append first, rest]

/-- No piece holds the separator. -/
theorem not_mem_of_mem_splitAll {text piece : List Char} (member : piece ∈ splitAll separator text) :
    separator ∉ piece := by
  induction text generalizing piece with
  | nil =>
    obtain rfl := List.mem_singleton.1 member
    exact List.not_mem_nil
  | cons c rest ih =>
    unfold splitAll at member
    split at member
    case isTrue =>
      rcases List.mem_cons.1 member with rfl | later
      · exact List.not_mem_nil
      · exact ih later
    case isFalse other =>
      cases pieces : splitAll separator rest with
      | nil => exact absurd pieces (splitAll_ne_nil separator rest)
      | cons first more =>
        rw [pieces] at ih member
        rcases List.mem_cons.1 member with rfl | later
        · rw [List.mem_cons, not_or]
          exact ⟨Ne.symm other, ih List.mem_cons_self⟩
        · exact ih (List.mem_cons_of_mem _ later)

theorem joinWith_append {pieces more : List (List Char)} (nonempty : pieces ≠ [])
    (filled : more ≠ []) : joinWith separator (pieces ++ more) =
      joinWith separator pieces ++ separator :: joinWith separator more := by
  induction pieces with
  | nil => exact absurd rfl nonempty
  | cons piece rest ih =>
    cases rest with
    | nil =>
      obtain ⟨next, tail, rfl⟩ := List.exists_cons_of_ne_nil filled
      rfl
    | cons next rest =>
      have later := ih (List.cons_ne_nil next rest)
      simp only [List.cons_append, joinWith, List.append_assoc] at later ⊢
      rw [later]

theorem splitAll_joinWith_append {pieces : List (List Char)} (nonempty : pieces ≠ [])
    (absent : ∀ piece ∈ pieces, separator ∉ piece) (rest : List Char) :
    splitAll separator (joinWith separator pieces ++ separator :: rest) =
      pieces ++ splitAll separator rest := by
  have whole : joinWith separator (pieces ++ splitAll separator rest) =
      joinWith separator pieces ++ separator :: rest := by
    rw [joinWith_append nonempty (splitAll_ne_nil separator rest), joinWith_splitAll]
  rw [← whole]
  apply splitAll_joinWith
  · simp [nonempty]
  · intro piece member
    rcases List.mem_append.1 member with first | later
    · exact absent piece first
    · exact not_mem_of_mem_splitAll later

/-- A joined text holds nothing but separators and what its pieces hold. -/
theorem mem_joinWith {pieces : List (List Char)} {c : Char}
    (member : c ∈ joinWith separator pieces) :
    c = separator ∨ ∃ piece ∈ pieces, c ∈ piece := by
  induction pieces with
  | nil => cases member
  | cons piece more ih =>
    cases more with
    | nil => exact .inr ⟨piece, List.mem_cons_self, member⟩
    | cons next more =>
      rw [joinWith, List.mem_append, List.mem_cons] at member
      rcases member with first | same | later
      · exact .inr ⟨piece, List.mem_cons_self, first⟩
      · exact .inl same
      · obtain same | ⟨other, listed, inside⟩ := ih later
        · exact .inl same
        · exact .inr ⟨other, List.mem_cons_of_mem _ listed, inside⟩

/-- Changing characters one by one does not change where a text is cut, as long as the separators stay
what they are and nothing else becomes one. -/
theorem splitAll_map {change : Char → Char} (fixed : ∀ c, change c = separator ↔ c = separator)
    (text : List Char) :
    splitAll separator (text.map change) = (splitAll separator text).map (List.map change) := by
  induction text with
  | nil => rfl
  | cons c rest ih =>
    by_cases same : c = separator
    · rw [List.map_cons, splitAll, if_pos ((fixed c).2 same), splitAll, if_pos same, ih]
      rfl
    · rw [List.map_cons, splitAll, if_neg (mt (fixed c).1 same), splitAll, if_neg same, ih]
      cases pieces : splitAll separator rest with
      | nil => exact absurd pieces (splitAll_ne_nil separator rest)
      | cons piece more => rfl

/-- A text begins with some pieces exactly where it is these pieces joined, alone or with something
behind a separator. -/
theorem isPrefix_splitAll_iff {pieces : List (List Char)} (nonempty : pieces ≠ [])
    (absent : ∀ piece ∈ pieces, separator ∉ piece) (text : List Char) :
    pieces <+: splitAll separator text ↔ text = joinWith separator pieces ∨
      ∃ rest, text = joinWith separator pieces ++ separator :: rest := by
  constructor
  · rintro ⟨more, whole⟩
    rw [← joinWith_splitAll separator text, ← whole]
    by_cases alone : more = []
    · rw [alone, List.append_nil]
      exact .inl rfl
    · exact .inr ⟨_, joinWith_append nonempty alone⟩
  · rintro (rfl | ⟨rest, rfl⟩)
    · simp [splitAll_joinWith nonempty absent]
    · rw [splitAll_joinWith_append nonempty absent]
      exact List.prefix_append pieces _

/-- A part that begins with a separator is not found where the separator does not occur. -/
theorem afterPart_append {first : List Char} (absent : separator ∉ first) (part rest : List Char) :
    afterPart (separator :: part) (first ++ rest) = afterPart (separator :: part) rest := by
  induction first with
  | nil => rfl
  | cons c tail ih =>
    rw [List.mem_cons, not_or] at absent
    rw [List.cons_append, afterPart, afterStart, if_neg (Ne.symm absent.1)]
    exact ih absent.2

/-- A known beginning is found at once. -/
theorem afterPart_start (part rest : List Char) : afterPart part (part ++ rest) = some rest := by
  cases part with
  | nil => cases rest <;> rfl
  | cons c part =>
    have found := afterStart_append (c :: part) rest
    rw [List.cons_append] at found ⊢
    rw [afterPart, found]

theorem splitFirst_append {first : List Char} (absent : separator ∉ first) (second : List Char) :
    splitFirst separator (first ++ separator :: second) = some (first, second) :=
  splitFirst_eq_some_iff.2 ⟨rfl, absent⟩

/-- A text is cut at the first separator in one way only. -/
theorem append_separator_inj {first first' second second' : List Char}
    (same : first ++ separator :: second = first' ++ separator :: second')
    (absent : separator ∉ first) (absent' : separator ∉ first') :
    first = first' ∧ second = second' := by
  have cut := splitFirst_append absent second
  rw [same, splitFirst_append absent'] at cut
  obtain ⟨rfl, rfl⟩ := Prod.mk.inj (Option.some.inj cut)
  exact ⟨rfl, rfl⟩

end DeviceGateway.Text
