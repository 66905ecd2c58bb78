/-
# Cutting texts

Texts are cut as lists of characters: at every separator, at the first separator, after a known
beginning and after the first occurrence of a known part.  Topics, property bags, identities and
time stamps are all read with these four cuts, so that each reader is a short composition of them.
-/

namespace DeviceGateway.Text

/-- Cut at every occurrence of a separator.  There is always one piece more than there are
separators, so the empty text has one empty piece. -/
def splitAll (separator : Char) : List Char → List (List Char)
  | [] => [[]]
  | c :: rest =>
    if c = separator then
      [] :: splitAll separator rest
    else
      match splitAll separator rest with
      | [] => [[c]]
      | piece :: more => (c :: piece) :: more

/-- Cut at the first occurrence of a separator, which belongs to neither part. -/
def splitFirst (separator : Char) : List Char → Option (List Char × List Char)
  | [] => none
  | c :: rest =>
    if c = separator then
      some ([], rest)
    else
      (splitFirst separator rest).map fun parts => (c :: parts.1, parts.2)

/-- What follows a known beginning, if the text starts with it. -/
def afterStart : List Char → List Char → Option (List Char)
  | [], text => some text
  | _ :: _, [] => none
  | expected :: more, c :: rest => if c = expected then afterStart more rest else none

/-- What follows the first occurrence of a known part. -/
def afterPart (part : List Char) : List Char → Option (List Char)
  | [] => afterStart part []
  | c :: rest =>
    match afterStart part (c :: rest) with
    | some after => some after
    | none => afterPart part rest

/-- Join pieces with a separator between neighbours. -/
def joinWith (separator : Char) : List (List Char) → List Char
  | [] => []
  | [piece] => piece
  | piece :: next :: more => piece ++ separator :: joinWith separator (next :: more)

@[simp]
theorem splitAll_nil (separator : Char) : splitAll separator [] = [[]] := rfl

theorem splitAll_ne_nil (separator : Char) (text : List Char) : splitAll separator text ≠ [] := by
  cases text with
  | nil => simp
  | cons c rest =>
    unfold splitAll
    split
    · simp
    · split <;> simp

/-- Joining the pieces of a text gives the text back. -/
theorem joinWith_splitAll (separator : Char) (text : List Char) :
    joinWith separator (splitAll separator text) = text := by
  induction text with
  | nil => rfl
  | cons c rest ih =>
    unfold splitAll
    split
    case isTrue same =>
      cases pieces : splitAll separator rest with
      | nil => exact absurd pieces (splitAll_ne_nil separator rest)
      | cons piece more =>
        rw [pieces] at ih
        simp [joinWith, ih, same]
    case isFalse different =>
      cases pieces : splitAll separator rest with
      | nil => exact absurd pieces (splitAll_ne_nil separator rest)
      | cons piece more =>
        rw [pieces] at ih
        cases more with
        | nil => simpa [joinWith] using ih
        | cons next more => simpa [joinWith] using ih

/-- A beginning is found exactly where the text is that beginning and then the rest. -/
theorem afterStart_eq_some_iff {start text rest : List Char} :
    afterStart start text = some rest ↔ text = start ++ rest := by
  induction start generalizing text with
  | nil => simp [afterStart, eq_comm]
  | cons expected more ih =>
    cases text with
    | nil => simp [afterStart]
    | cons c tail =>
      by_cases same : c = expected
      · simp [afterStart, same, ih]
      · simp [afterStart, same]

@[simp]
theorem afterStart_append (start rest : List Char) : afterStart start (start ++ rest) = some rest :=
  afterStart_eq_some_iff.2 rfl

/-- The first cut gives two parts with the separator between them, the first free of it. -/
theorem splitFirst_eq_some_iff {separator : Char} {text first second : List Char} :
    splitFirst separator text = some (first, second) ↔
      text = first ++ separator :: second ∧ separator ∉ first := by
  induction text generalizing first with
  | nil => simp [splitFirst]
  | cons c rest ih =>
    by_cases same : c = separator
    · subst same
      cases first with
      | nil => simp [splitFirst, eq_comm]
      | cons d more => simp +contextual [splitFirst]
    · cases first with
      | nil => simp [splitFirst, same]
      | cons d more =>
        simp only [splitFirst, same, if_false, Option.map_eq_some_iff, Prod.mk.injEq, Prod.exists,
          List.cons_append, List.cons.injEq, List.mem_cons, not_or]
        constructor
        · rintro ⟨a, b, found, ⟨rfl, rfl⟩, rfl⟩
          have parts := ih.1 found
          exact ⟨⟨rfl, parts.1⟩, fun h => same h.symm, parts.2⟩
        · rintro ⟨⟨rfl, tail⟩, _, absent⟩
          exact ⟨more, second, ih.2 ⟨tail, absent⟩, ⟨rfl, rfl⟩, rfl⟩

/-- There is no first cut exactly when the separator does not occur. -/
theorem splitFirst_eq_none_iff {separator : Char} {text : List Char} :
    splitFirst separator text = none ↔ separator ∉ text := by
  induction text with
  | nil => simp [splitFirst]
  | cons c rest ih =>
    by_cases same : c = separator
    · simp [splitFirst, same]
    · have distinct : ¬ separator = c := fun h => same h.symm
      simp [splitFirst, same, ih, distinct]

end DeviceGateway.Text
