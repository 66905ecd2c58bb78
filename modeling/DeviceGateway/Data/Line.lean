/-
# Lines

A line in which operations wait for something that only one of them may have at a time.  Whoever joins
gets a ticket, the first in the line has its turn, and leaving gives the turn to the next; a ticket may
also be given up while it waits.
-/

namespace DeviceGateway

/-- A line. -/
structure Line where
  /-- The ticket for whoever joins next. -/
  next : Nat := 0
  /-- The tickets in the line, from the first on. -/
  waiting : List Nat := []
deriving DecidableEq, Repr

namespace Line

instance : Inhabited Line := ⟨{}⟩

/-- The line after somebody has joined it with the ticket `line.next`. -/
def join (line : Line) : Line := ⟨line.next + 1, line.waiting ++ [line.next]⟩

/-- Whether a ticket has its turn. -/
def isFirst (line : Line) (ticket : Nat) : Bool := line.waiting.head? == some ticket

/-- The line after a ticket has left it. -/
def leave (line : Line) (ticket : Nat) : Line :=
  { line with waiting := line.waiting.filter fun other => other != ticket }

theorem eq_of_isFirst {line : Line} {first second : Nat} (one : line.isFirst first = true)
    (other : line.isFirst second = true) : first = second := by
  simp only [isFirst, beq_iff_eq] at one other
  rw [one] at other
  exact Option.some.inj other

@[simp]
theorem mem_waiting_join (line : Line) (ticket : Nat) :
    ticket ∈ line.join.waiting ↔ ticket ∈ line.waiting ∨ ticket = line.next := by
  simp [join]

@[simp]
theorem mem_waiting_leave (line : Line) (ticket other : Nat) :
    other ∈ (line.leave ticket).waiting ↔ other ∈ line.waiting ∧ other ≠ ticket := by
  simp [leave]

end Line

end DeviceGateway
