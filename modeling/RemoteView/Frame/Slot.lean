/-
A hand-over slot for one value. A new value takes the place of one that nobody
took yet, and the slot counts how often that happened, so a slow consumer misses
values instead of holding up the producer.
-/
import RemoteView.Checked

namespace RemoteView

/-- At most one value that waits to be taken. -/
structure Slot (α : Type) where
  pending : Option α := none
  /-- How many values were replaced before anybody took them. -/
  skipped : UInt64 := 0
  deriving DecidableEq

namespace Slot

variable {α : Type}

/-- Puts a value in, and tells whether it replaced one. -/
def push (s : Slot α) (value : α) : Except Fault (Bool × Slot α) :=
  if s.pending.isSome then
    return (true, { pending := some value, skipped := ← Checked.addU64 s.skipped 1 })
  else return (false, { s with pending := some value })

/-- Takes the value out, if there is one. -/
def consume (s : Slot α) : Option α × Slot α := (s.pending, { s with pending := none })

end Slot

end RemoteView
