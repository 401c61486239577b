/-
Runs of a session: operations in any order, and changes of the surroundings
between them that no operation brought about.
-/
import RemoteView.Proofs.Except
import RemoteView.Screen.Operation

namespace RemoteView

variable {σ : Type}

/-- What can happen to a session. -/
inductive Event (σ : Type) where
  | operation (op : Operation)
  /-- The surroundings change by themselves. -/
  | outside (w : σ)

/-- Whether the event gives a frame. -/
def Event.isPush : Event σ → Bool
  | .operation (.push _) => true
  | _ => false

namespace Session

def react (s : Session σ) (host : Host σ) : Event σ → Except Fault (Session σ)
  | .operation op => return (← s.apply host op).2
  | .outside w => return { s with outside := w }

/-- The session after a list of events, if none of them faults. -/
def run (s : Session σ) (host : Host σ) (events : List (Event σ)) : Except Fault (Session σ) :=
  events.foldlM (·.react host ·) s

variable {host : Host σ} {s s' : Session σ}

theorem run_nil_ok_iff : s.run host [] = .ok s' ↔ s = s' := Except.pure_ok_iff

theorem run_cons_ok_iff {event : Event σ} {rest : List (Event σ)} :
    s.run host (event :: rest) = .ok s' ↔
      ∃ next, s.react host event = .ok next ∧ next.run host rest = .ok s' := by
  simp only [run, List.foldlM_cons, Except.bind_ok_iff]

theorem react_operation_ok_iff {op : Operation} :
    s.react host (.operation op) = .ok s' ↔ ∃ reply, s.apply host op = .ok (reply, s') := by
  simp only [react, Except.bind_ok_iff, Except.pure_ok_iff, Prod.exists]
  exact ⟨fun ⟨reply, _, h, e⟩ => ⟨reply, e ▸ h⟩, fun ⟨reply, h⟩ => ⟨reply, s', h, rfl⟩⟩

end Session

/-- A host for examples: a display that takes everything, and a window that is as
large as it is asked to be, up to 32767 pixels a side. -/
def cappedHost : Host Size where
  windowSize := (·.inter ⟨32767, 32767⟩)
  drawableSize := (·.inter ⟨32767, 32767⟩)
  windowPosition := fun _ => {}
  usableBounds := fun _ => some ⟨0, 0, 1920, 1176⟩
  now := fun _ => 0
  perform
    | .setSize size, _ => (.ok, size)
    | _, size => (.ok, size)

end RemoteView
