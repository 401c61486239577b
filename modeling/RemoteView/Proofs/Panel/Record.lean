/-
An overlay together with a record of all that it was told and what it answered. The record
keeps the order of the changes (`RecordedOverlay.changes_run`), so what is proved of every
exchange in it is proved of every change of a run.
-/
import RemoteView.Proofs.Panel.Presses

namespace RemoteView.Panel

/-- A change, with the decision and the cursor that the overlay answered to it. -/
structure Exchange where
  change : OverlayChange
  action : Option Action := none
  cursor : Option CursorShape := none

/-- What the overlay answers to a change, and the overlay after it. -/
def Overlay.answer (o : Overlay) (change : OverlayChange) : Except Fault (Exchange × Overlay) :=
  match change with
  | .pointer event drawn layout => do
    let (outcome, next) ← o.handlePointer event drawn layout
    return ({ change, action := outcome.action, cursor := outcome.cursor }, next)
  | .updated update =>
    let (cursor, next) := o.applyUpdate update
    return ({ change, cursor }, next)
  | .cursorSwapDisabled => return ({ change }, o.disableCursorSwap)

/-- An overlay with all exchanges since it was made, the last one at the end. -/
structure RecordedOverlay where
  overlay : Overlay
  record : List Exchange := []

namespace RecordedOverlay

/-- A new overlay, with its panel shown or hidden. -/
def opened (visible : Bool) : RecordedOverlay := { overlay := { panel := { visible } } }

def step (r : RecordedOverlay) (change : OverlayChange) : Except Fault RecordedOverlay := do
  let (exchange, overlay) ← r.overlay.answer change
  return { overlay, record := r.record ++ [exchange] }

/-- The overlay after a list of changes. -/
def run (r : RecordedOverlay) (changes : List OverlayChange) : Except Fault RecordedOverlay :=
  changes.foldlM step r

/-- What the overlay was told. -/
def changes (r : RecordedOverlay) : List OverlayChange := r.record.map (·.change)

end RecordedOverlay

variable {o o' : Overlay} {change : OverlayChange} {exchange : Exchange}

theorem Overlay.answer_pointer_ok {event : PointerEvent} {drawn : Point} {layout : Layout} :
    o.answer (.pointer event drawn layout) = .ok (exchange, o') ↔
      ∃ outcome, o.handlePointer event drawn layout = .ok (outcome, o') ∧
        exchange = ⟨.pointer event drawn layout, some outcome.action, outcome.cursor⟩ := by
  simp only [answer, Except.bind_ok_iff, Except.pure_ok_iff, Prod.exists, Prod.mk.injEq]
  constructor
  · rintro ⟨outcome, next, h, rfl, rfl⟩
    exact ⟨outcome, h, rfl⟩
  · rintro ⟨outcome, h, rfl⟩
    exact ⟨outcome, o', h, rfl, rfl⟩

theorem Overlay.change_answer (h : o.answer change = .ok (exchange, o')) : exchange.change = change := by
  cases change with
  | pointer event drawn layout =>
    obtain ⟨outcome, -, rfl⟩ := answer_pointer_ok.mp h
    rfl
  | updated update =>
    cases h
    rfl
  | cursorSwapDisabled =>
    cases h
    rfl

namespace RecordedOverlay

variable {r r' : RecordedOverlay} {changes : List OverlayChange}

theorem step_ok (h : r.step change = .ok r') :
    ∃ exchange, r.overlay.answer change = .ok (exchange, r'.overlay) ∧ r'.record = r.record ++ [exchange] := by
  simp only [step, Except.bind_ok_iff, Except.pure_ok_iff] at h
  obtain ⟨⟨exchange, overlay⟩, hanswer, rfl⟩ := h
  exact ⟨exchange, hanswer, rfl⟩

theorem changes_step (h : r.step change = .ok r') : r'.changes = r.changes ++ [change] := by
  obtain ⟨exchange, hanswer, hrecord⟩ := step_ok h
  rw [RecordedOverlay.changes, hrecord, List.map_append, List.map_singleton, Overlay.change_answer hanswer]
  rfl

theorem changes_run (h : r.run changes = .ok r') : r'.changes = r.changes ++ changes := by
  induction changes generalizing r with
  | nil =>
    obtain rfl := Except.pure_ok_iff.mp h
    exact (List.append_nil _).symm
  | cons change changes ih =>
    obtain ⟨next, hstep, hrest⟩ := Except.bind_ok_iff.mp h
    rw [ih hrest, changes_step hstep, List.append_assoc]
    rfl

end RecordedOverlay

end RemoteView.Panel
