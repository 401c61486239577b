/-
How the panel takes part in pointer input. It lies over the view, so it decides
for each event whether the device sees it. A press on the panel stays there. A
button that went down on the content and is dragged onto the panel must not
stay down on the device, so a release is made up for it when the pointer enters.
The cursor turns into a hand over a button.
-/
import RemoteView.Panel.Layout
import RemoteView.Pointer

namespace RemoteView.Panel

inductive CursorShape where
  | arrow
  | hand
  deriving DecidableEq

/-- What becomes of a pointer event. -/
inductive Action where
  /-- The panel has nothing to do with the event, and the device sees it. -/
  | pass
  | swallow
  /-- A panel button was pressed, and its name is to be sent. -/
  | activate (id : String)
  /-- The device sees the release, since the press may have been on content. -/
  | forwardThenSwallow
  /-- The device sees this release in place of the event. -/
  | releaseThenSwallow (release : PointerEvent)
  deriving DecidableEq

/-- The decision on an event, and the cursor to change to, if any. -/
structure Outcome where
  action : Action
  cursor : Option CursorShape := none
  deriving DecidableEq

/-- The panel together with what it remembers of the pointer. -/
structure Overlay where
  panel : Panel := {}
  /-- Whether the cursor changes over a button. -/
  swapsCursor : Bool := true
  /-- Whether the cursor is a hand now. -/
  hand : Bool := false
  /-- The last button that went down outside the panel, until a release. -/
  pressedOutside : Option MouseButton := none
  deriving DecidableEq

namespace Overlay

def visible (o : Overlay) : Bool := o.panel.visible

/-- Leaves the cursor alone from now on. -/
def disableCursorSwap (o : Overlay) : Overlay := { o with swapsCursor := false, hand := false }

/-- Replaces the panel. The button under a hand may be gone, so the cursor goes
back to an arrow. -/
def applyUpdate (o : Overlay) (update : Update) : Option CursorShape × Overlay :=
  let next := { o with panel := o.panel.apply update, hand := false }
  (if o.hand then some .arrow else none, next)

/-- The cursor for a pointer that moved to `hit`, if it has to change. -/
def hover (o : Overlay) (hit : Hit) : Option CursorShape × Overlay :=
  if !o.swapsCursor || o.panel.buttons.isEmpty || hit.isButton == o.hand then (none, o)
  else (some (if hit.isButton then .hand else .arrow), { o with hand := hit.isButton })

/-- The pointer moved to `point`, where it hits `hit`. -/
def handleMotion (o : Overlay) (point : Point) (hit : Hit) : Outcome × Overlay :=
  let (cursor, o) := o.hover hit
  match hit, o.pressedOutside with
  | .outside, _ => (⟨.pass, cursor⟩, o)
  | _, some button =>
    (⟨.releaseThenSwallow (.up point button 1), cursor⟩, { o with pressedOutside := none })
  | _, none => (⟨.swallow, cursor⟩, o)

/-- A button went down at `hit`. -/
def handleDown (o : Overlay) (button : MouseButton) : Hit → Outcome × Overlay
  | .outside => ({ action := .pass }, { o with pressedOutside := some button })
  | .background => ({ action := .swallow }, o)
  | .button index =>
    match o.panel.buttons[index]? with
    | some b => ({ action := .activate b.id }, o)
    | none => ({ action := .swallow }, o)

/-- A button went up at `hit`. -/
def handleUp (o : Overlay) (hit : Hit) : Outcome × Overlay :=
  ({ action := if hit = .outside then .pass else .forwardThenSwallow }, { o with pressedOutside := none })

/-- Decides on an event whose place in drawing pixels is `drawn`. A hidden panel
lets everything pass. -/
def handlePointer (o : Overlay) (event : PointerEvent) (drawn : Point) (layout : Layout) :
    Except Fault (Outcome × Overlay) := do
  if !o.visible then return ({ action := .pass }, o)
  let hit ← layout.hitTest drawn
  match event with
  | .motion point => return o.handleMotion point hit
  | .down _ button _ => return o.handleDown button hit
  | .up _ _ _ => return o.handleUp hit

end Overlay

end RemoteView.Panel
