/-
Events of the window and the pointer, and updates of the panel. Before the
first frame there is nothing to lay out and nothing to point at, so these events
are ignored; updates of the panel are not.
-/
import RemoteView.Panel.Message
import RemoteView.Screen.Sizing

namespace RemoteView.Session

variable {σ : Type}

/-- Acts on what happened to the window. -/
def handleWindowEvent (s : Session σ) (host : Host σ) (event : WindowEvent) :
    Except Fault (Session σ) := do
  if !s.screen.hasFrame then return s
  match event with
  | .exposed | .sizeChanged => s.render host true
  | .maximized => return s.setWindow s.screen.window.onMaximized
  | .minimized => return s.setWindow s.screen.window.onMinimized
  | .restored =>
    match s.screen.window.onRestored s.screen.contentSize with
    | (.ignored, _) => return s
    | (.restored change, window) =>
      let s ← (s.setWindow window).resizeIfDue host change
      s.render host true

/-- Changes the cursor. If the host has no cursors, no more are asked for. -/
def applyCursor (s : Session σ) (host : Host σ) (shape : Panel.CursorShape) : Session σ :=
  let (outcome, s) := s.request host (.setCursor shape)
  if outcome = .error then s.setOverlay s.screen.overlay.disableCursorSwap else s

/-- Changes the cursor if there is one to change to. -/
def applyCursorIfAny (s : Session σ) (host : Host σ) (shape : Option Panel.CursorShape) : Session σ :=
  shape.elim s (s.applyCursor host)

/-- Hands a pointer event on to the device. -/
def forward (s : Session σ) (host : Host σ) (event : PointerEvent) : Except Fault (Session σ) :=
  return s.tell host (.forward ⟨event, ← (s.mapping host).windowToPosition event.point⟩)

/-- Reports a press of a panel button. -/
def sendPanelClick (s : Session σ) (host : Host σ) (id : String) : Session σ :=
  s.sendEvent host (.panelButtonClick id)

/-- Carries out what the panel decided about a pointer event. -/
def performAction (s : Session σ) (host : Host σ) (event : PointerEvent) :
    Panel.Action → Except Fault (Session σ)
  | .pass | .forwardThenSwallow => s.forward host event
  | .swallow => return s
  | .activate id => return s.sendPanelClick host id
  | .releaseThenSwallow release => s.forward host release

/-- Leads a pointer event past the panel to the device. -/
def handlePointer (s : Session σ) (host : Host σ) (event : PointerEvent) :
    Except Fault (Session σ) := do
  if !s.screen.hasFrame then return s
  let drawn := (s.mapping host).windowToDrawable event.point
  let layout ← s.panelLayout host
  let (outcome, overlay) ← s.screen.overlay.handlePointer event drawn layout
  let s := (s.setOverlay overlay).applyCursorIfAny host outcome.cursor
  s.performAction host event outcome.action

/-- Replaces the buttons of the panel. A view that was started without a panel
ignores this. -/
def updatePanel (s : Session σ) (host : Host σ) (update : Panel.Update) :
    Except Fault (Session σ) := do
  if !s.screen.startup.panelShow then return s
  let (cursor, overlay) := s.screen.overlay.applyUpdate update
  let s := (s.setOverlay overlay).applyCursorIfAny host cursor
  s.render host true

/-- Applies a control message. Tells whether it was one for the panel. -/
def updatePanelMessage (s : Session σ) (host : Host σ) (text : String) :
    Except Fault (Except Panel.UpdateError Bool × Session σ) :=
  match Panel.Update.ofMessage text with
  | .error e => return (.error e, s)
  | .ok none => return (.ok false, s)
  | .ok (some update) => return (.ok true, ← s.updatePanel host update)

end RemoteView.Session
