/-
Laying out and drawing the view. Nothing is drawn before there is a frame. The
first drawing is followed by the message that the view is ready.
-/
import RemoteView.Fitting
import RemoteView.Screen.Session

namespace RemoteView.Session

variable {σ : Type}

/-- Sends an event. That it cannot be sent is no reason to stop. -/
def sendEvent (s : Session σ) (host : Host σ) (event : Outbound) : Session σ := s.tell host (.send event)

/-- Lays the content out anew, once its size is known. -/
def layOut (s : Session σ) (host : Host σ) : Except Fault (Session σ) := do
  if s.screen.contentSize.isEmpty then return s
  let rect ← Fitting.contentRect (host.drawableSize s.outside) s.screen.contentSize (s.panelWidth host)
  return s.update ({ · with contentRect := rect })

/-- What there is to draw when the panel lies as `layout` says. A panel without
buttons is not drawn. -/
def scene (s : Session σ) (layout : Panel.Layout) : Scene where
  contentRect := s.screen.contentRect
  orientation := s.screen.orientation
  panel :=
    let panel := s.screen.overlay.panel
    if panel.visible && !panel.buttons.isEmpty then some ⟨layout, panel.buttons⟩ else none

/-- Tells the controlling application, once, that the view is ready. -/
def announceReady (s : Session σ) (host : Host σ) : Session σ :=
  if s.screen.readySent then s
  else (s.update ({ · with readySent := true })).sendEvent host .ready

/-- Draws the view as it was last laid out. -/
def present (s : Session σ) (host : Host σ) : Except Fault (Session σ) :=
  return ((s.tell host (.render (s.scene (← s.panelLayout host)))).announceReady host)

/-- Draws the view, if it has a frame. With `refresh` it is laid out first,
which is needed whenever a size or the panel may have changed. -/
def render (s : Session σ) (host : Host σ) (refresh : Bool) : Except Fault (Session σ) := do
  if !s.screen.hasFrame then return s
  else if refresh then (← s.layOut host).present host
  else s.present host

end RemoteView.Session
