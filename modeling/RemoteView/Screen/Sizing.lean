/-
Changing the size and the state of the window. A new content size resizes a
free window at once; a constrained one is resized when it is free again
(`Resizing`). The other changes are asked for by the user.
-/
import RemoteView.Screen.Presenting

namespace RemoteView.Session

variable {σ : Type}

/-- Resizes the window so that it shows the new content at the zoom that it had
for the old. -/
def resizeForContent (s : Session σ) (host : Host σ) (change : ResizeRequest) :
    Except Fault (Session σ) := do
  let target := Fitting.resizeTarget (s.contentWindowSize host) change.source change.target
  let optimal := Fitting.optimalSize target change.target (s.displayBounds host)
  return s.tell host (.setSize (← s.withPanel optimal))

/-- Resizes the window if there is a change of content to follow. -/
def resizeIfDue (s : Session σ) (host : Host σ) (change : Option ResizeRequest) :
    Except Fault (Session σ) :=
  match change with
  | none => return s
  | some change => s.resizeForContent host change

/-- Takes over a new content size. Before the first frame the window is not
touched: it gets its size from the content when it is shown. -/
def setContentSize (s : Session σ) (host : Host σ) (size : Size) : Except Fault (Session σ) := do
  let old := s.screen.contentSize
  let s := s.update ({ · with contentSize := size })
  if !s.screen.hasFrame || old.isEmpty then return s
  let (change, window) := s.screen.window.contentSizeChanged old size
  (s.setWindow window).resizeIfDue host change

/-- Turns the content. -/
def setOrientation (s : Session σ) (host : Host σ) (o : Orientation) : Except Fault (Session σ) := do
  if o = s.screen.orientation then return s
  let s ← s.setContentSize host (o.orientedSize s.screen.frameSize)
  (s.update ({ · with orientation := o })).render host true

/-- Goes fullscreen or comes back. Nothing changes if the host refuses. -/
def toggleFullscreen (s : Session σ) (host : Host σ) : Except Fault (Session σ) := do
  let (outcome, s) := s.request host (.setFullscreen (!s.screen.window.flags.fullscreen))
  if outcome = .error then return s
  let (change, window) := s.screen.window.onFullscreenToggled s.screen.contentSize
  let s ← (s.setWindow window).resizeIfDue host change
  s.render host true

/-- Takes the borders away by shrinking a free window around its centre. -/
def resizeToFit (s : Session σ) (host : Host σ) : Except Fault (Session σ) := do
  if !s.screen.hasFrame || !s.screen.window.isWindowed then return s
  let position := host.windowPosition s.outside
  let window := host.windowSize s.outside
  let size ← s.withPanel (Fitting.optimalSize (s.contentWindowSize host) s.screen.contentSize none)
  let corner ← Fitting.centeredPosition position window size
  let s := s.tell host (.setSize size)
  return s.tell host (.setPosition (.fixed corner.x) (.fixed corner.y))

/-- Makes one pixel of the content one pixel of the window. A maximized window
is restored for this; one that is fullscreen or minimized stays. -/
def resizeToPixelPerfect (s : Session σ) (host : Host σ) : Except Fault (Session σ) := do
  let flags := s.screen.window.flags
  if !s.screen.hasFrame || flags.fullscreen || flags.minimized then return s
  let s := if flags.maximized then s.tell host .restoreWindow else s
  let s := s.setWindow s.screen.window.leaveMaximized
  return s.tell host (.setSize (← s.withPanel s.screen.contentSize))

/-- The position that is asked for, or a centred window. -/
def startCoordinate (v : Option Int16) : Coordinate := v.elim .centered fun v => .fixed v.toInt32

/-- Sets the window up for the first frame, unless it is to stay hidden. -/
def showInitialWindow (s : Session σ) (host : Host σ) : Except Fault (Session σ) := do
  let startup := s.screen.startup
  if startup.hideWindow then s.layOut host
  else
    let size ← s.withPanel (Fitting.initialSize s.screen.contentSize startup.window.width
      startup.window.height (s.displayBounds host))
    let s := s.tell host (.setSize size)
    let s := s.tell host
      (.setPosition (startCoordinate startup.window.x) (startCoordinate startup.window.y))
    let s ← if startup.fullscreen then s.toggleFullscreen host else pure s
    let s := if startup.startFpsCounter then s.setRate (s.screen.rate.start (host.now s.outside)) else s
    let s := s.tell host .showWindow
    s.layOut host

end RemoteView.Session
