/-
The host of a view: the window, the display, and those who take its input and
its events. A host answers questions about the window and carries out requests;
everything that it knows is a state of some type `σ`, which only requests
change. What is proved of a view for every host holds however its windows
behave and whatever it answers.
-/
import RemoteView.FrameRate
import RemoteView.Frame.Feed
import RemoteView.Orientation
import RemoteView.Outbound
import RemoteView.Panel.Overlay

namespace RemoteView

/-- How a request went. A display answers `pending` when it cannot take a frame
yet, and the frame is then dropped without an error. -/
inductive Outcome where
  | ok
  | pending
  | error
  deriving DecidableEq, Inhabited

/-- One axis of the position that is asked for. -/
inductive Coordinate where
  | fixed (v : Int32)
  | centered
  deriving DecidableEq

/-- The panel as it is drawn. -/
structure PanelScene where
  layout : Panel.Layout
  buttons : List Panel.Button
  deriving DecidableEq

/-- All that is needed to draw the view once. -/
structure Scene where
  contentRect : Rect
  orientation : Orientation
  panel : Option PanelScene
  deriving DecidableEq

/-- What a view asks of its host. -/
inductive Request where
  | setSize (size : Size)
  | setPosition (x y : Coordinate)
  | setFullscreen (fullscreen : Bool)
  /-- Leave the maximized state. -/
  | restoreWindow
  | showWindow
  | hideWindow
  | raiseWindow
  | setOnTop (onTop : Bool)
  | setCursor (shape : Panel.CursorShape)
  | setTextureSize (size : Size)
  | updateTexture (frame : VideoFrame)
  | render (scene : Scene)
  /-- Hand a pointer event on to the device. -/
  | forward (pointer : ForwardedPointer)
  | send (event : Outbound)
  deriving DecidableEq

/-- The behaviour of a host whose state is of type `σ`. -/
structure Host (σ : Type) where
  windowSize : σ → Size
  /-- The size in physical pixels, which differs from the size of the window on
  displays of high density. -/
  drawableSize : σ → Size
  windowPosition : σ → Point
  /-- The usable area of the display that holds the window, if it is known. -/
  usableBounds : σ → Option Rect
  now : σ → Instant
  perform : Request → σ → Outcome × σ

/-- The sizes of the window and of its drawing surface, on which a layout depends. -/
def Host.sizes {σ : Type} (host : Host σ) (w : σ) : Size × Size :=
  (host.windowSize w, host.drawableSize w)

end RemoteView
