/-
A session of a view: the view itself, the feed of its frames, the state of its
host, and a journal of all requests to the host. The journal is never read by
the view. It keeps the last entry first, each with its outcome, with the window
flags in force when the request was made, and with whether the window or its
drawing surface had another size after it.
-/
import RemoteView.Fitting
import RemoteView.Mapping
import RemoteView.Screen.Host
import RemoteView.Settings.Basic
import RemoteView.Window.Resizing

namespace RemoteView

/-- The view: what it shows and where, and what it remembers between events. -/
structure Screen where
  startup : Startup
  frameSize : Size := {}
  contentSize : Size := {}
  orientation : Orientation
  /-- Where the content was last laid out, in drawing pixels. -/
  contentRect : Rect := {}
  window : Resizing := {}
  overlay : Panel.Overlay
  rate : FrameRate := {}
  /-- Whether a frame has been shown. -/
  hasFrame : Bool := false
  readySent : Bool := false
  paused : Bool := false
  /-- The latest frame that came while the view was paused. -/
  held : Option VideoFrame := none
  /-- How many of the skipped frames of the feed are accounted for. -/
  skippedSeen : UInt64 := 0
  deriving DecidableEq

/-- The view before anything happened. -/
def Screen.initial (startup : Startup) : Screen where
  startup := startup
  orientation := startup.orientation
  overlay := { panel := { visible := startup.panelShow } }

/-- A request, how it went, the flags of the window when it was made, and whether
a size was another one afterwards. -/
structure Entry where
  request : Request
  outcome : Outcome
  flags : WindowFlags
  resized : Bool
  deriving DecidableEq

structure Session (σ : Type) where
  screen : Screen
  feed : Feed := {}
  outside : σ
  journal : List Entry := []

namespace Session

variable {σ : Type}

/-- Changes the view alone. -/
def update (s : Session σ) (change : Screen → Screen) : Session σ := { s with screen := change s.screen }

def setWindow (s : Session σ) (window : Resizing) : Session σ := s.update ({ · with window })

def setOverlay (s : Session σ) (overlay : Panel.Overlay) : Session σ := s.update ({ · with overlay })

def setRate (s : Session σ) (rate : FrameRate) : Session σ := s.update ({ · with rate })

def setFeed (s : Session σ) (feed : Feed) : Session σ := { s with feed }

/-- Makes a request to the host and writes it down. -/
def request (s : Session σ) (host : Host σ) (r : Request) : Outcome × Session σ :=
  let (outcome, outside) := host.perform r s.outside
  let resized := decide (host.sizes outside ≠ host.sizes s.outside)
  (outcome, { s with outside, journal := ⟨r, outcome, s.screen.window.flags, resized⟩ :: s.journal })

/-- Makes a request whose outcome does not matter. -/
def tell (s : Session σ) (host : Host σ) (r : Request) : Session σ := (s.request host r).2

/-- The entries that were added to the journal since an earlier moment, in the
order of the requests. -/
def entriesSince (s earlier : Session σ) : List Entry :=
  (s.journal.take (s.journal.length - earlier.journal.length)).reverse

/-! ## What the view asks the host about -/

/-- The mapping of coordinates at this moment. -/
def mapping (s : Session σ) (host : Host σ) : Mapping where
  windowSize := host.windowSize s.outside
  drawableSize := host.drawableSize s.outside
  contentRect := s.screen.contentRect
  contentSize := s.screen.contentSize
  orientation := s.screen.orientation

/-- The size that a window should keep to on its display, if that is known. -/
def displayBounds (s : Session σ) (host : Host σ) : Option Size :=
  (host.usableBounds s.outside).map Fitting.preferredBounds

/-- The drawing columns that the panel takes. -/
def panelWidth (s : Session σ) (host : Host σ) : Int32 :=
  Fitting.panelWidthScaled s.screen.overlay.visible Panel.logicalWidth (host.windowSize s.outside)
    (host.drawableSize s.outside)

/-- The window columns that the panel takes. -/
def panelColumns (s : Session σ) : UInt32 := if s.screen.overlay.visible then Panel.logicalWidth else 0

/-- The size of the window without the panel. -/
def contentWindowSize (s : Session σ) (host : Host σ) : Size :=
  let window := host.windowSize s.outside
  ⟨UInt32.ofNat (window.width.toNat - s.panelColumns.toNat), window.height⟩

/-- The window that has room for content of this size and the panel. -/
def withPanel (s : Session σ) (size : Size) : Except Fault Size :=
  return { size with width := ← Checked.addU32 size.width s.panelColumns }

/-- Where the panel and its buttons lie now. -/
def panelLayout (s : Session σ) (host : Host σ) : Except Fault Panel.Layout :=
  Panel.Layout.forScreen s.screen.contentRect (s.panelWidth host)
    (host.drawableSize s.outside).height.toInt32 s.screen.overlay.panel.buttons.length

end Session

end RemoteView
