/-
Settings of a view and what its start needs of them. A window position has to
fit a signed 16-bit word. `validate` reports one that does not; `startup` leaves
it out, and the window is centred.
-/
import RemoteView.Orientation

namespace RemoteView

/-- The window that is asked for at the start. What is left open is chosen by
the view: a centred position, a size fitted to the content. -/
structure WindowRequest where
  x : Option Int16 := none
  y : Option Int16 := none
  width : Option UInt16 := none
  height : Option UInt16 := none
  deriving DecidableEq

/-- What a view is started with. -/
structure Startup where
  window : WindowRequest := {}
  orientation : Orientation := {}
  fullscreen : Bool := false
  panelShow : Bool := false
  hideWindow : Bool := false
  startFpsCounter : Bool := false
  alwaysOnTop : Bool := false
  deriving DecidableEq

/-- The options of a view, as its settings file gives them. -/
structure Settings where
  windowX : Option Int32 := none
  windowY : Option Int32 := none
  windowWidth : Option UInt16 := none
  windowHeight : Option UInt16 := none
  fullscreen : Bool := false
  orientation : Orientation := {}
  panelShow : Bool := false
  hideWindow : Bool := false
  startFpsCounter : Bool := false
  alwaysOnTop : Bool := false
  debugLogging : Bool := false
  deriving DecidableEq

/-- A window position that is too far off. -/
structure PositionError where
  field : String
  value : Int32
  deriving DecidableEq

def PositionError.message (e : PositionError) : String :=
  s!"{e.field} {e.value.toInt} is outside {Int16.minValue.toInt}..={Int16.maxValue.toInt}"

namespace Settings

/-- The coordinate as a signed 16-bit word, if it fits. -/
def narrow? (v : Int32) : Option Int16 :=
  if Int16.minValue.toInt ≤ v.toInt ∧ v.toInt ≤ Int16.maxValue.toInt then some v.toInt16 else none

/-- Checks a coordinate that may be left open. -/
def checkCoordinate (field : String) (value : Option Int32) : Except PositionError Unit :=
  match value with
  | none => .ok ()
  | some v => if (narrow? v).isSome then .ok () else .error ⟨field, v⟩

/-- Checks the window position, its `x` first. -/
def validate (s : Settings) : Except PositionError Unit := do
  checkCoordinate "window_x" s.windowX
  checkCoordinate "window_y" s.windowY

/-- The settings in the form in which a view is started. -/
def startup (s : Settings) : Startup where
  window := {
    x := s.windowX.bind narrow?
    y := s.windowY.bind narrow?
    width := s.windowWidth
    height := s.windowHeight }
  orientation := s.orientation
  fullscreen := s.fullscreen
  panelShow := s.panelShow
  hideWindow := s.hideWindow
  startFpsCounter := s.startFpsCounter
  alwaysOnTop := s.alwaysOnTop

end Settings

end RemoteView
