/-
Pointer input in window coordinates, as a windowing system reports it, and the
form in which it is handed on: with its position in the frame of the device.
-/
import RemoteView.Geometry

namespace RemoteView

inductive MouseButton where
  | left
  | middle
  | right
  | x1
  | x2
  deriving DecidableEq, Inhabited

/-- A pointer that moved, or a button that went down or up where the pointer is.
`clicks` counts the presses of a multiple click. -/
inductive PointerEvent where
  | motion (point : Point)
  | down (point : Point) (button : MouseButton) (clicks : UInt8)
  | up (point : Point) (button : MouseButton) (clicks : UInt8)
  deriving DecidableEq, Inhabited

namespace PointerEvent

/-- Where the pointer is in the window. -/
def point : PointerEvent → Point
  | motion p | down p _ _ | up p _ _ => p

def isButton : PointerEvent → Bool
  | motion _ => false
  | down .. | up .. => true

end PointerEvent

/-- A point of a device frame, with the size of the frame it was measured in. -/
structure Position where
  point : Point
  frameSize : Size
  deriving DecidableEq, Inhabited

/-- A pointer event for the device: what happened and where in the frame. -/
structure ForwardedPointer where
  event : PointerEvent
  position : Position
  deriving DecidableEq, Inhabited

end RemoteView
