/-
Following a desktop window. A desktop reports the cursor in physical pixels,
button presses without a place, and no changes of the window state at all. A
`Tracker` remembers what is needed to make pointer and window events of that:
the scale factor, the last place of the cursor and the last polled state.
-/
import RemoteView.Pointer
import RemoteView.Window.Resizing

namespace RemoteView

/-- A button of a pointing device, as a desktop names it. -/
inductive DesktopButton where
  | left
  | middle
  | right
  | back
  | forward
  | other (code : UInt16)
  deriving DecidableEq

/-- What a desktop reports about a window. -/
inductive DesktopEvent where
  | resized
  | redrawRequested
  | scaleFactorChanged (factor : Float)
  /-- The cursor moved to a place in physical pixels. -/
  | cursorMoved (x y : Float)
  | mouseInput (pressed : Bool) (button : DesktopButton)
  /-- Any report that the view has no use for, such as a change of focus. -/
  | unrelated

/-- An event for the view. -/
inductive TrackedEvent where
  | window (event : WindowEvent)
  | pointer (event : PointerEvent)
  deriving DecidableEq

structure Tracker where
  scaleFactor : Float
  cursor : Point := {}
  maximized : Bool := false
  minimized : Bool := false

/-- The button in the terms of the view, which knows five of them. -/
def DesktopButton.mouseButton? : DesktopButton → Option MouseButton
  | left => some .left
  | middle => some .middle
  | right => some .right
  | back => some .x1
  | forward => some .x2
  | other _ => none

namespace Tracker

/-- Whether a scale factor is a positive normal number, told by its bits: the
sign is clear, and the exponent is neither all zeros nor all ones. -/
def isValidScale (factor : Float) : Bool :=
  let head := factor.toBits >>> 52
  0 < head && head < 0x7FF

/-- The logical pixel of a physical coordinate. -/
def logical (v factor : Float) : Int32 := (v / factor).floor.toInt32

/-- Makes an event for the view of what the desktop reports, if it has a use
for it. A desktop does not count clicks, so each press is a single one. -/
def track (t : Tracker) : DesktopEvent → Except Fault (Option TrackedEvent × Tracker)
  | .resized => .ok (some (.window .sizeChanged), t)
  | .redrawRequested => .ok (some (.window .exposed), t)
  | .scaleFactorChanged factor => .ok (some (.window .sizeChanged), { t with scaleFactor := factor })
  | .cursorMoved x y =>
    if isValidScale t.scaleFactor then
      let cursor : Point := ⟨logical x t.scaleFactor, logical y t.scaleFactor⟩
      .ok (some (.pointer (.motion cursor)), { t with cursor })
    else .error .invalidScale
  | .mouseInput pressed button =>
    .ok (button.mouseButton?.map fun b =>
      .pointer (if pressed then .down t.cursor b 1 else .up t.cursor b 1), t)
  | .unrelated => .ok (none, t)

/-- Compares a polled window state with the last one and gives the event for
the change, if there is one to report. -/
def poll (t : Tracker) (maximized minimized : Bool) : Option WindowEvent × Tracker :=
  let event :=
    if minimized && !t.minimized then some .minimized
    else if maximized && !t.maximized then some .maximized
    else if (t.maximized || t.minimized) && !maximized && !minimized then some .restored
    else none
  (event, { t with maximized, minimized })

end Tracker

end RemoteView
