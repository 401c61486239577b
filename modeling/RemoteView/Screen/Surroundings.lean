/-
A host that is kept in memory. Its window takes every size and position that it
is asked for, and nothing else changes it; its drawing surface follows from the
window by a fixed ratio, unless it has a size of its own. How other requests go
is part of its state, and its clock stands still.
-/
import RemoteView.Screen.Host

namespace RemoteView

structure Surroundings where
  size : Size := ⟨800, 600⟩
  /-- Physical pixels for each pixel of the window, as a fraction. -/
  density : Nat × Nat := (1, 1)
  /-- A size of the drawing surface that does not follow from the window. -/
  drawable : Option Size := none
  position : Point := {}
  bounds : Option Rect := some ⟨0, 0, 1920, 1176⟩
  failFullscreen : Bool := false
  failCursor : Bool := false
  failOnTop : Bool := false
  failEvents : Bool := false
  textureSizeOutcome : Outcome := .ok
  updateOutcome : Outcome := .ok

namespace Surroundings

/-- The size of the drawing surface. -/
def drawableSize (w : Surroundings) : Size :=
  let scale (v : UInt32) := UInt32.ofNat (v.toNat * w.density.1 / w.density.2)
  w.drawable.getD ⟨scale w.size.width, scale w.size.height⟩

/-- The coordinate after a request. A window that is to be centred stays where
it is, as these surroundings have no screen to centre it on. -/
def moved (old : Int32) : Coordinate → Int32
  | .fixed new => new
  | .centered => old

/-- An error if `fails`. -/
def outcomeOf (fails : Bool) : Outcome := if fails then .error else .ok

/-- Carries out a request. -/
def perform (r : Request) (w : Surroundings) : Outcome × Surroundings :=
  match r with
  | .setSize size => (.ok, { w with size })
  | .setPosition x y => (.ok, { w with position := ⟨moved w.position.x x, moved w.position.y y⟩ })
  | .setFullscreen _ => (outcomeOf w.failFullscreen, w)
  | .setOnTop _ => (outcomeOf w.failOnTop, w)
  | .setCursor _ => (outcomeOf w.failCursor, w)
  | .send _ => (outcomeOf w.failEvents, w)
  | .setTextureSize _ => (w.textureSizeOutcome, w)
  | .updateTexture _ => (w.updateOutcome, w)
  | .restoreWindow | .showWindow | .hideWindow | .raiseWindow | .render _ | .forward _ => (.ok, w)

/-- The host that these surroundings make. -/
def host : Host Surroundings where
  windowSize := size
  drawableSize := drawableSize
  windowPosition := position
  usableBounds := bounds
  now := fun _ => 0
  perform := perform

end Surroundings

end RemoteView
