/-
Sizes, points and rectangles, in machine words: a size counts pixels and is
unsigned, a point or a rectangle can lie left of or above its origin and is
signed. Sizes and points have a form in JSON, with their fields by name. The far
edges of a rectangle are exclusive. An edge is a sum of two words, so asking for
it can fault.
-/
import RemoteView.Checked
import RemoteView.Json.Record
import RemoteView.Json.Writer

namespace RemoteView

/-- Pixel dimensions of a window, a drawing surface, a frame or its content. -/
structure Size where
  width : UInt32 := 0
  height : UInt32 := 0
  deriving DecidableEq, Inhabited

namespace Size

/-- A size with no pixels. -/
def isEmpty (s : Size) : Bool := s.width == 0 || s.height == 0

/-- The size after a quarter turn. -/
def swapped (s : Size) : Size := ⟨s.height, s.width⟩

/-- The largest size inside both. -/
def inter (s bound : Size) : Size := ⟨min s.width bound.width, min s.height bound.height⟩

/-- The dimensions as text, such as `1920x1080`. -/
def text (s : Size) : String := s!"{s.width.toNat}x{s.height.toNat}"

def ofJson? (d : Json.Document) : Option Size := do
  let fields ← d.record? ["width", "height"]
  return ⟨← Json.field? "width" Json.uint32? fields, ← Json.field? "height" Json.uint32? fields⟩

def toJson (s : Size) : Json.Value :=
  .object [("width", .ofInt s.width.toNat), ("height", .ofInt s.height.toNat)]

end Size

/-- A position in some coordinate space; `y` grows downwards. -/
structure Point where
  x : Int32 := 0
  y : Int32 := 0
  deriving DecidableEq, Inhabited

namespace Point

def ofJson? (d : Json.Document) : Option Point := do
  let fields ← d.record? ["x", "y"]
  return ⟨← Json.field? "x" Json.int32? fields, ← Json.field? "y" Json.int32? fields⟩

def toJson (p : Point) : Json.Value :=
  .object [("x", .ofInt p.x.toInt), ("y", .ofInt p.y.toInt)]

end Point

/-- An axis-aligned rectangle with its corner at `(x, y)`. -/
structure Rect where
  x : Int32 := 0
  y : Int32 := 0
  w : Int32 := 0
  h : Int32 := 0
  deriving DecidableEq, Inhabited

namespace Rect

/-- The first column past the rectangle. -/
def right (r : Rect) : Except Fault Int32 := Checked.add r.x r.w

/-- The first row past the rectangle. -/
def bottom (r : Rect) : Except Fault Int32 := Checked.add r.y r.h

/-- A rectangle without a single pixel. -/
def isEmpty (r : Rect) : Bool := r.w ≤ 0 || r.h ≤ 0

/-- Whether column `x` runs through the rectangle. The right edge is asked for
only when `x` is not already left of it. -/
def containsX (r : Rect) (x : Int32) : Except Fault Bool :=
  if x < r.x then return false
  else return x < (← r.right)

/-- Whether the point lies inside. Edges are asked for one at a time, left to
right and then top to bottom, so a point that an earlier edge excludes does not
need the later ones. -/
def contains (r : Rect) (p : Point) : Except Fault Bool := do
  if !(← r.containsX p.x) || p.y < r.y then return false
  else return p.y < (← r.bottom)

end Rect

end RemoteView
