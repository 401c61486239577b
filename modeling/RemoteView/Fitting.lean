/-
Fitting content into windows and drawing surfaces while its proportions are
kept. Sizes are scaled with exact products and a quotient rounded down, then
cut to a machine word.

`optimalSize` gives the window that shows content without borders;
`contentRect` gives the place of the content on a drawing surface, next to the
column that a panel takes on the right.
-/
import RemoteView.Geometry

namespace RemoteView.Fitting

/-- Free space kept around a window when it is held inside a display. -/
def displayMargins : Nat := 96

/-- The part of a display that a window should stay within, given the area that
the display leaves usable. -/
def preferredBounds (usable : Rect) : Size :=
  let shrink (v : Int32) := UInt32.ofNat (v.toInt.toNat - displayMargins)
  ⟨shrink usable.w, shrink usable.h⟩

/-- The value times `num / den`, rounded down; unchanged if `den` is zero. -/
def scale (value num den : UInt32) : UInt32 :=
  if den = 0 then value else UInt32.ofNat (value.toNat * num.toNat / den.toNat)

/-- Whether one dimension of `current` is what the other makes it through the
proportions of the content. -/
def isOptimal (current content : Size) : Bool :=
  !content.isEmpty &&
    (current.height == scale current.width content.height content.width ||
      current.width == scale current.height content.width content.height)

/-- Whether content fitted into `area` takes the full width, which leaves
borders above and below. -/
def keepsWidth (area content : Size) : Bool :=
  content.width.toNat * area.height.toNat > content.height.toNat * area.width.toNat

/-- The area without its borders: one dimension is kept and the other follows
from the content. -/
def cropped (area content : Size) : Size :=
  if keepsWidth area content then { area with height := scale content.height area.width content.width }
  else { area with width := scale content.width area.height content.height }

/-- The window that shows content without borders, made from `current` after it
was brought inside the display. A window that is optimal already stays, and so
does any window when there is no content. -/
def optimalSize (current content : Size) (bounds : Option Size) : Size :=
  if content.isEmpty then current
  else
    let window := bounds.elim current current.inter
    if isOptimal window content then window else cropped window content

/-- The size of a window when its first frame arrives. A dimension that was
asked for is taken and gives the other; with none, the content itself is fitted
into the display. -/
def initialSize (content : Size) (width height : Option UInt16) (bounds : Option Size) : Size :=
  match width, height with
  | none, none => optimalSize content content bounds
  | some w, some h => ⟨w.toUInt32, h.toUInt32⟩
  | some w, none => ⟨w.toUInt32, scale w.toUInt32 content.height content.width⟩
  | none, some h => ⟨scale h.toUInt32 content.width content.height, h.toUInt32⟩

/-- The value held between zero and `upper`, which must not be negative. -/
def clamp (value upper : Int32) : Except Fault Int32 :=
  if upper < 0 then .error (.emptyRange upper)
  else if value < 0 then .ok 0
  else if upper < value then .ok upper
  else .ok value

/-- Half of the space that remains of `whole` after `used` and `reserved`,
rounded toward zero. -/
def halfRest (whole used reserved : Int32) : Except Fault Int32 :=
  return (← Checked.sub (← Checked.sub whole used) reserved) / 2

/-- The place of the content on a drawing surface of which `panelWidth` columns
are reserved on the right. Content and panel are centred together, and no side
of the result is shorter than one pixel, so that it can serve as a divisor. -/
def contentRect (drawable content : Size) (panelWidth : Int32) : Except Fault Rect := do
  if content.isEmpty then throw .contentSizeUnknown
  let fullWidth := drawable.width.toInt32
  let fullHeight := drawable.height.toInt32
  let panel ← clamp panelWidth fullWidth
  let room := max (← Checked.sub fullWidth panel) 1
  let area : Size := ⟨room.toUInt32, drawable.height⟩
  let rect : Rect ←
    if isOptimal area content then
      pure { x := ← halfRest fullWidth room panel, y := 0, w := room, h := fullHeight }
    else if keepsWidth area content then
      let h := (scale content.height room.toUInt32 content.width).toInt32
      pure { x := ← halfRest fullWidth room panel, y := ← halfRest fullHeight h 0, w := room, h }
    else
      let w := (scale content.width drawable.height content.height).toInt32
      pure { x := ← halfRest fullWidth w panel, y := 0, w, h := fullHeight }
  return { rect with w := max rect.w 1, h := max rect.h 1 }

/-- The columns of a drawing surface that a panel takes, given its width in
window pixels; none when it is hidden. -/
def panelWidthScaled (visible : Bool) (logical : UInt32) (window drawable : Size) : Int32 :=
  if visible then (scale logical drawable.width window.width).toInt32 else 0

/-- The window that keeps its zoom when its content changes from one size to
another. -/
def resizeTarget (window old new : Size) : Size :=
  ⟨scale window.width new.width old.width, scale window.height new.height old.height⟩

/-- The position that keeps the centre of a window which shrinks. A dimension
that grows keeps its near edge. -/
def centeredPosition (position : Point) (current shrunk : Size) : Except Fault Point := do
  let half (whole part : UInt32) := Int32.ofNat ((whole.toNat - part.toNat) / 2)
  return ⟨← Checked.add position.x (half current.width shrunk.width),
    ← Checked.add position.y (half current.height shrunk.height)⟩

end RemoteView.Fitting
