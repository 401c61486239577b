/-
Mapping pointer coordinates from the window to the frame of the device. A point
is scaled to drawing pixels, then measured inside the content rectangle, and
last turned as the orientation says (`Mapping.windowToFrame`).

On the receiving side a position can arrive that was measured in a frame of an
earlier size; `Position.rescale` carries it over to the current size.
-/
import RemoteView.Orientation
import RemoteView.Pointer

namespace RemoteView

/-- All that decides where a window point lies in the frame, taken at one
moment: the scale of a window changes as it moves between displays. -/
structure Mapping where
  windowSize : Size
  drawableSize : Size
  contentRect : Rect
  contentSize : Size
  orientation : Orientation
  deriving DecidableEq

namespace Mapping

/-- A coordinate times `num / den`, rounded toward zero; unchanged if `den` is
zero, which a window has before it is shown. -/
def scaleAxis (v : Int32) (num den : UInt32) : Int32 :=
  if den = 0 then v else Int32.ofInt ((v.toInt * num.toNat).tdiv den.toNat)

/-- A window point in drawing pixels. -/
def scalePoint (p : Point) (window drawable : Size) : Point :=
  ⟨scaleAxis p.x drawable.width window.width, scaleAxis p.y drawable.height window.height⟩

def windowToDrawable (m : Mapping) (p : Point) : Point := scalePoint p m.windowSize m.drawableSize

/-- The coordinate `v` measured from `origin`, where `length` drawing pixels
show `extent` pixels of content. -/
def contentAxis (v origin length : Int32) (extent : UInt32) : Except Fault Int32 :=
  return Int32.ofInt ((← Checked.within64 .mulOverflow ((v.toInt - origin.toInt) * extent.toNat)).tdiv
    length.toInt)

/-- The frame point that is seen at drawing pixel `p`. A point outside the
content maps to one outside the frame. -/
def drawableToFrame (m : Mapping) (p : Point) : Except Fault Point := do
  let r := m.contentRect
  if r.w = 0 || r.h = 0 then throw .contentNotLaidOut
  let x ← contentAxis p.x r.x r.w m.contentSize.width
  let y ← contentAxis p.y r.y r.h m.contentSize.height
  m.orientation.transform ⟨x, y⟩ m.contentSize

def windowToFrame (m : Mapping) (p : Point) : Except Fault Point :=
  m.drawableToFrame (m.windowToDrawable p)

/-- The size of the frame that mapped points lie in. -/
def frameSize (m : Mapping) : Size := m.orientation.orientedSize m.contentSize

def windowToPosition (m : Mapping) (p : Point) : Except Fault Position :=
  return ⟨← m.windowToFrame p, m.frameSize⟩

end Mapping

/-- One coordinate carried from a frame side of `old` pixels to one of `new`, in
single precision and rounded to the nearest pixel, halves away from zero. What
does not fit a word stops at its end. -/
def Position.rescaleAxis (v : Int32) (old new : UInt32) : Int32 :=
  (v.toFloat32 * (new.toFloat32 / old.toFloat32)).round.toInt32

/-- The point in the current video of a position that was measured in a frame of
some other size. Positions in frames of the same size, or of no size, need no
change. -/
def Position.rescale (p : Position) (video : Size) : Point :=
  if p.frameSize = video || p.frameSize.isEmpty then p.point
  else ⟨rescaleAxis p.point.x p.frameSize.width video.width,
    rescaleAxis p.point.y p.frameSize.height video.height⟩

end RemoteView
