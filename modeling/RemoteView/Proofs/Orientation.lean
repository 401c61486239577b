/-
An orientation told by what it does to the frame: the two axes may change places, and
each of them may run backwards. `Orientation.transform_eq` puts the transform of all
orientations in these terms.
-/
import RemoteView.Orientation

namespace RemoteView

/-- Whether the turn makes the x axis of the frame run backwards over the content. -/
def Turn.mirrorsX : Turn → Bool
  | deg180 | deg270 => true
  | deg0 | deg90 => false

/-- Whether the turn makes the y axis of the frame run backwards over the content. -/
def Turn.mirrorsY : Turn → Bool
  | deg90 | deg180 => true
  | deg0 | deg270 => false

namespace Orientation

/-- A flip comes before the turn and is about the x axis of the frame alone. -/
def mirrorsX (o : Orientation) : Bool := o.flipped ^^ o.turn.mirrorsX

def mirrorsY (o : Orientation) : Bool := o.turn.mirrorsY

/-- A coordinate on an axis of `n` pixels, measured from the far edge if the axis is
mirrored. -/
def frameAxis (mirrored : Bool) (n : UInt32) (v : Int32) : Except Fault Int32 :=
  if mirrored then Checked.sub n.toInt32 v else return v

/-- Each axis of the frame shows one axis of the content, forwards or backwards. -/
theorem transform_eq (o : Orientation) (p : Point) (content : Size) :
    o.transform p content = do
      let frame := o.orientedSize content
      let x ← frameAxis o.mirrorsX frame.width (if o.isSwap then p.y else p.x)
      let y ← frameAxis o.mirrorsY frame.height (if o.isSwap then p.x else p.y)
      return ⟨x, y⟩ := by
  obtain ⟨flipped, turn⟩ := o
  cases flipped with
  | false => cases turn <;> rfl
  | true => cases turn <;> rfl

theorem swapped_swapped (s : Size) : s.swapped.swapped = s := rfl

/-- The content of a frame, turned back, is the frame again. -/
theorem orientedSize_orientedSize (o : Orientation) (s : Size) : o.orientedSize (o.orientedSize s) = s := by
  unfold orientedSize
  split
  · exact swapped_swapped s
  · rfl

/-- Turning exchanges the dimensions of a size, and neither of them is left out. -/
theorem isEmpty_orientedSize (o : Orientation) (s : Size) : (o.orientedSize s).isEmpty = s.isEmpty := by
  unfold orientedSize
  split
  · exact Bool.or_comm _ _
  · rfl

end Orientation

end RemoteView
