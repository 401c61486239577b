/-
A pointer over the content points into the frame (`Mapping.windowToPosition_inside`),
for every orientation and wherever the content lies.
-/
import RemoteView.Proofs.Geometry
import RemoteView.Proofs.Mapping.Bounds
import RemoteView.Proofs.Orientation

namespace RemoteView

/-- The coordinates of the pixels on an axis of `n` pixels. On a mirrored axis, which is
measured from its far edge, they start at one. -/
def OnAxis (mirrored : Bool) (n : UInt32) (v : Int32) : Prop :=
  if mirrored then 1 ≤ v.toInt ∧ v.toInt ≤ n.toNat else 0 ≤ v.toInt ∧ v.toInt ≤ n.toNat - 1

/-- The point is one of the pixels of a frame that is seen in this orientation. -/
structure Orientation.Points (o : Orientation) (frame : Size) (p : Point) : Prop where
  x : OnAxis o.mirrorsX frame.width p.x
  y : OnAxis o.mirrorsY frame.height p.y

namespace Mapping

/-- A drawing pixel of the content lies on a pixel of the content axis. The quotient
rounds toward zero, which is down here. -/
theorem contentAxis_inside {v origin length r : Int32} {extent : UInt32}
    (hextent : 1 ≤ extent.toNat ∧ extent.toNat ≤ 65535) (hleft : origin.toInt ≤ v.toInt)
    (hright : v.toInt < origin.toInt + length.toInt) (h : contentAxis v origin length extent = .ok r) :
    0 ≤ r.toInt ∧ r.toInt < extent.toNat := by
  simp only [contentAxis, Except.bind_ok_iff, Except.pure_ok_iff] at h
  obtain ⟨n, hn, rfl⟩ := h
  obtain ⟨rfl, -, -⟩ := Checked.within64_eq_ok_iff.mp hn
  have hlength : 0 < length.toInt := by omega
  have hproduct : 0 ≤ (v.toInt - origin.toInt) * extent.toNat := Int.mul_nonneg (by omega) (by omega)
  rw [Int.tdiv_eq_ediv_of_nonneg hproduct]
  have hlow : 0 ≤ (v.toInt - origin.toInt) * extent.toNat / length.toInt := Int.ediv_nonneg hproduct (by omega)
  have hhigh : (v.toInt - origin.toInt) * extent.toNat / length.toInt < extent.toNat := by
    refine Int.ediv_lt_of_lt_mul hlength ?_
    rw [Int.mul_comm]
    exact Int.mul_lt_mul_of_pos_left (by omega) (by omega)
  rw [Int32.toInt_ofInt_of_le (by omega) (by omega)]
  exact ⟨hlow, hhigh⟩

theorem frameAxis_inside {mirrored : Bool} {n : UInt32} {v r : Int32} (hn : n.toNat ≤ 65535)
    (hv : 0 ≤ v.toInt ∧ v.toInt < n.toNat) (h : Orientation.frameAxis mirrored n v = .ok r) :
    OnAxis mirrored n r := by
  cases mirrored with
  | false =>
    obtain rfl := Except.pure_ok_iff.mp h
    show 0 ≤ v.toInt ∧ v.toInt ≤ n.toNat - 1
    omega
  | true =>
    have hr : r.toInt = n.toInt32.toInt - v.toInt := Checked.sub_eq_ok_iff.mp h
    rw [Checked.toInt_toInt32 (by omega)] at hr
    show 1 ≤ r.toInt ∧ r.toInt ≤ n.toNat
    omega

theorem transform_inside {o : Orientation} {p q : Point} {content : Size} (hc : content.isValidFrame = true)
    (hx : 0 ≤ p.x.toInt ∧ p.x.toInt < content.width.toNat)
    (hy : 0 ≤ p.y.toInt ∧ p.y.toInt < content.height.toNat) (h : o.transform p content = .ok q) :
    o.Points (o.orientedSize content) q := by
  rw [← Orientation.isValidFrame_orientedSize (o := o)] at hc
  have hframe := Size.frameLike_of_valid hc
  simp only [Orientation.transform_eq, Except.bind_ok_iff, Except.pure_ok_iff] at h
  obtain ⟨x, hx', y, hy', rfl⟩ := h
  refine ⟨frameAxis_inside hframe.width ?_ hx', frameAxis_inside hframe.height ?_ hy'⟩
  · unfold Orientation.orientedSize
    split
    · exact hy
    · exact hx
  · unfold Orientation.orientedSize
    split
    · exact hx
    · exact hy

theorem drawableToFrame_inside {m : Mapping} {p q : Point} (hc : m.contentSize.isValidFrame = true)
    (hp : m.contentRect.Covers p) (h : m.drawableToFrame p = .ok q) : m.orientation.Points m.frameSize q := by
  simp only [drawableToFrame] at h
  split at h
  next => cases h
  next =>
    simp only [Except.bind_ok_iff] at h
    obtain ⟨x, hx, y, hy, h⟩ := h
    obtain ⟨hwidth, hheight⟩ := Size.isValidFrame_iff.mp hc
    have hx := contentAxis_inside hwidth hp.left hp.right hx
    have hy := contentAxis_inside hheight hp.top hp.bottom hy
    exact transform_inside hc hx hy h

/-- A position is measured in the frame of the mapping, and if the drawing pixel under
the pointer belongs to the content, it is that of a pixel of this frame. -/
theorem windowToPosition_inside {m : Mapping} {p : Point} {position : Position}
    (hc : m.contentSize.isValidFrame = true) (h : m.windowToPosition p = .ok position) : position.frameSize = m.frameSize ∧
      (m.contentRect.Covers (m.windowToDrawable p) → m.orientation.Points m.frameSize position.point) := by
  simp only [windowToPosition, Except.bind_ok_iff, Except.pure_ok_iff] at h
  obtain ⟨q, hq, rfl⟩ := h
  exact ⟨rfl, fun hp => drawableToFrame_inside hc hp hq⟩

end Mapping

end RemoteView
