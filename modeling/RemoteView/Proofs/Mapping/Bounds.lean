/-
Pointer mapping stays within bounds. The margin is small: a coordinate of 32767
drawing pixels over one pixel of content rectangle, in content of 65535 pixels,
comes within 32768 of the largest word after it was measured from the far edge.
-/
import RemoteView.Frame.Feed
import RemoteView.Mapping
import RemoteView.Proofs.Fitting.Bounds

namespace RemoteView

/-- No side is longer than that of a frame, 65535 pixels. -/
structure Size.FrameLike (s : Size) : Prop where
  width : s.width.toNat ≤ 65535
  height : s.height.toNat ≤ 65535

namespace Size

theorem isValidFrame_iff {s : Size} :
    s.isValidFrame = true ↔ (1 ≤ s.width.toNat ∧ s.width.toNat ≤ 65535) ∧ 1 ≤ s.height.toNat ∧
      s.height.toNat ≤ 65535 := by
  simp only [isValidFrame, maxFrameDimension, Bool.and_eq_true, decide_eq_true_eq, UInt32.le_iff_toNat_le,
    and_assoc]
  rfl

theorem isEmpty_of_valid {s : Size} (h : s.isValidFrame = true) : s.isEmpty = false := by
  have h := isValidFrame_iff.mp h
  simp only [isEmpty, Bool.or_eq_false_iff, beq_eq_false_iff_ne, ne_eq]
  refine ⟨fun he => ?_, fun he => ?_⟩
  · simp [he] at h
  · simp [he] at h

theorem frameLike_of_valid {s : Size} (h : s.isValidFrame = true) : s.FrameLike :=
  ⟨(isValidFrame_iff.mp h).1.2, (isValidFrame_iff.mp h).2.2⟩

end Size

theorem Orientation.isValidFrame_orientedSize {o : Orientation} {s : Size} :
    (o.orientedSize s).isValidFrame = s.isValidFrame := by
  unfold orientedSize
  split
  · simp only [Size.isValidFrame, Size.swapped]
    grind
  · rfl

/-- The point lies in a window of this size. -/
def Point.inside (p : Point) (size : Size) : Bool :=
  0 ≤ p.x.toInt && p.x.toInt < size.width.toNat && 0 ≤ p.y.toInt && p.y.toInt < size.height.toNat

namespace Mapping

theorem scaleAxis_bounds {v : Int32} {num den : UInt32} (hv : 0 ≤ v.toInt ∧ v.toInt < den.toNat)
    (hnum : num.toNat ≤ 32767) : 0 ≤ (scaleAxis v num den).toInt ∧ (scaleAxis v num den).toInt ≤ 32767 := by
  have hden : den ≠ 0 := fun he => by
    rw [he, UInt32.toNat_zero] at hv
    omega
  have hprod : (0 : Int) ≤ v.toInt * num.toNat := Int.mul_nonneg hv.1 (Int.natCast_nonneg _)
  have hle : v.toInt * num.toNat / den.toNat ≤ num.toNat := by
    refine Int.ediv_le_of_le_mul (by omega) ?_
    rw [Int.mul_comm]
    exact Int.mul_le_mul_of_nonneg_left (by omega) (by omega)
  have hnonneg : 0 ≤ v.toInt * num.toNat / den.toNat := Int.ediv_nonneg hprod (by omega)
  rw [scaleAxis, if_neg hden, Int.tdiv_eq_ediv_of_nonneg hprod,
    Int32.toInt_ofInt_of_le (by omega) (by omega)]
  omega

/-- The bound of a content coordinate, before it is turned. -/
def axisBound : Int := 32767 * 65535

theorem contentAxis_yields {v origin length : Int32} {extent : UInt32}
    (hv : 0 ≤ v.toInt ∧ v.toInt ≤ 32767) (horigin : 0 ≤ origin.toInt ∧ origin.toInt ≤ 32767)
    (hextent : extent.toNat ≤ 65535) :
    (contentAxis v origin length extent).Yields fun r => -axisBound ≤ r.toInt ∧ r.toInt ≤ axisBound := by
  have hhigh : (v.toInt - origin.toInt) * extent.toNat ≤ 32767 * extent.toNat :=
    Int.mul_le_mul_of_nonneg_right (by omega) (by omega)
  have hlow : -32767 * extent.toNat ≤ (v.toInt - origin.toInt) * extent.toNat :=
    Int.mul_le_mul_of_nonneg_right (by omega) (by omega)
  refine (Checked.within64_yields (by omega) (by omega)).bind fun n _ hn => .pure ?_
  rw [← hn] at hhigh hlow
  have habs := Int.natAbs_tdiv_le_natAbs n length.toInt
  unfold axisBound
  rw [Int32.toInt_ofInt_of_le (by omega) (by omega)]
  omega

theorem transform_yields {o : Orientation} {p : Point} {content : Size} (hc : content.FrameLike)
    (hx : -axisBound ≤ p.x.toInt ∧ p.x.toInt ≤ axisBound)
    (hy : -axisBound ≤ p.y.toInt ∧ p.y.toInt ≤ axisBound) :
    (o.transform p content).Yields fun _ => True := by
  unfold axisBound at hx hy
  have hw := hc.width
  have hh := hc.height
  have hwidth := Checked.toInt_toInt32 (u := content.width) (by omega)
  have hheight := Checked.toInt_toInt32 (u := content.height) (by omega)
  have hfromRight : (Checked.sub content.width.toInt32 p.x).Yields fun _ => True :=
    (Checked.sub_yields (by omega) (by omega)).mono fun _ _ => trivial
  have hfromBottom : (Checked.sub content.height.toInt32 p.y).Yields fun _ => True :=
    (Checked.sub_yields (by omega) (by omega)).mono fun _ _ => trivial
  rcases o with ⟨flipped, turn⟩
  cases flipped with
  | false =>
    cases turn with
    | deg0 => exact .pure trivial
    | deg90 => exact hfromRight.bind fun _ _ _ => .pure trivial
    | deg180 => exact hfromRight.bind fun _ _ _ => hfromBottom.bind fun _ _ _ => .pure trivial
    | deg270 => exact hfromBottom.bind fun _ _ _ => .pure trivial
  | true =>
    cases turn with
    | deg0 => exact hfromRight.bind fun _ _ _ => .pure trivial
    | deg90 => exact hfromBottom.bind fun _ _ _ => hfromRight.bind fun _ _ _ => .pure trivial
    | deg180 => exact hfromBottom.bind fun _ _ _ => .pure trivial
    | deg270 => exact .pure trivial

/-- What a mapping needs so that every point of the window has a place in the frame. -/
structure Usable (m : Mapping) : Prop where
  drawable : m.drawableSize.Modest
  rect : m.contentRect.Placed
  content : m.contentSize.FrameLike

theorem windowToDrawable_bounds {m : Mapping} (hd : m.drawableSize.Modest) {p : Point}
    (hp : p.inside m.windowSize = true) :
    (0 ≤ (m.windowToDrawable p).x.toInt ∧ (m.windowToDrawable p).x.toInt ≤ 32767) ∧
      0 ≤ (m.windowToDrawable p).y.toInt ∧ (m.windowToDrawable p).y.toInt ≤ 32767 := by
  simp only [Point.inside, Bool.and_eq_true, decide_eq_true_eq] at hp
  obtain ⟨⟨⟨hx, hx'⟩, hy⟩, hy'⟩ := hp
  exact ⟨scaleAxis_bounds ⟨hx, hx'⟩ hd.width, scaleAxis_bounds ⟨hy, hy'⟩ hd.height⟩

theorem windowToPosition_yields {m : Mapping} (h : m.Usable) {p : Point}
    (hp : p.inside m.windowSize = true) : (m.windowToPosition p).Yields fun _ => True := by
  have ⟨hx, hy⟩ := windowToDrawable_bounds h.drawable hp
  have hw : m.contentRect.w ≠ 0 := fun he => by
    have := h.rect.w
    simp [he] at this
  have hh : m.contentRect.h ≠ 0 := fun he => by
    have := h.rect.h
    simp [he] at this
  have hframe : (m.windowToFrame p).Yields fun _ => True := by
    simp only [windowToFrame, drawableToFrame]
    rw [if_neg (by simp [hw, hh])]
    refine (contentAxis_yields hx h.rect.x h.content.width).bind ?_
    intro x _ hx
    refine (contentAxis_yields hy h.rect.y h.content.height).bind ?_
    intro y _ hy
    exact transform_yields h.content hx hy
  exact hframe.bind fun _ _ _ => .pure trivial

end Mapping

end RemoteView
