/-
Drawing pixels and the pixels of the content. A drawing pixel of the content shows one of
its pixels, and the way over the content is never back: to the right and down in the drawing
is forwards along one axis of the frame, or backwards if that axis is mirrored. Where the
content is not drawn smaller than it is, no pixel of it is left out
(`Mapping.drawableToFrame_pixels`).
-/
import RemoteView.Proofs.Mapping.Inside
import RemoteView.Proofs.Orientation.Group

namespace RemoteView

/-- The point is one of the pixels of a size. -/
structure Size.Covers (s : Size) (p : Point) : Prop where
  x : 0 ≤ p.x.toInt ∧ p.x.toInt < s.width.toNat
  y : 0 ≤ p.y.toInt ∧ p.y.toInt < s.height.toNat

theorem Size.Covers.holds {s : Size} {p : Point} (h : s.Covers p) : s.Holds p :=
  ⟨⟨h.x.1, Int.le_of_lt h.x.2⟩, ⟨h.y.1, Int.le_of_lt h.y.2⟩⟩

/-! ## The axes of the content in the frame -/

/-- A coordinate that does not go back, or does not go on if its axis is mirrored. -/
def Along (mirrored : Bool) (v v' : Int32) : Prop := if mirrored then v' ≤ v else v ≤ v'

namespace Orientation

/-- The coordinate of a frame point on the axis that shows the columns of the content. -/
def column (o : Orientation) (q : Point) : Int32 := if o.isSwap then q.y else q.x

/-- The coordinate of a frame point on the axis that shows the rows of the content. -/
def row (o : Orientation) (q : Point) : Int32 := if o.isSwap then q.x else q.y

def mirrorsColumns (o : Orientation) : Bool := if o.isSwap then o.mirrorsY else o.mirrorsX

def mirrorsRows (o : Orientation) : Bool := if o.isSwap then o.mirrorsX else o.mirrorsY

/-- What a way to the right over the content is in the frame. -/
def Rightward (o : Orientation) (q q' : Point) : Prop :=
  Along o.mirrorsColumns (o.column q) (o.column q') ∧ o.row q' = o.row q

/-- What a way down over the content is in the frame. -/
def Downward (o : Orientation) (q q' : Point) : Prop :=
  Along o.mirrorsRows (o.row q) (o.row q') ∧ o.column q' = o.column q

/-- The transform, told for each axis of the content. -/
theorem transform_ok_iff_column_row {o : Orientation} {p q : Point} {s : Size} :
    o.transform p s = .ok q ↔
      (o.column q).toInt = mirror o.mirrorsColumns s.width.toInt32.toInt p.x.toInt ∧
        (o.row q).toInt = mirror o.mirrorsRows s.height.toInt32.toInt p.y.toInt := by
  rw [transform_ok_iff]
  unfold column row mirrorsColumns mirrorsRows orientedSize
  split
  · exact and_comm
  · exact Iff.rfl

theorem along_mirror {mirrored : Bool} {n : Int} {v v' r r' : Int32} (hv : v ≤ v')
    (hr : r.toInt = mirror mirrored n v.toInt) (hr' : r'.toInt = mirror mirrored n v'.toInt) :
    Along mirrored r r' := by
  have hv := Int32.le_iff_toInt_le.mp hv
  cases mirrored with
  | false =>
    have hforwards : r.toInt ≤ r'.toInt := by rwa [hr, hr']
    exact Int32.le_iff_toInt_le.mpr hforwards
  | true =>
    have hbackwards : r'.toInt ≤ r.toInt := by
      rw [hr, hr']
      exact Int.sub_le_sub_left hv n
    exact Int32.le_iff_toInt_le.mpr hbackwards

variable {o : Orientation} {p p' q q' : Point} {s : Size}

theorem transform_rightward (h : o.transform p s = .ok q) (h' : o.transform p' s = .ok q')
    (hx : p.x ≤ p'.x) (hy : p'.y = p.y) : o.Rightward q q' := by
  obtain ⟨hcolumn, hrow⟩ := transform_ok_iff_column_row.mp h
  obtain ⟨hcolumn', hrow'⟩ := transform_ok_iff_column_row.mp h'
  refine ⟨along_mirror hx hcolumn hcolumn', Int32.toInt_inj.mp ?_⟩
  rw [hrow, hrow', hy]

theorem transform_downward (h : o.transform p s = .ok q) (h' : o.transform p' s = .ok q')
    (hy : p.y ≤ p'.y) (hx : p'.x = p.x) : o.Downward q q' := by
  obtain ⟨hcolumn, hrow⟩ := transform_ok_iff_column_row.mp h
  obtain ⟨hcolumn', hrow'⟩ := transform_ok_iff_column_row.mp h'
  refine ⟨along_mirror hy hrow hrow', Int32.toInt_inj.mp ?_⟩
  rw [hcolumn, hcolumn', hx]

end Orientation

/-! ## One axis of the drawing -/

/-- A scale that does not make anything smaller leaves no number out: `c` is the quotient of
the first number whose product is not below that of `c`. -/
theorem exists_quotient {n m c : Int} (hm : m ≤ n) (hc : 0 ≤ c ∧ c < m) :
    ∃ d, 0 ≤ d ∧ d < n ∧ d * m / n = c := by
  have hpos : 0 < m := by omega
  obtain ⟨d, hd⟩ : ∃ d, d = (c * n + (m - 1)) / m := ⟨_, rfl⟩
  have hlow : d * m ≤ c * n + (m - 1) := hd ▸ Int.ediv_mul_le _ (by omega)
  have hhigh : c * n + (m - 1) < (d + 1) * m := hd ▸ Int.lt_ediv_add_one_mul_self _ hpos
  rw [Int.add_mul, Int.one_mul] at hhigh
  have hnext : d * m < (c + 1) * n := by
    rw [Int.add_mul, Int.one_mul]
    omega
  refine ⟨d, ?_, ?_, ?_⟩
  · rw [hd]
    exact Int.ediv_nonneg (Int.add_nonneg (Int.mul_nonneg hc.1 (by omega)) (by omega)) (by omega)
  · have hlast : (c + 1) * n ≤ m * n := Int.mul_le_mul_of_nonneg_right (by omega) (by omega)
    rw [Int.mul_comm m n] at hlast
    exact Int.lt_of_mul_lt_mul_right (Int.lt_of_lt_of_le hnext hlast) (by omega)
  · refine Int.le_antisymm (Int.lt_add_one_iff.mp (Int.ediv_lt_of_lt_mul (by omega) hnext)) ?_
    exact Int.le_ediv_of_mul_le (by omega) (by omega)

namespace Mapping

section Axis

variable {v v' origin length : Int32} {extent : UInt32}

/-- Over the content nothing overflows, and the quotient is rounded down. -/
theorem contentAxis_quotient (hextent : extent.toNat ≤ 2 ^ 31 - 1) (hleft : origin.toInt ≤ v.toInt)
    (hright : v.toInt < origin.toInt + length.toInt) :
    (contentAxis v origin length extent).Yields fun r =>
      r.toInt = (v.toInt - origin.toInt) * extent.toNat / length.toInt ∧
        0 ≤ r.toInt ∧ r.toInt ≤ extent.toNat := by
  have hlength := length.toInt_lt
  have hproduct : 0 ≤ (v.toInt - origin.toInt) * extent.toNat := Int.mul_nonneg (by omega) (by omega)
  have hle : (v.toInt - origin.toInt) * extent.toNat ≤ length.toInt * extent.toNat :=
    Int.mul_le_mul_of_nonneg_right (by omega) (by omega)
  have hbound : length.toInt * extent.toNat ≤ 2 ^ 31 * 2 ^ 31 :=
    Int.mul_le_mul (by omega) (by omega) (by omega) (by omega)
  have hlow : 0 ≤ (v.toInt - origin.toInt) * extent.toNat / length.toInt := Int.ediv_nonneg hproduct (by omega)
  have hhigh : (v.toInt - origin.toInt) * extent.toNat / length.toInt ≤ extent.toNat :=
    Int.ediv_le_of_le_mul (by omega) (by rwa [Int.mul_comm (extent.toNat : Int)])
  refine (Checked.within64_yields (by omega) (by omega)).bind fun n _ hn => .pure ?_
  rw [hn, Int.tdiv_eq_ediv_of_nonneg hproduct, Int32.toInt_ofInt_of_le (by omega) (by omega)]
  exact ⟨rfl, hlow, hhigh⟩

theorem contentAxis_mono {r r' : Int32} (hlength : 0 < length.toInt) (hv : v ≤ v')
    (hr : r.toInt = (v.toInt - origin.toInt) * extent.toNat / length.toInt)
    (hr' : r'.toInt = (v'.toInt - origin.toInt) * extent.toNat / length.toInt) : r ≤ r' := by
  have hv := Int32.le_iff_toInt_le.mp hv
  rw [Int32.le_iff_toInt_le, hr, hr']
  exact Int.ediv_le_ediv hlength (Int.mul_le_mul_of_nonneg_right (by omega) (by omega))

/-- On an axis that is not drawn shorter than it is, every pixel is shown somewhere. -/
theorem contentAxis_onto {c : Int32} (hedge : origin.toInt + length.toInt < 2 ^ 31)
    (hextent : extent.toNat ≤ length.toInt) (hc : 0 ≤ c.toInt ∧ c.toInt < extent.toNat) :
    ∃ v : Int32, (origin.toInt ≤ v.toInt ∧ v.toInt < origin.toInt + length.toInt) ∧
      contentAxis v origin length extent = .ok c := by
  have hlength := length.toInt_lt
  have horigin := origin.le_toInt
  obtain ⟨d, hlow, hhigh, hquotient⟩ := exists_quotient hextent hc
  have hv : (Int32.ofInt (origin.toInt + d)).toInt = origin.toInt + d :=
    Int32.toInt_ofInt_of_le (by omega) (by omega)
  have hin : origin.toInt ≤ (Int32.ofInt (origin.toInt + d)).toInt ∧
      (Int32.ofInt (origin.toInt + d)).toInt < origin.toInt + length.toInt := by omega
  have hsigned : extent.toNat ≤ 2 ^ 31 - 1 := by omega
  obtain ⟨r, hr, hval, -⟩ := contentAxis_quotient hsigned hin.1 hin.2
  have hd : origin.toInt + d - origin.toInt = d := by omega
  rw [hv, hd, hquotient] at hval
  exact ⟨_, hin, Int32.toInt_inj.mp hval ▸ hr⟩

end Axis

/-! ## Drawing pixels -/

/-- The point of the content that is seen at drawing pixel `p`, before it is turned. -/
def contentPoint (m : Mapping) (p : Point) : Except Fault Point := do
  let x ← contentAxis p.x m.contentRect.x m.contentRect.w m.contentSize.width
  let y ← contentAxis p.y m.contentRect.y m.contentRect.h m.contentSize.height
  return ⟨x, y⟩

/-- At drawing pixel `p` the content shows its point `c`, which is point `q` of the frame. -/
structure Shows (m : Mapping) (p c q : Point) : Prop where
  content : m.contentPoint p = .ok c
  turned : m.orientation.transform c m.contentSize = .ok q
  frame : m.drawableToFrame p = .ok q

variable {m : Mapping} {p p' c c' q q' : Point}

theorem drawableToFrame_eq (hp : m.contentRect.Covers p) :
    m.drawableToFrame p = m.contentPoint p >>= (m.orientation.transform · m.contentSize) := by
  have hw : m.contentRect.w ≠ 0 := by
    intro hzero
    have hin := hp.right
    have hleft := hp.left
    rw [hzero, Int32.toInt_zero] at hin
    omega
  have hh : m.contentRect.h ≠ 0 := by
    intro hzero
    have hin := hp.bottom
    have htop := hp.top
    rw [hzero, Int32.toInt_zero] at hin
    omega
  simp only [drawableToFrame, contentPoint, hw, hh, bind_assoc, pure_bind]
  rfl

theorem contentPoint_quotients (hs : m.contentSize.Signed) (hp : m.contentRect.Covers p) :
    (m.contentPoint p).Yields fun c => m.contentSize.Holds c ∧
      c.x.toInt = (p.x.toInt - m.contentRect.x.toInt) * m.contentSize.width.toNat / m.contentRect.w.toInt ∧
      c.y.toInt = (p.y.toInt - m.contentRect.y.toInt) * m.contentSize.height.toNat / m.contentRect.h.toInt := by
  refine (contentAxis_quotient hs.width hp.left hp.right).bind ?_
  rintro x - ⟨hx, hwidth⟩
  refine (contentAxis_quotient hs.height hp.top hp.bottom).bind ?_
  rintro y - ⟨hy, hheight⟩
  exact .pure ⟨⟨hwidth, hheight⟩, hx, hy⟩

theorem shows_of_content (hs : m.contentSize.Signed) (hp : m.contentRect.Covers p)
    (hc : m.contentPoint p = .ok c) (hin : m.contentSize.Holds c) : ∃ q, m.Shows p c q := by
  obtain ⟨q, hq, -⟩ := Orientation.transform_holds (o := m.orientation) hs hin
  refine ⟨q, hc, hq, ?_⟩
  rw [drawableToFrame_eq hp]
  exact Except.bind_ok_iff.mpr ⟨c, hc, hq⟩

/-- **No pixel is left out, and none is out of order.** If the content is drawn at its size or
larger, each of its pixels is shown at some drawing pixel. And whatever size it is drawn in,
moving to the right or down over it never leads back to an earlier pixel, in the frame along one
axis only, and against that axis exactly if it is mirrored. -/
theorem drawableToFrame_pixels (hs : m.contentSize.Signed) :
    (m.contentRect.Edged → m.contentSize.width.toNat ≤ m.contentRect.w.toInt →
      m.contentSize.height.toNat ≤ m.contentRect.h.toInt → ∀ c, m.contentSize.Covers c →
        ∃ p q, m.contentRect.contains p = .ok true ∧ m.Shows p c q) ∧
    ∀ p p', m.contentRect.Covers p → m.contentRect.Covers p' →
      ∃ c c' q q', m.Shows p c q ∧ m.Shows p' c' q' ∧
        (p.x ≤ p'.x → p'.y = p.y → (c.x ≤ c'.x ∧ c'.y = c.y) ∧ m.orientation.Rightward q q') ∧
        (p.y ≤ p'.y → p'.x = p.x → (c.y ≤ c'.y ∧ c'.x = c.x) ∧ m.orientation.Downward q q') := by
  constructor
  · intro hedged hwidth hheight c hc
    obtain ⟨x, hx, hcx⟩ := contentAxis_onto hedged.right.2 hwidth hc.x
    obtain ⟨y, hy, hcy⟩ := contentAxis_onto hedged.bottom.2 hheight hc.y
    have hp : m.contentRect.Covers ⟨x, y⟩ := ⟨hx.1, hx.2, hy.1, hy.2⟩
    have hcontent : m.contentPoint ⟨x, y⟩ = .ok c :=
      Except.bind_ok_iff.mpr ⟨c.x, hcx, Except.bind_ok_iff.mpr ⟨c.y, hcy, rfl⟩⟩
    obtain ⟨q, hq⟩ := shows_of_content hs hp hcontent hc.holds
    exact ⟨_, q, (Rect.contains_ok_iff hedged).mpr hp, hq⟩
  · intro p p' hp hp'
    obtain ⟨c, hc, hin, hcx, hcy⟩ := contentPoint_quotients hs hp
    obtain ⟨c', hc', hin', hcx', hcy'⟩ := contentPoint_quotients hs hp'
    obtain ⟨q, hq⟩ := shows_of_content hs hp hc hin
    obtain ⟨q', hq'⟩ := shows_of_content hs hp' hc' hin'
    have hleft := hp.left
    have hright := hp.right
    have htop := hp.top
    have hbottom := hp.bottom
    refine ⟨c, c', q, q', hq, hq', fun hx hy => ?_, fun hy hx => ?_⟩
    · have hforwards : c.x ≤ c'.x := contentAxis_mono (by omega) hx hcx hcx'
      have hsame : c'.y = c.y := Int32.toInt_inj.mp (by rw [hcy, hcy', hy])
      exact ⟨⟨hforwards, hsame⟩, Orientation.transform_rightward hq.turned hq'.turned hforwards hsame⟩
    · have hforwards : c.y ≤ c'.y := contentAxis_mono (by omega) hy hcy hcy'
      have hsame : c'.x = c.x := Int32.toInt_inj.mp (by rw [hcx, hcx', hx])
      exact ⟨⟨hforwards, hsame⟩, Orientation.transform_downward hq.turned hq'.turned hforwards hsame⟩

/-- The largest content there is, on its side and mirrored, drawn a little larger than it is. -/
def largestContent : Mapping where
  windowSize := ⟨70000, 70001⟩
  drawableSize := ⟨70000, 70001⟩
  contentRect := ⟨2147400000, -5, 65537, 70001⟩
  contentSize := ⟨65535, 65535⟩
  orientation := ⟨true, .deg90⟩

theorem drawableToFrame_pixels_largest :
    (∃ p q, largestContent.contentRect.contains p = .ok true ∧ largestContent.Shows p ⟨65534, 65534⟩ q) ∧
    ∃ c c' q q', largestContent.Shows ⟨2147400000, 7⟩ c q ∧ largestContent.Shows ⟨2147465536, 7⟩ c' q' ∧
      (c.x ≤ c'.x ∧ c'.y = c.y) ∧ q'.y ≤ q.y ∧ q'.x = q.x := by
  have hs : largestContent.contentSize.Signed := ⟨by decide, by decide⟩
  have hedged : largestContent.contentRect.Edged := ⟨by decide, by decide⟩
  obtain ⟨hreached, hordered⟩ := drawableToFrame_pixels hs
  refine ⟨hreached hedged (by decide) (by decide) ⟨65534, 65534⟩ ⟨by decide, by decide⟩, ?_⟩
  obtain ⟨c, c', q, q', hq, hq', hright, -⟩ :=
    hordered ⟨2147400000, 7⟩ ⟨2147465536, 7⟩ (by decide) (by decide)
  exact ⟨c, c', q, q', hq, hq', hright (by decide) rfl⟩

end Mapping

end RemoteView
