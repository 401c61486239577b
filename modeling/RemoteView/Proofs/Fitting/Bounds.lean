/-
Fitting stays within bounds. On a drawing surface whose sides a signed word can
hold all differences are exact, and the content is placed in the middle of what
the panel leaves (`contentRect_halved`); on one of at most 32767 pixels a side it
comes to lie within these bounds (`contentRect_yields`). Window sizes are bounded
only as far as needed for a panel to be added to their width.
-/
import RemoteView.Fitting
import RemoteView.Proofs.Checked

namespace RemoteView

/-- No side is longer than 32767 pixels. -/
structure Size.Modest (s : Size) : Prop where
  width : s.width.toNat ≤ 32767
  height : s.height.toNat ≤ 32767

/-- A position at least 32767 pixels away from the ends of a word. -/
structure Point.Central (p : Point) : Prop where
  x : -2 ^ 31 + 32767 ≤ p.x.toInt ∧ p.x.toInt < 2 ^ 31 - 32767
  y : -2 ^ 31 + 32767 ≤ p.y.toInt ∧ p.y.toInt < 2 ^ 31 - 32767

/-- A rectangle with pixels that starts and ends within modest bounds. -/
structure Rect.Placed (r : Rect) : Prop where
  x : 0 ≤ r.x.toInt ∧ r.x.toInt ≤ 32767
  y : 0 ≤ r.y.toInt ∧ r.y.toInt ≤ 32767
  w : 1 ≤ r.w.toInt ∧ r.w.toInt ≤ 32767
  h : 1 ≤ r.h.toInt ∧ r.h.toInt ≤ 32767

namespace Fitting

/-! ## Scaling -/

theorem scale_le_div {value num den : UInt32} (h : den ≠ 0) :
    (scale value num den).toNat ≤ value.toNat * num.toNat / den.toNat := by
  rw [scale, if_neg h]
  exact Checked.toNat_ofNat_le _

/-- What is divided by nothing less than one grows by the factor at most. -/
theorem scale_le {value num den : UInt32} {n m : Nat} (hvalue : value.toNat ≤ n) (hnum : num.toNat ≤ m)
    (hm : 0 < m) : (scale value num den).toNat ≤ n * m := by
  have hprod : value.toNat * num.toNat ≤ n * m := Nat.mul_le_mul hvalue hnum
  by_cases h : den = 0
  · rw [scale, if_pos h]
    exact Nat.le_trans hvalue (Nat.le_mul_of_pos_right n hm)
  · exact Nat.le_trans (scale_le_div h) (Nat.le_trans (Nat.div_le_self _ _) hprod)

theorem ne_zero_of_isEmpty {s : Size} (h : s.isEmpty = false) : s.width ≠ 0 ∧ s.height ≠ 0 := by
  simpa [Size.isEmpty] using h

/-- Content that does not keep the width of an area is not wider than it. -/
theorem scale_width_le {area content : Size} (hc : content.isEmpty = false)
    (hk : keepsWidth area content = false) :
    (scale content.width area.height content.height).toNat ≤ area.width.toNat := by
  have hne := (ne_zero_of_isEmpty hc).2
  simp only [keepsWidth, gt_iff_lt, decide_eq_false_iff_not, Nat.not_lt] at hk
  refine Nat.le_trans (scale_le_div hne) ?_
  exact Nat.div_le_of_le_mul hk

/-- Content that keeps the width of an area is not higher than it. -/
theorem scale_height_le {area content : Size} (hc : content.isEmpty = false)
    (hk : keepsWidth area content = true) :
    (scale content.height area.width content.width).toNat ≤ area.height.toNat := by
  have hne := (ne_zero_of_isEmpty hc).1
  simp only [keepsWidth, gt_iff_lt, decide_eq_true_eq] at hk
  refine Nat.le_trans (scale_le_div hne) ?_
  exact Nat.div_le_of_le_mul (Nat.le_of_lt hk)

/-! ## Window sizes -/

theorem width_inter_le (s bound : Size) : (s.inter bound).width.toNat ≤ s.width.toNat := by
  show (if s.width ≤ bound.width then s.width else bound.width).toNat ≤ s.width.toNat
  split
  · exact Nat.le_refl _
  next h => exact Nat.le_of_not_le h

theorem width_optimalSize_le (current content : Size) (bounds : Option Size) :
    (optimalSize current content bounds).width.toNat ≤ current.width.toNat := by
  unfold optimalSize
  split
  · exact Nat.le_refl _
  next hc =>
    have hwindow : (bounds.elim current current.inter).width.toNat ≤ current.width.toNat := by
      cases bounds with
      | none => exact Nat.le_refl _
      | some bound => exact width_inter_le current bound
    simp only
    split
    · exact hwindow
    · unfold cropped
      split
      · exact hwindow
      next hk =>
        refine Nat.le_trans (scale_width_le ?_ ?_) hwindow
        · simpa using hc
        · simpa using hk

theorem width_initialSize_le {content : Size} (hc : content.width.toNat ≤ 65535)
    (width height : Option UInt16) (bounds : Option Size) :
    (initialSize content width height bounds).width.toNat ≤ 65535 * 65535 := by
  cases width with
  | some w =>
    have hw := w.toNat_lt
    cases height <;> simp only [initialSize, UInt16.toNat_toUInt32] <;> omega
  | none =>
    cases height with
    | none =>
      have h := width_optimalSize_le content content bounds
      simp only [initialSize]
      omega
    | some h =>
      have hh : h.toUInt32.toNat ≤ 65535 := by
        have := h.toNat_lt
        simp only [UInt16.toNat_toUInt32]
        omega
      exact scale_le hh hc (by omega)

/-! ## The place of the content -/

/-- The columns of a drawing surface that a panel gets when it asks for `panelWidth`. -/
def panelShare (drawable : Size) (panelWidth : Int32) : Int :=
  max 0 (min panelWidth.toInt drawable.width.toNat)

theorem clamp_yields (value upper : Int32) (h : 0 ≤ upper.toInt) :
    (clamp value upper).Yields (·.toInt = max 0 (min value.toInt upper.toInt)) := by
  unfold clamp
  simp only [Int32.lt_iff_toInt_lt, Int32.toInt_zero]
  rw [if_neg (by omega)]
  split
  · exact ⟨0, rfl, by simp only [Int32.toInt_zero]; omega⟩
  · split
    · exact ⟨upper, rfl, by omega⟩
    · exact ⟨value, rfl, by omega⟩

theorem tdiv_two {n : Int} (h : -1 ≤ n) : n.tdiv 2 = max n 0 / 2 := by
  by_cases hneg : n < 0
  · obtain rfl : n = -1 := by omega
    rfl
  · rw [Int.tdiv_eq_ediv_of_nonneg (by omega)]
    omega

/-- Half of a rest that is positive, or short of it by one. -/
theorem halfRest_yields {whole used reserved : Int32} (hused : 0 ≤ used.toInt) (hreserved : 0 ≤ reserved.toInt)
    (hrest : -1 ≤ whole.toInt - used.toInt - reserved.toInt) :
    (halfRest whole used reserved).Yields
      (·.toInt = max (whole.toInt - used.toInt - reserved.toInt) 0 / 2) := by
  have hwhole := whole.toInt_lt
  refine (Checked.sub_yields (by omega) (by omega)).bind ?_
  intro rest _ hr
  refine (Checked.sub_yields (by omega) (by omega)).bind ?_
  intro rest' _ hr'
  refine .pure ?_
  have hdiv : (rest' / 2).toInt = rest'.toInt.tdiv 2 := Int32.toInt_div_of_ne_right _ _ (by decide)
  rw [hdiv, tdiv_two (by omega), hr', hr]

/-- A rectangle for content of `w` by `h` pixels beside a panel. What is left free of the drawing
surface is halved, and each side gets at least one pixel. -/
structure Halved (drawable : Size) (panel w h : Int) (r : Rect) : Prop where
  width : 0 ≤ w ∧ w ≤ max (drawable.width.toNat - panel) 1
  height : 0 ≤ h ∧ h ≤ drawable.height.toNat
  x : r.x.toInt = max (drawable.width.toNat - w - panel) 0 / 2
  y : r.y.toInt = (drawable.height.toNat - h) / 2
  w : r.w.toInt = max w 1
  h : r.h.toInt = max h 1

/-- A rectangle whose sides are made at least one pixel long. -/
theorem halved_of_sides {drawable : Size} {panel : Int} {x y w h : Int32}
    (hwidth : 0 ≤ w.toInt ∧ w.toInt ≤ max (drawable.width.toNat - panel) 1)
    (hheight : 0 ≤ h.toInt ∧ h.toInt ≤ drawable.height.toNat)
    (hx : x.toInt = max (drawable.width.toNat - w.toInt - panel) 0 / 2)
    (hy : y.toInt = (drawable.height.toNat - h.toInt) / 2) :
    Halved drawable panel w.toInt h.toInt ⟨x, y, max w 1, max h 1⟩ where
  width := hwidth
  height := hheight
  x := hx
  y := hy
  w := by rw [Checked.toInt_max, Int32.toInt_one]
  h := by rw [Checked.toInt_max, Int32.toInt_one]

/-- The part of a drawing surface that is left for the content beside a panel, one column at least. -/
def contentArea (drawable : Size) (panelWidth : Int32) : Size :=
  ⟨UInt32.ofNat (max (drawable.width.toNat - panelShare drawable panelWidth) 1).toNat, drawable.height⟩

theorem width_contentArea {drawable : Size} (panelWidth : Int32) (hw : drawable.width.toNat < 2 ^ 31) :
    ((contentArea drawable panelWidth).width.toNat : Int) =
      max (drawable.width.toNat - panelShare drawable panelWidth) 1 := by
  unfold contentArea
  have hshare : 0 ≤ panelShare drawable panelWidth := Int.le_max_left _ _
  rw [UInt32.toNat_ofNat_of_lt' (by show _ < 2 ^ 32; omega)]
  omega

theorem optimalSize_none {area content : Size} (hc : content.isEmpty = false) :
    optimalSize area content none = if isOptimal area content then area else cropped area content := by
  rw [optimalSize, hc]
  rfl

/-- The content has the size of the window that would show it without borders in its part of the
drawing surface, and what is left free is halved. -/
theorem contentRect_fitted {drawable content : Size} (panelWidth : Int32)
    (hw : drawable.width.toNat < 2 ^ 31) (hh : drawable.height.toNat < 2 ^ 31) (hc : content.isEmpty = false) :
    (contentRect drawable content panelWidth).Yields
      (Halved drawable (panelShare drawable panelWidth)
        (optimalSize (contentArea drawable panelWidth) content none).width.toNat
        (optimalSize (contentArea drawable panelWidth) content none).height.toNat) := by
  have hfw := Checked.toInt_toInt32 hw
  have hfh := Checked.toInt_toInt32 hh
  have hwidth := width_contentArea panelWidth hw
  rw [optimalSize_none hc]
  simp only [contentRect, hc]
  refine (clamp_yields panelWidth drawable.width.toInt32 (by omega)).bind ?_
  intro panel _ hpanel
  have hshare : panel.toInt = panelShare drawable panelWidth := by rw [hpanel, hfw, panelShare]
  refine (Checked.sub_yields (by omega) (by omega)).bind ?_
  intro left _ hleft
  have hmax := Checked.toInt_max left 1
  rw [Int32.toInt_one] at hmax
  generalize max left 1 = room at hmax ⊢
  have hroom := Checked.toNat_toUInt32 (i := room) (by omega)
  have hroomy : (contentArea drawable panelWidth).width = room.toUInt32 := UInt32.toNat_inj.mp (by omega)
  have harea : contentArea drawable panelWidth = ⟨room.toUInt32, drawable.height⟩ := by
    rw [← hroomy]
    rfl
  rw [harea, ← hshare]
  clear harea hroomy hwidth
  by_cases hoptimal : isOptimal ⟨room.toUInt32, drawable.height⟩ content = true
  · simp only [hoptimal, if_true]
    refine (halfRest_yields (by omega) (by omega) (by omega)).bind ?_
    intro x _ hx
    have h := @halved_of_sides drawable panel.toInt x 0 room drawable.height.toInt32 (by omega) (by omega)
      (by omega) (by rw [Int32.toInt_zero]; omega)
    rw [← hroom, hfh] at h
    exact .pure h
  simp only [hoptimal, cropped]
  by_cases hk : keepsWidth ⟨room.toUInt32, drawable.height⟩ content = true
  · -- The content takes the whole room, and what is left of the height is halved.
    simp only [hk, if_true]
    have hle := scale_height_le hc hk
    simp only at hle
    generalize scale content.height room.toUInt32 content.width = height at hle ⊢
    have hheight := Checked.toInt_toInt32 (u := height) (by omega)
    refine (halfRest_yields (by omega) (by omega) (by omega)).bind ?_
    intro x _ hx
    refine (halfRest_yields (by omega) (by decide) ?_).bind ?_
    · rw [Int32.toInt_zero]
      omega
    intro y _ hy
    rw [Int32.toInt_zero] at hy
    have h := @halved_of_sides drawable panel.toInt x y room height.toInt32 (by omega) (by omega) (by omega) (by omega)
    rw [← hroom, hheight] at h
    exact .pure h
  · simp only [hk]
    have hle := scale_width_le hc (by simpa using hk)
    simp only at hle
    generalize scale content.width drawable.height content.height = width at hle ⊢
    have hwidth := Checked.toInt_toInt32 (u := width) (by omega)
    refine (halfRest_yields (by omega) (by omega) (by omega)).bind ?_
    intro x _ hx
    have h := @halved_of_sides drawable panel.toInt x 0 width.toInt32 drawable.height.toInt32 (by omega) (by omega)
      (by omega) (by rw [Int32.toInt_zero]; omega)
    rw [hwidth, hfh] at h
    exact .pure h

/-- However the content is fitted, what is left free is halved. -/
theorem contentRect_halved {drawable content : Size} (panelWidth : Int32)
    (hw : drawable.width.toNat < 2 ^ 31) (hh : drawable.height.toNat < 2 ^ 31) (hc : content.isEmpty = false) :
    (contentRect drawable content panelWidth).Yields fun r =>
      ∃ w h, Halved drawable (panelShare drawable panelWidth) w h r :=
  (contentRect_fitted panelWidth hw hh hc).mono fun _ hr => ⟨_, _, hr⟩

theorem contentRect_yields {drawable content : Size} (panelWidth : Int32) (hd : drawable.Modest)
    (hc : content.isEmpty = false) : (contentRect drawable content panelWidth).Yields Rect.Placed := by
  have hw := hd.width
  have hh := hd.height
  refine (contentRect_halved panelWidth (by omega) (by omega) hc).mono ?_
  rintro r ⟨w, h, hr⟩
  have hshare : 0 ≤ panelShare drawable panelWidth := Int.le_max_left _ _
  obtain ⟨⟨hw0, hw1⟩, ⟨hh0, hh1⟩, hx, hy, hrw, hrh⟩ := hr
  exact ⟨by omega, by omega, by omega, by omega⟩

/-- Sides that are made at least one pixel long. -/
theorem isEmpty_of_sides (x y w h : Int32) : Rect.isEmpty ⟨x, y, max w 1, max h 1⟩ = false := by
  have hw := Checked.toInt_max w 1
  have hh := Checked.toInt_max h 1
  rw [Int32.toInt_one] at hw hh
  simp only [Rect.isEmpty, Bool.or_eq_false_iff, decide_eq_false_iff_not, Int32.le_iff_toInt_le, Int32.toInt_zero]
  omega

/-- Content that has a place has pixels there, on drawing surfaces of any size. -/
theorem isEmpty_contentRect {drawable content : Size} {panelWidth : Int32} {rect : Rect}
    (h : contentRect drawable content panelWidth = .ok rect) : rect.isEmpty = false := by
  unfold contentRect at h
  split at h
  next => cases h
  next =>
  obtain ⟨panel, -, h⟩ := Except.bind_ok_iff.mp h
  obtain ⟨left, -, h⟩ := Except.bind_ok_iff.mp h
  dsimp only at h
  split at h
  next =>
    obtain ⟨x, -, h⟩ := Except.bind_ok_iff.mp h
    cases h
    exact isEmpty_of_sides ..
  next =>
  split at h
  next =>
    obtain ⟨x, -, h⟩ := Except.bind_ok_iff.mp h
    obtain ⟨y, -, h⟩ := Except.bind_ok_iff.mp h
    cases h
    exact isEmpty_of_sides ..
  next =>
    obtain ⟨x, -, h⟩ := Except.bind_ok_iff.mp h
    cases h
    exact isEmpty_of_sides ..

/-! ## The panel and the position of a window -/

theorem panelWidthScaled_bounds (visible : Bool) {logical : UInt32} {window drawable : Size}
    (hd : drawable.Modest) (hlogical : logical.toNat ≤ 50) :
    0 ≤ (panelWidthScaled visible logical window drawable).toInt ∧
      (panelWidthScaled visible logical window drawable).toInt ≤ 50 * 32767 := by
  unfold panelWidthScaled
  split
  · have hle : (scale logical drawable.width window.width).toNat ≤ 50 * 32767 :=
      scale_le hlogical hd.width (by decide)
    rw [Checked.toInt_toInt32 (by omega)]
    omega
  · decide

theorem toInt_half (whole part : UInt32) :
    (Int32.ofNat ((whole.toNat - part.toNat) / 2)).toInt = ((whole.toNat - part.toNat) / 2 : Nat) := by
  have hlt := whole.toNat_lt
  exact Int32.toInt_ofNat_of_lt (by omega)

theorem centeredPosition_ok_iff {position p : Point} {current shrunk : Size} :
    centeredPosition position current shrunk = .ok p ↔
      p.x.toInt = position.x.toInt + ((current.width.toNat - shrunk.width.toNat) / 2 : Nat) ∧
        p.y.toInt = position.y.toInt + ((current.height.toNat - shrunk.height.toNat) / 2 : Nat) := by
  simp only [centeredPosition, Except.bind_ok_iff, Except.pure_ok_iff, Checked.add_eq_ok_iff, toInt_half]
  constructor
  · rintro ⟨x, hx, y, hy, rfl⟩
    exact ⟨hx, hy⟩
  · rintro ⟨hx, hy⟩
    exact ⟨p.x, hx, p.y, hy, rfl⟩

/-- A window that shrinks moves by half of what it loses, which is less than half of its size. -/
theorem centeredPosition_moves {position : Point} {current shrunk : Size}
    (hx : position.x.toInt + current.width.toNat / 2 < 2 ^ 31)
    (hy : position.y.toInt + current.height.toNat / 2 < 2 ^ 31) :
    (centeredPosition position current shrunk).Yields fun p =>
      p.x.toInt = position.x.toInt + ((current.width.toNat - shrunk.width.toNat) / 2 : Nat) ∧
        p.y.toInt = position.y.toInt + ((current.height.toNat - shrunk.height.toNat) / 2 : Nat) := by
  have hleft := position.x.le_toInt
  have htop := position.y.le_toInt
  obtain ⟨x, -, hx'⟩ := @Checked.int32_yields .addOverflow
    (position.x.toInt + ((current.width.toNat - shrunk.width.toNat) / 2 : Nat)) (by omega) (by omega)
  obtain ⟨y, -, hy'⟩ := @Checked.int32_yields .addOverflow
    (position.y.toInt + ((current.height.toNat - shrunk.height.toNat) / 2 : Nat)) (by omega) (by omega)
  exact ⟨⟨x, y⟩, centeredPosition_ok_iff.mpr ⟨hx', hy'⟩, hx', hy'⟩

theorem centeredPosition_yields {position : Point} {current shrunk : Size} (hc : current.Modest)
    (hp : position.Central) : (centeredPosition position current shrunk).Yields fun _ => True := by
  have hx := hp.x
  have hy := hp.y
  have hw := hc.width
  have hh := hc.height
  exact (centeredPosition_moves (by omega) (by omega)).mono fun _ _ => trivial

end Fitting

end RemoteView
