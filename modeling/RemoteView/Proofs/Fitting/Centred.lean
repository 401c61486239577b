/-
Content and panel lie in the middle of the drawing surface, side by side, on surfaces of
every size whose sides a signed word can hold (`Fitting.contentRect_centred`). As soon as
the panel leaves a column free, nothing sticks out, and the free pixels on opposite sides
differ by one at most. The panel of a window that is wider than the panel always leaves one.
-/
import RemoteView.Proofs.Mapping.Inside
import RemoteView.Proofs.Panel.Bounds

namespace RemoteView

/-- The rectangle has all its pixels on the drawing surface. -/
structure Rect.Inside (r : Rect) (drawable : Size) : Prop where
  left : 0 ≤ r.x.toInt
  right : r.x.toInt + r.w.toInt ≤ drawable.width.toNat
  top : 0 ≤ r.y.toInt
  bottom : r.y.toInt + r.h.toInt ≤ drawable.height.toNat

/-- The rectangle, with `panel` columns to its right, is on the drawing surface and in the
middle of it. What is free to the left and to the right of the two differs by one pixel at
most, and so does what is free above and below the rectangle. -/
structure Rect.Centred (r : Rect) (drawable : Size) (panel : Int) : Prop where
  left : 0 ≤ r.x.toInt
  right : r.x.toInt + r.w.toInt + panel ≤ drawable.width.toNat
  top : 0 ≤ r.y.toInt
  bottom : r.y.toInt + r.h.toInt ≤ drawable.height.toNat
  columns : (r.x.toInt - (drawable.width.toNat - (r.x.toInt + r.w.toInt + panel))).natAbs ≤ 1
  rows : (r.y.toInt - (drawable.height.toNat - (r.y.toInt + r.h.toInt))).natAbs ≤ 1

namespace Panel.Layout

/-- The panel starts at the right edge of the content, has no pixel in common with it and
lies on the drawing surface. -/
structure Beside (l : Layout) (content : Rect) (drawable : Size) : Prop where
  edge : content.right = .ok l.panel.x
  apart : ∀ p, content.Covers p → ¬l.panel.Covers p
  inside : l.panel.Inside drawable

/-- A word can hold the top of every button. The number of buttons is taken as a signed word. -/
def RowsFit (content : Rect) (count : Nat) : Prop :=
  ∀ i < (Int32.ofNat count).toInt.toNat, content.y.toInt + 10 + 55 * i < 2 ^ 31

theorem rowsFit_of_le {content : Rect} {count : Nat} (hy : content.y.toInt ≤ 2 ^ 30) (hcount : count ≤ maxButtons) :
    RowsFit content count := by
  intro i hi
  unfold maxButtons at hcount
  rw [Int32.toInt_ofNat_of_lt (by omega)] at hi
  omega

theorem forScreen_ok_iff {content : Rect} {panelWidth drawableHeight : Int32} {count : Nat} {l : Layout} :
    forScreen content panelWidth drawableHeight count = .ok l ↔
      ∃ x, content.right = .ok x ∧ ∃ width, Checked.sub (max panelWidth 0) (2 * buttonMargin) = .ok width ∧
        ∃ buttons, (List.range (Int32.ofNat count).toInt.toNat).mapM
            (buttonRect content ⟨x, 0, max panelWidth 0, drawableHeight⟩ width) = .ok buttons ∧
          ⟨⟨x, 0, max panelWidth 0, drawableHeight⟩, buttons⟩ = l := by
  simp only [forScreen, Except.bind_ok_iff, Except.pure_ok_iff]

/-- A button has a place exactly if words can hold where it begins and its top. -/
theorem buttonRect_ends_iff {content panel : Rect} {width : Int32} {index : Nat} (hindex : index < 2 ^ 31)
    (hx : 0 ≤ panel.x.toInt) (hy : 0 ≤ content.y.toInt) :
    (∃ b, buttonRect content panel width index = .ok b) ↔
      panel.x.toInt + 10 < 2 ^ 31 ∧ content.y.toInt + 10 + 55 * index < 2 ^ 31 := by
  constructor
  · rintro ⟨b, hb⟩
    obtain ⟨hbegin, -, hdown, -⟩ := buttonRect_ok hindex hb
    have hxlt := b.x.toInt_lt
    have hylt := b.y.toInt_lt
    omega
  · rintro ⟨hbegin, hfits⟩
    obtain ⟨b, hb, -⟩ := buttonRect_places hindex ⟨hx, hbegin⟩ hy hfits
    exact ⟨b, hb⟩

/-- A layout without buttons can be made wherever the content is. -/
theorem forScreen_ends_iff_of_right {content : Rect} {panelWidth drawableHeight : Int32} {count : Nat}
    (hleft : 0 ≤ content.x.toInt + content.w.toInt) (hright : content.x.toInt + content.w.toInt < 2 ^ 31)
    (hy : 0 ≤ content.y.toInt) :
    (∃ l, forScreen content panelWidth drawableHeight count = .ok l) ↔
      (Int32.ofNat count).toInt ≤ 0 ∨ content.x.toInt + content.w.toInt + 10 < 2 ^ 31 ∧ RowsFit content count := by
  have hmax := Checked.toInt_max panelWidth 0
  rw [Int32.toInt_zero] at hmax
  have hhigh := (max panelWidth 0).toInt_lt
  have hmargins : (2 * buttonMargin).toInt = 20 := rfl
  have hcount := (Int32.ofNat count).toInt_lt
  obtain ⟨x, hx, hxval⟩ := Checked.add_yields (a := content.x) (b := content.w) (by omega) (by omega)
  obtain ⟨width, hwidth, -⟩ := Checked.sub_yields (a := max panelWidth 0) (b := 2 * buttonMargin) (by omega) (by omega)
  have hrow : ∀ i < (Int32.ofNat count).toInt.toNat,
      (∃ b, buttonRect content ⟨x, 0, max panelWidth 0, drawableHeight⟩ width i = .ok b) ↔
        content.x.toInt + content.w.toInt + 10 < 2 ^ 31 ∧ content.y.toInt + 10 + 55 * i < 2 ^ 31 := by
    intro i hi
    rw [← hxval]
    exact buttonRect_ends_iff (by omega) (by simp only; omega) hy
  constructor
  · rintro ⟨l, hl⟩
    obtain ⟨x', hx', width', hwidth', buttons, hbuttons, -⟩ := forScreen_ok_iff.mp hl
    cases hx.symm.trans hx'
    cases hwidth.symm.trans hwidth'
    have hplaces : ∀ i < (Int32.ofNat count).toInt.toNat,
        content.x.toInt + content.w.toInt + 10 < 2 ^ 31 ∧ content.y.toInt + 10 + 55 * i < 2 ^ 31 := by
      intro i hi
      exact (hrow i hi).mp (Except.exists_mapM_iff.mp ⟨buttons, hbuttons⟩ i (List.mem_range.mpr hi))
    by_cases hnone : (Int32.ofNat count).toInt ≤ 0
    · exact .inl hnone
    · exact .inr ⟨(hplaces 0 (by omega)).1, fun i hi => (hplaces i hi).2⟩
  · intro hfits
    have hplaces : ∀ i < (Int32.ofNat count).toInt.toNat,
        ∃ b, buttonRect content ⟨x, 0, max panelWidth 0, drawableHeight⟩ width i = .ok b := by
      intro i hi
      rcases hfits with hnone | ⟨hroom, hrows⟩
      · omega
      · exact (hrow i hi).mpr ⟨hroom, hrows i hi⟩
    obtain ⟨buttons, hbuttons⟩ := Except.exists_mapM_iff.mpr fun i hi => hplaces i (List.mem_range.mp hi)
    exact ⟨_, forScreen_ok_iff.mpr ⟨x, hx, width, hwidth, buttons, hbuttons, rfl⟩⟩

/-- The layout beside content that leaves room for the margin of the buttons. -/
theorem forScreen_ends_iff {content : Rect} {panelWidth drawableHeight : Int32} {count : Nat}
    (hleft : 0 ≤ content.x.toInt + content.w.toInt) (hright : content.x.toInt + content.w.toInt + 10 < 2 ^ 31)
    (hy : 0 ≤ content.y.toInt) :
    (∃ l, forScreen content panelWidth drawableHeight count = .ok l) ↔ RowsFit content count := by
  rw [forScreen_ends_iff_of_right hleft (by omega) hy]
  constructor
  · rintro (hnone | ⟨-, hrows⟩)
    · intro i hi
      omega
    · exact hrows
  · intro hrows
    exact .inr ⟨hright, hrows⟩

/-- The panel beside content that is centred together with it. -/
theorem beside_of_centred {content : Rect} {panelWidth : Int32} {drawable : Size} {count : Nat} {l : Layout}
    (hh : drawable.height.toNat < 2 ^ 31) (hpanel : 0 ≤ panelWidth.toInt) (hw : 0 ≤ content.w.toInt)
    (hc : content.Centred drawable panelWidth.toInt)
    (h : forScreen content panelWidth drawable.height.toInt32 count = .ok l) : l.Beside content drawable := by
  obtain ⟨x, hx, width, -, buttons, -, rfl⟩ := forScreen_ok_iff.mp h
  have hxval : x.toInt = content.x.toInt + content.w.toInt := Checked.add_eq_ok_iff.mp hx
  have hmax := Checked.toInt_max panelWidth 0
  rw [Int32.toInt_zero] at hmax
  have hheight := Checked.toInt_toInt32 hh
  have hleft := hc.left
  have hright := hc.right
  refine ⟨hx, ?_, ⟨?_, ?_, ?_, ?_⟩⟩
  · intro p hp hp'
    have hin := hp.right
    have hout := hp'.left
    simp only at hout
    omega
  · simp only
    omega
  · simp only
    omega
  · simp
  · simp only [Int32.toInt_zero]
    omega

end Panel.Layout

namespace Fitting

/-- What is halved is in the middle, if a column is left beside the panel. -/
theorem Halved.centred {drawable : Size} {panel w h : Int} {r : Rect} (hr : Halved drawable panel w h r)
    (hpanel : panel < drawable.width.toNat) (hheight : 1 ≤ drawable.height.toNat) : r.Centred drawable panel := by
  obtain ⟨⟨hw0, hw1⟩, ⟨hh0, hh1⟩, hx, hy, hrw, hrh⟩ := hr
  exact ⟨by omega, by omega, by omega, by omega, by omega, by omega⟩

/-- The panel of a window that is wider than it takes its part of the columns. -/
theorem panelWidthScaled_of_wider {window drawable : Size} (hwindow : Panel.logicalWidth < window.width)
    (hw : drawable.width.toNat < 2 ^ 31) :
    (panelWidthScaled true Panel.logicalWidth window drawable).toInt =
      50 * drawable.width.toNat / window.width.toNat := by
  have hwide : 50 < window.width.toNat := hwindow
  have hle : 50 * drawable.width.toNat / window.width.toNat ≤ drawable.width.toNat :=
    Nat.div_le_of_le_mul (Nat.mul_le_mul_right _ (by omega))
  have hne : window.width ≠ 0 := by
    rintro h
    rw [h] at hwide
    exact absurd hwide (by decide)
  have hscale : (scale Panel.logicalWidth drawable.width window.width).toNat =
      50 * drawable.width.toNat / window.width.toNat := by
    rw [scale, if_neg hne]
    exact UInt32.toNat_ofNat_of_lt' (by show _ < 2 ^ 32; exact Nat.lt_of_le_of_lt hle (by omega))
  rw [panelWidthScaled, if_pos rfl, Checked.toInt_toInt32 (by omega), hscale]
  simp

/-- The panel of a window that is wider than it leaves a column free, and on a surface that
reaches the end of a word it is wider than the margin of its buttons. -/
theorem panelWidthScaled_room {window drawable : Size} (hwindow : Panel.logicalWidth < window.width)
    (hw : 1 ≤ drawable.width.toNat ∧ drawable.width.toNat < 2 ^ 31) {panelWidth : Int32}
    (h : panelWidthScaled true Panel.logicalWidth window drawable = panelWidth) :
    0 ≤ panelWidth.toInt ∧ panelWidth.toInt < drawable.width.toNat ∧
      (drawable.width.toNat : Int) + 10 < 2 ^ 31 + panelWidth.toInt := by
  have hwide : 50 < window.width.toNat := hwindow
  have hscaled := panelWidthScaled_of_wider hwindow hw.2
  rw [h] at hscaled
  norm_cast at hscaled
  have hlt : 50 * drawable.width.toNat / window.width.toNat < drawable.width.toNat :=
    Nat.div_lt_of_lt_mul (Nat.mul_lt_mul_of_pos_right hwide hw.1)
  have hlow : 50 * drawable.width.toNat / 2 ^ 32 ≤ 50 * drawable.width.toNat / window.width.toNat :=
    Nat.div_le_div_left (Nat.le_of_lt window.width.toNat_lt) (by omega)
  omega

/-- Content and panel fit and are centred together, whatever the panel asks for. The last part
is about the panel of a window: it stands beside the content, and its layout can be made
exactly if a word can hold the place of each of its buttons, as it can for a panel that an
update may bring. -/
theorem contentRect_centred {drawable content : Size}
    (hw : 1 ≤ drawable.width.toNat ∧ drawable.width.toNat ≤ 2 ^ 31 - 1)
    (hh : 1 ≤ drawable.height.toNat ∧ drawable.height.toNat ≤ 2 ^ 31 - 1) (hc : content.isEmpty = false) :
    (∀ panelWidth, (contentRect drawable content panelWidth).Yields fun r => 1 ≤ r.w.toInt ∧ 1 ≤ r.h.toInt ∧
      (panelShare drawable panelWidth < drawable.width.toNat →
        r.Centred drawable (panelShare drawable panelWidth))) ∧
    ∀ window panelWidth, Panel.logicalWidth < window.width →
      panelWidthScaled true Panel.logicalWidth window drawable = panelWidth →
      (contentRect drawable content panelWidth).Yields fun r => ∀ count,
        (count ≤ Panel.maxButtons → Panel.Layout.RowsFit r count) ∧
        ((∃ l, Panel.Layout.forScreen r panelWidth drawable.height.toInt32 count = .ok l) ↔
          Panel.Layout.RowsFit r count) ∧
        ∀ l, Panel.Layout.forScreen r panelWidth drawable.height.toInt32 count = .ok l → l.Beside r drawable := by
  have centred : ∀ panelWidth, (contentRect drawable content panelWidth).Yields fun r =>
      1 ≤ r.w.toInt ∧ 1 ≤ r.h.toInt ∧ (panelShare drawable panelWidth < drawable.width.toNat →
        r.Centred drawable (panelShare drawable panelWidth)) := by
    intro panelWidth
    refine (contentRect_halved panelWidth (by omega) (by omega) hc).mono ?_
    rintro r ⟨w, h, hr⟩
    have hrw := hr.w
    have hrh := hr.h
    exact ⟨by omega, by omega, fun hpanel => hr.centred hpanel hh.1⟩
  refine ⟨centred, ?_⟩
  intro window panelWidth hwindow hscaled
  obtain ⟨hlow, hhigh, hroom⟩ := panelWidthScaled_room hwindow ⟨hw.1, by omega⟩ hscaled
  have hshare : panelShare drawable panelWidth = panelWidth.toInt := by
    unfold panelShare
    omega
  refine (centred panelWidth).mono ?_
  rintro r ⟨hrw, hrh, hr⟩ count
  rw [hshare] at hr
  have hr := hr hhigh
  have hleft := hr.left
  have hright := hr.right
  have htop := hr.top
  have hbottom := hr.bottom
  have hrows := hr.rows
  refine ⟨Panel.Layout.rowsFit_of_le (by omega), ?_, ?_⟩
  · exact Panel.Layout.forScreen_ends_iff (by omega) (by omega) htop
  · intro l hl
    exact Panel.Layout.beside_of_centred (by omega) hlow (by omega) hr hl

theorem contentRect_centred_hidpi :
    (contentRect ⟨1600, 1200⟩ ⟨480, 640⟩ 100).Yields (fun r => r.Centred ⟨1600, 1200⟩ 100 ∧
      ∃ l, Panel.Layout.forScreen r 100 1200 3 = .ok l ∧ l.Beside r ⟨1600, 1200⟩) := by
  obtain ⟨centred, beside⟩ :=
    @contentRect_centred ⟨1600, 1200⟩ ⟨480, 640⟩ (by decide) (by decide) (by decide)
  obtain ⟨r, hr, -, -, hcentred⟩ := centred 100
  obtain ⟨r', hr', hbeside⟩ := beside ⟨800, 600⟩ 100 (by decide) (by decide)
  cases hr.symm.trans hr'
  obtain ⟨hfits, hends, hbeside⟩ := hbeside 3
  obtain ⟨l, hl⟩ := hends.mpr (hfits (by decide))
  exact ⟨r, hr, hcentred (by decide), l, hl, hbeside l hl⟩

end Fitting

end RemoteView
