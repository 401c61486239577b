/-
Fitting gives away no pixel that it could keep. What it makes of an area lies inside the
area, reaches across it one way, and holds every size in the area that has just the
proportions of the content (`Fitting.Fills`). This is said of windows in
`Fitting.optimalSize_fills` and of drawing surfaces in `Fitting.contentRect_fills`, for all
sizes that words can hold, those included for which the test for an optimal size is misled
by a product that was cut to a word.
-/
import Mathlib.Data.UInt
import RemoteView.Proofs.Fitting.Bounds

namespace RemoteView

/-- The size with its sides cut to those of a bound, if there is one. -/
def Size.within (s : Size) (bounds : Option Size) : Size := bounds.elim s s.inter

/-- The dimensions of a rectangle whose sides are not negative. -/
def Rect.size (r : Rect) : Size := ⟨r.w.toUInt32, r.h.toUInt32⟩

namespace Fitting

variable {s area content current : Size}

/-- The size lies inside the area and reaches across it one way, and every size in the area
that has just the proportions of the content lies inside it as well. -/
structure Fills (s area content : Size) : Prop where
  width : s.width.toNat ≤ area.width.toNat
  height : s.height.toNat ≤ area.height.toNat
  across : s.width = area.width ∨ s.height = area.height
  holds : ∀ a b : Nat, a ≤ area.width.toNat → b ≤ area.height.toNat →
    a * content.height.toNat = b * content.width.toNat → a ≤ s.width.toNat ∧ b ≤ s.height.toNat

/-- The size keeps one side of the area, and the other is the exact quotient that the
proportions of the content make of it. -/
def Cut (s area content : Size) : Prop :=
  if content.height.toNat * area.width.toNat < content.width.toNat * area.height.toNat then
    s.width = area.width ∧
      s.height.toNat = content.height.toNat * area.width.toNat / content.width.toNat
  else
    s.height = area.height ∧
      s.width.toNat = content.width.toNat * area.height.toNat / content.height.toNat

/-! ## Cutting borders off -/

theorem pos_of_isEmpty (hc : content.isEmpty = false) : 0 < content.width.toNat ∧ 0 < content.height.toNat := by
  have hne := ne_zero_of_isEmpty hc
  rw [Nat.pos_iff_ne_zero, Nat.pos_iff_ne_zero]
  exact ⟨fun h => hne.1 (UInt32.toNat_inj.mp h), fun h => hne.2 (UInt32.toNat_inj.mp h)⟩

/-- A quotient that fits a word is not changed by being cut to one. -/
theorem toNat_scale {value num den : UInt32} (hden : 0 < den.toNat)
    (h : value.toNat * num.toNat / den.toNat < 2 ^ 32) :
    (scale value num den).toNat = value.toNat * num.toNat / den.toNat := by
  have hne : den ≠ 0 := by
    rintro rfl
    exact absurd hden (by decide)
  rw [scale, if_neg hne]
  exact UInt32.toNat_ofNat_of_lt' h

theorem eq_scale {u value num den : UInt32} (hden : 0 < den.toNat)
    (h : u.toNat = value.toNat * num.toNat / den.toNat) : u = scale value num den := by
  have hlt : value.toNat * num.toNat / den.toNat < 2 ^ 32 := h ▸ u.toNat_lt
  exact UInt32.toNat_inj.mp (h.trans (toNat_scale hden hlt).symm)

/-- Neither of the two quotients is ever too large for a word. -/
theorem cropped_cut (hc : content.isEmpty = false) : Cut (cropped area content) area content := by
  obtain ⟨hcw, hch⟩ := pos_of_isEmpty hc
  have haw := area.width.toNat_lt
  have hah := area.height.toNat_lt
  unfold Cut cropped keepsWidth
  by_cases hk : content.height.toNat * area.width.toNat < content.width.toNat * area.height.toNat
  · simp only [hk, decide_true, if_true, true_and]
    have hle : content.height.toNat * area.width.toNat / content.width.toNat ≤ area.height.toNat :=
      Nat.div_le_of_le_mul (Nat.le_of_lt hk)
    exact toNat_scale hcw (by omega)
  · simp only [hk, decide_false, if_false]
    have hle : content.width.toNat * area.height.toNat / content.height.toNat ≤ area.width.toNat :=
      Nat.div_le_of_le_mul (Nat.not_lt.mp hk)
    exact ⟨rfl, toNat_scale hch (by omega)⟩

theorem Cut.isOptimal (h : Cut s area content) (hc : content.isEmpty = false) : isOptimal s content = true := by
  obtain ⟨hcw, hch⟩ := pos_of_isEmpty hc
  have hsides : s.height = scale s.width content.height content.width ∨
      s.width = scale s.height content.width content.height := by
    unfold Cut at h
    split at h
    · refine .inl (eq_scale hcw ?_)
      rw [h.1, h.2, Nat.mul_comm]
    · refine .inr (eq_scale hch ?_)
      rw [h.1, h.2, Nat.mul_comm]
  simpa [Fitting.isOptimal, hc] using hsides

theorem Cut.fills (h : Cut s area content) (hc : content.isEmpty = false) : Fills s area content := by
  obtain ⟨hcw, hch⟩ := pos_of_isEmpty hc
  unfold Cut at h
  split at h
  next hk =>
    refine ⟨Nat.le_of_eq (congrArg UInt32.toNat h.1), ?_, .inl h.1, ?_⟩
    · rw [h.2]
      exact Nat.div_le_of_le_mul (Nat.le_of_lt hk)
    · intro a b ha hb hab
      refine ⟨by rwa [h.1], ?_⟩
      rw [h.2, Nat.le_div_iff_mul_le hcw, ← hab, Nat.mul_comm]
      exact Nat.mul_le_mul_left _ ha
  next hk =>
    refine ⟨?_, Nat.le_of_eq (congrArg UInt32.toNat h.1), .inr h.1, ?_⟩
    · rw [h.2]
      exact Nat.div_le_of_le_mul (Nat.not_lt.mp hk)
    · intro a b ha hb hab
      refine ⟨?_, by rwa [h.1]⟩
      rw [h.2, Nat.le_div_iff_mul_le hch, hab, Nat.mul_comm]
      exact Nat.mul_le_mul_left _ hb

theorem fills_self : Fills s s content :=
  ⟨Nat.le_refl _, Nat.le_refl _, .inl rfl, fun _ _ ha hb _ => ⟨ha, hb⟩⟩

/-! ## Windows -/

/-- The bound is applied before anything else. -/
theorem optimalSize_within (current content : Size) (bounds : Option Size) (hc : content.isEmpty = false) :
    optimalSize current content bounds = optimalSize (current.within bounds) content none := by
  rw [optimalSize, optimalSize, hc]
  rfl

theorem optimalSize_of_isOptimal (hc : content.isEmpty = false) (h : isOptimal area content = true) :
    optimalSize area content none = area := by
  rw [optimalSize_none hc, if_pos h]

theorem optimalSize_cut (hc : content.isEmpty = false) (h : isOptimal area content = false) :
    Cut (optimalSize area content none) area content := by
  rw [optimalSize_none hc, h]
  exact cropped_cut hc

theorem isOptimal_optimalSize (hc : content.isEmpty = false) :
    isOptimal (optimalSize area content none) content = true := by
  by_cases h : isOptimal area content = true
  · rwa [optimalSize_of_isOptimal hc h]
  · exact (optimalSize_cut hc (by simpa using h)).isOptimal hc

theorem fills_optimalSize (hc : content.isEmpty = false) : Fills (optimalSize area content none) area content := by
  by_cases h : isOptimal area content = true
  · rw [optimalSize_of_isOptimal hc h]
    exact fills_self
  · exact (optimalSize_cut hc (by simpa using h)).fills hc

/-- What lies inside a size that was cut to a bound lies inside the bound. -/
theorem Fills.within (bounds : Option Size) (h : Fills s (current.within bounds) content) :
    s.within bounds = s := by
  cases bounds with
  | none => rfl
  | some bound =>
    have hw := h.width
    have hh := h.height
    simp only [Size.within, Option.elim_some, Size.inter, UInt32.toNat_min] at hw hh
    have hwidth : min s.width bound.width = s.width := UInt32.toNat_inj.mp (by rw [UInt32.toNat_min]; omega)
    have hheight : min s.height bound.height = s.height := UInt32.toNat_inj.mp (by rw [UInt32.toNat_min]; omega)
    simp only [Size.within, Option.elim_some, Size.inter, hwidth, hheight]

/-- **The optimal size is the largest one.** The window that content is given is optimal,
fills the window that it was made from as far as the display lets it, and is not changed if
it is made optimal again. If borders had to be cut off, the side that changed is the exact
quotient. -/
theorem optimalSize_fills (hc : content.isEmpty = false) (current : Size) (bounds : Option Size) :
    let window := current.within bounds
    let optimal := optimalSize current content bounds
    isOptimal optimal content = true ∧ Fills optimal window content ∧
      optimalSize optimal content bounds = optimal ∧
      (isOptimal window content = false → Cut optimal window content) := by
  intro window optimal
  have hwindow : optimal = optimalSize window content none := optimalSize_within current content bounds hc
  have hoptimal : isOptimal optimal content = true := hwindow ▸ isOptimal_optimalSize hc
  have hfills : Fills optimal window content := hwindow ▸ fills_optimalSize hc
  refine ⟨hoptimal, hfills, ?_, fun h => hwindow ▸ optimalSize_cut hc h⟩
  rw [optimalSize_within optimal content bounds hc, hfills.within bounds]
  exact optimalSize_of_isOptimal hc hoptimal

theorem optimalSize_fills_bounded :
    Size.isEmpty ⟨17, 13⟩ = false ∧ isOptimal ⟨1000, 567⟩ ⟨17, 13⟩ = false ∧
      Fills ⟨741, 567⟩ ⟨1000, 567⟩ ⟨17, 13⟩ ∧ Cut ⟨741, 567⟩ ⟨1000, 567⟩ ⟨17, 13⟩ := by
  have hc : Size.isEmpty ⟨17, 13⟩ = false := by decide
  have hnot : isOptimal ⟨1000, 567⟩ ⟨17, 13⟩ = false := by decide
  obtain ⟨-, hfills, -, hcut⟩ := optimalSize_fills hc ⟨1234, 567⟩ (some ⟨1000, 700⟩)
  exact ⟨hc, hnot, hfills, hcut hnot⟩

/-! ## Drawing surfaces -/

/-- A side of the rectangle came out as zero, and was made one pixel long. -/
def Raised (r : Rect) (area content : Size) : Prop :=
  isOptimal area content = false ∧
    (r.w.toInt = 1 ∧ content.width.toNat * area.height.toNat / content.height.toNat = 0 ∨
      r.h.toInt = 1 ∧ content.height.toNat * area.width.toNat / content.width.toNat = 0)

/-- A size without pixels still fills an area with pixels when its sides are made at least
one pixel long. -/
theorem Fills.raise {t : Size} (h : Fills s area content) (harea : 1 ≤ area.width.toNat ∧ 1 ≤ area.height.toNat)
    (hw : t.width.toNat = max s.width.toNat 1) (hh : t.height.toNat = max s.height.toNat 1) :
    Fills t area content := by
  have hwidth := h.width
  have hheight := h.height
  refine ⟨by omega, by omega, ?_, ?_⟩
  · refine h.across.imp (fun heq => ?_) (fun heq => ?_)
    · have heq := congrArg UInt32.toNat heq
      exact UInt32.toNat_inj.mp (by omega)
    · have heq := congrArg UInt32.toNat heq
      exact UInt32.toNat_inj.mp (by omega)
  · intro a b ha hb hab
    have hinside := h.holds a b ha hb hab
    omega

/-- Only a side that was computed can come out as zero. -/
theorem raised_of_empty {r : Rect} (hc : content.isEmpty = false)
    (harea : 1 ≤ area.width.toNat ∧ 1 ≤ area.height.toNat)
    (hw : r.w.toInt = max ((optimalSize area content none).width.toNat : Int) 1)
    (hh : r.h.toInt = max ((optimalSize area content none).height.toNat : Int) 1)
    (hempty : (optimalSize area content none).width.toNat = 0 ∨ (optimalSize area content none).height.toNat = 0) :
    Raised r area content := by
  by_cases hoptimal : isOptimal area content = true
  · rw [optimalSize_of_isOptimal hc hoptimal] at hempty
    omega
  have hnot : isOptimal area content = false := by simpa using hoptimal
  have hcut := optimalSize_cut hc hnot
  refine ⟨hnot, ?_⟩
  unfold Cut at hcut
  split at hcut
  · have hkept := congrArg UInt32.toNat hcut.1
    exact .inr ⟨by omega, by omega⟩
  · have hkept := congrArg UInt32.toNat hcut.1
    exact .inl ⟨by omega, by omega⟩

/-- **The content is shown as large as it can be without being distorted.** On a drawing
surface of any size that a signed word can hold it gets a rectangle that fills the part of
the surface beside the panel, and that is an optimal size unless one of its sides would have
had no pixels. -/
theorem contentRect_fills {drawable : Size} (hw : 1 ≤ drawable.width.toNat ∧ drawable.width.toNat ≤ 2 ^ 31 - 1)
    (hh : 1 ≤ drawable.height.toNat ∧ drawable.height.toNat ≤ 2 ^ 31 - 1) (hc : content.isEmpty = false)
    (panelWidth : Int32) :
    let area := contentArea drawable panelWidth
    (contentRect drawable content panelWidth).Yields fun r =>
      (1 ≤ r.w.toInt ∧ 1 ≤ r.h.toInt) ∧ Fills r.size area content ∧
        (isOptimal r.size content = true ∨ Raised r area content) := by
  have hfitted := @contentRect_fitted drawable content panelWidth (by omega) (by omega) hc
  have hwidth := @width_contentArea drawable panelWidth (by omega)
  have hheight : (contentArea drawable panelWidth).height = drawable.height := rfl
  dsimp only
  generalize contentArea drawable panelWidth = area at hfitted hwidth hheight ⊢
  refine hfitted.mono ?_
  intro r hr
  have hrw := hr.w
  have hrh := hr.h
  have harea : 1 ≤ area.width.toNat ∧ 1 ≤ area.height.toNat := by
    rw [hheight]
    omega
  have hfills : Fills (optimalSize area content none) area content := fills_optimalSize hc
  have hsw : (r.size.width.toNat : Int) = r.w.toInt := Checked.toNat_toUInt32 (i := r.w) (by omega)
  have hsh : (r.size.height.toNat : Int) = r.h.toInt := Checked.toNat_toUInt32 (i := r.h) (by omega)
  refine ⟨by omega, hfills.raise harea (by omega) (by omega), ?_⟩
  by_cases hempty : (optimalSize area content none).width.toNat = 0 ∨ (optimalSize area content none).height.toNat = 0
  · exact .inr (raised_of_empty hc harea hrw hrh hempty)
  · have hsize : r.size = optimalSize area content none := by
      have hwidth : r.size.width = (optimalSize area content none).width := UInt32.toNat_inj.mp (by omega)
      have hheight : r.size.height = (optimalSize area content none).height := UInt32.toNat_inj.mp (by omega)
      exact congr (congrArg Size.mk hwidth) hheight
    rw [hsize]
    exact .inl (isOptimal_optimalSize hc)

/-- Wide content beside a panel, with borders above and below. -/
theorem contentRect_fills_beside :
    (contentRect ⟨1000, 1000⟩ ⟨1920, 1080⟩ 100).Yields fun r =>
      Fills r.size ⟨900, 1000⟩ ⟨1920, 1080⟩ ∧ isOptimal r.size ⟨1920, 1080⟩ = true := by
  refine (@contentRect_fills ⟨1920, 1080⟩ ⟨1000, 1000⟩ (by decide) (by decide) (by decide) 100).mono ?_
  rintro r ⟨-, hfills, hoptimal | ⟨-, ⟨-, hzero⟩ | ⟨-, hzero⟩⟩⟩
  · exact ⟨hfills, hoptimal⟩
  · exact absurd hzero (by decide)
  · exact absurd hzero (by decide)

end Fitting

end RemoteView
