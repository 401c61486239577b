/-
No pixel is lost to the width of a word. `Exact` fits sizes, places content and scales points
as `Fitting` and `Mapping` do, but in natural numbers and integers, which have no bound. On
sizes of at most 65535 pixels a side the words hold just what it computes
(`Fitting.geometry_exact`). There is little room left: two such sides multiplied come within
131071 of the end of a word.
-/
import RemoteView.Proofs.Fitting.Largest
import RemoteView.Proofs.Mapping.Bounds
import RemoteView.Panel.Layout

namespace RemoteView

namespace Exact

structure Dimensions where
  width : Nat
  height : Nat

structure Box where
  x : Int
  y : Int
  w : Int
  h : Int

/-- The value times `num / den`, rounded down; unchanged if `den` is zero. -/
def scale (value num den : Nat) : Nat := if den = 0 then value else value * num / den

/-- A coordinate times `num / den`, rounded toward zero; unchanged if `den` is zero. -/
def scaleAxis (v : Int) (num den : Nat) : Int := if den = 0 then v else (v * num).tdiv den

/-- One dimension of `current` is what the other makes it. -/
def Optimal (current content : Dimensions) : Prop :=
  current.height = current.width * content.height / content.width ∨
    current.width = current.height * content.width / content.height

instance (current content : Dimensions) : Decidable (Optimal current content) :=
  inferInstanceAs (Decidable (_ ∨ _))

def cropped (area content : Dimensions) : Dimensions :=
  if content.height * area.width < content.width * area.height then
    { area with height := content.height * area.width / content.width }
  else { area with width := content.width * area.height / content.height }

/-- The area without its borders, if it has any. -/
def fitted (area content : Dimensions) : Dimensions :=
  if Optimal area content then area else cropped area content

def optimalSize (current content : Dimensions) (bounds : Option Dimensions) : Dimensions :=
  if content.width = 0 ∨ content.height = 0 then current
  else fitted (bounds.elim current fun b => ⟨min current.width b.width, min current.height b.height⟩) content

def initialSize (content : Dimensions) (width height : Option Nat) (bounds : Option Dimensions) : Dimensions :=
  match width, height with
  | none, none => optimalSize content content bounds
  | some w, some h => ⟨w, h⟩
  | some w, none => ⟨w, scale w content.height content.width⟩
  | none, some h => ⟨scale h content.width content.height, h⟩

def resizeTarget (window old new : Dimensions) : Dimensions :=
  ⟨scale window.width new.width old.width, scale window.height new.height old.height⟩

/-- The columns that a panel gets when it asks for `panelWidth`. -/
def panelShare (drawable : Dimensions) (panelWidth : Int) : Int := max 0 (min panelWidth drawable.width)

/-- What is left of a drawing surface beside the panel, one column at least. -/
def contentArea (drawable : Dimensions) (panelWidth : Int) : Dimensions :=
  ⟨(max (drawable.width - panelShare drawable panelWidth) 1).toNat, drawable.height⟩

def contentRect (drawable content : Dimensions) (panelWidth : Int) : Box :=
  let panel := panelShare drawable panelWidth
  let area := contentArea drawable panelWidth
  let box : Box :=
    if Optimal area content then ⟨(drawable.width - area.width - panel).tdiv 2, 0, area.width, drawable.height⟩
    else if content.height * area.width < content.width * area.height then
      let h := content.height * area.width / content.width
      ⟨(drawable.width - area.width - panel).tdiv 2, (drawable.height - h : Int).tdiv 2, area.width, h⟩
    else
      let w := content.width * area.height / content.height
      ⟨(drawable.width - w - panel).tdiv 2, 0, w, drawable.height⟩
  { box with w := max box.w 1, h := max box.h 1 }

/-- The content has the size that fits the part of the surface beside the panel, and what is
left free is halved. -/
theorem contentRect_eq (drawable content : Dimensions) (panelWidth : Int) :
    let shown := fitted (contentArea drawable panelWidth) content
    contentRect drawable content panelWidth =
      ⟨(drawable.width - shown.width - panelShare drawable panelWidth).tdiv 2,
        (drawable.height - shown.height : Int).tdiv 2, max shown.width 1, max shown.height 1⟩ := by
  have hheight : (contentArea drawable panelWidth).height = drawable.height := rfl
  simp only [contentRect, fitted, cropped]
  split
  next => simp [hheight]
  next =>
    split
    next => simp
    next => simp [hheight]

end Exact

def Size.dimensions (s : Size) : Exact.Dimensions := ⟨s.width.toNat, s.height.toNat⟩

def Rect.box (r : Rect) : Exact.Box := ⟨r.x.toInt, r.y.toInt, r.w.toInt, r.h.toInt⟩

namespace Fitting

variable {area content : Size}

theorem toNat_scale_of_le {value num : UInt32} (hvalue : value.toNat ≤ 65535) (hnum : num.toNat ≤ 65535)
    (den : UInt32) : (scale value num den).toNat = Exact.scale value.toNat num.toNat den.toNat := by
  by_cases hden : den = 0
  · subst hden
    rfl
  have hpos : den.toNat ≠ 0 := fun h => hden (UInt32.toNat_inj.mp h)
  have hprod : value.toNat * num.toNat ≤ 65535 * 65535 := Nat.mul_le_mul hvalue hnum
  have hle : value.toNat * num.toNat / den.toNat ≤ value.toNat * num.toNat := Nat.div_le_self _ _
  rw [Exact.scale, if_neg hpos]
  exact toNat_scale (Nat.pos_of_ne_zero hpos) (by omega)

theorem isOptimal_iff (ha : area.FrameLike) (hcontent : content.FrameLike) (hc : content.isEmpty = false) :
    isOptimal area content = true ↔ Exact.Optimal area.dimensions content.dimensions := by
  obtain ⟨hcw, hch⟩ := pos_of_isEmpty hc
  have hheight := toNat_scale_of_le ha.width hcontent.height content.width
  have hwidth := toNat_scale_of_le ha.height hcontent.width content.height
  rw [Exact.scale, if_neg (by omega)] at hheight hwidth
  simp only [isOptimal, hc, Bool.not_false, Bool.true_and, Bool.or_eq_true, beq_iff_eq, ← UInt32.toNat_inj,
    hheight, hwidth]
  rfl

theorem dimensions_cropped (hc : content.isEmpty = false) :
    (cropped area content).dimensions = Exact.cropped area.dimensions content.dimensions := by
  have hcut : Cut (cropped area content) area content := cropped_cut hc
  unfold Cut at hcut
  split at hcut
  next hk =>
    simp only [Exact.cropped, Size.dimensions, hk, if_true, hcut.1, hcut.2]
  next hk =>
    simp only [Exact.cropped, Size.dimensions, hk, if_false, hcut.1, hcut.2]

theorem dimensions_fitted (ha : area.FrameLike) (hcontent : content.FrameLike) (hc : content.isEmpty = false) :
    (optimalSize area content none).dimensions = Exact.fitted area.dimensions content.dimensions := by
  rw [optimalSize_none hc, Exact.fitted]
  by_cases hoptimal : isOptimal area content = true
  · rw [if_pos hoptimal, if_pos ((isOptimal_iff ha hcontent hc).mp hoptimal)]
  · rw [if_neg hoptimal, if_neg (mt (isOptimal_iff ha hcontent hc).mpr hoptimal)]
    exact dimensions_cropped hc

theorem dimensions_within (s : Size) (bounds : Option Size) :
    (s.within bounds).dimensions = (bounds.map Size.dimensions).elim s.dimensions fun b =>
      ⟨min s.width.toNat b.width, min s.height.toNat b.height⟩ := by
  cases bounds with
  | none => rfl
  | some bound => simp [Size.within, Size.inter, Size.dimensions, UInt32.toNat_min]

theorem within_frameLike {s : Size} (h : s.FrameLike) (bounds : Option Size) : (s.within bounds).FrameLike := by
  have hw := h.width
  have hh := h.height
  cases bounds with
  | none => exact h
  | some bound =>
    constructor
    · simp only [Size.within, Option.elim_some, Size.inter, UInt32.toNat_min]
      omega
    · simp only [Size.within, Option.elim_some, Size.inter, UInt32.toNat_min]
      omega

theorem dimensions_optimalSize {current : Size} (hcurrent : current.FrameLike) (hcontent : content.FrameLike)
    (bounds : Option Size) : (optimalSize current content bounds).dimensions =
      Exact.optimalSize current.dimensions content.dimensions (bounds.map Size.dimensions) := by
  by_cases hc : content.isEmpty = true
  · have hzero : content.dimensions.width = 0 ∨ content.dimensions.height = 0 := by
      simpa [Size.isEmpty, Size.dimensions, ← UInt32.toNat_inj] using hc
    rw [optimalSize, if_pos hc, Exact.optimalSize, if_pos hzero]
  · have hc : content.isEmpty = false := by simpa using hc
    obtain ⟨hcw, hch⟩ := pos_of_isEmpty hc
    have hpos : ¬(content.dimensions.width = 0 ∨ content.dimensions.height = 0) := by
      simp only [Size.dimensions]
      omega
    rw [Exact.optimalSize, if_neg hpos, optimalSize_within current content bounds hc,
      dimensions_fitted (within_frameLike hcurrent bounds) hcontent hc, dimensions_within]
    rfl

theorem dimensions_initialSize (hcontent : content.FrameLike) (width height : Option UInt16) (bounds : Option Size) :
    (initialSize content width height bounds).dimensions =
      Exact.initialSize content.dimensions (width.map (·.toNat)) (height.map (·.toNat))
        (bounds.map Size.dimensions) := by
  have hword (n : UInt16) : n.toUInt32.toNat = n.toNat ∧ n.toUInt32.toNat ≤ 65535 := by
    have hlt := n.toNat_lt
    have heq : n.toUInt32.toNat = n.toNat := UInt16.toNat_toUInt32 n
    exact ⟨heq, by omega⟩
  cases width with
  | none =>
    cases height with
    | none => exact dimensions_optimalSize hcontent hcontent bounds
    | some h =>
      obtain ⟨heq, hle⟩ := hword h
      have hscale := toNat_scale_of_le hle hcontent.width content.height
      simp only [initialSize, Exact.initialSize, Size.dimensions, Option.map_none, Option.map_some, hscale, heq]
  | some w =>
    obtain ⟨heq, hle⟩ := hword w
    cases height with
    | none =>
      have hscale := toNat_scale_of_le hle hcontent.height content.width
      simp only [initialSize, Exact.initialSize, Size.dimensions, Option.map_none, Option.map_some, hscale, heq]
    | some h => simp only [initialSize, Exact.initialSize, Size.dimensions, Option.map_some, heq, (hword h).1]

theorem dimensions_resizeTarget {window old new : Size} (hwindow : window.FrameLike) (hnew : new.FrameLike) :
    (resizeTarget window old new).dimensions =
      Exact.resizeTarget window.dimensions old.dimensions new.dimensions := by
  simp only [resizeTarget, Exact.resizeTarget, Size.dimensions, toNat_scale_of_le hwindow.width hnew.width,
    toNat_scale_of_le hwindow.height hnew.height]

theorem toInt_panelWidthScaled {window drawable : Size} (hdrawable : drawable.FrameLike) :
    (panelWidthScaled true Panel.logicalWidth window drawable).toInt =
      Exact.scale Panel.logicalWidth.toNat drawable.width.toNat window.width.toNat := by
  have hle : (scale Panel.logicalWidth drawable.width window.width).toNat ≤ 50 * 65535 :=
    scale_le (by decide) hdrawable.width (by decide)
  rw [panelWidthScaled, if_pos rfl, Checked.toInt_toInt32 (by omega),
    toNat_scale_of_le (by decide) hdrawable.width]

theorem toInt_scaleAxis {v : Int32} {num : UInt32} (hv : -32768 ≤ v.toInt ∧ v.toInt ≤ 32767)
    (hnum : num.toNat ≤ 65535) (den : UInt32) :
    (Mapping.scaleAxis v num den).toInt = Exact.scaleAxis v.toInt num.toNat den.toNat := by
  by_cases hden : den = 0
  · subst hden
    rfl
  have hpos : den.toNat ≠ 0 := fun h => hden (UInt32.toNat_inj.mp h)
  have hlow : -32768 * (num.toNat : Int) ≤ v.toInt * num.toNat := Int.mul_le_mul_of_nonneg_right hv.1 (by omega)
  have hhigh : v.toInt * num.toNat ≤ 32767 * (num.toNat : Int) := Int.mul_le_mul_of_nonneg_right hv.2 (by omega)
  have habs := Int.natAbs_tdiv_le_natAbs (v.toInt * num.toNat) den.toNat
  rw [Mapping.scaleAxis, if_neg hden, Exact.scaleAxis, if_neg hpos]
  exact Int32.toInt_ofInt_of_le (by omega) (by omega)

theorem Halved.box_eq {drawable : Size} {panel w h : Int} {r : Rect} (hr : Halved drawable panel w h r)
    (hpanel : panel ≤ drawable.width.toNat) :
    r.box = ⟨(drawable.width.toNat - w - panel).tdiv 2, (drawable.height.toNat - h).tdiv 2, max w 1, max h 1⟩ := by
  obtain ⟨hwidth, hheight, hx, hy, hw, hh⟩ := hr
  rw [Rect.box, hx, hy, hw, hh, tdiv_two (by omega), Int.tdiv_eq_ediv_of_nonneg (by omega)]

theorem dimensions_contentArea {drawable : Size} (panelWidth : Int32) (hw : drawable.width.toNat < 2 ^ 31) :
    (contentArea drawable panelWidth).dimensions = Exact.contentArea drawable.dimensions panelWidth.toInt := by
  have hwidth := congrArg Int.toNat (width_contentArea panelWidth hw)
  rw [Int.toNat_natCast] at hwidth
  rw [Size.dimensions, hwidth]
  rfl

theorem box_contentRect {drawable : Size} (hdrawable : drawable.FrameLike) (hcontent : content.FrameLike)
    (hc : content.isEmpty = false) (panelWidth : Int32) : (contentRect drawable content panelWidth).Yields fun r =>
      r.box = Exact.contentRect drawable.dimensions content.dimensions panelWidth.toInt := by
  have hw := hdrawable.width
  have hh := hdrawable.height
  have hwidth := @width_contentArea drawable panelWidth (by omega)
  have hshare : 0 ≤ panelShare drawable panelWidth ∧ panelShare drawable panelWidth ≤ drawable.width.toNat := by
    unfold panelShare
    omega
  have harea : (contentArea drawable panelWidth).FrameLike := ⟨by omega, hh⟩
  have hshown := dimensions_fitted harea hcontent hc
  rw [dimensions_contentArea panelWidth (by omega)] at hshown
  refine (contentRect_fitted panelWidth (by omega) (by omega) hc).mono ?_
  intro r hr
  rw [Exact.contentRect_eq, ← hshown]
  exact hr.box_eq hshare.2

theorem dimensions_preferredBounds (usable : Rect) : (preferredBounds usable).dimensions =
    ⟨usable.w.toInt.toNat - displayMargins, usable.h.toInt.toNat - displayMargins⟩ := by
  have hshrunk (v : Int32) : (UInt32.ofNat (v.toInt.toNat - displayMargins)).toNat = v.toInt.toNat - displayMargins := by
    have hlt := v.toInt_lt
    exact UInt32.toNat_ofNat_of_lt' (by show _ < 2 ^ 32; omega)
  simp only [preferredBounds, Size.dimensions, hshrunk]

/-- **Nothing is cut to a word.** On sizes of at most 65535 pixels a side, and points of 16
bits, fitting and scaling give just what they give without bounds: the quotient rounded down
for a size and toward zero for a point, and the value itself where there is nothing to divide
by. In particular content with pixels always gets its place. -/
theorem geometry_exact {window drawable content : Size} (hwindow : window.FrameLike)
    (hdrawable : drawable.FrameLike) (hcontent : content.FrameLike) :
    (content.isEmpty = false → (isOptimal window content = true ↔
      window.height.toNat = window.width.toNat * content.height.toNat / content.width.toNat ∨
        window.width.toNat = window.height.toNat * content.width.toNat / content.height.toNat)) ∧
    (∀ bounds, (optimalSize window content bounds).dimensions =
      Exact.optimalSize window.dimensions content.dimensions (bounds.map Size.dimensions)) ∧
    (∀ width height bounds, (initialSize content width height bounds).dimensions =
      Exact.initialSize content.dimensions (width.map (·.toNat)) (height.map (·.toNat))
        (bounds.map Size.dimensions)) ∧
    (∀ old, (resizeTarget window old content).dimensions =
      Exact.resizeTarget window.dimensions old.dimensions content.dimensions) ∧
    (panelWidthScaled true Panel.logicalWidth window drawable).toInt =
      Exact.scale Panel.logicalWidth.toNat drawable.width.toNat window.width.toNat ∧
    (content.isEmpty = false → ∀ panelWidth, (contentRect drawable content panelWidth).Yields fun r =>
      r.box = Exact.contentRect drawable.dimensions content.dimensions panelWidth.toInt) ∧
    (∀ position p, centeredPosition position window content = .ok p →
      p.x.toInt = position.x.toInt + ((window.width.toNat - content.width.toNat) / 2 : Nat) ∧
        p.y.toInt = position.y.toInt + ((window.height.toNat - content.height.toNat) / 2 : Nat)) ∧
    (∀ usable, (preferredBounds usable).dimensions =
      ⟨usable.w.toInt.toNat - displayMargins, usable.h.toInt.toNat - displayMargins⟩) ∧
    ∀ p : Point, -32768 ≤ p.x.toInt ∧ p.x.toInt ≤ 32767 → -32768 ≤ p.y.toInt ∧ p.y.toInt ≤ 32767 →
      (Mapping.scalePoint p window drawable).x.toInt =
          Exact.scaleAxis p.x.toInt drawable.width.toNat window.width.toNat ∧
        (Mapping.scalePoint p window drawable).y.toInt =
          Exact.scaleAxis p.y.toInt drawable.height.toNat window.height.toNat := by
  refine ⟨fun hc => ?_, ?_, ?_, ?_, ?_, fun hc => ?_, ?_, ?_, ?_⟩
  · exact isOptimal_iff hwindow hcontent hc
  · exact dimensions_optimalSize hwindow hcontent
  · exact dimensions_initialSize hcontent
  · intro old
    exact dimensions_resizeTarget hwindow hcontent
  · exact toInt_panelWidthScaled hdrawable
  · exact box_contentRect hdrawable hcontent hc
  · intro position p
    exact centeredPosition_ok_iff.mp
  · exact dimensions_preferredBounds
  · intro p hx hy
    exact ⟨toInt_scaleAxis hx hdrawable.width window.width, toInt_scaleAxis hy hdrawable.height window.height⟩

/-- A window of one column on the largest surface, with the largest content. -/
theorem geometry_exact_largest :
    Size.FrameLike ⟨1, 65535⟩ ∧ Size.FrameLike ⟨65535, 65535⟩ ∧ Size.isEmpty ⟨65535, 65535⟩ = false ∧
      (resizeTarget ⟨1, 65535⟩ ⟨0, 1⟩ ⟨65535, 65535⟩).dimensions = ⟨1, 4294836225⟩ ∧
      (panelWidthScaled true Panel.logicalWidth ⟨1, 65535⟩ ⟨65535, 65535⟩).toInt = 3276750 ∧
      ((contentRect ⟨65535, 65535⟩ ⟨65535, 65535⟩ 100).Yields fun r => r.box = ⟨0, 50, 65435, 65435⟩) ∧
      (Mapping.scalePoint ⟨-32768, 32767⟩ ⟨1, 65535⟩ ⟨65535, 65535⟩).x.toInt = -2147450880 := by
  have hcolumn : Size.FrameLike ⟨1, 65535⟩ := ⟨by decide, by decide⟩
  have hlargest : Size.FrameLike ⟨65535, 65535⟩ := ⟨by decide, by decide⟩
  have hc : Size.isEmpty ⟨65535, 65535⟩ = false := rfl
  obtain ⟨-, -, -, hresized, hpanel, hplaced, -, -, hscaled⟩ := geometry_exact hcolumn hlargest hlargest
  exact ⟨hcolumn, hlargest, hc, hresized ⟨0, 1⟩, hpanel, hplaced hc 100,
    (hscaled ⟨-32768, 32767⟩ (by decide) (by decide)).1⟩

end Fitting

end RemoteView
