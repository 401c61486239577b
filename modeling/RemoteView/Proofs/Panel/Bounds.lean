/-
The panel beside modest content stays within bounds: its layout can be made, a
point can be tried against it (`Layout.hitTest_eq` says what it then hits), and an
update never brings more buttons than a panel may have.
-/
import RemoteView.Panel.Message
import RemoteView.Panel.Overlay
import RemoteView.Proofs.Fitting.Bounds
import RemoteView.Proofs.Geometry

namespace RemoteView.Panel

namespace Layout

/-- A layout against which every point can be tried. -/
structure Edged (l : Layout) : Prop where
  panel : l.panel.Edged
  buttons : ∀ rect ∈ l.buttons, rect.Edged

/-- The place of a button that has one. -/
theorem buttonRect_ok {content panel : Rect} {width : Int32} {index : Nat} {b : Rect} (hindex : index < 2 ^ 31)
    (h : buttonRect content panel width index = .ok b) : b.x.toInt = panel.x.toInt + 10 ∧ b.w = width ∧
      b.y.toInt = content.y.toInt + 10 + 55 * index ∧ b.h.toInt = 45 := by
  simp only [buttonRect, Except.bind_ok_iff, Except.pure_ok_iff, Checked.add_eq_ok_iff,
    Checked.mul_eq_ok_iff] at h
  obtain ⟨x, hx, top, htop, offset, hoffset, y, hy, rfl⟩ := h
  have hmargin : buttonMargin.toInt = 10 := rfl
  have hfirst : firstButtonOffset.toInt = 10 := rfl
  have hpitch : (buttonHeight + buttonMargin).toInt = 55 := rfl
  rw [Int32.toInt_ofNat_of_lt hindex, hpitch] at hoffset
  exact ⟨by simp only; omega, rfl, by simp only; omega, rfl⟩

/-- The place of a button, as long as a word can hold it. -/
theorem buttonRect_places {content panel : Rect} {width : Int32} {index : Nat} (hindex : index < 2 ^ 31)
    (hx : 0 ≤ panel.x.toInt ∧ panel.x.toInt + 10 < 2 ^ 31) (hy : 0 ≤ content.y.toInt)
    (hfits : content.y.toInt + 10 + 55 * index < 2 ^ 31) :
    (buttonRect content panel width index).Yields fun b => b.x.toInt = panel.x.toInt + 10 ∧
      b.y.toInt = content.y.toInt + 10 + 55 * index ∧ b.w = width ∧ b.h = buttonHeight := by
  have hindex' : (Int32.ofNat index).toInt = index := Int32.toInt_ofNat_of_lt hindex
  have hmargin : buttonMargin.toInt = 10 := rfl
  have hoffset : firstButtonOffset.toInt = 10 := rfl
  have hpitch : (buttonHeight + buttonMargin).toInt = 55 := rfl
  have hdown : (Int32.ofNat index).toInt * (buttonHeight + buttonMargin).toInt = index * 55 := by
    rw [hindex', hpitch]
  refine (Checked.add_yields (by omega) (by omega)).bind ?_
  intro x _ hx'
  refine (Checked.add_yields (by omega) (by omega)).bind ?_
  intro top _ htop
  refine (Checked.mul_yields (by omega) (by omega)).bind ?_
  intro offset _ hoff
  refine (Checked.add_yields (by omega) (by omega)).bind ?_
  intro y _ hy'
  exact .pure ⟨by simp only; omega, by simp only; omega, rfl, rfl⟩

theorem buttonRect_yields {content panel : Rect} {width : Int32} {index : Nat} (hindex : index < maxButtons)
    (hx : 0 ≤ panel.x.toInt ∧ panel.x.toInt ≤ 2 * 32767) (hy : 0 ≤ content.y.toInt ∧ content.y.toInt ≤ 32767)
    (hw : -20 ≤ width.toInt ∧ width.toInt ≤ 50 * 32767) :
    (buttonRect content panel width index).Yields Rect.Edged := by
  unfold maxButtons at hindex
  refine (buttonRect_places (by omega) (by omega) hy.1 (by omega)).mono ?_
  rintro b ⟨hbx, hby, hbw, hbh⟩
  have hheight : b.h.toInt = 45 := by rw [hbh]; rfl
  rw [← hbw] at hw
  exact ⟨by omega, by omega⟩

theorem forScreen_yields {content : Rect} {panelWidth drawableHeight : Int32} {count : Nat}
    (hc : content.Placed) (hw : 0 ≤ panelWidth.toInt ∧ panelWidth.toInt ≤ 50 * 32767)
    (hcount : count ≤ maxButtons) : (forScreen content panelWidth drawableHeight count).Yields Edged := by
  have hx := hc.x
  have hcw := hc.w
  have hmax := Checked.toInt_max panelWidth 0
  have hmargins : (2 * buttonMargin).toInt = 20 := rfl
  rw [Int32.toInt_zero] at hmax
  refine (Checked.add_yields (by omega) (by omega)).bind ?_
  intro right _ hright
  simp only
  refine (Checked.sub_yields (by omega) (by omega)).bind ?_
  intro width _ hwidth
  refine (Except.Yields.mapM fun index hindex => ?_).bind fun buttons _ hbuttons => .pure ⟨?_, hbuttons⟩
  · have hrows : (Int32.ofNat count).toInt = count :=
      Int32.toInt_ofNat_of_lt (by unfold maxButtons at hcount; omega)
    have hlt : index < maxButtons := by
      rw [hrows, List.mem_range] at hindex
      omega
    exact buttonRect_yields hlt (by simp only; omega) hc.y (by omega)
  · have hlow := drawableHeight.le_toInt
    have hhigh := drawableHeight.toInt_lt
    refine ⟨by simp only; omega, ?_⟩
    simp only [Int32.toInt_zero]
    omega

/-- Rectangles that can be tried are searched for the first one that covers the point. -/
theorem firstContaining_eq (p : Point) {rects : List Rect} (h : ∀ rect ∈ rects, rect.Edged) :
    firstContaining p rects = .ok (rects.findIdx? fun rect => decide (rect.Covers p)) := by
  induction rects with
  | nil => rfl
  | cons rect rest ih =>
    have hrest := ih fun r hr => h r (List.mem_cons_of_mem _ hr)
    refine Except.bind_ok_iff.mpr ⟨_, Rect.contains_eq (h rect List.mem_cons_self) p, ?_⟩
    rw [List.findIdx?_cons]
    split
    · rfl
    · exact Except.bind_ok_iff.mpr ⟨_, hrest, rfl⟩

theorem hitTest_eq {l : Layout} (h : l.Edged) (p : Point) :
    l.hitTest p = .ok (if p.x.toInt < l.panel.x.toInt ∨ l.panel.x.toInt + l.panel.w.toInt ≤ p.x.toInt then .outside
      else ((l.buttons.findIdx? fun rect => decide (rect.Covers p)).map .button).getD .background) := by
  refine Except.bind_ok_iff.mpr ⟨_, Rect.containsX_eq h.panel p.x, ?_⟩
  by_cases hout : p.x.toInt < l.panel.x.toInt ∨ l.panel.x.toInt + l.panel.w.toInt ≤ p.x.toInt
  · rw [decide_eq_false (by omega), if_pos hout]
    rfl
  · rw [decide_eq_true (by omega), if_neg hout]
    exact Except.bind_ok_iff.mpr ⟨_, firstContaining_eq p h.buttons, rfl⟩

end Layout

theorem Overlay.handlePointer_yields {o : Overlay} {event : PointerEvent} {drawn : Point} {layout : Layout}
    (h : layout.Edged) : (o.handlePointer event drawn layout).Yields fun _ => True := by
  unfold handlePointer
  split
  · exact .pure trivial
  · have hhit : (layout.hitTest drawn).Yields fun _ => True := ⟨_, layout.hitTest_eq h drawn, trivial⟩
    refine hhit.bind ?_
    intro hit _ _
    cases event with
    | motion _ | down _ _ _ | up _ _ _ => exact .pure trivial

/-! ## Updates -/

theorem Update.of_ok {visible : Option Bool} {buttons : List Button} {update : Update}
    (h : Update.of visible buttons = .ok update) : update.buttons.length ≤ maxButtons := by
  unfold Update.of at h
  split at h
  next => cases h
  next hcount =>
    simp only [Except.bind_ok_iff, Except.pure_ok_iff] at h
    obtain ⟨checked, hchecked, rfl⟩ := h
    have hlength := Except.length_mapM hchecked
    simp only [List.length_zipIdx] at hlength
    simp only
    omega

theorem Update.ofMessage_ok {text : String} {update : Update}
    (h : Update.ofMessage text = .ok (some update)) : update.buttons.length ≤ maxButtons := by
  unfold Update.ofMessage at h
  split at h
  next =>
    split at h
    next => cases h
    next =>
      split at h
      next =>
        split at h
        next data _ =>
          simp only [Except.bind_ok_iff, Except.pure_ok_iff, Option.some.injEq] at h
          obtain ⟨entries, -, checked, hchecked, rfl⟩ := h
          exact Update.of_ok hchecked
        next => cases h
      next => cases h
  next => cases h

end RemoteView.Panel
