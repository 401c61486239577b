/-
What a point of the panel hits, by arithmetic. The buttons are tried one after the other,
but they lie in rows of one height, so the row of a point can be divided out of its distance
from the first one (`Panel.Layout.rowHit`). Wherever a layout can be made and tried, both
give the same (`Panel.Layout.hitTest_rowHit`).
-/
import RemoteView.Proofs.Fitting.Centred

namespace RemoteView.Panel.Layout

/-- The number of buttons in a layout: the count, as far as a signed word can hold it. -/
def rows (count : Nat) : Nat := (Int32.ofNat count).toInt.toNat

theorem rows_of_lt {count : Nat} (h : count < 2 ^ 31) : rows count = count := by
  rw [rows, Int32.toInt_ofNat_of_lt h, Int.toNat_natCast]

/-- What a point hits in `width` columns from column `left` on, with buttons in `count` rows
from row `top` on. -/
def rowHit (left width top : Int) (count : Nat) (p : Point) : Hit :=
  let margin := buttonMargin.toInt
  let pitch := (buttonHeight + buttonMargin).toInt
  let down := p.y.toInt - top
  if p.x.toInt < left ∨ left + width ≤ p.x.toInt then .outside
  else if (left + margin ≤ p.x.toInt ∧ p.x.toInt < left + width - margin) ∧
      0 ≤ down ∧ down / pitch < count ∧ down % pitch < buttonHeight.toInt then .button (down / pitch).toNat
  else .background

/-! ## The rows -/

/-- The panel takes `width` columns from column `left` on, and the buttons lie between its margins
in `count` rows from row `top` on. -/
structure Gridded (l : Layout) (left width top : Int) (count : Nat) : Prop where
  edge : l.panel.x.toInt = left
  columns : l.panel.w.toInt = width
  length : l.buttons.length = count
  button : ∀ i, (hi : i < l.buttons.length) → l.buttons[i].x.toInt = left + 10 ∧
    l.buttons[i].w.toInt = width - 20 ∧ l.buttons[i].y.toInt = top + 55 * i ∧ l.buttons[i].h.toInt = 45

theorem gridded_of_forScreen {content : Rect} {panelWidth drawableHeight : Int32} {count : Nat} {l : Layout}
    (h : forScreen content panelWidth drawableHeight count = .ok l) :
    l.Gridded (content.x.toInt + content.w.toInt) (max panelWidth.toInt 0) (content.y.toInt + 10) (rows count) := by
  obtain ⟨x, hx, width, hwidth, buttons, hbuttons, rfl⟩ := forScreen_ok_iff.mp h
  have hxval : x.toInt = content.x.toInt + content.w.toInt := Checked.add_eq_ok_iff.mp hx
  have hwval : width.toInt = (max panelWidth 0).toInt - (2 * buttonMargin).toInt := Checked.sub_eq_ok_iff.mp hwidth
  have hmargins : (2 * buttonMargin).toInt = 20 := rfl
  have hmax := Checked.toInt_max panelWidth 0
  rw [Int32.toInt_zero] at hmax
  have hcount := Except.length_mapM hbuttons
  rw [List.length_range] at hcount
  have hfew := (Int32.ofNat count).toInt_lt
  refine ⟨hxval, hmax, hcount, fun i hi => ?_⟩
  dsimp only at hi ⊢
  have hb := Except.getElem_mapM hbuttons i (by rwa [List.length_range, ← hcount]) hi
  rw [List.getElem_range] at hb
  obtain ⟨hbx, hbw, hby, hbh⟩ := buttonRect_ok (by omega) hb
  dsimp only at hbx
  exact ⟨by omega, by rw [hbw]; omega, hby, hbh⟩

section Gridded

variable {l : Layout} {left width top : Int} {count : Nat} {p : Point}

/-- A point lies on a button if its row is that of the button, and not in the space below. -/
theorem Gridded.covers_iff (h : l.Gridded left width top count) {i : Nat} (hi : i < l.buttons.length) :
    l.buttons[i].Covers p ↔ (left + 10 ≤ p.x.toInt ∧ p.x.toInt < left + width - 10) ∧
      (p.y.toInt - top) / 55 = i ∧ (p.y.toInt - top) % 55 < 45 := by
  obtain ⟨hx, hw, hy, hh⟩ := h.button i hi
  rw [Rect.covers_iff]
  omega

theorem Gridded.findIdx? (h : l.Gridded left width top count) :
    (l.buttons.findIdx? fun rect => decide (rect.Covers p)) =
      if (left + 10 ≤ p.x.toInt ∧ p.x.toInt < left + width - 10) ∧
        0 ≤ p.y.toInt - top ∧ (p.y.toInt - top) / 55 < count ∧ (p.y.toInt - top) % 55 < 45 then
        some ((p.y.toInt - top) / 55).toNat
      else none := by
  have hlength := h.length
  split
  next hrow =>
    rw [List.findIdx?_eq_some_iff_getElem]
    refine ⟨by omega, decide_eq_true ((h.covers_iff _).mpr (by omega)), fun j hj => ?_⟩
    simp only [decide_eq_true_eq, h.covers_iff]
    omega
  next hrow =>
    rw [List.findIdx?_eq_none_iff]
    intro rect hrect
    obtain ⟨i, hi, rfl⟩ := List.getElem_of_mem hrect
    rw [decide_eq_false_iff_not, h.covers_iff]
    omega

theorem Gridded.hitTest (h : l.Gridded left width top count) (hedged : l.Edged) (p : Point) :
    l.hitTest p = .ok (rowHit left width top count p) := by
  have hmargin : buttonMargin.toInt = 10 := rfl
  have hheight : buttonHeight.toInt = 45 := rfl
  have hpitch : (buttonHeight + buttonMargin).toInt = 55 := rfl
  rw [hitTest_eq hedged, h.edge, h.columns, h.findIdx?, rowHit, hmargin, hheight, hpitch]
  refine congrArg Except.ok (ite_congr rfl (fun _ => rfl) fun _ => ?_)
  split <;> rfl

/-- A button lies where its panel does, and leaves the margins free. -/
theorem Gridded.columns_of_covers (h : l.Gridded left width top count) {b : Rect} (hb : b ∈ l.buttons)
    (hp : b.Covers p) : left + 10 ≤ p.x.toInt ∧ p.x.toInt < left + width - 10 := by
  obtain ⟨i, hi, rfl⟩ := List.getElem_of_mem hb
  exact ((h.covers_iff hi).mp hp).1

end Gridded

/-- **A hit can be calculated.** A layout that was made and that can be tried tells of every point
what its column and its row say. So no two buttons have a point in common, each lies on the panel,
and on a panel that has room for its margins at most there is no button to hit. -/
theorem hitTest_rowHit {content : Rect} {panelWidth drawableHeight : Int32} {count : Nat} {l : Layout}
    (h : forScreen content panelWidth drawableHeight count = .ok l) (hedged : l.Edged) :
    let left := content.x.toInt + content.w.toInt
    let width := max panelWidth.toInt 0
    (∀ p, l.hitTest p = .ok (rowHit left width (content.y.toInt + firstButtonOffset.toInt) (rows count) p)) ∧
    (count < 2 ^ 31 → rows count = count) ∧
    (∀ (p : Point) (i j : Nat) (hi : i < l.buttons.length) (hj : j < l.buttons.length),
      l.buttons[i].contains p = .ok true → l.buttons[j].contains p = .ok true → i = j) ∧
    (∀ b ∈ l.buttons, ∀ p, b.contains p = .ok true → l.panel.containsX p.x = .ok true) ∧
    (width ≤ (2 * buttonMargin).toInt → ∀ p i, l.hitTest p ≠ .ok (.button i)) := by
  intro left width
  have hgrid : l.Gridded left width (content.y.toInt + 10) (rows count) := gridded_of_forScreen h
  refine ⟨fun p => hgrid.hitTest hedged p, rows_of_lt, ?_, ?_, ?_⟩
  · intro p i j hi hj hpi hpj
    rw [Rect.contains_ok_iff (hedged.buttons _ (List.getElem_mem _)), hgrid.covers_iff] at hpi hpj
    omega
  · intro b hb p hp
    have hcolumns := hgrid.columns_of_covers hb ((Rect.contains_ok_iff (hedged.buttons b hb)).mp hp)
    rw [Rect.containsX_ok_iff hedged.panel, hgrid.edge, hgrid.columns]
    omega
  · intro hnarrow p i hhit
    have hmargins : (2 * buttonMargin).toInt = 20 := rfl
    rw [hitTest_eq hedged, hgrid.findIdx?, if_neg (c := _ ∧ _) (by omega)] at hhit
    split at hhit <;> cases hhit

/-- A panel left of the origin, whose buttons begin above it. -/
def outlyingLayout : Layout where
  panel := ⟨-200, 0, 60, -9⟩
  buttons := [⟨-190, -80, 40, 45⟩, ⟨-190, -25, 40, 45⟩]

theorem hitTest_rowHit_outlying :
    forScreen ⟨-700, -90, 500, 900⟩ 60 (-9) 2 = .ok outlyingLayout ∧ outlyingLayout.Edged ∧
      outlyingLayout.hitTest ⟨-160, -20⟩ = .ok (.button 1) ∧
      outlyingLayout.hitTest ⟨-160, -30⟩ = .ok .background := by
  have h : forScreen ⟨-700, -90, 500, 900⟩ 60 (-9) 2 = .ok outlyingLayout := rfl
  have hbuttons : ∀ rect ∈ outlyingLayout.buttons, rect.Edged :=
    List.forall_mem_cons.mpr ⟨⟨by decide, by decide⟩, List.forall_mem_singleton.mpr ⟨by decide, by decide⟩⟩
  have hedged : outlyingLayout.Edged := ⟨⟨by decide, by decide⟩, hbuttons⟩
  obtain ⟨hhit, -⟩ := hitTest_rowHit h hedged
  exact ⟨h, hedged, hhit ⟨-160, -20⟩, hhit ⟨-160, -30⟩⟩

/-- A signed word cannot hold this count of buttons, and the layout that is made has none. -/
theorem uncounted_button_missed : ∃ l, forScreen ⟨0, 0, 500, 900⟩ 100 900 (2 ^ 31) = .ok l ∧ l.Edged ∧
    l.hitTest ⟨510, 10⟩ = .ok .background ∧ rowHit 500 100 10 (2 ^ 31) ⟨510, 10⟩ = .button 0 :=
  ⟨{ panel := ⟨500, 0, 100, 900⟩, buttons := [] }, rfl, ⟨⟨by decide, by decide⟩, nofun⟩, rfl, rfl⟩

end RemoteView.Panel.Layout
