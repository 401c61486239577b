/-
The pixels of a rectangle (`Rect.Covers`) and the tests against it. If its far edges can be
asked for, each test ends well and tells whether the point is one of the pixels
(`Rect.contains_eq`).
-/
import RemoteView.Geometry
import RemoteView.Proofs.Checked

namespace RemoteView

/-- The point is one of the pixels of the rectangle. -/
structure Rect.Covers (r : Rect) (p : Point) : Prop where
  left : r.x.toInt ≤ p.x.toInt
  right : p.x.toInt < r.x.toInt + r.w.toInt
  top : r.y.toInt ≤ p.y.toInt
  bottom : p.y.toInt < r.y.toInt + r.h.toInt

instance (r : Rect) (p : Point) : Decidable (r.Covers p) :=
  decidable_of_iff ((r.x.toInt ≤ p.x.toInt ∧ p.x.toInt < r.x.toInt + r.w.toInt) ∧
      r.y.toInt ≤ p.y.toInt ∧ p.y.toInt < r.y.toInt + r.h.toInt)
    ⟨fun ⟨⟨left, right⟩, top, bottom⟩ => ⟨left, right, top, bottom⟩,
      fun h => ⟨⟨h.left, h.right⟩, h.top, h.bottom⟩⟩

/-- Both far edges can be asked for. -/
structure Rect.Edged (r : Rect) : Prop where
  right : -2 ^ 31 ≤ r.x.toInt + r.w.toInt ∧ r.x.toInt + r.w.toInt < 2 ^ 31
  bottom : -2 ^ 31 ≤ r.y.toInt + r.h.toInt ∧ r.y.toInt + r.h.toInt < 2 ^ 31

namespace Rect

variable {r : Rect} {p : Point}

theorem covers_iff : r.Covers p ↔ (r.x.toInt ≤ p.x.toInt ∧ p.x.toInt < r.x.toInt + r.w.toInt) ∧
    r.y.toInt ≤ p.y.toInt ∧ p.y.toInt < r.y.toInt + r.h.toInt :=
  ⟨fun h => ⟨⟨h.left, h.right⟩, h.top, h.bottom⟩, fun h => ⟨h.1.1, h.1.2, h.2.1, h.2.2⟩⟩

theorem containsX_eq (h : r.Edged) (x : Int32) :
    r.containsX x = .ok (decide (r.x.toInt ≤ x.toInt ∧ x.toInt < r.x.toInt + r.w.toInt)) := by
  obtain ⟨edge, hedge, hval⟩ := Checked.add_yields h.right.1 h.right.2
  unfold containsX right
  simp only [Int32.lt_iff_toInt_lt, hedge]
  split
  · exact congrArg Except.ok (decide_eq_false (by omega)).symm
  · exact congrArg Except.ok (decide_eq_decide.mpr (by omega))

theorem contains_eq (h : r.Edged) (p : Point) : r.contains p = .ok (decide (r.Covers p)) := by
  obtain ⟨edge, hedge, hval⟩ := Checked.add_yields h.bottom.1 h.bottom.2
  refine Except.bind_ok_iff.mpr ⟨_, containsX_eq h p.x, ?_⟩
  simp only [Bool.or_eq_true, Bool.not_eq_true', decide_eq_false_iff_not, decide_eq_true_eq,
    Int32.lt_iff_toInt_lt, covers_iff]
  split
  next hout => exact Except.pure_ok_iff.mpr (decide_eq_false (by omega)).symm
  next hin =>
    refine Except.bind_ok_iff.mpr ⟨edge, hedge, Except.pure_ok_iff.mpr (decide_eq_decide.mpr ?_)⟩
    omega

theorem containsX_ok_iff (h : r.Edged) {x : Int32} :
    r.containsX x = .ok true ↔ r.x.toInt ≤ x.toInt ∧ x.toInt < r.x.toInt + r.w.toInt := by
  rw [containsX_eq h, Except.ok.injEq, decide_eq_true_eq]

theorem contains_ok_iff (h : r.Edged) : r.contains p = .ok true ↔ r.Covers p := by
  rw [contains_eq h, Except.ok.injEq, decide_eq_true_eq]

end Rect

end RemoteView
