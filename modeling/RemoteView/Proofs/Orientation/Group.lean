/-
The orientations form a group, and it acts on sizes and points: doing one transform after
another is the transform of the product, and the inverse of an orientation leads back
(`Orientation.transform_group`). A point takes part as long as words can hold its
images; the points of a size that a signed word can hold always do, and each transform
maps them one-to-one onto the points of the turned size.
-/
import Mathlib.Algebra.Group.Basic
import RemoteView.Proofs.Checked
import RemoteView.Proofs.Orientation

namespace RemoteView

/-! ## The groups -/

namespace Turn

/-- The turn with another quarter after it. -/
def quarter : Turn → Turn
  | deg0 => deg90
  | deg90 => deg180
  | deg180 => deg270
  | deg270 => deg0

/-- One turn after another. -/
def add : Turn → Turn → Turn
  | deg0, t => t
  | deg90, t => t.quarter
  | deg180, t => t.quarter.quarter
  | deg270, t => t.quarter.quarter.quarter

instance : Add Turn := ⟨add⟩

instance : Zero Turn := ⟨deg0⟩

instance : Neg Turn := ⟨inverse⟩

instance : AddCommGroup Turn where
  add_assoc a b c := by cases a <;> cases b <;> cases c <;> rfl
  zero_add _ := rfl
  add_zero a := by cases a <;> rfl
  neg_add_cancel a := by cases a <;> rfl
  add_comm a b := by cases a <;> cases b <;> rfl
  nsmul := nsmulRec
  zsmul := zsmulRec

end Turn

namespace Orientation

/-- The orientation `b` after `a`. A flip of `a` lies between the two turns, and makes the
turn of `b` run the other way. -/
def after (b a : Orientation) : Orientation :=
  ⟨a.flipped ^^ b.flipped, a.turn + if a.flipped then -b.turn else b.turn⟩

instance : Mul Orientation := ⟨after⟩

instance : One Orientation := ⟨{}⟩

instance : Inv Orientation := ⟨inverse⟩

theorem mul_eq (b a : Orientation) :
    b * a = ⟨a.flipped ^^ b.flipped, a.turn + if a.flipped then -b.turn else b.turn⟩ := rfl

theorem one_eq : (1 : Orientation) = ⟨false, 0⟩ := rfl

theorem inv_eq (o : Orientation) : o⁻¹ = if o.flipped then o else ⟨o.flipped, -o.turn⟩ := rfl

instance : Group Orientation where
  mul_assoc c b a := by
    obtain ⟨fa, ta⟩ := a
    obtain ⟨fb, tb⟩ := b
    cases fa <;> cases fb <;> simp [mul_eq, add_assoc, add_comm, add_left_comm]
  one_mul a := by
    obtain ⟨f, t⟩ := a
    cases f <;> simp [mul_eq, one_eq]
  mul_one a := by
    obtain ⟨f, t⟩ := a
    simp [mul_eq, one_eq]
  inv_mul_cancel a := by
    obtain ⟨f, t⟩ := a
    cases f <;> simp [mul_eq, one_eq, inv_eq]

/-! ## The action -/

theorem isSwap_mul (b a : Orientation) : (b * a).isSwap = (b.isSwap ^^ a.isSwap) := by
  obtain ⟨fa, ta⟩ := a
  obtain ⟨fb, tb⟩ := b
  cases fa <;> cases ta <;> cases tb <;> rfl

/-- The x axis of the last frame is an axis of the frame between, which may be mirrored itself. -/
theorem mirrorsX_mul (b a : Orientation) :
    (b * a).mirrorsX = (b.mirrorsX ^^ if b.isSwap then a.mirrorsY else a.mirrorsX) := by
  obtain ⟨fa, ta⟩ := a
  obtain ⟨fb, tb⟩ := b
  cases fa <;> cases fb <;> cases ta <;> cases tb <;> rfl

theorem mirrorsY_mul (b a : Orientation) :
    (b * a).mirrorsY = (b.mirrorsY ^^ if b.isSwap then a.mirrorsX else a.mirrorsY) := by
  obtain ⟨fa, ta⟩ := a
  obtain ⟨fb, tb⟩ := b
  cases fa <;> cases ta <;> cases tb <;> rfl

theorem orientedSize_mul (b a : Orientation) (s : Size) :
    (b * a).orientedSize s = b.orientedSize (a.orientedSize s) := by
  unfold orientedSize
  rw [isSwap_mul]
  cases b.isSwap <;> cases a.isSwap <;> rfl

/-- A coordinate on an axis of length `n`, measured from the far end if the axis is mirrored. -/
def mirror (mirrored : Bool) (n v : Int) : Int := if mirrored then n - v else v

theorem mirror_mirror (m' m : Bool) (n v : Int) : mirror m' n (mirror m n v) = mirror (m' ^^ m) n v := by
  cases m' <;> cases m <;> simp [mirror]

theorem frameAxis_ok_iff {mirrored : Bool} {n : UInt32} {v r : Int32} :
    frameAxis mirrored n v = .ok r ↔ r.toInt = mirror mirrored n.toInt32.toInt v.toInt := by
  cases mirrored with
  | false => exact Except.pure_ok_iff.trans (eq_comm.trans Int32.toInt_inj.symm)
  | true => exact Checked.sub_eq_ok_iff

/-- A transform ends well if words hold both coordinates that the axes give. -/
theorem transform_ok_iff {o : Orientation} {p q : Point} {s : Size} :
    o.transform p s = .ok q ↔
      q.x.toInt = mirror o.mirrorsX (o.orientedSize s).width.toInt32.toInt
          (if o.isSwap then p.y else p.x).toInt ∧
        q.y.toInt = mirror o.mirrorsY (o.orientedSize s).height.toInt32.toInt
          (if o.isSwap then p.x else p.y).toInt := by
  obtain ⟨x, y⟩ := q
  simp only [transform_eq, Except.bind_ok_iff, Except.pure_ok_iff, frameAxis_ok_iff, Point.mk.injEq]
  constructor
  · rintro ⟨x', hx, y', hy, rfl, rfl⟩
    exact ⟨hx, hy⟩
  · rintro ⟨hx, hy⟩
    exact ⟨x, hx, y, hy, rfl, rfl⟩

/-- Where the first transform ends well, the second one does what their product does. -/
theorem transform_transform_iff {b a : Orientation} {p q r : Point} {s : Size} (h : a.transform p s = .ok q) :
    b.transform q (a.orientedSize s) = .ok r ↔ (b * a).transform p s = .ok r := by
  obtain ⟨hx, hy⟩ := transform_ok_iff.mp h
  rw [transform_ok_iff, transform_ok_iff, orientedSize_mul, mirrorsX_mul, mirrorsY_mul, isSwap_mul,
    ← mirror_mirror, ← mirror_mirror]
  generalize a.orientedSize s = between at hx hy ⊢
  by_cases hb : b.isSwap = true
  · by_cases ha : a.isSwap = true <;> simp_all [orientedSize, Size.swapped]
  · by_cases ha : a.isSwap = true <;> simp_all [orientedSize]

theorem transform_one (p : Point) (s : Size) : (1 : Orientation).transform p s = .ok p := rfl

/-- What is turned can be turned back. -/
theorem transform_inverse {o : Orientation} {p q : Point} {s : Size} (h : o.transform p s = .ok q) :
    o.inverse.transform q (o.orientedSize s) = .ok p := by
  rw [transform_transform_iff h]
  have hone : o.inverse * o = 1 := inv_mul_cancel o
  rw [hone]
  exact transform_one p s

/-! ## The points of a size -/

end Orientation

/-- The point lies in the size or on one of its far edges. -/
structure Size.Holds (s : Size) (p : Point) : Prop where
  x : 0 ≤ p.x.toInt ∧ p.x.toInt ≤ s.width.toNat
  y : 0 ≤ p.y.toInt ∧ p.y.toInt ≤ s.height.toNat

/-- A signed word can hold both sides. -/
structure Size.Signed (s : Size) : Prop where
  width : s.width.toNat ≤ 2 ^ 31 - 1
  height : s.height.toNat ≤ 2 ^ 31 - 1

namespace Orientation

theorem orientedSize_signed {s : Size} (o : Orientation) (h : s.Signed) : (o.orientedSize s).Signed := by
  unfold orientedSize
  split
  · exact ⟨h.height, h.width⟩
  · exact h

theorem frameAxis_yields {mirrored : Bool} {n : UInt32} {v : Int32} (hn : n.toNat ≤ 2 ^ 31 - 1)
    (hv : 0 ≤ v.toInt ∧ v.toInt ≤ n.toNat) :
    (frameAxis mirrored n v).Yields fun r => 0 ≤ r.toInt ∧ r.toInt ≤ n.toNat := by
  cases mirrored with
  | false => exact .pure hv
  | true =>
    have hn' := Checked.toInt_toInt32 (u := n) (by omega)
    refine (Checked.sub_yields (by omega) (by omega)).mono ?_
    intro r hr
    omega

/-- Every point of a size has an image in the turned size. -/
theorem transform_holds {o : Orientation} {p : Point} {s : Size} (hs : s.Signed) (hp : s.Holds p) :
    (o.transform p s).Yields (o.orientedSize s).Holds := by
  have hframe := orientedSize_signed o hs
  rw [transform_eq]
  refine (frameAxis_yields hframe.width ?_).bind ?_
  · unfold orientedSize
    split
    · exact hp.y
    · exact hp.x
  intro x _ hx
  refine (frameAxis_yields hframe.height ?_).bind ?_
  · unfold orientedSize
    split
    · exact hp.x
    · exact hp.y
  intro y _ hy
  exact .pure ⟨hx, hy⟩

theorem orientedSize_inverse (o : Orientation) (s : Size) : o.inverse.orientedSize (o.orientedSize s) = s := by
  have hone : o.inverse * o = 1 := inv_mul_cancel o
  rw [← orientedSize_mul, hone]
  rfl

/-- Every point of the turned size is the image of one point. -/
theorem transform_onto {o : Orientation} {q : Point} {s : Size} (hs : s.Signed) (hq : (o.orientedSize s).Holds q) :
    ∃! p, s.Holds p ∧ o.transform p s = .ok q := by
  obtain ⟨p, hp, hin⟩ := transform_holds (o := o.inverse) (orientedSize_signed o hs) hq
  rw [orientedSize_inverse] at hin
  have hback : o.transform p (o.inverse.orientedSize (o.orientedSize s)) = .ok q := by
    have hone : o * o.inverse = 1 := mul_inv_cancel o
    rw [transform_transform_iff hp, hone]
    exact transform_one q _
  rw [orientedSize_inverse] at hback
  refine ⟨p, ⟨hin, hback⟩, ?_⟩
  rintro p' ⟨-, hp'⟩
  exact Except.ok.inj ((transform_inverse hp').symm.trans hp)

/-! ## What a product is -/

/-- The transform of `c` does to sizes what those of `a` and then `b` do, and to the points
for which words hold all that the three make of them. -/
structure Composes (a b c : Orientation) : Prop where
  size : ∀ s, b.orientedSize (a.orientedSize s) = c.orientedSize s
  point : ∀ s p q r t, a.transform p s = .ok q → b.transform q (a.orientedSize s) = .ok r →
    c.transform p s = .ok t → r = t

theorem composes_mul (a b : Orientation) : Composes a b (b * a) where
  size s := (orientedSize_mul b a s).symm
  point _ _ _ _ _ hq hr ht := Except.ok.inj (((transform_transform_iff hq).mp hr).symm.trans ht)

/-- One point tells all orientations apart. -/
theorem eq_of_transform_eq {a b : Orientation} (h : a.transform ⟨0, 1⟩ ⟨5, 3⟩ = b.transform ⟨0, 1⟩ ⟨5, 3⟩) : a = b := by
  have himage : (a.transform ⟨0, 1⟩ ⟨5, 3⟩).toOption = (b.transform ⟨0, 1⟩ ⟨5, 3⟩).toOption := congrArg _ h
  clear h
  obtain ⟨fa, ta⟩ := a
  obtain ⟨fb, tb⟩ := b
  revert himage
  cases fa <;> cases ta <;> cases fb <;> cases tb <;> decide

theorem composes_iff {a b c : Orientation} : Composes a b c ↔ c = b * a := by
  constructor
  · intro h
    have hs : Size.Signed ⟨5, 3⟩ := ⟨by decide, by decide⟩
    have hp : Size.Holds ⟨5, 3⟩ ⟨0, 1⟩ := ⟨by decide, by decide⟩
    obtain ⟨q, hq, hin⟩ := transform_holds (o := a) hs hp
    obtain ⟨r, hr, -⟩ := transform_holds (o := b) (orientedSize_signed a hs) hin
    obtain ⟨t, ht, -⟩ := transform_holds (o := c) hs hp
    apply eq_of_transform_eq
    rw [ht, (transform_transform_iff hq).mp hr, h.point _ _ _ _ _ hq hr ht]
  · rintro rfl
    exact composes_mul a b

/-- **The orientations are a group that acts on sizes and points.** One transform after
another is that of the product and of no other orientation; a transform that ended well is
undone by that of the inverse, which then ends well too; and on sizes that a signed word can
hold each transform maps points one-to-one onto the points of the turned size. -/
theorem transform_group (a b : Orientation) :
    (∀ c, Composes a b c ↔ c = b * a) ∧
    (a.inverse * a = 1 ∧ (1 : Orientation).name = "0" ∧
      ∀ s p q, a.transform p s = .ok q → a.inverse.transform q (a.orientedSize s) = .ok p) ∧
    ∀ s : Size, s.Signed →
      (∀ p, s.Holds p → (a.transform p s).Yields (a.orientedSize s).Holds) ∧
      ∀ q, (a.orientedSize s).Holds q → ∃! p, s.Holds p ∧ a.transform p s = .ok q := by
  refine ⟨fun c => composes_iff, ⟨inv_mul_cancel a, by decide, fun s p q h => transform_inverse h⟩, ?_⟩
  intro s hs
  exact ⟨fun p hp => transform_holds hs hp, fun q hq => transform_onto hs hq⟩

/-- An upright frame on its side, and then mirrored. -/
theorem transform_group_upright :
    Composes ⟨false, .deg90⟩ ⟨true, .deg0⟩ ⟨true, .deg90⟩ ∧
      transform ⟨false, .deg270⟩ ⟨1033, 1063⟩ ⟨1920, 1080⟩ = .ok ⟨17, 1033⟩ ∧
      ∃! p, Size.Holds ⟨1080, 1920⟩ p ∧ transform ⟨false, .deg90⟩ p ⟨1080, 1920⟩ = .ok ⟨1033, 1063⟩ := by
  obtain ⟨hproduct, ⟨-, -, hback⟩, hpoints⟩ := transform_group ⟨false, .deg90⟩ ⟨true, .deg0⟩
  have hs : Size.Signed ⟨1080, 1920⟩ := ⟨by decide, by decide⟩
  have hq : Size.Holds ⟨1920, 1080⟩ ⟨1033, 1063⟩ := ⟨by decide, by decide⟩
  exact ⟨(hproduct _).mpr rfl, hback ⟨1080, 1920⟩ ⟨17, 1033⟩ ⟨1033, 1063⟩ rfl, (hpoints _ hs).2 _ hq⟩

end Orientation

end RemoteView
