/-
The faults that a pointer event can come to. The panel only computes, so a point that is
tried against it can overflow a word and nothing else. It is the same with mapping, as
soon as there is a content rectangle with pixels (`Mapping.windowToPosition_overflows`).
-/
import RemoteView.Mapping
import RemoteView.Panel.Overlay
import RemoteView.Proofs.Except
import RemoteView.Proofs.Orientation

namespace RemoteView

/-- A word could not hold a result. -/
def Fault.isOverflow : Fault → Bool
  | addOverflow | subOverflow | mulOverflow => true
  | contentNotLaidOut | contentSizeUnknown | lateFrameSize | emptyRange _ | invalidScale => false

/-- The computation faults only where a word cannot hold a result. -/
def OnlyOverflows {α : Type} (x : Except Fault α) : Prop := x.FailsOnly (·.isOverflow = true)

namespace Checked

theorem int32_overflows {fault : Fault} {n : Int} (h : fault.isOverflow = true) :
    OnlyOverflows (int32 fault n) := by
  intro e he
  unfold int32 at he
  split at he
  next => cases he
  next => exact Except.error.inj he ▸ h

theorem add_overflows (a b : Int32) : OnlyOverflows (add a b) := int32_overflows rfl

theorem sub_overflows (a b : Int32) : OnlyOverflows (sub a b) := int32_overflows rfl

theorem mul_overflows (a b : Int32) : OnlyOverflows (mul a b) := int32_overflows rfl

theorem within64_overflows {fault : Fault} {n : Int} (h : fault.isOverflow = true) :
    OnlyOverflows (within64 fault n) := by
  intro e he
  unfold within64 at he
  split at he
  next => cases he
  next => exact Except.error.inj he ▸ h

end Checked

/-! ## The panel -/

theorem Rect.containsX_overflows (r : Rect) (x : Int32) : OnlyOverflows (r.containsX x) := by
  unfold containsX
  split
  · exact .pure
  · exact (Checked.add_overflows r.x r.w).map

theorem Rect.contains_overflows (r : Rect) (p : Point) : OnlyOverflows (r.contains p) := by
  refine (containsX_overflows r p.x).bind fun inColumns => ?_
  split
  · exact .pure
  · exact (Checked.add_overflows r.y r.h).map

namespace Panel

namespace Layout

theorem buttonRect_overflows (content panel : Rect) (width : Int32) (index : Nat) :
    OnlyOverflows (buttonRect content panel width index) :=
  (Checked.add_overflows _ _).bind fun _ => (Checked.add_overflows _ _).bind fun _ =>
    (Checked.mul_overflows _ _).bind fun _ => (Checked.add_overflows _ _).map

theorem forScreen_overflows (content : Rect) (panelWidth drawableHeight : Int32) (count : Nat) :
    OnlyOverflows (forScreen content panelWidth drawableHeight count) := by
  refine (Checked.add_overflows content.x content.w).bind fun right => ?_
  refine (Checked.sub_overflows _ _).bind fun width => ?_
  exact Except.FailsOnly.map (.mapM fun index => buttonRect_overflows content _ width index)

theorem firstContaining_overflows (p : Point) (rects : List Rect) : OnlyOverflows (firstContaining p rects) := by
  induction rects with
  | nil => exact .pure
  | cons rect rest ih =>
    refine (rect.contains_overflows p).bind fun inside => ?_
    split
    · exact .pure
    · exact ih.map

theorem hitTest_overflows (l : Layout) (p : Point) : OnlyOverflows (l.hitTest p) := by
  refine (l.panel.containsX_overflows p.x).bind fun inColumns => ?_
  split
  · exact .pure
  · exact (firstContaining_overflows p l.buttons).map

end Layout

theorem Overlay.handlePointer_overflows (o : Overlay) (event : PointerEvent) (drawn : Point)
    (layout : Layout) : OnlyOverflows (o.handlePointer event drawn layout) := by
  unfold handlePointer
  split
  · exact .pure
  · refine (layout.hitTest_overflows drawn).bind fun hit => ?_
    cases event with
    | motion _ | down _ _ _ | up _ _ _ => exact .pure

end Panel

/-! ## Mapping -/

theorem Orientation.transform_overflows (o : Orientation) (p : Point) (content : Size) :
    OnlyOverflows (o.transform p content) := by
  have haxis (mirrored : Bool) (n : UInt32) (v : Int32) : OnlyOverflows (frameAxis mirrored n v) := by
    unfold frameAxis
    split
    · exact Checked.sub_overflows n.toInt32 v
    · exact .pure
  rw [transform_eq]
  exact (haxis _ _ _).bind fun _ => (haxis _ _ _).map

namespace Mapping

theorem contentAxis_overflows (v origin length : Int32) (extent : UInt32) :
    OnlyOverflows (contentAxis v origin length extent) :=
  (Checked.within64_overflows rfl).map

theorem drawableToFrame_overflows {m : Mapping} (h : m.contentRect.isEmpty = false) (p : Point) :
    OnlyOverflows (m.drawableToFrame p) := by
  simp only [Rect.isEmpty, Bool.or_eq_false_iff, decide_eq_false_iff_not] at h
  have hlaid : (m.contentRect.w = 0 || m.contentRect.h = 0) = false := by
    simp only [Bool.or_eq_false_iff, decide_eq_false_iff_not]
    exact ⟨fun hw => h.1 (Int32.le_of_eq hw), fun hh => h.2 (Int32.le_of_eq hh)⟩
  simp only [drawableToFrame, hlaid]
  exact (contentAxis_overflows _ _ _ _).bind fun _ => (contentAxis_overflows _ _ _ _).bind fun _ =>
    m.orientation.transform_overflows _ _

theorem windowToPosition_overflows {m : Mapping} (h : m.contentRect.isEmpty = false) (p : Point) :
    OnlyOverflows (m.windowToPosition p) :=
  (drawableToFrame_overflows h (m.windowToDrawable p)).map

end Mapping

end RemoteView
