/-
The cursor over the panel. It is a hand only while there is a button that it can point at,
and a motion over the panel settles whether it is one. Each shape that an overlay asks for is
a change from what the cursor was (`Overlay.answer_cursor`), so over a whole run hands and
arrows take turns (`RecordedOverlay.run_hovers`).
-/
import Mathlib.Data.List.Chain
import RemoteView.Proofs.Panel.Record

namespace RemoteView.Panel

theorem Hit.isButton_iff {hit : Hit} : hit.isButton = true ↔ ∃ index, hit = .button index := by
  cases hit <;> simp [isButton]

/-- The shape to ask for, if the cursor is or is not a hand before and after. -/
def turned (before after : Bool) : Option CursorShape :=
  if after = before then none else some (if after then .hand else .arrow)

/-- All shapes that were asked for, in order. -/
def shapes (record : List Exchange) : List CursorShape := record.filterMap (·.cursor)

namespace Overlay

variable {o o' : Overlay} {change : OverlayChange} {exchange : Exchange} {event : PointerEvent}
  {drawn : Point} {layout : Layout} {outcome : Outcome}

/-- A hand points at a button of the visible panel. -/
def HandShown (o : Overlay) : Prop :=
  o.hand = true → o.visible = true ∧ o.panel.buttons ≠ [] ∧ o.swapsCursor = true

/-! ## One event -/

theorem hover_hand (o : Overlay) (hit : Hit) :
    (o.hover hit).2.hand =
      if o.swapsCursor = true ∧ o.panel.buttons ≠ [] then hit.isButton else o.hand := by
  unfold hover
  by_cases hswaps : o.swapsCursor = true <;> by_cases hbuttons : o.panel.buttons = [] <;>
    by_cases hsame : hit.isButton = o.hand <;> simp [hswaps, hbuttons, hsame]

theorem hover_cursor (o : Overlay) (hit : Hit) :
    (o.hover hit).1 = turned o.hand (o.hover hit).2.hand ∧
      (o.hover hit).2.swapsCursor = o.swapsCursor := by
  unfold hover
  split
  · simp [turned]
  next h =>
    have hne : hit.isButton ≠ o.hand := by simp_all
    simp [turned, hne]

theorem handleMotion_cursor (o : Overlay) (point : Point) (hit : Hit) :
    (o.handleMotion point hit).1.cursor = (o.hover hit).1 ∧
      (o.handleMotion point hit).2.hand = (o.hover hit).2.hand ∧
      (o.handleMotion point hit).2.swapsCursor = (o.hover hit).2.swapsCursor := by
  simp only [handleMotion]
  split <;> exact ⟨rfl, rfl, rfl⟩

theorem decided_cursor (o : Overlay) (hit : Hit) (event : PointerEvent) :
    (o.decided hit event).1.cursor = turned o.hand (o.decided hit event).2.hand ∧
      (o.decided hit event).2.swapsCursor = o.swapsCursor := by
  have hkept : none = turned o.hand o.hand := by simp [turned]
  cases event with
  | motion point =>
    obtain ⟨hcursor, hhand, hswaps⟩ := o.handleMotion_cursor point hit
    rw [decided, hcursor, hhand, hswaps]
    exact o.hover_cursor hit
  | down point button clicks =>
    by_cases houtside : hit = .outside
    · subst houtside
      exact ⟨hkept, rfl⟩
    · obtain ⟨action, hdown, -⟩ := o.handleDown_on_panel button houtside
      rw [decided, hdown]
      exact ⟨hkept, rfl⟩
  | up point button clicks => exact ⟨hkept, rfl⟩

theorem answer_cursor (h : o.answer change = .ok (exchange, o')) (hswap : change ≠ .cursorSwapDisabled) :
    exchange.cursor = turned o.hand o'.hand ∧ o'.swapsCursor = o.swapsCursor := by
  cases change with
  | pointer event drawn layout =>
    obtain ⟨outcome, hdecided, rfl⟩ := answer_pointer_ok.mp h
    rcases handlePointer_ok hdecided with ⟨-, rfl, rfl⟩ | ⟨-, hit, -, rfl, rfl⟩
    · simp [turned]
    · exact o.decided_cursor hit event
  | updated update =>
    cases h
    by_cases hhand : o.hand = true <;> simp [turned, hhand]
  | cursorSwapDisabled => exact absurd rfl hswap

/-- A motion settles whether the cursor is a hand. -/
theorem hand_of_motion (hshown : o.HandShown) {point : Point}
    (h : o.handlePointer (.motion point) drawn layout = .ok (outcome, o')) :
    o'.hand = true ↔ o'.swapsCursor = true ∧ o'.visible = true ∧ o'.panel.buttons ≠ [] ∧
      ∃ index, layout.hitTest drawn = .ok (.button index) := by
  rcases handlePointer_ok h with ⟨hhidden, -, rfl⟩ | ⟨hvisible, hit, hhit, -, rfl⟩
  · constructor
    · intro hhand
      exact absurd (hshown hhand).1 (by simp [hhidden])
    · rintro ⟨-, hvisible, -⟩
      exact absurd hvisible (by simp [hhidden])
  · have hswaps := (o.decided_cursor hit (.motion point)).2
    have hhand := (o.handleMotion_cursor point hit).2.1
    rw [hswaps, visible, panel_decided, hhit, decided, hhand, hover_hand]
    by_cases hcan : o.swapsCursor = true ∧ o.panel.buttons ≠ []
    · rw [if_pos hcan, Hit.isButton_iff]
      simp [hcan.1, hcan.2, show o.panel.visible = true from hvisible]
    · rw [if_neg hcan]
      constructor
      · intro hhand
        obtain ⟨-, hbuttons, hswaps⟩ := hshown hhand
        exact absurd ⟨hswaps, hbuttons⟩ hcan
      · rintro ⟨hswaps, -, hbuttons, -⟩
        exact absurd ⟨hswaps, hbuttons⟩ hcan

theorem hand_of_button (hbutton : event.isButton = true)
    (h : o.handlePointer event drawn layout = .ok (outcome, o')) : o'.hand = o.hand := by
  rcases handlePointer_ok h with ⟨-, -, rfl⟩ | ⟨-, hit, -, -, rfl⟩
  · rfl
  cases event with
  | motion _ => cases hbutton
  | down point button clicks =>
    by_cases houtside : hit = .outside
    · subst houtside
      rfl
    · obtain ⟨action, hdown, -⟩ := o.handleDown_on_panel button houtside
      rw [decided, hdown]
  | up _ _ _ => rfl

theorem HandShown.answer (hshown : o.HandShown) (h : o.answer change = .ok (exchange, o')) :
    o'.HandShown := by
  cases change with
  | pointer event drawn layout =>
    have hswaps := (answer_cursor h nofun).2
    obtain ⟨outcome, hdecided, -⟩ := answer_pointer_ok.mp h
    intro hhand
    cases event with
    | motion point =>
      obtain ⟨hswaps, hvisible, hbuttons, -⟩ := (hand_of_motion hshown hdecided).mp hhand
      exact ⟨hvisible, hbuttons, hswaps⟩
    | down _ _ _ | up _ _ _ =>
      rw [hand_of_button rfl hdecided] at hhand
      rw [hswaps, visible, panel_handlePointer hdecided]
      exact hshown hhand
  | updated update =>
    cases h
    nofun
  | cursorSwapDisabled =>
    cases h
    nofun

end Overlay

/-! ## Taking turns -/

/-- Hands and arrows take turns, a hand comes first, and the last one is what the cursor is. -/
structure Turns (hand : Bool) (shapes : List CursorShape) : Prop where
  alternate : shapes.IsChain (· ≠ ·)
  first : ∀ shape, shapes.head? = some shape → shape = .hand
  last : hand = true ↔ shapes.getLast? = some .hand

theorem Turns.nil : Turns false [] := ⟨List.isChain_nil, nofun, nofun, nofun⟩

theorem Turns.hand {shapes : List CursorShape} (h : Turns false shapes) : Turns true (shapes ++ [.hand]) := by
  have hlast : shapes.getLast? ≠ some .hand := fun hl => Bool.noConfusion (h.last.mpr hl)
  refine ⟨h.alternate.append (List.isChain_singleton _) ?_, ?_, by simp⟩
  · rintro x hx _ ⟨⟩ rfl
    exact hlast hx
  · intro shape hshape
    cases shapes with
    | nil => simpa using hshape.symm
    | cons first rest => exact h.first shape hshape

theorem Turns.arrow {shapes : List CursorShape} (h : Turns true shapes) : Turns false (shapes ++ [.arrow]) := by
  have hlast : shapes.getLast? = some .hand := h.last.mp rfl
  refine ⟨h.alternate.append (List.isChain_singleton _) ?_, ?_, by simp⟩
  · rintro x hx _ ⟨⟩ rfl
    simp [hlast] at hx
  · intro shape hshape
    cases shapes with
    | nil => cases hlast
    | cons first rest => exact h.first shape hshape

theorem Turns.append {before : Bool} {shapes : List CursorShape} (h : Turns before shapes) (after : Bool) :
    Turns after (shapes ++ (turned before after).toList) := by
  cases before with
  | false =>
    cases after with
    | false => simpa [turned] using h
    | true => exact h.hand
  | true =>
    cases after with
    | false => exact h.arrow
    | true => simpa [turned] using h

/-! ## Every run -/

namespace RecordedOverlay

variable {r r' : RecordedOverlay} {changes : List OverlayChange} {change : OverlayChange} {visible : Bool}

/-- A hand is shown over a button, and as long as the cursor is swapped the shapes that were asked for
end with what it is. -/
structure Hovers (r : RecordedOverlay) : Prop where
  shown : r.overlay.HandShown
  swaps : r.overlay.swapsCursor = true ↔ .cursorSwapDisabled ∉ r.changes
  turns : ∃ hand, Turns hand (shapes r.record) ∧ (r.overlay.swapsCursor = true → r.overlay.hand = hand)

theorem hovers_opened (visible : Bool) : (opened visible).Hovers where
  shown := nofun
  swaps := by simp [opened, RecordedOverlay.changes]
  turns := ⟨false, .nil, fun _ => rfl⟩

theorem Hovers.step (h : r.Hovers) (hs : r.step change = .ok r') : r'.Hovers := by
  obtain ⟨exchange, hanswer, hrecord⟩ := step_ok hs
  obtain ⟨hand, hturns, hhand⟩ := h.turns
  have hshown := h.shown.answer hanswer
  have hshapes : shapes r'.record = shapes r.record ++ exchange.cursor.toList := by
    rw [hrecord, shapes, List.filterMap_append]
    cases hcursor : exchange.cursor <;> simp [shapes, hcursor]
  by_cases hswap : change = .cursorSwapDisabled
  · subst hswap
    obtain ⟨overlay, record⟩ := r'
    cases hanswer
    refine ⟨hshown, by simp [changes_step hs], hand, ?_, nofun⟩
    simpa [hshapes] using hturns
  · obtain ⟨hcursor, hswaps⟩ := Overlay.answer_cursor hanswer hswap
    refine ⟨hshown, ?_, ?_⟩
    · rw [hswaps, h.swaps, changes_step hs]
      simp [Ne.symm hswap]
    · rw [hshapes, hcursor]
      by_cases hcan : r.overlay.swapsCursor = true
      · exact ⟨_, hhand hcan ▸ hturns.append _, fun _ => rfl⟩
      · -- Without swapping there is no hand, so none comes and none goes.
        have hbefore : r.overlay.hand = false := Bool.eq_false_iff.mpr fun hh => hcan (h.shown hh).2.2
        have hafter : r'.overlay.hand = false :=
          Bool.eq_false_iff.mpr fun hh => hcan (hswaps ▸ (hshown hh).2.2)
        refine ⟨hand, ?_, fun hcan' => absurd (hswaps ▸ hcan') hcan⟩
        simpa [hbefore, hafter, turned] using hturns

theorem Hovers.run (h : r.Hovers) (hrun : r.run changes = .ok r') : r'.Hovers :=
  Except.foldlM_keeps (fun _ _ _ _ h hs => h.step hs) h hrun

/-- **The hand does not stick.** Whatever an overlay went through, the cursor is a hand only while the
panel is visible and has buttons and the cursor is swapped at all. After a motion it is one exactly if
the motion hits a button then. The shapes that were asked for take turns from a hand on, and until the
swapping is disabled the cursor is what was asked for last. -/
theorem run_hovers (hrun : (opened visible).run changes = .ok r) :
    (r.overlay.hand = true →
      r.overlay.visible = true ∧ r.overlay.panel.buttons ≠ [] ∧ r.overlay.swapsCursor = true) ∧
    (∀ point drawn layout outcome next,
      r.overlay.handlePointer (.motion point) drawn layout = .ok (outcome, next) →
        (next.hand = true ↔ next.swapsCursor = true ∧ next.visible = true ∧ next.panel.buttons ≠ [] ∧
          ∃ index, layout.hitTest drawn = .ok (.button index))) ∧
    (shapes r.record).IsChain (· ≠ ·) ∧ (∀ shape, (shapes r.record).head? = some shape → shape = .hand) ∧
    (r.overlay.swapsCursor = true ↔ .cursorSwapDisabled ∉ changes) ∧
    (.cursorSwapDisabled ∉ changes → (r.overlay.hand = true ↔ (shapes r.record).getLast? = some .hand)) := by
  have hhovers : r.Hovers := (hovers_opened visible).run hrun
  have hchanges : r.changes = changes := changes_run hrun
  obtain ⟨hand, hturns, hhand⟩ := hhovers.turns
  have hswaps := hchanges ▸ hhovers.swaps
  refine ⟨hhovers.shown, ?_, hturns.alternate, hturns.first, hswaps, ?_⟩
  · intro point drawn layout outcome next h
    exact Overlay.hand_of_motion hhovers.shown h
  · intro hnot
    rw [hhand (hswaps.mpr hnot)]
    exact hturns.last

/-- A panel of one button, right of five hundred columns of content. -/
def oneButton : Layout := { panel := ⟨500, 0, 100, 900⟩, buttons := [⟨510, 10, 80, 40⟩] }

/-- A motion onto a button that goes and comes back, and one onto the new button. -/
def comingBack : List OverlayChange :=
  [.updated ⟨none, [⟨"id", "label"⟩]⟩, .pointer (.motion ⟨520, 20⟩) ⟨520, 20⟩ oneButton,
    .updated ⟨some false, []⟩, .updated ⟨some true, [⟨"id", "label"⟩]⟩,
    .pointer (.motion ⟨530, 20⟩) ⟨530, 20⟩ oneButton]

def afterComingBack : RecordedOverlay where
  overlay := { panel := ⟨true, [⟨"id", "label"⟩]⟩, hand := true }
  record :=
    [⟨.updated ⟨none, [⟨"id", "label"⟩]⟩, none, none⟩,
      ⟨.pointer (.motion ⟨520, 20⟩) ⟨520, 20⟩ oneButton, some .swallow, some .hand⟩,
      ⟨.updated ⟨some false, []⟩, none, some .arrow⟩,
      ⟨.updated ⟨some true, [⟨"id", "label"⟩]⟩, none, none⟩,
      ⟨.pointer (.motion ⟨530, 20⟩) ⟨530, 20⟩ oneButton, some .swallow, some .hand⟩]

theorem run_hovers_coming_back : ∃ outcome next,
    (opened true).run comingBack = .ok afterComingBack ∧
    afterComingBack.overlay.handlePointer (.motion ⟨590, 20⟩) ⟨590, 20⟩ oneButton = .ok (outcome, next) ∧
    (next.hand = true ↔ next.swapsCursor = true ∧ next.visible = true ∧ next.panel.buttons ≠ [] ∧
      ∃ index, oneButton.hitTest ⟨590, 20⟩ = .ok (.button index)) ∧
    shapes afterComingBack.record = [.hand, .arrow, .hand] ∧
    (shapes afterComingBack.record).IsChain (· ≠ ·) ∧
    (afterComingBack.overlay.swapsCursor = true ↔ .cursorSwapDisabled ∉ comingBack) := by
  have hrun : (opened true).run comingBack = .ok afterComingBack := rfl
  obtain ⟨-, hmotion, hchain, -, hswaps, -⟩ := run_hovers hrun
  have hdecided : afterComingBack.overlay.handlePointer (.motion ⟨590, 20⟩) ⟨590, 20⟩ oneButton =
      .ok (⟨.swallow, some .arrow⟩, { panel := ⟨true, [⟨"id", "label"⟩]⟩ }) := rfl
  exact ⟨_, _, hrun, hdecided, hmotion _ _ _ _ _ hdecided, rfl, hchain, hswaps⟩

end RecordedOverlay

end RemoteView.Panel
