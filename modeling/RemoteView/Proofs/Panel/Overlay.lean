/-
What an overlay does with one event. `Overlay.handlePointer_ok` splits the cases: a
hidden panel lets the event pass and changes nothing; a visible one decides by what
the event hits (`Overlay.decided`). Nothing but an update changes the panel, and a
release is made up only for the button that is remembered.
-/
import RemoteView.Panel.Overlay
import RemoteView.Proofs.Except

namespace RemoteView.Panel.Overlay

variable {o o' : Overlay}

/-- The decision of a visible panel on an event that hits `hit`. -/
def decided (o : Overlay) (hit : Hit) : PointerEvent → Outcome × Overlay
  | .motion point => o.handleMotion point hit
  | .down _ button _ => o.handleDown button hit
  | .up _ _ _ => o.handleUp hit

theorem handlePointer_ok {event : PointerEvent} {drawn : Point} {layout : Layout} {outcome : Outcome}
    (h : o.handlePointer event drawn layout = .ok (outcome, o')) :
    (o.visible = false ∧ outcome = { action := .pass } ∧ o' = o) ∨
      o.visible = true ∧ ∃ hit, layout.hitTest drawn = .ok hit ∧
        outcome = (o.decided hit event).1 ∧ o' = (o.decided hit event).2 := by
  unfold handlePointer at h
  split at h
  next hhidden =>
    cases h
    exact .inl ⟨by simpa using hhidden, rfl, rfl⟩
  next hvisible =>
    obtain ⟨hit, hhit, h⟩ := Except.bind_ok_iff.mp h
    have h : o.decided hit event = (outcome, o') := by
      cases event with
      | motion _ | down _ _ _ | up _ _ _ => exact Except.pure_ok_iff.mp h
    exact .inr ⟨by simpa using hvisible, hit, hhit, by rw [h], by rw [h]⟩

theorem handlePointer_of_hit {drawn : Point} {layout : Layout} {hit : Hit} (hvisible : o.visible = true)
    (hhit : layout.hitTest drawn = .ok hit) (event : PointerEvent) :
    o.handlePointer event drawn layout = .ok (o.decided hit event) := by
  simp only [handlePointer, hvisible, hhit, bind, Except.bind]
  cases event with
  | motion _ | down _ _ _ | up _ _ _ => rfl

/-! ## Motions -/

/-- A motion changes the cursor at most, unless it uses up the memory. -/
theorem hover_keeps (o : Overlay) (hit : Hit) :
    (o.hover hit).2.panel = o.panel ∧ (o.hover hit).2.pressedOutside = o.pressedOutside := by
  unfold hover
  split <;> exact ⟨rfl, rfl⟩

theorem handleMotion_outside (o : Overlay) (point : Point) :
    (o.handleMotion point .outside).2.pressedOutside = o.pressedOutside :=
  (o.hover_keeps .outside).2

theorem handleMotion_on_panel (o : Overlay) (point : Point) {hit : Hit} (h : hit ≠ .outside) :
    (o.handleMotion point hit).2.pressedOutside = none ∧
      (o.handleMotion point hit).1.action =
        o.pressedOutside.elim .swallow fun button => .releaseThenSwallow (.up point button 1) := by
  have hmemory := (o.hover_keeps hit).2
  simp only [handleMotion]
  generalize o.hover hit = hovered at hmemory
  obtain ⟨cursor, next⟩ := hovered
  simp only at hmemory ⊢
  rw [← hmemory]
  cases hit with
  | outside => exact absurd rfl h
  | background | button _ => cases hp : next.pressedOutside <;> exact ⟨by simp [hp], rfl⟩

/-! ## Presses -/

/-- A press on the panel changes nothing but what the button is for. -/
theorem handleDown_on_panel (o : Overlay) (button : MouseButton) {hit : Hit} (h : hit ≠ .outside) :
    ∃ action, o.handleDown button hit = ({ action }, o) ∧ (action = .swallow ∨ ∃ id, action = .activate id) := by
  cases hit with
  | outside => exact absurd rfl h
  | background => exact ⟨.swallow, rfl, .inl rfl⟩
  | button index =>
    simp only [handleDown]
    split
    next b _ => exact ⟨.activate b.id, rfl, .inr ⟨b.id, rfl⟩⟩
    next => exact ⟨.swallow, rfl, .inl rfl⟩

/-! ## The panel stays -/

theorem panel_decided (o : Overlay) (hit : Hit) (event : PointerEvent) :
    (o.decided hit event).2.panel = o.panel := by
  cases event with
  | motion point =>
    have hpanel := (o.hover_keeps hit).1
    simp only [decided, handleMotion]
    generalize o.hover hit = hovered at hpanel
    obtain ⟨cursor, next⟩ := hovered
    split <;> exact hpanel
  | down point button clicks =>
    by_cases houtside : hit = .outside
    · subst houtside
      rfl
    · obtain ⟨action, hdown, -⟩ := o.handleDown_on_panel button houtside
      rw [decided, hdown]
  | up point button clicks => rfl

theorem panel_handlePointer {event : PointerEvent} {drawn : Point} {layout : Layout} {outcome : Outcome}
    (h : o.handlePointer event drawn layout = .ok (outcome, o')) : o'.panel = o.panel := by
  rcases handlePointer_ok h with ⟨-, -, rfl⟩ | ⟨-, hit, -, -, rfl⟩
  · rfl
  · exact o.panel_decided hit event

/-! ## Releases that are made up -/

/-- A release is made up for a remembered button when the pointer moves over the panel, and at no
other time. -/
theorem release_decided_iff {hit : Hit} {event release : PointerEvent} :
    (o.decided hit event).1.action = .releaseThenSwallow release ↔ ∃ point button,
      event = .motion point ∧ hit ≠ .outside ∧ o.pressedOutside = some button ∧ release = .up point button 1 := by
  by_cases houtside : hit = .outside
  · subst houtside
    cases event with
    | motion _ | down _ _ _ | up _ _ _ => exact ⟨nofun, fun ⟨_, _, _, hpanel, _⟩ => absurd rfl hpanel⟩
  cases event with
  | motion point =>
    rw [decided, (o.handleMotion_on_panel point houtside).2]
    cases o.pressedOutside with
    | none => simp
    | some button => simp [houtside, eq_comm]
  | down point button clicks =>
    obtain ⟨action, hdown, haction⟩ := o.handleDown_on_panel button houtside
    rw [decided, hdown]
    rcases haction with rfl | ⟨id, rfl⟩ <;> exact ⟨nofun, nofun⟩
  | up point button clicks =>
    rw [decided, handleUp, if_neg houtside]
    exact ⟨nofun, nofun⟩

/-- A release is made up for the button that is remembered, where the pointer is. -/
theorem pressedOutside_of_release {event release : PointerEvent} {drawn : Point} {layout : Layout}
    {outcome : Outcome} (h : o.handlePointer event drawn layout = .ok (outcome, o'))
    (hrelease : outcome.action = .releaseThenSwallow release) :
    ∃ button, o.pressedOutside = some button ∧ release = .up event.point button 1 := by
  rcases handlePointer_ok h with ⟨-, rfl, -⟩ | ⟨-, hit, -, rfl, -⟩
  · cases hrelease
  · obtain ⟨point, button, rfl, -, hp, rfl⟩ := release_decided_iff.mp hrelease
    exact ⟨button, hp, rfl⟩

end RemoteView.Panel.Overlay
