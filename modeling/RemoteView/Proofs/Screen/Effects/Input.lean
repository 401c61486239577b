/-
What the events of the window and the pointer and the updates of the panel change.
-/
import RemoteView.Proofs.Panel.Overlay
import RemoteView.Proofs.Screen.Effects.Sizing

namespace RemoteView.Session

variable {σ : Type} {host : Host σ} {s s' t : Session σ}

/-! ## Events of the window -/

/-- Before the first frame nothing is done. A window that is resized is free. -/
theorem handleWindowEvent_ok {event : WindowEvent} (h : s.handleWindowEvent host event = .ok s') :
    s' = s ∨ s.screen.hasFrame = true ∧ ((∃ window, s' = s.setWindow window) ∨
      ∃ window change t, (∀ c, change = some c → window.isWindowed = true) ∧
        (s.setWindow window).resizeIfDue host change = .ok t ∧ t.render host true = .ok s') := by
  unfold handleWindowEvent at h
  split at h
  · exact .inl (Except.pure_ok_iff.mp h).symm
  next hf =>
  have hf : s.screen.hasFrame = true := by simpa using hf
  cases event with
  | exposed | sizeChanged => exact .inr ⟨hf, .inr ⟨s.screen.window, none, s, nofun, rfl, h⟩⟩
  | maximized | minimized => exact .inr ⟨hf, .inl ⟨_, (Except.pure_ok_iff.mp h).symm⟩⟩
  | restored =>
    simp only at h
    split at h
    · exact .inl (Except.pure_ok_iff.mp h).symm
    next change window hrestored =>
      obtain ⟨t, ht, hr⟩ := Except.bind_ok_iff.mp h
      refine .inr ⟨hf, .inr ⟨window, change, t, fun c hc => ?_, ht, hr⟩⟩
      exact Resizing.isWindowed_of_onRestored (hc ▸ hrestored)

theorem handleWindowEvent_effect {event : WindowEvent} (h : s.handleWindowEvent host event = .ok s') :
    Later s s' ∧ ∃ window rect sent,
      s'.screen = { s.screen with window, contentRect := rect, readySent := sent } := by
  rcases handleWindowEvent_ok h with rfl | ⟨-, ⟨window, rfl⟩ | ⟨window, change, t, -, ht, hr⟩⟩
  · exact ⟨.refl _, _, _, _, rfl⟩
  · exact ⟨.update _, window, _, _, rfl⟩
  · have ⟨hlater, hscreen⟩ := resizeIfDue_effect ht
    have ⟨hlater', rect, sent, hscreen'⟩ := render_effect hr
    exact ⟨(Later.update _).trans (hlater.trans hlater'), window, rect, sent, by
      rw [hscreen', hscreen]; rfl⟩

/-! ## Events of the pointer -/

theorem applyCursor_ok (s : Session σ) (host : Host σ) (shape : Panel.CursorShape) :
    let asked := (s.request host (.setCursor shape)).2
    ∃ overlay, overlay.panel = s.screen.overlay.panel ∧
      s.applyCursor host shape = asked.setOverlay overlay := by
  simp only [applyCursor]
  split
  · exact ⟨s.screen.overlay.disableCursorSwap, rfl, rfl⟩
  · exact ⟨s.screen.overlay, rfl, rfl⟩

theorem applyCursorIfAny_effect (s : Session σ) (host : Host σ) (shape : Option Panel.CursorShape) :
    Later s (s.applyCursorIfAny host shape) ∧ ∃ overlay, overlay.panel = s.screen.overlay.panel ∧
      (s.applyCursorIfAny host shape).screen = { s.screen with overlay } := by
  cases shape with
  | none => exact ⟨.refl s, s.screen.overlay, rfl, rfl⟩
  | some shape =>
    obtain ⟨overlay, hpanel, heq⟩ := applyCursor_ok s host shape
    simp only [applyCursorIfAny, Option.elim_some, heq]
    exact ⟨(Later.request _).trans (.update _), overlay, hpanel, rfl⟩

/-- The pointer event is handed on with its place in the frame as it is mapped now. -/
def HandedOn (host : Host σ) (s : Session σ) (pointer : ForwardedPointer) (s' : Session σ) : Prop :=
  (s.mapping host).windowToPosition pointer.event.point = .ok pointer.position ∧
    s' = s.tell host (.forward pointer)

theorem forward_ok {event : PointerEvent} (h : s.forward host event = .ok s') :
    ∃ pointer, pointer.event = event ∧ HandedOn host s pointer s' := by
  simp only [forward, Except.bind_ok_iff, Except.pure_ok_iff] at h
  obtain ⟨position, hposition, rfl⟩ := h
  exact ⟨⟨event, position⟩, rfl, hposition, rfl⟩

/-- What is done about a pointer event comes down to one request at most, which
hands the event on or reports a click. -/
theorem performAction_ok {event : PointerEvent} {action : Panel.Action}
    (h : s.performAction host event action = .ok s') :
    s' = s ∨ (∃ pointer, HandedOn host s pointer s') ∨ ∃ id, s' = s.sendPanelClick host id := by
  cases action with
  | pass | forwardThenSwallow | releaseThenSwallow _ =>
    obtain ⟨pointer, -, hs⟩ := forward_ok h
    exact .inr (.inl ⟨pointer, hs⟩)
  | swallow => exact .inl (Except.pure_ok_iff.mp h).symm
  | activate id => exact .inr (.inr ⟨id, (Except.pure_ok_iff.mp h).symm⟩)

theorem performAction_effect {event : PointerEvent} {action : Panel.Action}
    (h : s.performAction host event action = .ok s') : Later s s' ∧ s'.screen = s.screen := by
  rcases performAction_ok h with rfl | ⟨pointer, -, rfl⟩ | ⟨id, rfl⟩
  · exact ⟨.refl _, rfl⟩
  · exact ⟨.tell _, rfl⟩
  · exact ⟨.tell _, rfl⟩

/-- The moment at which something is done about a pointer event: the panel has decided
what, and the cursor has changed. -/
def decided (s : Session σ) (host : Host σ) (event : PointerEvent) : Except Fault (Session σ) := do
  let drawn := (s.mapping host).windowToDrawable event.point
  let (outcome, overlay) ← s.screen.overlay.handlePointer event drawn (← s.panelLayout host)
  return (s.setOverlay overlay).applyCursorIfAny host outcome.cursor

theorem decided_ok {event : PointerEvent} (h : s.decided host event = .ok t) :
    ∃ overlay cursor, overlay.panel = s.screen.overlay.panel ∧
      t = (s.setOverlay overlay).applyCursorIfAny host cursor := by
  simp only [decided, Except.bind_ok_iff, Except.pure_ok_iff] at h
  obtain ⟨layout, -, ⟨outcome, overlay⟩, ho, rfl⟩ := h
  exact ⟨overlay, outcome.cursor, Panel.Overlay.panel_handlePointer ho, rfl⟩

theorem decided_effect {event : PointerEvent} (h : s.decided host event = .ok t) :
    Later s t ∧ ∃ overlay, overlay.panel = s.screen.overlay.panel ∧ t.screen = { s.screen with overlay } := by
  obtain ⟨overlay, cursor, hpanel, rfl⟩ := decided_ok h
  have ⟨hlater, overlay', hpanel', hscreen⟩ := applyCursorIfAny_effect (s.setOverlay overlay) host cursor
  exact ⟨(Later.update _).trans hlater, overlay', hpanel'.trans hpanel, by rw [hscreen]; rfl⟩

theorem handlePointer_ok {event : PointerEvent} (h : s.handlePointer host event = .ok s') :
    (s.screen.hasFrame = false ∧ s' = s) ∨ s.screen.hasFrame = true ∧ ∃ t action,
      s.decided host event = .ok t ∧ t.performAction host event action = .ok s' := by
  simp only [handlePointer] at h
  split at h
  next hf => exact .inl ⟨by simpa using hf, (Except.pure_ok_iff.mp h).symm⟩
  next hf =>
    simp only [Except.bind_ok_iff] at h
    obtain ⟨layout, hlayout, ⟨outcome, overlay⟩, ho, h⟩ := h
    refine .inr ⟨by simpa using hf, _, outcome.action, ?_, h⟩
    simp only [decided, Except.bind_ok_iff, Except.pure_ok_iff]
    exact ⟨layout, hlayout, (outcome, overlay), ho, rfl⟩

theorem handlePointer_effect {event : PointerEvent} (h : s.handlePointer host event = .ok s') :
    Later s s' ∧ ∃ overlay, overlay.panel = s.screen.overlay.panel ∧
      s'.screen = { s.screen with overlay } := by
  rcases handlePointer_ok h with ⟨-, rfl⟩ | ⟨-, t, action, ht, h⟩
  · exact ⟨.refl _, _, rfl, rfl⟩
  · have ⟨hlater, overlay, hpanel, hscreen⟩ := decided_effect ht
    have ⟨hlater', hscreen'⟩ := performAction_effect h
    exact ⟨hlater.trans hlater', overlay, hpanel, hscreen'.trans hscreen⟩

/-! ## Updates of the panel -/

theorem updatePanel_ok {update : Panel.Update} (h : s.updatePanel host update = .ok s') :
    s' = s ∨ ∃ overlay cursor, overlay.panel = s.screen.overlay.panel.apply update ∧
      ((s.setOverlay overlay).applyCursorIfAny host cursor).render host true = .ok s' := by
  simp only [updatePanel] at h
  split at h
  · exact .inl (Except.pure_ok_iff.mp h).symm
  · exact .inr ⟨_, _, rfl, h⟩

theorem updatePanel_effect {update : Panel.Update} (h : s.updatePanel host update = .ok s') :
    Later s s' ∧ ∃ overlay rect sent, (overlay.panel = s.screen.overlay.panel ∨
        overlay.panel = s.screen.overlay.panel.apply update) ∧
      s'.screen = { s.screen with overlay, contentRect := rect, readySent := sent } := by
  rcases updatePanel_ok h with rfl | ⟨overlay, cursor, hpanel, h⟩
  · exact ⟨.refl _, _, _, _, .inl rfl, rfl⟩
  · have ⟨hlater, overlay', hpanel', hscreen⟩ := applyCursorIfAny_effect (s.setOverlay overlay) host cursor
    have ⟨hlater', rect, sent, hscreen'⟩ := render_effect h
    exact ⟨(Later.update _).trans (hlater.trans hlater'), overlay', rect, sent, .inr (hpanel'.trans hpanel), by
      rw [hscreen', hscreen]; rfl⟩

end RemoteView.Session
