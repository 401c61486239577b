/-
Laying out, drawing and sizing do not fault in a steady view.

A view that has a frame is steady if its content has the size of a frame and lies
within bounds. Before the first frame no resize is owed, so none is made up for
when the window goes fullscreen. What is proved of each part is that it ends well
and leaves the view steady (`Except.Yields`), whatever the host answers.
-/
import RemoteView.Proofs.Mapping.Bounds
import RemoteView.Proofs.Panel.Bounds
import RemoteView.Proofs.Screen.Effects.Input

namespace RemoteView

/-! ## What is asked of the host and kept of the view -/

variable {σ : Type}

/-- A host whose windows are modest and lie away from the ends of a word. Nothing
is asked of its other answers. -/
structure Host.Modest (host : Host σ) : Prop where
  window : ∀ w, (host.windowSize w).Modest
  drawable : ∀ w, (host.drawableSize w).Modest
  position : ∀ w, (host.windowPosition w).Central

structure Screen.Steady (v : Screen) : Prop where
  content : v.hasFrame = true → v.contentSize.isValidFrame = true
  rect : v.hasFrame = true → v.contentRect.Placed
  owed : v.hasFrame = false → v.window.deferred = none
  buttons : v.overlay.panel.buttons.length ≤ Panel.maxButtons

/-- The fields that have nothing to do with where the content lies. -/
theorem Screen.Steady.keep {v : Screen} {size orientation sent rate seen paused held} (h : v.Steady) :
    Screen.Steady { v with
      frameSize := size, orientation, readySent := sent, rate, skippedSeen := seen, paused, held } :=
  ⟨h.content, h.rect, h.owed, h.buttons⟩

namespace Session

variable {host : Host σ} {s s' : Session σ}

/-! ## Laying out and drawing -/

theorem layOut_yields (hm : host.Modest) (h : s.screen.Steady) :
    (s.layOut host).Yields fun s' => s'.screen.Steady ∧
      (s.screen.contentSize.isEmpty = false → s'.screen.contentRect.Placed) := by
  unfold layOut
  split
  next he => exact .pure ⟨h, fun he' => by simp [he] at he'⟩
  next he =>
    refine (Fitting.contentRect_yields _ (hm.drawable _) (by simpa using he)).bind ?_
    intro rect _ hrect
    exact .pure ⟨⟨h.content, fun _ => hrect, h.owed, h.buttons⟩, fun _ => hrect⟩

theorem panelLayout_yields (hm : host.Modest) (h : s.screen.Steady) (hrect : s.screen.contentRect.Placed) :
    (s.panelLayout host).Yields Panel.Layout.Edged := by
  have hwidth : 0 ≤ (s.panelWidth host).toInt ∧ (s.panelWidth host).toInt ≤ 50 * 32767 :=
    Fitting.panelWidthScaled_bounds _ (hm.drawable _) (by decide)
  exact Panel.Layout.forScreen_yields hrect hwidth h.buttons

theorem present_yields (hm : host.Modest) (h : s.screen.Steady) (hrect : s.screen.contentRect.Placed) :
    (s.present host).Yields (·.screen.Steady) := by
  have hpresent : (s.present host).Yields fun _ => True :=
    (panelLayout_yields hm h hrect).bind fun _ _ _ => .pure trivial
  refine (hpresent.and fun t ht => (present_effect ht).2).mono fun t ht => ?_
  rw [ht.2]
  exact h.keep

theorem render_yields (hm : host.Modest) (h : s.screen.Steady) (refresh : Bool) :
    (s.render host refresh).Yields (·.screen.Steady) := by
  unfold render
  split
  · exact .pure h
  next hf =>
    have hf : s.screen.hasFrame = true := by simpa using hf
    split
    · refine (layOut_yields hm h).bind ?_
      rintro t _ ⟨ht, hrect⟩
      exact present_yields hm ht (hrect (Size.isEmpty_of_valid (h.content hf)))
    · exact present_yields hm h (h.rect hf)

/-! ## Sizing the window -/

theorem panelColumns_le (s : Session σ) : s.panelColumns.toNat ≤ 50 := by
  unfold panelColumns
  split <;> decide

theorem withPanel_yields (s : Session σ) {size : Size} (h : size.width.toNat ≤ 65535 * 65535) :
    (s.withPanel size).Yields fun _ => True := by
  have hcolumns := s.panelColumns_le
  exact (Checked.addU32_yields (by omega)).bind fun _ _ _ => .pure trivial

theorem width_contentWindowSize_le (hm : host.Modest) (s : Session σ) :
    (s.contentWindowSize host).width.toNat ≤ 32767 := by
  have hw := (hm.window s.outside).width
  refine Nat.le_trans (Checked.toNat_ofNat_le _) ?_
  omega

theorem resizeForContent_yields (hm : host.Modest) (h : s.screen.Steady) {change : ResizeRequest}
    (hchange : change.target.width.toNat ≤ 65535) :
    (s.resizeForContent host change).Yields (·.screen.Steady) := by
  have htarget : (Fitting.resizeTarget (s.contentWindowSize host) change.source change.target).width.toNat ≤
      32767 * 65535 := Fitting.scale_le (width_contentWindowSize_le hm s) hchange (by decide)
  have hwidth := Fitting.width_optimalSize_le (Fitting.resizeTarget (s.contentWindowSize host) change.source
    change.target) change.target (s.displayBounds host)
  refine (withPanel_yields s (by omega)).bind fun size _ _ => .pure ?_
  exact h

theorem resizeIfDue_yields (hm : host.Modest) (h : s.screen.Steady) {change : Option ResizeRequest}
    (hchange : ∀ c, change = some c → c.target.width.toNat ≤ 65535) :
    (s.resizeIfDue host change).Yields (·.screen.Steady) := by
  cases change with
  | none => exact .pure h
  | some change => exact resizeForContent_yields hm h (hchange change rfl)

theorem setContentSize_yields (hm : host.Modest) (h : s.screen.Steady) {size : Size}
    (hsize : s.screen.hasFrame = true → size.isValidFrame = true) :
    (s.setContentSize host size).Yields (·.screen.Steady) := by
  simp only [setContentSize]
  split
  next => exact .pure ⟨hsize, h.rect, h.owed, h.buttons⟩
  next hf =>
    have hf : s.screen.hasFrame = true := by
      simp only [Bool.or_eq_true, not_or] at hf
      simpa using hf.1
    let t := s.update ({ · with contentSize := size })
    have ht (window : Resizing) : (t.setWindow window).screen.Steady :=
      ⟨hsize, h.rect, fun he => Bool.noConfusion (hf.symm.trans he), h.buttons⟩
    refine resizeIfDue_yields hm (ht _) fun change hchange => ?_
    have htarget : change.target = size := by
      simp only [Resizing.contentSizeChanged] at hchange
      split at hchange
      · exact Option.some.inj hchange ▸ rfl
      · cases hchange
    rw [htarget]
    exact (Size.frameLike_of_valid (hsize hf)).width

theorem setOrientation_yields (hm : host.Modest) (h : s.screen.Steady) {o : Orientation}
    (hframe : s.screen.hasFrame = true → s.screen.frameSize.isValidFrame = true) :
    (s.setOrientation host o).Yields (·.screen.Steady) := by
  unfold setOrientation
  split
  · exact .pure h
  · have hsize (hf : s.screen.hasFrame = true) : (o.orientedSize s.screen.frameSize).isValidFrame = true := by
      rw [Orientation.isValidFrame_orientedSize]
      exact hframe hf
    refine (setContentSize_yields hm h hsize).bind ?_
    intro t _ ht
    have hturned : (t.update ({ · with orientation := o })).screen.Steady := ht.keep
    exact render_yields hm hturned true

/-- A resize that was owed is one for content that is shown. -/
theorem takePending_width (h : s.screen.Steady) {r : Resizing} (hr : r.deferred = s.screen.window.deferred)
    {change : ResizeRequest} (hchange : (r.takePending s.screen.contentSize).1 = some change) :
    change.target.width.toNat ≤ 65535 := by
  have ⟨htarget, hdeferred⟩ := Resizing.takePending_request hchange
  rw [htarget]
  cases hf : s.screen.hasFrame with
  | true => exact (Size.frameLike_of_valid (h.content hf)).width
  | false => exact absurd (hr.trans (h.owed hf)) hdeferred

theorem toggleFullscreen_yields (hm : host.Modest) (h : s.screen.Steady) :
    (s.toggleFullscreen host).Yields (·.screen.Steady) := by
  simp only [toggleFullscreen]
  split
  · exact .pure h
  · let asked := (s.request host (.setFullscreen (!s.screen.window.flags.fullscreen))).2
    let window := (s.screen.window.onFullscreenToggled s.screen.contentSize).2
    have hasked : (asked.setWindow window).screen.Steady :=
      ⟨h.content, h.rect, fun hf => Resizing.deferred_takePending (h.owed hf), h.buttons⟩
    refine (resizeIfDue_yields hm hasked fun change hchange => ?_).bind fun t _ ht => render_yields hm ht true
    exact takePending_width (r := { s.screen.window with
      flags.fullscreen := !s.screen.window.flags.fullscreen }) h rfl hchange

theorem handleWindowEvent_yields (hm : host.Modest) (h : s.screen.Steady) (event : WindowEvent) :
    (s.handleWindowEvent host event).Yields (·.screen.Steady) := by
  unfold handleWindowEvent
  split
  · exact .pure h
  next hf =>
    have hf : s.screen.hasFrame = true := by simpa using hf
    have hwindow (window : Resizing) : (s.setWindow window).screen.Steady :=
      ⟨h.content, h.rect, fun he => Bool.noConfusion (hf.symm.trans he), h.buttons⟩
    cases event with
    | exposed | sizeChanged => exact render_yields hm h true
    | maximized | minimized => exact .pure (hwindow _)
    | restored =>
      simp only [Resizing.onRestored]
      split
      next hignored => exact .pure h
      next change window hrestored =>
        split at hrestored
        · cases hrestored
        · obtain ⟨hchange, rfl⟩ := Prod.mk.inj hrestored
          obtain rfl := RestoreOutcome.restored.inj hchange
          refine (resizeIfDue_yields hm (hwindow _) fun c hc => ?_).bind fun t _ ht => render_yields hm ht true
          exact takePending_width (r := { s.screen.window with
            flags.maximized := false, flags.minimized := false }) h rfl hc

theorem resizeToFit_yields (hm : host.Modest) (h : s.screen.Steady) :
    (s.resizeToFit host).Yields (·.screen.Steady) := by
  unfold resizeToFit
  split
  · exact .pure h
  · have hwidth := Fitting.width_optimalSize_le (s.contentWindowSize host) s.screen.contentSize none
    have hle := width_contentWindowSize_le hm s
    refine (withPanel_yields s (by omega)).bind ?_
    intro size _ _
    refine (Fitting.centeredPosition_yields (hm.window _) (hm.position _)).bind ?_
    intro corner _ _
    exact .pure h

theorem resizeToPixelPerfect_yields (h : s.screen.Steady) :
    (s.resizeToPixelPerfect host).Yields (·.screen.Steady) := by
  simp only [resizeToPixelPerfect]
  split
  · exact .pure h
  next hf =>
    simp only [Bool.or_eq_true, not_or] at hf
    have hf : s.screen.hasFrame = true := by simpa using hf.1.1
    have ht : (if s.screen.window.flags.maximized = true then s.tell host .restoreWindow else s).screen =
        s.screen := by split <;> rfl
    generalize (if s.screen.window.flags.maximized = true then s.tell host .restoreWindow else s) = t at ht ⊢
    have hwindow : (t.setWindow t.screen.window.leaveMaximized).screen.Steady := by
      simp only [setWindow, screen_update, ht]
      exact ⟨h.content, h.rect, fun he => Bool.noConfusion (hf.symm.trans he), h.buttons⟩
    have hwidth : t.screen.contentSize.width.toNat ≤ 65535 := by
      rw [ht]
      exact (Size.frameLike_of_valid (h.content hf)).width
    exact (withPanel_yields _ (Nat.le_trans hwidth (by decide))).bind fun size _ _ => .pure hwindow

/-! ## The pointer and the panel -/

/-- The point lies in the window that the host reports, also after a change of the
cursor. -/
def pointsInside (host : Host σ) (s : Session σ) (p : Point) : Bool :=
  p.inside (host.windowSize s.outside) &&
    [Panel.CursorShape.arrow, .hand].all fun shape =>
      p.inside (host.windowSize (host.perform (.setCursor shape) s.outside).2)

theorem applyCursorIfAny_steady (h : s.screen.Steady) (shape : Option Panel.CursorShape) :
    (s.applyCursorIfAny host shape).screen.Steady := by
  obtain ⟨-, overlay, hpanel, hscreen⟩ := applyCursorIfAny_effect s host shape
  rw [hscreen]
  exact ⟨h.content, h.rect, h.owed, hpanel ▸ h.buttons⟩

theorem inside_applyCursorIfAny {p : Point} (h : s.pointsInside host p = true)
    (shape : Option Panel.CursorShape) :
    p.inside (host.windowSize (s.applyCursorIfAny host shape).outside) = true := by
  simp only [pointsInside, Bool.and_eq_true, List.all_cons, List.all_nil, Bool.and_true] at h
  obtain ⟨hnow, harrow, hhand⟩ := h
  cases shape with
  | none => exact hnow
  | some shape =>
    obtain ⟨overlay, -, heq⟩ := applyCursor_ok s host shape
    simp only [applyCursorIfAny, Option.elim_some, heq]
    cases shape with
    | arrow => exact harrow
    | hand => exact hhand

theorem forward_yields (hm : host.Modest) (h : s.screen.Steady) (hf : s.screen.hasFrame = true)
    {event : PointerEvent} (hinside : event.point.inside (host.windowSize s.outside) = true) :
    (s.forward host event).Yields (·.screen.Steady) := by
  have husable : (s.mapping host).Usable :=
    ⟨hm.drawable _, h.rect hf, Size.frameLike_of_valid (h.content hf)⟩
  exact (Mapping.windowToPosition_yields husable hinside).bind fun position _ _ => .pure h

theorem handlePointer_yields (hm : host.Modest) (h : s.screen.Steady) {event : PointerEvent}
    (hinside : s.pointsInside host event.point = true) :
    (s.handlePointer host event).Yields (·.screen.Steady) := by
  simp only [handlePointer]
  split
  · exact .pure h
  next hf =>
    have hf : s.screen.hasFrame = true := by simpa using hf
    refine (panelLayout_yields hm h (h.rect hf)).bind ?_
    intro layout _ hlayout
    refine (Panel.Overlay.handlePointer_yields hlayout).bind ?_
    rintro ⟨outcome, overlay⟩ ho _
    have hpanel := Panel.Overlay.panel_handlePointer ho
    have hsteady : (s.setOverlay overlay).screen.Steady := ⟨h.content, h.rect, h.owed, hpanel ▸ h.buttons⟩
    have hthere := inside_applyCursorIfAny (s := s.setOverlay overlay) hinside outcome.cursor
    obtain ⟨-, _, -, hscreen⟩ := applyCursorIfAny_effect (s.setOverlay overlay) host outcome.cursor
    have hcursor : ((s.setOverlay overlay).applyCursorIfAny host outcome.cursor).screen.Steady :=
      applyCursorIfAny_steady hsteady outcome.cursor
    have hframe : ((s.setOverlay overlay).applyCursorIfAny host outcome.cursor).screen.hasFrame = true := by
      rw [hscreen]
      exact hf
    cases haction : outcome.action with
    | pass | forwardThenSwallow => exact forward_yields hm hcursor hframe hthere
    | swallow | activate id => exact .pure hcursor
    | releaseThenSwallow release =>
      obtain ⟨button, -, rfl⟩ := Panel.Overlay.pressedOutside_of_release ho haction
      exact forward_yields hm hcursor hframe hthere

theorem updatePanel_yields (hm : host.Modest) (h : s.screen.Steady) {update : Panel.Update}
    (hbuttons : update.buttons.length ≤ Panel.maxButtons) :
    (s.updatePanel host update).Yields (·.screen.Steady) := by
  simp only [updatePanel]
  split
  · exact .pure h
  · have hsteady : (s.setOverlay (s.screen.overlay.applyUpdate update).2).screen.Steady :=
      ⟨h.content, h.rect, h.owed, hbuttons⟩
    exact render_yields hm (applyCursorIfAny_steady hsteady _) true

end Session

end RemoteView
