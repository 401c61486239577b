/-
What each part of an operation changes. The view after it is given as the view
before with other values in some fields; whatever is not named stays. Of the rest
of the session, `Session.Later` says that the feed is as it was and that the
journal has only grown.
-/
import RemoteView.Proofs.Screen.Run
import RemoteView.Proofs.Window.Resizing

namespace RemoteView.Session

variable {σ : Type} {host : Host σ} {s s' t : Session σ}

/-- The feed is the same and the journal has grown, if it has changed at all. -/
structure Later (s s' : Session σ) : Prop where
  feed : s'.feed = s.feed
  journal : s.journal <:+ s'.journal

namespace Later

theorem refl (s : Session σ) : Later s s := ⟨rfl, List.suffix_rfl⟩

theorem trans (h : Later s t) (h' : Later t s') : Later s s' :=
  ⟨h'.feed.trans h.feed, h.journal.trans h'.journal⟩

theorem update (change : Screen → Screen) : Later s (s.update change) := ⟨rfl, List.suffix_rfl⟩

theorem request (r : Request) : Later s (s.request host r).2 := ⟨rfl, List.suffix_cons _ _⟩

theorem tell (r : Request) : Later s (s.tell host r) := request r

end Later

@[simp] theorem screen_update (change : Screen → Screen) : (s.update change).screen = change s.screen := rfl
@[simp] theorem screen_request (r : Request) : (s.request host r).2.screen = s.screen := rfl
@[simp] theorem screen_tell (r : Request) : (s.tell host r).screen = s.screen := rfl

/-- A request is written down with its outcome. -/
theorem journal_request (s : Session σ) (host : Host σ) (r : Request) :
    ∃ e : Entry, (s.request host r).2.journal = e :: s.journal ∧ e.request = r ∧
      e.outcome = (s.request host r).1 :=
  ⟨_, rfl, rfl, rfl⟩

/-! ## Laying out and drawing -/

theorem layOut_ok (h : s.layOut host = .ok s') :
    (s.screen.contentSize.isEmpty = true ∧ s' = s) ∨ s.screen.contentSize.isEmpty = false ∧
      ∃ rect, Fitting.contentRect (host.drawableSize s.outside) s.screen.contentSize
          (s.panelWidth host) = .ok rect ∧ s' = s.update ({ · with contentRect := rect }) := by
  unfold layOut at h
  split at h
  next he => exact .inl ⟨he, (Except.pure_ok_iff.mp h).symm⟩
  next he =>
    simp only [Except.bind_ok_iff, Except.pure_ok_iff] at h
    obtain ⟨rect, hr, rfl⟩ := h
    exact .inr ⟨by simpa using he, rect, hr, rfl⟩

theorem layOut_effect (h : s.layOut host = .ok s') :
    ∃ rect, s' = s.update ({ · with contentRect := rect }) := by
  rcases layOut_ok h with ⟨-, rfl⟩ | ⟨-, rect, -, rfl⟩
  · exact ⟨s'.screen.contentRect, rfl⟩
  · exact ⟨rect, rfl⟩

theorem announceReady_effect (s : Session σ) (host : Host σ) :
    Later s (s.announceReady host) ∧
      (s.announceReady host).screen = { s.screen with readySent := true } := by
  unfold announceReady
  split
  next hsent => exact ⟨.refl s, by rw [← hsent]⟩
  next => exact ⟨(Later.update _).trans (.tell _), rfl⟩

theorem present_ok (h : s.present host = .ok s') :
    ∃ layout, s.panelLayout host = .ok layout ∧
      s' = (s.tell host (.render (s.scene layout))).announceReady host := by
  simp only [present, Except.bind_ok_iff, Except.pure_ok_iff] at h
  obtain ⟨layout, hl, rfl⟩ := h
  exact ⟨layout, hl, rfl⟩

theorem present_effect (h : s.present host = .ok s') :
    Later s s' ∧ s'.screen = { s.screen with readySent := true } := by
  obtain ⟨layout, -, rfl⟩ := present_ok h
  have ⟨hlater, hscreen⟩ := announceReady_effect (s.tell host (.render (s.scene layout))) host
  exact ⟨(Later.tell _).trans hlater, hscreen⟩

theorem render_ok {refresh : Bool} (h : s.render host refresh = .ok s') :
    (s.screen.hasFrame = false ∧ s' = s) ∨ s.screen.hasFrame = true ∧
      ((refresh = true ∧ ∃ t, s.layOut host = .ok t ∧ t.present host = .ok s') ∨
        (refresh = false ∧ s.present host = .ok s')) := by
  unfold render at h
  split at h
  next hf => exact .inl ⟨by simpa using hf, (Except.pure_ok_iff.mp h).symm⟩
  next hf =>
    refine .inr ⟨by simpa using hf, ?_⟩
    split at h
    next hr => exact .inl ⟨hr, Except.bind_ok_iff.mp h⟩
    next hr => exact .inr ⟨by simpa using hr, h⟩

theorem render_effect {refresh : Bool} (h : s.render host refresh = .ok s') :
    Later s s' ∧ ∃ rect sent, s'.screen = { s.screen with contentRect := rect, readySent := sent } := by
  rcases render_ok h with ⟨-, rfl⟩ | ⟨-, ⟨-, t, hl, hp⟩ | ⟨-, hp⟩⟩
  · exact ⟨.refl _, _, _, rfl⟩
  · obtain ⟨rect, rfl⟩ := layOut_effect hl
    have ⟨hlater, hscreen⟩ := present_effect hp
    exact ⟨(Later.update _).trans hlater, rect, true, hscreen⟩
  · have ⟨hlater, hscreen⟩ := present_effect hp
    exact ⟨hlater, s.screen.contentRect, true, hscreen⟩

/-! ## Sizing the window -/

theorem resizeForContent_effect {change : ResizeRequest} (h : s.resizeForContent host change = .ok s') :
    ∃ size, s' = s.tell host (.setSize size) := by
  simp only [resizeForContent, Except.bind_ok_iff, Except.pure_ok_iff] at h
  obtain ⟨size, -, rfl⟩ := h
  exact ⟨size, rfl⟩

theorem resizeIfDue_effect {change : Option ResizeRequest} (h : s.resizeIfDue host change = .ok s') :
    Later s s' ∧ s'.screen = s.screen := by
  cases change with
  | none => exact Except.pure_ok_iff.mp h ▸ ⟨.refl s, rfl⟩
  | some change =>
    obtain ⟨size, rfl⟩ := resizeForContent_effect h
    exact ⟨.tell _, rfl⟩

/-- The window follows the content if it has shown a frame. -/
theorem setContentSize_ok {size : Size} (h : s.setContentSize host size = .ok s') :
    let sized := s.update ({ · with contentSize := size })
    s' = sized ∨ s.screen.hasFrame = true ∧
      let followed := s.screen.window.contentSizeChanged s.screen.contentSize size
      (sized.setWindow followed.2).resizeIfDue host followed.1 = .ok s' := by
  simp only [setContentSize] at h
  split at h
  next => exact .inl (Except.pure_ok_iff.mp h).symm
  next hf =>
    simp only [Bool.or_eq_true, not_or] at hf
    exact .inr ⟨by simpa using hf.1, h⟩

theorem setContentSize_effect {size : Size} (h : s.setContentSize host size = .ok s') :
    Later s s' ∧ ∃ window, s'.screen = { s.screen with contentSize := size, window } := by
  rcases setContentSize_ok h with rfl | ⟨-, h⟩
  · exact ⟨.update _, s.screen.window, rfl⟩
  · have ⟨hlater, hscreen⟩ := resizeIfDue_effect h
    exact ⟨(Later.update _).trans ((Later.update _).trans hlater), _, hscreen⟩

theorem setOrientation_ok {o : Orientation} (h : s.setOrientation host o = .ok s') :
    (o = s.screen.orientation ∧ s' = s) ∨
      ∃ t, s.setContentSize host (o.orientedSize s.screen.frameSize) = .ok t ∧
        (t.update ({ · with orientation := o })).render host true = .ok s' := by
  unfold setOrientation at h
  split at h
  next ho => exact .inl ⟨ho, (Except.pure_ok_iff.mp h).symm⟩
  next => exact .inr (Except.bind_ok_iff.mp h)

theorem setOrientation_effect {o : Orientation} (h : s.setOrientation host o = .ok s') :
    Later s s' ∧ ((o = s.screen.orientation ∧ s' = s) ∨ ∃ window rect sent, s'.screen = { s.screen with
      contentSize := o.orientedSize s.screen.frameSize, window, orientation := o, contentRect := rect
      readySent := sent }) := by
  rcases setOrientation_ok h with ⟨ho, rfl⟩ | ⟨t, ht, hr⟩
  · exact ⟨.refl _, .inl ⟨ho, rfl⟩⟩
  · have ⟨hlater, window, hscreen⟩ := setContentSize_effect ht
    have ⟨hlater', rect, sent, hscreen'⟩ := render_effect hr
    exact ⟨hlater.trans ((Later.update _).trans hlater'), .inr ⟨window, rect, sent, by
      rw [hscreen', screen_update, hscreen]⟩⟩

/-- A switch that the host accepted: the flags change, a resize that was due is
done, and the view is drawn anew. -/
theorem toggleFullscreen_ok (h : s.toggleFullscreen host = .ok s') :
    let asked := s.request host (.setFullscreen (!s.screen.window.flags.fullscreen))
    let turned := s.screen.window.onFullscreenToggled s.screen.contentSize
    (asked.1 = .error ∧ s' = asked.2) ∨ asked.1 ≠ .error ∧ ∃ t,
      (asked.2.setWindow turned.2).resizeIfDue host turned.1 = .ok t ∧ t.render host true = .ok s' := by
  intro asked turned
  simp only [toggleFullscreen] at h
  split at h
  next he => exact .inl ⟨he, (Except.pure_ok_iff.mp h).symm⟩
  next he =>
    obtain ⟨t, ht, hr⟩ := Except.bind_ok_iff.mp h
    exact .inr ⟨he, t, ht, hr⟩

theorem toggleFullscreen_effect (h : s.toggleFullscreen host = .ok s') :
    Later s s' ∧ ∃ window rect sent,
      s'.screen = { s.screen with window, contentRect := rect, readySent := sent } := by
  rcases toggleFullscreen_ok h with ⟨-, rfl⟩ | ⟨-, t, ht, hr⟩
  · exact ⟨.request _, _, _, _, rfl⟩
  · have ⟨hlater, hscreen⟩ := resizeIfDue_effect ht
    have ⟨hlater', rect, sent, hscreen'⟩ := render_effect hr
    exact ⟨(Later.request _).trans ((Later.update _).trans (hlater.trans hlater')), _, rect, sent, by
      rw [hscreen', hscreen]; rfl⟩

/-- Only a free window is fitted. -/
theorem resizeToFit_ok (h : s.resizeToFit host = .ok s') :
    s' = s ∨ (s.screen.hasFrame = true ∧ s.screen.window.isWindowed = true) ∧
      ∃ size x y, s' = (s.tell host (.setSize size)).tell host (.setPosition x y) := by
  unfold resizeToFit at h
  split at h
  next => exact .inl (Except.pure_ok_iff.mp h).symm
  next hguard =>
    simp only [Except.bind_ok_iff, Except.pure_ok_iff] at h
    obtain ⟨size, -, corner, -, rfl⟩ := h
    exact .inr ⟨by simpa using hguard, size, _, _, rfl⟩

theorem resizeToFit_effect (h : s.resizeToFit host = .ok s') : Later s s' ∧ s'.screen = s.screen := by
  rcases resizeToFit_ok h with rfl | ⟨-, size, x, y, rfl⟩
  · exact ⟨.refl _, rfl⟩
  · exact ⟨(Later.tell _).trans (.tell _), rfl⟩

/-- The window is free once it has left the maximized state. -/
theorem resizeToPixelPerfect_ok (h : s.resizeToPixelPerfect host = .ok s') :
    s' = s ∨ (s.screen.hasFrame = true ∧ s.screen.window.leaveMaximized.isWindowed = true) ∧
      ∃ t size, (t = s ∨ t = s.tell host .restoreWindow) ∧
        s' = (t.setWindow s.screen.window.leaveMaximized).tell host (.setSize size) := by
  simp only [resizeToPixelPerfect] at h
  split at h
  next => exact .inl (Except.pure_ok_iff.mp h).symm
  next hguard =>
    simp only [Bool.or_eq_true, not_or, Bool.not_eq_true, Bool.not_eq_false'] at hguard
    obtain ⟨⟨hf, hfullscreen⟩, hminimized⟩ := hguard
    simp only [Except.bind_ok_iff, Except.pure_ok_iff] at h
    obtain ⟨size, -, rfl⟩ := h
    refine .inr ⟨⟨hf, Resizing.isWindowed_leaveMaximized hfullscreen hminimized⟩, ?_⟩
    split
    · exact ⟨_, size, .inr rfl, rfl⟩
    · exact ⟨_, size, .inl rfl, rfl⟩

theorem resizeToPixelPerfect_effect (h : s.resizeToPixelPerfect host = .ok s') :
    Later s s' ∧ ∃ window, s'.screen = { s.screen with window } := by
  rcases resizeToPixelPerfect_ok h with rfl | ⟨-, t, size, rfl | rfl, rfl⟩
  · exact ⟨.refl _, s'.screen.window, rfl⟩
  · exact ⟨(Later.update _).trans (.tell _), _, rfl⟩
  · exact ⟨(Later.tell _).trans ((Later.update _).trans (.tell _)), _, rfl⟩

end RemoteView.Session
