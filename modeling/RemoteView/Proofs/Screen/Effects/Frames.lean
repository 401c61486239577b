/-
What the parts of showing a frame change, from the setting up of the window to
the notices of the feed.
-/
import RemoteView.Proofs.FrameRate
import RemoteView.Proofs.Screen.Effects.Sizing

namespace RemoteView.Session

variable {σ : Type} {host : Host σ} {s s' t : Session σ}

/-- The meter after a step that may have started it. -/
def Started (rate rate' : FrameRate) : Prop := rate' = rate ∨ ∃ now, rate' = rate.start now

theorem totals_started {rate rate' : FrameRate} (h : Started rate rate') :
    rate'.renderedTotal = rate.renderedTotal ∧ rate'.skippedTotal = rate.skippedTotal := by
  rcases h with rfl | ⟨now, rfl⟩
  · exact ⟨rfl, rfl⟩
  · exact ⟨FrameRate.renderedTotal_start rate now, FrameRate.skippedTotal_start rate now⟩

/-- The first sizing of the window, after which it can go fullscreen and is shown. A
hidden window is only laid out. -/
theorem showInitialWindow_ok (h : s.showInitialWindow host = .ok s') :
    let startup := s.screen.startup
    (startup.hideWindow = true ∧ s.layOut host = .ok s') ∨ startup.hideWindow = false ∧ ∃ size t u,
      let sized := (s.tell host (.setSize size)).tell host
        (.setPosition (startCoordinate startup.window.x) (startCoordinate startup.window.y))
      (startup.fullscreen = false ∧ t = sized ∨
          startup.fullscreen = true ∧ sized.toggleFullscreen host = .ok t) ∧
        (u = t ∨ u = t.setRate (t.screen.rate.start (host.now t.outside))) ∧
        (u.tell host .showWindow).layOut host = .ok s' := by
  simp only [showInitialWindow] at h
  split at h
  next hhide => exact .inl ⟨hhide, h⟩
  next hhide =>
    obtain ⟨size, -, h⟩ := Except.bind_ok_iff.mp h
    obtain ⟨t, ht, h⟩ := Except.ite_bind_ok_iff.mp h
    refine .inr ⟨Bool.eq_false_iff.mpr hhide, size, t, _, ?_, ?_, h⟩
    · split at ht
      next hfullscreen => exact .inr ⟨hfullscreen, ht⟩
      next hfullscreen => exact .inl ⟨Bool.eq_false_iff.mpr hfullscreen, (Except.pure_ok_iff.mp ht).symm⟩
    · split
      · exact .inr rfl
      · exact .inl rfl

theorem showInitialWindow_effect (h : s.showInitialWindow host = .ok s') :
    Later s s' ∧ ∃ window rect sent rate, Started s.screen.rate rate ∧
      s'.screen = { s.screen with window, contentRect := rect, readySent := sent, rate } := by
  rcases showInitialWindow_ok h with ⟨-, h⟩ | ⟨-, size, t, u, ht, hu, h⟩
  · obtain ⟨rect, rfl⟩ := layOut_effect h
    exact ⟨.update _, _, _, _, _, .inl rfl, rfl⟩
  · obtain ⟨rect, rfl⟩ := layOut_effect h
    have ⟨hlater, window, rect', sent, hscreen⟩ : Later s t ∧ ∃ window rect sent,
        t.screen = { s.screen with window, contentRect := rect, readySent := sent } := by
      rcases ht with ⟨-, rfl⟩ | ⟨-, ht⟩
      · exact ⟨(Later.tell _).trans (.tell _), _, _, _, rfl⟩
      · have ⟨hlater, hscreen⟩ := toggleFullscreen_effect ht
        exact ⟨(Later.tell _).trans ((Later.tell _).trans hlater), hscreen⟩
    rcases hu with rfl | rfl
    · exact ⟨hlater.trans ((Later.tell _).trans (.update _)), window, rect, sent, _, .inl rfl, by
        simp only [screen_update, screen_tell, hscreen]⟩
    · exact ⟨hlater.trans ((Later.update _).trans ((Later.tell _).trans (.update _))), window, rect, sent,
        _, .inr ⟨host.now t.outside, rfl⟩, by simp only [screen_update, screen_tell, setRate, hscreen]⟩

theorem prepareForFrame_ok {size : Size} {r : Outcome} (h : s.prepareForFrame host size = .ok (r, s')) :
    (s.screen.frameSize = size ∧ r = .ok ∧ s' = s) ∨ ∃ t u,
      (s.update ({ · with frameSize := size })).setContentSize host
          (s.screen.orientation.orientedSize size) = .ok t ∧
        t.layOut host = .ok u ∧ u.request host (.setTextureSize size) = (r, s') := by
  simp only [prepareForFrame] at h
  split at h
  next he =>
    obtain ⟨rfl, rfl⟩ := Prod.mk.inj (Except.pure_ok_iff.mp h)
    exact .inl ⟨he, rfl, rfl⟩
  next =>
    simp only [Except.bind_ok_iff, Except.pure_ok_iff] at h
    obtain ⟨t, ht, u, hu, h⟩ := h
    exact .inr ⟨t, u, ht, hu, h⟩

theorem prepareForFrame_effect {size : Size} {r : Outcome} (h : s.prepareForFrame host size = .ok (r, s')) :
    Later s s' ∧ ((s.screen.frameSize = size ∧ s' = s) ∨ ∃ window rect, s'.screen = { s.screen with
      frameSize := size, contentSize := s.screen.orientation.orientedSize size, window
      contentRect := rect }) := by
  rcases prepareForFrame_ok h with ⟨he, -, rfl⟩ | ⟨t, u, ht, hu, h⟩
  · exact ⟨.refl _, .inl ⟨he, rfl⟩⟩
  · obtain rfl : (u.request host (.setTextureSize size)).2 = s' := congrArg Prod.snd h
    have ⟨hlater, window, hscreen⟩ := setContentSize_effect ht
    obtain ⟨rect, rfl⟩ := layOut_effect hu
    exact ⟨(Later.update _).trans (hlater.trans ((Later.update _).trans (.request _))), .inr ⟨window, rect, by
      simp only [screen_request, screen_update, hscreen]⟩⟩

theorem showUploaded_ok (h : s.showUploaded host = .ok s') :
    ∃ t rate, (s.screen.hasFrame = true ∧ t = s ∨
        s.screen.hasFrame = false ∧ s.showInitialWindow host = .ok t) ∧
      t.screen.rate.addRendered (host.now t.outside) = .ok rate ∧
      (t.update ({ · with hasFrame := true, rate })).render host (!s.screen.hasFrame) = .ok s' := by
  obtain ⟨t, ht, h⟩ := Except.ite_bind_ok_iff.mp h
  obtain ⟨rate, hrate, h⟩ := Except.bind_ok_iff.mp h
  refine ⟨t, rate, ?_, hrate, h⟩
  split at ht
  next hf => exact .inr ⟨by simpa using hf, ht⟩
  next hf => exact .inl ⟨by simpa using hf, (Except.pure_ok_iff.mp ht).symm⟩

theorem showUploaded_effect (h : s.showUploaded host = .ok s') :
    Later s s' ∧ ∃ window rect sent started now rate, Started s.screen.rate started ∧
      started.addRendered now = .ok rate ∧ s'.screen = { s.screen with
        window, contentRect := rect, readySent := sent, rate, hasFrame := true } := by
  obtain ⟨t, rate, ht, hrate, h⟩ := showUploaded_ok h
  have ⟨hlater, rect, sent, hscreen⟩ := render_effect h
  rcases ht with ⟨-, rfl⟩ | ⟨-, ht⟩
  · exact ⟨(Later.update _).trans hlater, t.screen.window, rect, sent, _, _, rate, .inl rfl, hrate, by
      simp only [hscreen, screen_update]⟩
  · have ⟨hlater', window, rect', sent', started, hstarted, hscreen'⟩ := showInitialWindow_effect ht
    rw [hscreen'] at hrate
    exact ⟨hlater'.trans ((Later.update _).trans hlater), window, rect, sent, started, _, rate, hstarted,
      hrate, by simp only [hscreen, screen_update, hscreen']⟩

theorem applyFrame_ok {frame : VideoFrame} {r : Except DisplayError Unit}
    (h : s.applyFrame host frame = .ok (r, s')) :
    ∃ prepared t, s.prepareForFrame host frame.size = .ok (prepared, t) ∧
      ((prepared ≠ .ok ∧ s' = t) ∨ prepared = .ok ∧
        let uploaded := t.request host (.updateTexture frame)
        (uploaded.1 ≠ .ok ∧ s' = uploaded.2) ∨ uploaded.1 = .ok ∧ uploaded.2.showUploaded host = .ok s') := by
  simp only [applyFrame, Except.bind_ok_iff] at h
  obtain ⟨⟨prepared, t⟩, hp, h⟩ := h
  refine ⟨prepared, t, hp, ?_⟩
  cases prepared with
  | pending | error => exact .inl ⟨nofun, (Prod.mk.inj (Except.pure_ok_iff.mp h)).2.symm⟩
  | ok =>
    refine .inr ⟨rfl, ?_⟩
    rcases hu : t.request host (.updateTexture frame) with ⟨uploaded, u⟩
    simp only [hu] at h
    cases uploaded with
    | pending | error => exact .inl ⟨nofun, (Prod.mk.inj (Except.pure_ok_iff.mp h)).2.symm⟩
    | ok =>
      simp only [Except.bind_ok_iff, Except.pure_ok_iff, Prod.mk.injEq] at h
      obtain ⟨s₁, hs, -, rfl⟩ := h
      exact .inr ⟨rfl, hs⟩

theorem applyFrame_later {frame : VideoFrame} {r : Except DisplayError Unit}
    (h : s.applyFrame host frame = .ok (r, s')) : Later s s' := by
  obtain ⟨prepared, t, hp, h⟩ := applyFrame_ok h
  have ht := (prepareForFrame_effect hp).1
  rcases h with ⟨-, rfl⟩ | ⟨-, ⟨-, rfl⟩ | ⟨-, hs⟩⟩
  · exact ht
  · exact ht.trans (.request _)
  · exact ht.trans ((Later.request _).trans (showUploaded_effect hs).1)

/-! ## Notices and pauses -/

theorem initSize_ok {size : Size} {r : Except DisplayError Unit} (h : s.initSize host size = .ok (r, s')) :
    s.screen.hasFrame = false ∧ s' = (s.update ({ · with
      frameSize := size, contentSize := s.screen.orientation.orientedSize size })).tell host
        (.setTextureSize size) := by
  simp only [initSize] at h
  split at h
  next => cases h
  next hf => exact ⟨by simpa using hf, (Prod.mk.inj (Except.pure_ok_iff.mp h)).2.symm⟩

theorem countSkipped_ok (h : s.countSkipped host = .ok s') :
    ∃ rate, s.screen.rate.addSkipped s.newlySkipped (host.now s.outside) = .ok rate ∧
      s' = s.update ({ · with rate, skippedSeen := s.feed.slot.skipped }) := by
  simp only [countSkipped, Except.bind_ok_iff, Except.pure_ok_iff] at h
  obtain ⟨rate, hrate, rfl⟩ := h
  exact ⟨rate, hrate, rfl⟩

theorem updateFrame_ok {r : Except DisplayError Unit} (h : s.updateFrame host = .ok (r, s')) :
    ∃ t, s.countSkipped host = .ok t ∧ let u := t.setFeed t.feed.consume.2
      (t.feed.slot.pending = none ∧ s' = u) ∨ ∃ frame, t.feed.slot.pending = some frame ∧
        ((t.screen.paused = true ∧ s' = u.update ({ · with held := some frame })) ∨
          t.screen.paused = false ∧ u.applyFrame host frame = .ok (r, s')) := by
  simp only [updateFrame, Except.bind_ok_iff] at h
  obtain ⟨t, ht, h⟩ := h
  refine ⟨t, ht, ?_⟩
  have hconsume : t.feed.consume.1 = t.feed.slot.pending := rfl
  rw [hconsume] at h
  split at h
  next hnone => exact .inl ⟨hnone, (Prod.mk.inj (Except.pure_ok_iff.mp h)).2.symm⟩
  next frame hsome =>
    refine .inr ⟨frame, hsome, ?_⟩
    split at h
    next hp => exact .inl ⟨hp, (Prod.mk.inj (Except.pure_ok_iff.mp h)).2.symm⟩
    next hp => exact .inr ⟨Bool.eq_false_iff.mpr hp, h⟩

/-- The consumer's side changes the feed, but the journal still only grows. -/
theorem handleNotice_journal {notice : Notice} {r : Except DisplayError Unit}
    (h : s.handleNotice host notice = .ok (r, s')) : s.journal <:+ s'.journal := by
  cases notice with
  | initSize size =>
    obtain ⟨-, rfl⟩ := initSize_ok h
    exact List.suffix_cons _ _
  | newFrame =>
    obtain ⟨t, hc, h⟩ := updateFrame_ok h
    obtain ⟨rate, -, rfl⟩ := countSkipped_ok hc
    rcases h with ⟨-, rfl⟩ | ⟨frame, -, ⟨-, rfl⟩ | ⟨-, h⟩⟩
    · exact List.suffix_rfl
    · exact List.suffix_rfl
    · exact (applyFrame_later h).journal

theorem handleNotices_journal {notices : List Notice} (h : s.handleNotices host notices = .ok s') :
    s.journal <:+ s'.journal := by
  induction notices generalizing s with
  | nil => exact Except.pure_ok_iff.mp h ▸ List.suffix_rfl
  | cons notice rest ih =>
    obtain ⟨⟨r, t⟩, ht, h⟩ := Except.bind_ok_iff.mp h
    exact (handleNotice_journal ht).trans (ih h)

theorem setPaused_ok {paused : Bool} {r : Except DisplayError Unit}
    (h : s.setPaused host paused = .ok (r, s')) :
    s' = s ∨ s' = s.update ({ · with paused }) ∨ ∃ frame, s.screen.held = some frame ∧
      (s.update ({ · with paused, held := none })).applyFrame host frame = .ok (r, s') := by
  simp only [setPaused] at h
  split at h
  next => exact .inl (Prod.mk.inj (Except.pure_ok_iff.mp h)).2.symm
  next =>
    split at h
    next frame _ hheld => exact .inr (.inr ⟨frame, hheld, h⟩)
    next => exact .inr (.inl (Prod.mk.inj (Except.pure_ok_iff.mp h)).2.symm)

end RemoteView.Session
