/-
Frames do not fault on their way to the display, as long as fewer than 2^32 of
them were given. No frame is counted twice (`Session.Counted`), so no count
overflows.
-/
import RemoteView.Proofs.Screen.Counted
import RemoteView.Proofs.Screen.FrameSizes
import RemoteView.Proofs.Screen.NoFault.Steady

namespace RemoteView.Session

variable {σ : Type} {host : Host σ} {s s' t : Session σ} {n : Nat}

/-! ## The first frame -/

theorem showInitialWindow_yields (hm : host.Modest) (h : s.screen.Steady)
    (hcontent : s.screen.contentSize.isValidFrame = true) :
    (s.showInitialWindow host).Yields fun s' => s'.screen.Steady ∧ s'.screen.contentRect.Placed := by
  have hlaid {t : Session σ} (ht : t.screen.Steady) (hsame : t.screen.contentSize = s.screen.contentSize) :
      (t.layOut host).Yields fun s' => s'.screen.Steady ∧ s'.screen.contentRect.Placed := by
    refine (layOut_yields hm ht).mono fun s' ⟨hs', hrect⟩ => ⟨hs', hrect ?_⟩
    rw [hsame]
    exact Size.isEmpty_of_valid hcontent
  have hwidth := (Size.frameLike_of_valid hcontent).width
  simp only [showInitialWindow]
  split
  · exact hlaid h rfl
  · refine (withPanel_yields s (Fitting.width_initialSize_le hwidth _ _ _)).bind ?_
    intro size _ _
    have hshown {t : Session σ} (ht : t.screen.Steady) (hsame : t.screen.contentSize = s.screen.contentSize) :
        (((if s.screen.startup.startFpsCounter = true then t.setRate (t.screen.rate.start (host.now t.outside))
          else t).tell host .showWindow).layOut host).Yields
          fun s' => s'.screen.Steady ∧ s'.screen.contentRect.Placed := by
      split
      · exact hlaid ht.keep hsame
      · exact hlaid ht hsame
    split
    · refine (toggleFullscreen_yields hm ?_).bind ?_
      · exact h
      · intro t ht hsteady
        obtain ⟨-, window, rect, sent, hscreen⟩ := toggleFullscreen_effect ht
        exact hshown hsteady (by rw [hscreen]; rfl)
    · exact hshown h rfl

/-- A frame that the display has taken is drawn and counted. -/
theorem drawUploaded_yields (hm : host.Modest) (h : s.screen.Steady) (hrect : s.screen.contentRect.Placed)
    (hcontent : s.screen.contentSize.isValidFrame = true) (hcounted : s.Counted n) (room : n + 1 < 2 ^ 32)
    (first : Bool) : (do
      let rate ← s.screen.rate.addRendered (host.now s.outside)
      (s.update ({ · with hasFrame := true, rate })).render host first : Except Fault (Session σ)).Yields
        (·.screen.Steady) := by
  have hframes := hcounted.frames
  refine (FrameRate.addRendered_yields hcounted.rate (host.now s.outside) (by omega)).bind ?_
  intro rate _ _
  have hsteady : (s.update ({ · with hasFrame := true, rate })).screen.Steady :=
    ⟨fun _ => hcontent, fun _ => hrect, nofun, h.buttons⟩
  exact render_yields hm hsteady first

theorem showUploaded_yields (hm : host.Modest) (h : s.screen.Steady)
    (hcontent : s.screen.contentSize.isValidFrame = true) (hcounted : s.Counted n) (room : n + 1 < 2 ^ 32) :
    (s.showUploaded host).Yields (·.screen.Steady) := by
  simp only [showUploaded]
  split
  · refine (showInitialWindow_yields hm h hcontent).bind ?_
    rintro t ht ⟨hsteady, hrect⟩
    have ⟨hlater, window, rect, sent, rate, hrate, hscreen⟩ := showInitialWindow_effect ht
    exact drawUploaded_yields hm hsteady hrect (by rw [hscreen]; exact hcontent)
      (hcounted.keep hlater.feed hrate hscreen) room _
  next hf => exact drawUploaded_yields hm h (h.rect (by simpa using hf)) hcontent hcounted room _

/-! ## Every frame -/

theorem prepareForFrame_yields (hm : host.Modest) (h : s.screen.Steady) {size : Size}
    (hsize : size.isValidFrame = true) : (s.prepareForFrame host size).Yields (·.2.screen.Steady) := by
  simp only [prepareForFrame]
  split
  · exact .pure h
  · have hcontent : (s.screen.orientation.orientedSize size).isValidFrame = true := by
      rw [Orientation.isValidFrame_orientedSize]
      exact hsize
    have hframe : (s.update ({ · with frameSize := size })).screen.Steady := h.keep
    refine (setContentSize_yields hm hframe fun _ => hcontent).bind ?_
    intro t _ ht
    refine (layOut_yields hm ht).bind ?_
    rintro u - ⟨hu, -⟩
    exact .pure hu

theorem applyFrame_yields (hm : host.Modest) (h : s.screen.Steady) (hsizes : Framed (·.isValidFrame = true) s)
    {frame : VideoFrame} (hframe : frame.size.isValidFrame = true) (hcounted : s.Counted n)
    (room : n + 1 < 2 ^ 32) : (s.applyFrame host frame).Yields (·.2.screen.Steady) := by
  refine (prepareForFrame_yields hm h hframe).bind ?_
  rintro ⟨prepared, t⟩ hp ht
  have hcounted : t.Counted n := hcounted.prepareForFrame hp
  cases prepared with
  | pending | error => exact .pure ht
  | ok =>
    have hcontent : t.screen.contentSize.isValidFrame = true := by
      have ⟨hframed, hsize⟩ := hsizes.prepareForFrame hframe hp
      rw [hframed.content, Orientation.isValidFrame_orientedSize]
      exact hsize
    rcases hu : t.request host (.updateTexture frame) with ⟨uploaded, u⟩
    have hasked : (t.request host (.updateTexture frame)).2 = u := congrArg Prod.snd hu
    have hsteady : u.screen.Steady := hasked ▸ ht
    have hcounted' : u.Counted n := hasked ▸ hcounted.keep rfl (.inl rfl) rfl
    simp only [hu]
    cases uploaded with
    | pending | error => exact .pure hsteady
    | ok =>
      have hcontent' : u.screen.contentSize.isValidFrame = true := hasked ▸ hcontent
      exact (showUploaded_yields hm hsteady hcontent' hcounted' room).bind fun s' _ hs' => .pure hs'

/-! ## Notices and pauses -/

/-- What holds of every session after `n` frames were given, between operations. -/
structure Sane (n : Nat) (s : Session σ) : Prop where
  steady : s.screen.Steady
  framed : Framed (·.isValidFrame = true) s
  counted : s.Counted n

/-- The sizes of frames and their counts follow from what was done, so only the rest is
to prove of a part that ends well. -/
theorem Sane.of_yields {α : Type} {x : Except Fault (α × Session σ)}
    (hframed : ∀ r, x = .ok r → Framed (·.isValidFrame = true) r.2)
    (hcounted : ∀ r, x = .ok r → r.2.Counted n) (hrest : x.Yields (·.2.screen.Steady)) : x.Yields (·.2.Sane n) :=
  ((hrest.and hframed).and hcounted).mono fun _ ⟨⟨hsteady, hf⟩, hc⟩ => ⟨hsteady, hf, hc⟩

theorem updateFrame_yields (hm : host.Modest) (h : s.Sane n) (room : n < 2 ^ 32) :
    (s.updateFrame host).Yields (·.2.Sane n) := by
  refine Sane.of_yields (fun _ hr => h.framed.updateFrame hr) (fun _ hr => h.counted.updateFrame hr) ?_
  refine (countSkipped_yields h.counted room).bind ?_
  rintro t ht ⟨rate, heq⟩
  have hcounted : t.Counted n := h.counted.countSkipped ht
  have hsteady : t.screen.Steady := heq ▸ h.steady.keep
  have hsizes : Framed (·.isValidFrame = true) t := heq ▸ h.framed.keep (.update _) rfl
  have hconsume : t.feed.consume.1 = t.feed.slot.pending := rfl
  simp only [hconsume]
  cases hpending : t.feed.slot.pending with
  | none => exact .pure hsteady
  | some frame =>
    obtain ⟨hpos, htaken⟩ := hcounted.consume hpending
    simp only
    split
    · exact .pure hsteady.keep
    · exact applyFrame_yields (s := t.setFeed t.feed.consume.2) hm hsteady hsizes.consume
        (hsizes.waiting frame hpending) htaken (by omega)

theorem handleNotice_yields (hm : host.Modest) (h : s.Sane n) (room : n < 2 ^ 32) {notice : Notice}
    (hearly : ∀ size, notice = .initSize size → s.screen.hasFrame = false) :
    (s.handleNotice host notice).Yields (·.2.Sane n) := by
  cases notice with
  | newFrame => exact updateFrame_yields hm h room
  | initSize size =>
    have hf := hearly size rfl
    have hopened : (s.initSize host size).Yields fun _ => True := by
      simp only [initSize]
      rw [if_neg (by simp [hf])]
      exact .pure trivial
    refine (hopened.and fun r hr => (initSize_ok hr).2).mono ?_
    rintro ⟨r, t⟩ ⟨-, ht⟩
    have hno : s.screen.hasFrame = true → False := by simp [hf]
    refine ⟨?_, ?_, ?_⟩
    · rw [ht]
      exact ⟨fun he => (hno he).elim, fun he => (hno he).elim, h.steady.owed, h.steady.buttons⟩
    · rw [ht]
      exact ⟨rfl, fun he => (hno he).elim, h.framed.waiting, h.framed.held⟩
    · exact ht ▸ h.counted.keep rfl (.inl rfl) rfl

theorem setPaused_yields (hm : host.Modest) (h : s.Sane n) (room : n < 2 ^ 32) (paused : Bool) :
    (s.setPaused host paused).Yields (·.2.Sane n) := by
  refine Sane.of_yields (fun _ hr => h.framed.setPaused hr) (fun _ hr => h.counted.setPaused hr) ?_
  simp only [setPaused]
  split
  · exact .pure h.steady
  · split
    next frame _ hheld =>
      have hheld : s.screen.held = some frame := hheld
      obtain ⟨hpos, hreleased⟩ : 1 ≤ n ∧ (s.update ({ · with paused, held := none })).Counted (n - 1) :=
        h.counted.release hheld
      have hsteady : (s.update ({ · with paused, held := none })).screen.Steady := h.steady.keep
      exact applyFrame_yields hm hsteady (h.framed.release paused) (h.framed.held frame hheld)
        hreleased (by omega)
    next => exact .pure h.steady.keep

end RemoteView.Session
