/-
A pause drops all frames but the latest (`Session.run_pause`). The run with the pause is
compared with a second run, in which the view is never paused and no notice of a new frame
is acted on, until one such notice shows the latest frame where the first run resumes.
-/
import RemoteView.Proofs.Screen.Pause.Waiting

namespace RemoteView.Session

variable {σ : Type} {host : Host σ} {s s' t : Session σ} {received : Option VideoFrame} {n : Nat} {room : Prop}

/-- The run of a pause without the pause. No notice of a new frame is acted on, except for
one at its end if a frame was received. -/
def runUnpaused (s : Session σ) (host : Host σ) (events : List (Event σ)) (received : Bool) :
    Except Fault (Except DisplayError Unit × Session σ) := do
  let s ← s.runFrameless host events
  if received then s.handleNotice host .newFrame else return (.ok (), s)

/-! ## The resumed view -/

/-- The sessions agree but for the counts of skipped frames, the intervals of the meter and
the notices of new frames. -/
structure Agrees (s t : Session σ) : Prop extends Apart none s t where
  paused : t.screen.paused = s.screen.paused
  held : t.screen.held = s.screen.held

namespace Agrees

variable {frame : VideoFrame}

theorem move (h : Agrees s t) (haside : s'.aside = s.aside) : Agrees s' (s'.withAside t.aside) :=
  ⟨h.toApart.move haside, h.paused.trans (congrArg Aside.paused haside).symm,
    h.held.trans (congrArg Aside.held haside).symm⟩

/-- A part that pays no attention to the aside. -/
theorem unaffected (part : Session σ → Except Fault (Session σ)) (h : Agrees s t)
    (hpart : ∀ s x, part (withAside s x) = (·.withAside x) <$> part s) (hs : part s = .ok s') :
    (part t).YieldsGiven room (Agrees s') := by
  obtain ⟨hsame, hall⟩ := of_unaffected part (hpart s) hs
  have haside : s'.aside = s.aside := by
    rw [hsame]
    rfl
  rw [h.same]
  exact .of_ok (hall _) (h.move haside)

theorem tell (h : Agrees s t) (host : Host σ) (r : Request) : Agrees (s.tell host r) (t.tell host r) := by
  have ht : t.tell host r = (s.tell host r).withAside t.aside := by
    rw [h.same]
    rfl
  exact ht ▸ h.move rfl

theorem showInitialWindow (h : Agrees s t) (hs : s.showInitialWindow host = .ok s') :
    (t.showInitialWindow host).YieldsGiven room (Agrees s') := by
  have hstartup : t.screen.startup = s.screen.startup := congrArg (·.screen.startup) h.same
  have hpanel (size : Size) : t.withPanel size = s.withPanel size := by
    rw [h.same]
    rfl
  have hcontent : t.screen.contentSize = s.screen.contentSize ∧ t.displayBounds host = s.displayBounds host := by
    rw [h.same]
    exact ⟨rfl, rfl⟩
  simp only [Session.showInitialWindow, hstartup, hpanel, hcontent] at hs ⊢
  split at hs
  next hhide =>
    rw [if_pos hhide]
    exact h.unaffected (·.layOut host) (fun _ _ => layOut_withAside) hs
  next hhide =>
    rw [if_neg hhide]
    obtain ⟨size, hsize, hshown⟩ := Except.bind_ok_iff.mp hs
    obtain ⟨u, hu, hlaid⟩ := Except.ite_bind_ok_iff.mp hshown
    have hsized := (h.tell host (.setSize size)).tell host
      (.setPosition (startCoordinate s.screen.startup.window.x) (startCoordinate s.screen.startup.window.y))
    refine .bind (.of_ok hsize rfl : Except.YieldsGiven _ room (· = size)) ?_
    rintro _ - rfl
    refine .ite_bind (Q := Agrees u) ?_ fun v _ hv => ?_
    · split at hu
      next hfullscreen =>
        rw [if_pos hfullscreen]
        exact hsized.unaffected (·.toggleFullscreen host) (fun _ _ => toggleFullscreen_withAside) hu
      next hfullscreen =>
        rw [if_neg hfullscreen]
        exact Except.pure_ok_iff.mp hu ▸ .of_ok rfl hsized
    · -- The meter may be started here, and runs in both sessions then.
      have hmetered : Agrees
          (if s.screen.startup.startFpsCounter then u.setRate (u.screen.rate.start (host.now u.outside)) else u)
          (if s.screen.startup.startFpsCounter then v.setRate (v.screen.rate.start (host.now v.outside)) else v) := by
        split
        · exact ⟨hv.toApart.startRate _ _, hv.paused, hv.held⟩
        · exact hv
      exact (hmetered.tell host .showWindow).unaffected (·.layOut host) (fun _ _ => layOut_withAside) hlaid

/-- A frame that the display has taken is drawn and counted. -/
theorem drawUploaded {rate : FrameRate} {first : Bool} (h : Agrees s t) (hcounted : t.Counted n)
    (hrate : s.screen.rate.addRendered (host.now s.outside) = .ok rate)
    (hs : (s.update ({ · with hasFrame := true, rate })).render host first = .ok s') :
    (do
      let rate ← t.screen.rate.addRendered (host.now t.outside)
      (t.update ({ · with hasFrame := true, rate })).render host first : Except Fault (Session σ)).YieldsGiven
        (n + 1 < 2 ^ 32) (Agrees s') := by
  have hadded := FrameRate.addRendered_ok hrate
  have hcount : (t.screen.rate.addRendered (host.now t.outside)).YieldsGiven (n + 1 < 2 ^ 32)
      (FrameRate.Added 1 0 t.screen.rate) := by
    refine ⟨fun room => ?_, fun _ hrate' => FrameRate.addRendered_ok hrate'⟩
    have hframes := hcounted.frames
    obtain ⟨rate', hrate', -⟩ := FrameRate.addRendered_yields hcounted.rate (host.now t.outside) (by omega)
    exact ⟨rate', hrate'⟩
  refine hcount.bind ?_
  intro rate' _ hadded'
  have hrendered : rate'.renderedTotal = rate.renderedTotal := by
    rw [← UInt64.toNat_inj, hadded'.renderedTotal, hadded.renderedTotal, h.renderedTotal]
  have hstarted : rate'.isStarted = rate.isStarted := by
    rw [hadded'.started, hadded.started, h.started]
  have hdrawn : Agrees (s.update ({ · with hasFrame := true, rate }))
      (t.update ({ · with hasFrame := true, rate := rate' })) :=
    ⟨⟨by rw [h.same]; rfl, hrendered, hstarted, h.feed⟩, h.paused, h.held⟩
  exact hdrawn.unaffected (·.render host first) (fun _ _ => render_withAside first) hs

theorem showUploaded (h : Agrees s t) (hcounted : t.Counted n) (hs : s.showUploaded host = .ok s') :
    (t.showUploaded host).YieldsGiven (n + 1 < 2 ^ 32) (Agrees s') := by
  have hframe : t.screen.hasFrame = s.screen.hasFrame := congrArg (·.screen.hasFrame) h.same
  obtain ⟨u, rate, hu, hrate, hs⟩ := showUploaded_ok hs
  simp only [Session.showUploaded, hframe]
  refine .ite_bind (Q := Agrees u) ?_ fun v hv hagrees => ?_
  · rcases hu with ⟨hshown, rfl⟩ | ⟨hfirst, hu⟩
    · rw [hshown]
      exact .of_ok rfl h
    · rw [hfirst]
      exact h.showInitialWindow hu
  · have hcounted : v.Counted n := by
      split at hv
      · have ⟨hlater, window, rect, sent, rate', hstarted, hscreen⟩ := showInitialWindow_effect hv
        exact hcounted.keep hlater.feed hstarted hscreen
      · exact Except.pure_ok_iff.mp hv ▸ hcounted
    exact hagrees.drawUploaded hcounted hrate hs

theorem prepareForFrame {size : Size} {r : Outcome} (h : Agrees s t)
    (hs : s.prepareForFrame host size = .ok (r, s')) :
    (t.prepareForFrame host size).YieldsGiven room fun r' => r'.1 = r ∧ Agrees s' r'.2 := by
  obtain ⟨hsame, hall⟩ := of_unaffected (·.prepareForFrame host size) (fun x => prepareForFrame_withAside size) hs
  have haside : s'.aside = s.aside := congrArg (·.2.aside) hsame
  rw [h.same]
  exact .of_ok (hall _) ⟨rfl, h.move haside⟩

theorem applyFrame {r : Except DisplayError Unit} (h : Agrees s t) (hcounted : t.Counted n)
    (hs : s.applyFrame host frame = .ok (r, s')) :
    (t.applyFrame host frame).YieldsGiven (n + 1 < 2 ^ 32) fun r' => r'.1 = r ∧ Agrees s' r'.2 := by
  simp only [Session.applyFrame] at hs ⊢
  obtain ⟨⟨prepared, u⟩, hu, hs⟩ := Except.bind_ok_iff.mp hs
  refine (h.prepareForFrame hu).bind ?_
  rintro ⟨prepared', v⟩ hv ⟨hreply, hagrees⟩
  obtain rfl : prepared = prepared' := hreply.symm
  have hprepared : Agrees u v := hagrees
  have hcounted : v.Counted n := hcounted.prepareForFrame hv
  cases prepared with
  | pending | error =>
    obtain ⟨rfl, rfl⟩ := Prod.mk.inj (Except.pure_ok_iff.mp hs)
    exact .of_ok rfl ⟨rfl, hprepared⟩
  | ok =>
    have hasked : v.request host (.updateTexture frame) =
        ((u.request host (.updateTexture frame)).1, (u.request host (.updateTexture frame)).2.withAside v.aside) := by
      rw [hprepared.same]
      rfl
    have hasks : Agrees (u.request host (.updateTexture frame)).2 (v.request host (.updateTexture frame)).2 :=
      hprepared.tell host (.updateTexture frame)
    have hcounted : (v.request host (.updateTexture frame)).2.Counted n := hcounted.keep rfl (.inl rfl) rfl
    rcases hu' : u.request host (.updateTexture frame) with ⟨uploaded, u'⟩
    rcases hv' : v.request host (.updateTexture frame) with ⟨uploaded', v'⟩
    rw [hu', hv'] at hasks
    rw [hv'] at hcounted
    obtain rfl : uploaded = uploaded' := by
      rw [hu', hv'] at hasked
      exact (Prod.mk.inj hasked).1.symm
    simp only [hu', hv'] at hs ⊢
    cases uploaded with
    | pending | error =>
      obtain ⟨rfl, rfl⟩ := Prod.mk.inj (Except.pure_ok_iff.mp hs)
      exact .of_ok rfl ⟨rfl, hasks⟩
    | ok =>
      simp only [Except.bind_ok_iff, Except.pure_ok_iff, Prod.mk.injEq] at hs
      obtain ⟨u'', hu'', rfl, rfl⟩ := hs
      exact (hasks.showUploaded hcounted hu'').bind fun _ _ hshown => .of_ok rfl ⟨rfl, hshown⟩

/-- What is the same, in full. -/
theorem same_view (h : Agrees s t) : t.journal = s.journal ∧ t.outside = s.outside ∧
    t.screen = { s.screen with rate := t.screen.rate, skippedSeen := t.screen.skippedSeen } ∧
    t.screen.rate.renderedTotal = s.screen.rate.renderedTotal ∧
    t.screen.rate.isStarted = s.screen.rate.isStarted ∧ t.feed.slot.pending = s.feed.slot.pending := by
  have hscreen : t.screen = { s.screen with
      rate := t.screen.rate, skippedSeen := t.screen.skippedSeen, paused := t.screen.paused
      held := t.screen.held } := congrArg (·.screen) h.same
  rw [h.paused, h.held] at hscreen
  refine ⟨congrArg (·.journal) h.same, congrArg (·.outside) h.same, hscreen, h.renderedTotal, h.started, ?_⟩
  rw [h.feed.pending, Option.or_none]

end Agrees

theorem setPaused_false_ok {r : Except DisplayError Unit} (hpaused : s.screen.paused = true)
    (h : s.setPaused host false = .ok (r, s')) :
    (s.screen.held = none ∧ r = .ok () ∧ s' = s.update ({ · with paused := false })) ∨
      ∃ frame, s.screen.held = some frame ∧
        (s.update ({ · with paused := false, held := none })).applyFrame host frame = .ok (r, s') := by
  simp only [setPaused, hpaused] at h
  cases hheld : s.screen.held with
  | none =>
    rw [screen_update, hheld] at h
    obtain ⟨rfl, rfl⟩ := Prod.mk.inj (Except.pure_ok_iff.mp h)
    exact .inl ⟨rfl, rfl, rfl⟩
  | some frame =>
    rw [screen_update, hheld] at h
    exact .inr ⟨frame, rfl, h⟩

namespace Waits

theorem countSkipped (h : Waits received s t) (hcounted : t.Counted n) :
    (t.countSkipped host).YieldsGiven (n < 2 ^ 32) fun t' => Waits received s t' ∧ t'.Counted n := by
  refine ⟨fun room => ?_, fun t' ht => ⟨?_, hcounted.countSkipped ht⟩⟩
  · obtain ⟨t', ht, -⟩ := countSkipped_yields hcounted room
    exact ⟨t', ht⟩
  · obtain ⟨rate, hrate, rfl⟩ := countSkipped_ok ht
    have hadded := FrameRate.addSkipped_ok hrate
    have hrendered : rate.renderedTotal = s.screen.rate.renderedTotal :=
      (UInt64.toNat_inj.mp hadded.renderedTotal).trans h.renderedTotal
    have hstarted : rate.isStarted = s.screen.rate.isStarted := hadded.started.trans h.started
    exact ⟨⟨by rw [h.same]; rfl, hrendered, hstarted, h.feed⟩, h.paused, h.held, h.playing, h.empty⟩

/-- The frame that `s` holds back is taken out of the slot of `t`. -/
theorem consume {frame : VideoFrame} (h : Waits (some frame) s t) (hempty : s.feed.slot.pending = none) :
    Agrees (s.update ({ · with paused := false, held := none })) (t.setFeed t.feed.consume.2) := by
  have hfeed : s.feed.Lags none t.feed.consume.2 :=
    ⟨h.feed.producer, h.feed.consumer, h.feed.notices, by rw [hempty]; rfl⟩
  refine ⟨⟨?_, h.renderedTotal, h.started, hfeed⟩, h.playing, h.empty⟩
  rw [h.same]
  rfl

/-- The view shows the frame that it held back, or takes the same frame out of the slot. -/
theorem resume {r : Except DisplayError Unit} (h : Waits received s t) (hcounted : t.Counted n)
    (hhandled : received.isSome = true → s.feed.slot.pending = none)
    (hs : s.setPaused host false = .ok (r, s')) :
    (if received.isSome then t.handleNotice host .newFrame else return (.ok (), t)).YieldsGiven (n < 2 ^ 32)
      fun r' => r'.1 = r ∧ Agrees s' r'.2 := by
  rcases setPaused_false_ok h.paused hs with ⟨hnone, rfl, rfl⟩ | ⟨frame, hheld, hs⟩
  · obtain rfl : received = none := h.held.symm.trans hnone
    have hagrees : Agrees (s.update ({ · with paused := false })) t :=
      ⟨⟨by rw [h.same]; rfl, h.renderedTotal, h.started, h.feed⟩, h.playing, h.empty.trans hnone.symm⟩
    exact .of_ok rfl ⟨rfl, hagrees⟩
  · obtain rfl : received = some frame := h.held.symm.trans hheld
    have hempty : s.feed.slot.pending = none := hhandled rfl
    have hupdate : (t.updateFrame host).YieldsGiven (n < 2 ^ 32) fun r' => r'.1 = r ∧ Agrees s' r'.2 := by
      simp only [Session.updateFrame]
      refine (h.countSkipped hcounted).bind ?_
      rintro u - ⟨h, hcounted⟩
      have hpending : u.feed.slot.pending = some frame := by
        rw [h.feed.pending, hempty, Option.none_or]
      have hconsume : u.feed.consume.1 = u.feed.slot.pending := rfl
      obtain ⟨hpos, hcounted⟩ := hcounted.consume hpending
      have hplaying : (u.setFeed u.feed.consume.2).screen.paused = false := h.playing
      simp only [hconsume, hpending]
      rw [if_neg (Bool.eq_false_iff.mp hplaying)]
      exact ((h.consume hempty).applyFrame hcounted hs).roomy (by omega)
    exact hupdate

end Waits

theorem setPaused_true (hplaying : s.screen.paused = false) :
    s.setPaused host true = .ok (.ok (), s.update ({ · with paused := true })) := by
  simp only [setPaused, hplaying]
  rfl

theorem react_setPaused_true (hplaying : s.screen.paused = false) :
    s.react host (.operation (.setPaused true)) = .ok (s.update ({ · with paused := true })) := by
  rw [react, apply, setPaused_true hplaying]
  rfl

/-- The pause itself brings no frame. -/
theorem lastReceived_setPaused_true {events : List (Event σ)} (hplaying : s.screen.paused = false) :
    lastReceived (frameCalls host s (.operation (.setPaused true) :: events)) =
      lastReceived (frameCalls host (s.update ({ · with paused := true })) events) := by
  rw [frameCalls_cons (react_setPaused_true hplaying), calls_setPaused (setPaused_true hplaying),
    lastReceived_append]
  exact Option.or_none

/-- **A pause drops all frames but the latest.** Take a run with a pause in it, in which
no frame is left waiting if any was received. It can be had without the pause: act on no
notice of a new frame, and at the end, if there was a frame, on one, which finds the last
frame that was received. This run ends as well, if fewer than 2^32 frames are given. It makes
the same requests with the same outcomes, it replies the same at its end, and it leaves the
same view, apart from what counts skipped frames and the running interval. -/
theorem run_pause {startup : Startup} {w : σ} {before segment : List (Event σ)} {r : Except DisplayError Unit}
    {paused resumed : Session σ} (hbefore : (Session.start host startup w).run host before = .ok s)
    (hplaying : s.screen.paused = false) (hempty : s.screen.held = none)
    (hsegment : ∀ event ∈ segment, ∀ p, event ≠ .operation (.setPaused p))
    (hpaused : s.run host (.operation (.setPaused true) :: segment) = .ok paused)
    (hhandled : (lastReceived (frameCalls host s (.operation (.setPaused true) :: segment))).isSome = true →
      paused.feed.slot.pending = none)
    (hresumed : paused.setPaused host false = .ok (r, resumed)) :
    let received := lastReceived (frameCalls host s (.operation (.setPaused true) :: segment))
    let unpaused := s.runUnpaused host segment received.isSome
    ((before ++ segment).countP Event.isPush < 2 ^ 32 → ∃ r' t, unpaused = .ok (r', t)) ∧
      (∀ t, s.runFrameless host segment = .ok t → received.isSome = true → t.feed.slot.pending = received) ∧
      ∀ r' t, unpaused = .ok (r', t) → r' = r ∧ t.journal = resumed.journal ∧ t.outside = resumed.outside ∧
        t.screen = { resumed.screen with rate := t.screen.rate, skippedSeen := t.screen.skippedSeen } ∧
        t.screen.rate.renderedTotal = resumed.screen.rate.renderedTotal ∧
        t.screen.rate.isStarted = resumed.screen.rate.isStarted ∧
        t.feed.slot.pending = resumed.feed.slot.pending := by
  intro received unpaused
  obtain ⟨first, hfirst, hrun⟩ := run_cons_ok_iff.mp hpaused
  obtain rfl := Except.ok.inj ((react_setPaused_true hplaying).symm.trans hfirst)
  have hreceived :
      (lastReceived (frameCalls host (s.update ({ · with paused := true })) segment)).or none = received := by
    rw [Option.or_none]
    exact (lastReceived_setPaused_true hplaying).symm
  have hcounted : s.Counted (0 + before.countP Event.isPush) := (Counted.start startup w).run hbefore
  have hwaits := (Waits.start hplaying hempty).run hcounted hsegment hrun
  rw [hreceived] at hwaits
  have hunpaused : unpaused.YieldsGiven ((before ++ segment).countP Event.isPush < 2 ^ 32)
      fun r' => r'.1 = r ∧ Agrees resumed r'.2 := by
    rw [List.countP_append]
    refine (hwaits.roomy (by omega)).bind ?_
    rintro t - ⟨hwaits, hcounted⟩
    exact (hwaits.resume hcounted hhandled hresumed).roomy (by omega)
  refine ⟨fun room => ?_, fun t ht hsome => ?_, fun r' t ht => ?_⟩
  · obtain ⟨⟨r', t⟩, ht⟩ := hunpaused.ends room
    exact ⟨r', t, ht⟩
  · rw [(hwaits.value t ht).1.feed.pending, hhandled hsome, Option.none_or]
  · obtain ⟨hreply, hagrees⟩ := hunpaused.value _ ht
    exact ⟨hreply, hagrees.same_view⟩

/-- A stream opens and its first frame is shown. -/
def shownFirst : List (Event Size) :=
  [.operation (.announce ⟨1920, 1080⟩), .operation .pump, .operation (.push ⟨⟨1920, 1080⟩, []⟩), .operation .pump]

/-- While the view is paused three frames come, of two new sizes, and the window and the
content change between them. -/
def resizedSegment : List (Event Size) :=
  [.operation (.push ⟨⟨1080, 1920⟩, []⟩), .operation .pump, .operation .toggleFullscreen,
    .operation (.pointer (.motion ⟨10, 10⟩)), .operation (.push ⟨⟨640, 480⟩, [1]⟩),
    .operation (.push ⟨⟨640, 480⟩, [2]⟩), .operation .pump, .operation (.setOrientation ⟨true, .deg90⟩),
    .operation .toggleFullscreen, .outside ⟨500, 400⟩, .operation .resizeToFit]

theorem run_pause_resized : ∃ s paused resumed t,
    (Session.start cappedHost { panelShow := true } ⟨800, 600⟩).run cappedHost shownFirst = .ok s ∧
      s.run cappedHost (.operation (.setPaused true) :: resizedSegment) = .ok paused ∧
      paused.setPaused cappedHost false = .ok (.ok (), resumed) ∧
      lastReceived (frameCalls cappedHost s (.operation (.setPaused true) :: resizedSegment)) =
        some ⟨⟨640, 480⟩, [2]⟩ ∧
      s.runUnpaused cappedHost resizedSegment true = .ok (.ok (), t) ∧ t.journal = resumed.journal ∧
      t.screen = { resumed.screen with rate := t.screen.rate, skippedSeen := t.screen.skippedSeen } := by
  have hruns : ((Session.start cappedHost { panelShow := true } ⟨800, 600⟩).run cappedHost shownFirst).toOption.any
      (fun s => s.screen.paused = false && s.screen.held = none &&
        lastReceived (frameCalls cappedHost s (.operation (.setPaused true) :: resizedSegment)) =
          some ⟨⟨640, 480⟩, [2]⟩ &&
        (s.run cappedHost (.operation (.setPaused true) :: resizedSegment)).toOption.any fun paused =>
          paused.feed.slot.pending = none &&
            (paused.setPaused cappedHost false).toOption.any (·.1.toOption = some ())) = true := by
    decide +kernel
  obtain ⟨s, hbefore, hs⟩ := Except.exists_of_any hruns
  simp only [Bool.and_eq_true, decide_eq_true_eq] at hs
  obtain ⟨⟨⟨hplaying, hempty⟩, hreceived⟩, hrest⟩ := hs
  obtain ⟨paused, hpaused, hrest⟩ := Except.exists_of_any hrest
  simp only [Bool.and_eq_true, decide_eq_true_eq] at hrest
  obtain ⟨hhandled, hrest⟩ := hrest
  obtain ⟨⟨r, resumed⟩, hresumed, hreply⟩ := Except.exists_of_any hrest
  obtain rfl : r = .ok () := by
    cases r with
    | error cause => cases hreply
    | ok done => rfl
  have hsegment : ∀ event ∈ resizedSegment, ∀ p, event ≠ .operation (.setPaused p) := by simp [resizedSegment]
  obtain ⟨hends, -, hsame⟩ :=
    run_pause hbefore hplaying hempty hsegment hpaused (fun _ => hhandled) hresumed
  rw [hreceived] at hends hsame
  obtain ⟨r', t, ht⟩ := hends (by decide)
  obtain ⟨rfl, hjournal, -, hscreen, -⟩ := hsame r' t ht
  exact ⟨s, paused, resumed, t, hbefore, hpaused, hresumed, hreceived, ht, hjournal, hscreen⟩

end RemoteView.Session
