/-
No frame is counted twice. Each frame that was given is counted once at most: as shown,
as skipped, as waiting in the slot or as held back (`Session.Counted`). So all counts
stay below the number of frames that were given.
-/
import RemoteView.Proofs.Screen.Effects.Operation

namespace RemoteView.Session

variable {σ : Type} {host : Host σ} {s s' : Session σ} {n : Nat}

/-- At most `n` frames are accounted for, and the meter never counted more than
was accounted for. -/
structure Counted (n : Nat) (s : Session σ) : Prop where
  frames : s.screen.rate.renderedTotal.toNat + s.feed.slot.skipped.toNat +
    s.feed.slot.pending.toList.length + s.screen.held.toList.length ≤ n
  rate : s.screen.rate.Consistent
  metered : s.screen.rate.skippedTotal.toNat ≤ s.screen.skippedSeen.toNat
  seen : s.screen.skippedSeen.toNat ≤ s.feed.slot.skipped.toNat

namespace Counted

theorem mono (h : s.Counted n) : s.Counted (n + 1) :=
  ⟨Nat.le_succ_of_le h.frames, h.rate, h.metered, h.seen⟩

/-- The fields that have nothing to do with counts, and a meter that may have been
started. -/
theorem keep {window rect sent overlay frame content size orientation paused rate} (h : s.Counted n)
    (hfeed : s'.feed = s.feed) (hrate : Started s.screen.rate rate) (hscreen : s'.screen = { s.screen with
      window, contentRect := rect, readySent := sent, overlay, hasFrame := frame, contentSize := content
      frameSize := size, orientation, paused, rate }) : s'.Counted n := by
  have hframes := h.frames
  have htotals : rate.renderedTotal = s.screen.rate.renderedTotal ∧
      rate.skippedTotal = s.screen.rate.skippedTotal := totals_started hrate
  refine ⟨?_, ?_, ?_, ?_⟩
  · rw [hfeed, hscreen]
    simp only [htotals.1]
    exact hframes
  · rw [hscreen]
    rcases hrate with rfl | ⟨now, rfl⟩
    · exact h.rate
    · exact h.rate.start now
  · rw [hscreen]
    simp only [htotals.2]
    exact h.metered
  · rw [hfeed, hscreen]
    exact h.seen

/-! ## The feed -/

theorem setFeed {feed : Feed} (h : s.Counted n) (hslot : feed.slot = s.feed.slot) :
    (s.setFeed feed).Counted n := by
  refine ⟨?_, h.rate, h.metered, ?_⟩
  · show _ + feed.slot.skipped.toNat + feed.slot.pending.toList.length + _ ≤ n
    rw [hslot]
    exact h.frames
  · show _ ≤ feed.slot.skipped.toNat
    rw [hslot]
    exact h.seen

theorem push {frame : VideoFrame} {r : Except FeedError Unit} {feed : Feed} (h : s.Counted n)
    (hpush : s.feed.push frame = .ok (r, feed)) : (s.setFeed feed).Counted (n + 1) := by
  obtain ⟨hone, hmore⟩ := Feed.frames_push hpush
  have hframes := h.frames
  refine ⟨?_, h.rate, h.metered, Nat.le_trans h.seen hmore⟩
  show s.screen.rate.renderedTotal.toNat + feed.slot.skipped.toNat + feed.slot.pending.toList.length +
    s.screen.held.toList.length ≤ n + 1
  omega

/-- A frame that was taken out of the slot is no longer accounted for. -/
theorem consume {frame : VideoFrame} (h : s.Counted n) (hpending : s.feed.slot.pending = some frame) :
    1 ≤ n ∧ (s.setFeed s.feed.consume.2).Counted (n - 1) := by
  have hframes := h.frames
  rw [hpending] at hframes
  simp only [Option.toList_some, List.length_singleton] at hframes
  refine ⟨by omega, ?_, h.rate, h.metered, h.seen⟩
  show s.screen.rate.renderedTotal.toNat + s.feed.slot.skipped.toNat + 0 + s.screen.held.toList.length ≤ n - 1
  omega

theorem consume_none (h : s.Counted n) (hpending : s.feed.slot.pending = none) :
    (s.setFeed s.feed.consume.2).Counted n := by
  refine h.setFeed ?_
  show ({ s.feed.slot with pending := none } : Slot VideoFrame) = s.feed.slot
  rw [← hpending]

/-! ## Frames on their way to the display -/

/-- Of the frames that are held back only the latest counts. -/
theorem hold (h : s.Counted n) (frame : VideoFrame) :
    (s.update ({ · with held := some frame })).Counted (n + 1) := by
  have hframes := h.frames
  refine ⟨?_, h.rate, h.metered, h.seen⟩
  show s.screen.rate.renderedTotal.toNat + s.feed.slot.skipped.toNat +
    s.feed.slot.pending.toList.length + 1 ≤ n + 1
  omega

theorem release {frame : VideoFrame} {paused : Bool} (h : s.Counted n) (hheld : s.screen.held = some frame) :
    1 ≤ n ∧ (s.update ({ · with paused, held := none })).Counted (n - 1) := by
  have hframes := h.frames
  rw [hheld] at hframes
  simp only [Option.toList_some, List.length_singleton] at hframes
  refine ⟨by omega, ?_, h.rate, h.metered, h.seen⟩
  show s.screen.rate.renderedTotal.toNat + s.feed.slot.skipped.toNat +
    s.feed.slot.pending.toList.length + 0 ≤ n - 1
  omega

theorem newlySkipped_le (s : Session σ) :
    s.newlySkipped.toNat ≤ s.feed.slot.skipped.toNat - s.screen.skippedSeen.toNat :=
  Nat.le_trans (Checked.toNat_ofNat_le _) (Nat.min_le_left _ _)

theorem countSkipped (h : s.Counted n) (hs : s.countSkipped host = .ok s') : s'.Counted n := by
  obtain ⟨rate, hrate, rfl⟩ := countSkipped_ok hs
  have hadded := FrameRate.addSkipped_ok hrate
  refine ⟨?_, h.rate.added hadded, ?_, Nat.le_refl _⟩
  · show rate.renderedTotal.toNat + s.feed.slot.skipped.toNat + _ + _ ≤ n
    rw [hadded.renderedTotal]
    exact h.frames
  · show rate.skippedTotal.toNat ≤ s.feed.slot.skipped.toNat
    have hnew := newlySkipped_le s
    have hmetered := h.metered
    have hseen := h.seen
    rw [hadded.skippedTotal]
    omega

/-- A frame that is shown is counted. -/
theorem rendered {rate : FrameRate} {now : Instant} (h : s.Counted n)
    (hrate : s.screen.rate.addRendered now = .ok rate) :
    (s.update ({ · with hasFrame := true, rate })).Counted (n + 1) := by
  have hadded := FrameRate.addRendered_ok hrate
  have hframes := h.frames
  have hrendered := hadded.renderedTotal
  refine ⟨?_, h.rate.added hadded, ?_, h.seen⟩
  · show rate.renderedTotal.toNat + s.feed.slot.skipped.toNat + s.feed.slot.pending.toList.length +
      s.screen.held.toList.length ≤ n + 1
    omega
  · show rate.skippedTotal.toNat ≤ s.screen.skippedSeen.toNat
    rw [hadded.skippedTotal]
    exact h.metered

theorem prepareForFrame {size : Size} {r : Outcome} (h : s.Counted n)
    (hs : s.prepareForFrame host size = .ok (r, s')) : s'.Counted n := by
  have ⟨hlater, heffect⟩ := prepareForFrame_effect hs
  rcases heffect with ⟨-, rfl⟩ | ⟨window, rect, hscreen⟩
  · exact h
  · exact h.keep hlater.feed (.inl rfl) hscreen

theorem showUploaded (h : s.Counted n) (hs : s.showUploaded host = .ok s') : s'.Counted (n + 1) := by
  obtain ⟨t, rate, ht, hrate, hs⟩ := showUploaded_ok hs
  have ⟨hlater, rect, sent, hscreen⟩ := render_effect hs
  have ht : t.Counted n := by
    rcases ht with ⟨-, rfl⟩ | ⟨-, ht⟩
    · exact h
    · have ⟨hlater, window, rect, sent, started, hstarted, hscreen⟩ := showInitialWindow_effect ht
      exact h.keep hlater.feed hstarted hscreen
  exact (ht.rendered hrate).keep hlater.feed (.inl rfl) hscreen

theorem applyFrame {frame : VideoFrame} {r : Except DisplayError Unit} (h : s.Counted n)
    (hs : s.applyFrame host frame = .ok (r, s')) : s'.Counted (n + 1) := by
  obtain ⟨prepared, t, hprepared, hs⟩ := applyFrame_ok hs
  have ht : t.Counted n := h.prepareForFrame hprepared
  have hu : (t.request host (.updateTexture frame)).2.Counted n := ht.keep rfl (.inl rfl) rfl
  rcases hs with ⟨-, rfl⟩ | ⟨-, ⟨-, rfl⟩ | ⟨-, hs⟩⟩
  · exact ht.mono
  · exact hu.mono
  · exact hu.showUploaded hs

theorem updateFrame {r : Except DisplayError Unit} (h : s.Counted n) (hs : s.updateFrame host = .ok (r, s')) :
    s'.Counted n := by
  obtain ⟨t, ht, hs⟩ := updateFrame_ok hs
  have ht : t.Counted n := h.countSkipped ht
  rcases hs with ⟨hnone, rfl⟩ | ⟨frame, hsome, hs⟩
  · exact ht.consume_none hnone
  · obtain ⟨hpos, htaken⟩ := ht.consume hsome
    rw [← Nat.sub_add_cancel hpos]
    rcases hs with ⟨-, rfl⟩ | ⟨-, hs⟩
    · exact htaken.hold frame
    · exact htaken.applyFrame hs

theorem handleNotice {notice : Notice} {r : Except DisplayError Unit} (h : s.Counted n)
    (hs : s.handleNotice host notice = .ok (r, s')) : s'.Counted n := by
  cases notice with
  | newFrame => exact h.updateFrame hs
  | initSize size =>
    obtain ⟨-, rfl⟩ := initSize_ok hs
    exact h.keep rfl (.inl rfl) rfl

theorem handleNotices {notices : List Notice} (h : s.Counted n) (hs : s.handleNotices host notices = .ok s') :
    s'.Counted n := by
  induction notices generalizing s with
  | nil => exact Except.pure_ok_iff.mp hs ▸ h
  | cons notice rest ih =>
    obtain ⟨⟨r, t⟩, ht, hs⟩ := Except.bind_ok_iff.mp hs
    exact ih (h.handleNotice ht) hs

theorem setPaused {paused : Bool} {r : Except DisplayError Unit} (h : s.Counted n)
    (hs : s.setPaused host paused = .ok (r, s')) : s'.Counted n := by
  rcases setPaused_ok hs with rfl | rfl | ⟨frame, hheld, hs⟩
  · exact h
  · exact h.keep rfl (.inl rfl) rfl
  · obtain ⟨hpos, hreleased⟩ : 1 ≤ n ∧ (s.update ({ · with paused, held := none })).Counted (n - 1) :=
      h.release hheld
    rw [← Nat.sub_add_cancel hpos]
    exact hreleased.applyFrame hs

/-! ## Every run -/

theorem ofView {op : Operation} (h : s.Counted n) (hs : s.CarriedOut host s' op) (hview : op.isOfView = true) :
    s'.Counted n := by
  obtain ⟨hlater, content, window, orientation, rect, sent, overlay, -, hscreen⟩ := hs.ofView hview
  exact h.keep hlater.feed (.inl rfl) hscreen

/-- An operation gives one frame at most. -/
theorem operation {op : Operation} (h : s.Counted n) (hs : s.CarriedOut host s' op) :
    s'.Counted (n + if (Event.operation op : Event σ).isPush = true then 1 else 0) := by
  cases op with
  | push frame =>
    rcases hs with rfl | ⟨r, feed, hpush, rfl⟩
    · exact h.mono
    · exact h.push hpush
  | announce size =>
    rcases hs with rfl | rfl
    · exact h
    · exact h.setFeed (Feed.slot_announce _ _)
  | dropProducer | dropConsumer => exact hs ▸ h.setFeed rfl
  | pump =>
    rcases hs with rfl | hs
    · exact h
    · have hread : (s.setFeed { s.feed with queue := [] }).Counted n := h.setFeed rfl
      exact hread.handleNotices hs
  | notice notice =>
    obtain ⟨r, hs⟩ := hs
    exact h.handleNotice hs
  | prepare size =>
    obtain ⟨r, hs⟩ := hs
    exact h.prepareForFrame hs
  | setPaused paused =>
    obtain ⟨r, hs⟩ := hs
    exact h.setPaused hs
  | startRate => exact hs ▸ h.keep rfl (.inr ⟨_, rfl⟩) rfl
  | stopRate => exact hs ▸ ⟨h.frames, h.rate.stop, h.metered, h.seen⟩
  | _ => exact h.ofView hs rfl

theorem react {event : Event σ} (h : s.Counted n) (hs : s.react host event = .ok s') :
    s'.Counted (n + if event.isPush = true then 1 else 0) := by
  cases event with
  | outside w =>
    obtain rfl := Except.pure_ok_iff.mp hs
    exact h.keep rfl (.inl rfl) rfl
  | operation op =>
    obtain ⟨reply, hs⟩ := react_operation_ok_iff.mp hs
    exact h.operation (apply_ok hs)

theorem run {events : List (Event σ)} (h : s.Counted n) (hs : s.run host events = .ok s') :
    s'.Counted (n + events.countP Event.isPush) := by
  induction events generalizing s n with
  | nil => exact run_nil_ok_iff.mp hs ▸ h
  | cons event rest ih =>
    obtain ⟨t, ht, hs⟩ := run_cons_ok_iff.mp hs
    rw [List.countP_cons, Nat.add_comm (rest.countP _), ← Nat.add_assoc]
    exact ih (h.react ht) hs

theorem start (startup : Startup) (w : σ) : (Session.start host startup w).Counted 0 := by
  have hcounted : ({ screen := .initial startup, outside := w } : Session σ).Counted 0 :=
    ⟨Nat.le_refl _, ⟨Nat.le_refl _, Nat.le_refl _⟩, Nat.le_refl _, Nat.le_refl _⟩
  unfold Session.start
  split
  · exact hcounted.keep rfl (.inl rfl) rfl
  · exact hcounted

end Counted

/-- Counting skipped frames needs room for all frames that were given. -/
theorem countSkipped_yields (h : s.Counted n) (room : n < 2 ^ 32) :
    (s.countSkipped host).Yields fun s' => ∃ rate,
      s' = s.update ({ · with rate, skippedSeen := s.feed.slot.skipped }) := by
  have hframes := h.frames
  have hmetered := h.metered
  have hseen := h.seen
  have hnew := Counted.newlySkipped_le s
  exact (FrameRate.addSkipped_yields h.rate s.newlySkipped (host.now s.outside) (by omega)).bind
    fun rate _ _ => .pure ⟨rate, rfl⟩

end RemoteView.Session
