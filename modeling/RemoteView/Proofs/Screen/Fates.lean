/-
Every frame has one fate. A frame that was given is shown, is skipped in the slot, waits
there, is held back, was replaced while it was held back, or was dropped because the
display did not take it. The totals of the meter and the slot say how many there are of
each (`run_fates`).
-/
import RemoteView.Proofs.Screen.Calls
import RemoteView.Proofs.Screen.Effects.Requests
import RemoteView.Screen.Surroundings

namespace RemoteView

variable {σ : Type}

namespace FrameCall

/-- Whether the call replaced a frame that was held back. -/
def replaces (c : FrameCall σ) : Bool :=
  c.isUpdate && c.before.screen.paused && c.before.feed.slot.pending.isSome && c.before.screen.held.isSome

/-- Whether the call dropped a frame that the display did not take. -/
def drops (c : FrameCall σ) : Bool := c.entries.any (·.refuses)

/-- How many frames were lost in these calls. -/
def losses (calls : List (FrameCall σ)) : Nat := calls.countP replaces + calls.countP drops

/-- How often a frame had been skipped in the slot before the call. -/
def skipped (c : FrameCall σ) : Nat := c.before.feed.slot.skipped.toNat

/-- From one wake-up to the next fewer than 2^32 frames are skipped, after there were
`seen` of them. -/
def SkipFew (seen : Nat) : List (FrameCall σ) → Prop
  | [] => True
  | c :: rest => if c.isUpdate then c.skipped < seen + 2 ^ 32 ∧ SkipFew c.skipped rest else SkipFew seen rest

instance SkipFew.decidable : (seen : Nat) → (calls : List (FrameCall σ)) → Decidable (SkipFew seen calls)
  | _, [] => .isTrue trivial
  | seen, c :: rest =>
    have := SkipFew.decidable c.skipped rest
    have := SkipFew.decidable seen rest
    inferInstanceAs (Decidable
      (if c.isUpdate then c.skipped < seen + 2 ^ 32 ∧ SkipFew c.skipped rest else SkipFew seen rest))

theorem losses_append (calls calls' : List (FrameCall σ)) :
    losses (calls ++ calls') = losses calls + losses calls' := by
  simp only [losses, List.countP_append]
  omega

end FrameCall

namespace Session

open FrameCall

variable {host : Host σ} {s s' t : Session σ} {pushes lost : Nat}

/-! ## Counting answers -/

/-- On the way the display took a frame `taken` times, and refused `denied` times. -/
def Tally (taken denied : Nat) (s s' : Session σ) : Prop :=
  ∃ added, s'.journal = added ++ s.journal ∧ added.countP (·.grants) = taken ∧
    added.countP (·.refuses) = denied

namespace Tally

variable {taken denied taken' denied' : Nat}

theorem trans (h : Tally taken denied s t) (h' : Tally taken' denied' t s') :
    Tally (taken + taken') (denied + denied') s s' := by
  obtain ⟨added, hadded, rfl, rfl⟩ := h
  obtain ⟨added', hadded', rfl, rfl⟩ := h'
  refine ⟨added' ++ added, by rw [hadded', hadded, List.append_assoc], ?_, ?_⟩
  · rw [List.countP_append, Nat.add_comm]
  · rw [List.countP_append, Nat.add_comm]

theorem of_untextured (h : Asked (·.request.isOfTexture = false) s s') : Tally 0 0 s s' := by
  obtain ⟨added, hadded, hother⟩ := h
  refine ⟨added, hadded, List.countP_eq_zero.mpr fun e he => ?_, List.countP_eq_zero.mpr fun e he => ?_⟩
  · have hother : e.request.isOfTexture = false := hother e he
    cases hr : e.request with
    | updateTexture frame =>
      rw [hr] at hother
      cases hother
    | _ => simp [Entry.grants, hr]
  · simp [Entry.refuses, hother e he]

theorem refused {r : Request} (htexture : r.isOfTexture = true) (hrefused : (s.request host r).1 ≠ .ok) :
    Tally 0 1 s (s.request host r).2 := by
  obtain ⟨e, hjournal, hr, houtcome⟩ := journal_request s host r
  rw [← houtcome] at hrefused
  refine ⟨[e], hjournal, ?_, ?_⟩
  · simp only [List.countP_singleton, Entry.grants]
    split <;> simp [hrefused]
  · simp [Entry.refuses, hr, htexture, hrefused]

theorem textured {size : Size} (hok : (s.request host (.setTextureSize size)).1 = .ok) :
    Tally 0 0 s (s.request host (.setTextureSize size)).2 := by
  obtain ⟨e, hjournal, hr, houtcome⟩ := journal_request s host (.setTextureSize size)
  rw [← houtcome] at hok
  exact ⟨[e], hjournal, by simp [Entry.grants, hr], by simp [Entry.refuses, hok]⟩

theorem uploaded {frame : VideoFrame} (hok : (s.request host (.updateTexture frame)).1 = .ok) :
    Tally 1 0 s (s.request host (.updateTexture frame)).2 := by
  obtain ⟨e, hjournal, hr, houtcome⟩ := journal_request s host (.updateTexture frame)
  rw [← houtcome] at hok
  exact ⟨[e], hjournal, by simp [Entry.grants, hr, hok], by simp [Entry.refuses, hok]⟩

end Tally

theorem drops_of_tally {c : FrameCall σ} {taken denied : Nat} (h : Tally taken denied c.before c.after) :
    c.drops = decide (0 < denied) := by
  obtain ⟨added, hadded, -, rfl⟩ := h
  rw [drops, entries, entriesSince_of_journal hadded, List.any_reverse, Bool.eq_iff_iff, decide_eq_true_iff,
    List.countP_pos_iff, List.any_eq_true]

theorem losses_of_tally {c : FrameCall σ} {taken denied : Nat} (h : Tally taken denied c.before c.after)
    (hone : denied ≤ 1) : losses [c] = (if c.replaces then 1 else 0) + denied := by
  rw [losses, List.countP_singleton, List.countP_singleton, drops_of_tally h]
  congr 1
  split
  next hdrops =>
    have := of_decide_eq_true hdrops
    omega
  next hdrops =>
    have := of_decide_eq_false (Bool.eq_false_iff.mpr hdrops)
    omega

/-! ## What becomes of a frame -/

theorem prepareForFrame_tally {size : Size} {r : Outcome} (h : s.prepareForFrame host size = .ok (r, s')) :
    Tally 0 (if r = .ok then 0 else 1) s s' := by
  rcases prepareForFrame_asked h with ⟨-, rfl, rfl⟩ | ⟨t, ht, hr⟩
  · exact .of_untextured (.refl _)
  · obtain ⟨rfl, rfl⟩ := Prod.mk.inj hr
    have hbefore := Tally.of_untextured ht.untextured
    split
    next hok => exact hbefore.trans (.textured hok)
    next hrefused => exact hbefore.trans (.refused rfl hrefused)

/-- The counts that are not about frames that are shown. -/
structure SameCounts (s s' : Session σ) : Prop where
  feed : s'.feed = s.feed
  skippedTotal : s'.screen.rate.skippedTotal = s.screen.rate.skippedTotal
  seen : s'.screen.skippedSeen = s.screen.skippedSeen
  held : s'.screen.held = s.screen.held

/-- A frame is shown, or the display refuses it once. -/
theorem applyFrame_fate {frame : VideoFrame} {r : Except DisplayError Unit}
    (h : s.applyFrame host frame = .ok (r, s')) : SameCounts s s' ∧ ∃ taken denied, taken + denied = 1 ∧
      Tally taken denied s s' ∧
      s'.screen.rate.renderedTotal.toNat = s.screen.rate.renderedTotal.toNat + taken := by
  have hfeed := (applyFrame_later h).feed
  obtain ⟨prepared, t, hp, h⟩ := applyFrame_ok h
  have hprepared := prepareForFrame_tally hp
  have hsame : t.screen.rate = s.screen.rate ∧ t.screen.skippedSeen = s.screen.skippedSeen ∧
      t.screen.held = s.screen.held := by
    rcases (prepareForFrame_effect hp).2 with ⟨-, rfl⟩ | ⟨window, rect, hscreen⟩
    · exact ⟨rfl, rfl, rfl⟩
    · rw [hscreen]
      exact ⟨rfl, rfl, rfl⟩
  obtain ⟨hrate, hseen, hheld⟩ := hsame
  rcases h with ⟨hrefused, rfl⟩ | ⟨rfl, ⟨hrefused, rfl⟩ | ⟨hok, h⟩⟩
  · rw [if_neg hrefused] at hprepared
    exact ⟨⟨hfeed, by rw [hrate], hseen, hheld⟩, 0, 1, rfl, hprepared, by rw [hrate]; rfl⟩
  · have hupload := hprepared.trans (.refused rfl hrefused)
    exact ⟨⟨hfeed, by rw [screen_request, hrate], hseen, hheld⟩, 0, 1, rfl, hupload,
      by rw [screen_request, hrate]; rfl⟩
  · have hshown := hprepared.trans ((Tally.uploaded hok).trans (.of_untextured (showUploaded_untextured h)))
    obtain ⟨-, window, rect, sent, started, now, rate, hstarted, hadded, hscreen⟩ := showUploaded_effect h
    have hadded := FrameRate.addRendered_ok hadded
    obtain ⟨hstart, hstart'⟩ := totals_started hstarted
    rw [screen_request, hrate] at hstart hstart'
    refine ⟨⟨hfeed, ?_, ?_, ?_⟩, 1, 0, rfl, hshown, ?_⟩
    · rw [hscreen, ← hstart']
      exact UInt64.toNat_inj.mp hadded.skippedTotal
    · rw [hscreen, screen_request, hseen]
    · rw [hscreen, screen_request, hheld]
    · rw [hscreen, hadded.renderedTotal, hstart]

/-! ## The balance -/

/-- Of the frames that were given, so many are lost, and the others are where the counts
say. The skipped frames were counted up to the last wake-up. -/
structure Balanced (pushes lost : Nat) (s : Session σ) : Prop where
  frames : pushes = s.screen.rate.renderedTotal.toNat + s.feed.slot.skipped.toNat +
    s.feed.slot.pending.toList.length + s.screen.held.toList.length + lost
  granted : s.screen.rate.renderedTotal.toNat = s.journal.countP (·.grants)
  counted : s.screen.rate.skippedTotal = s.screen.skippedSeen
  seen : s.screen.skippedSeen.toNat ≤ s.feed.slot.skipped.toNat
  producer : s.feed.producer = true

theorem Tally.countP_grants {taken denied : Nat} (h : Tally taken denied s s') :
    s'.journal.countP (·.grants) = s.journal.countP (·.grants) + taken := by
  obtain ⟨added, hadded, rfl, -⟩ := h
  rw [hadded, List.countP_append, Nat.add_comm]

namespace Balanced

/-- A part in which no frame comes or goes. -/
theorem keep {rate : FrameRate} (h : Balanced pushes lost s) (hfeed : s'.feed.slot = s.feed.slot)
    (hproducer : s'.feed.producer = s.feed.producer) (hrate : s'.screen.rate = rate)
    (htotals : rate.renderedTotal = s.screen.rate.renderedTotal ∧ rate.skippedTotal = s.screen.rate.skippedTotal)
    (hseen : s'.screen.skippedSeen = s.screen.skippedSeen) (hheld : s'.screen.held = s.screen.held)
    (hgranted : s'.journal.countP (·.grants) = s.journal.countP (·.grants)) : Balanced pushes lost s' := by
  refine ⟨?_, ?_, ?_, ?_, hproducer.trans h.producer⟩
  · rw [hrate, htotals.1, hfeed, hheld]
    exact h.frames
  · rw [hrate, htotals.1, hgranted]
    exact h.granted
  · rw [hrate, htotals.2, hseen]
    exact h.counted
  · rw [hfeed, hseen]
    exact h.seen

theorem ofView {op : Operation} (h : Balanced pushes lost s) (hs : s.CarriedOut host s' op)
    (hop : op.isOfView = true) : Balanced pushes lost s' := by
  obtain ⟨hlater, _, _, _, _, _, _, -, hscreen⟩ := hs.ofView hop
  have hgranted := (Tally.of_untextured (hs.asked hop).untextured).countP_grants
  exact h.keep (by rw [hlater.feed]) (by rw [hlater.feed]) (by rw [hscreen]) ⟨rfl, rfl⟩ (by rw [hscreen])
    (by rw [hscreen]) hgranted

/-- The frame at hand, which counts as lost, finds its place or is lost indeed. -/
theorem applyFrame {frame : VideoFrame} {r : Except DisplayError Unit} (h : Balanced pushes (lost + 1) s)
    (hs : s.applyFrame host frame = .ok (r, s')) :
    ∃ taken denied, taken + denied = 1 ∧ Tally taken denied s s' ∧ Balanced pushes (lost + denied) s' := by
  obtain ⟨hsame, taken, denied, hone, htally, hrendered⟩ := applyFrame_fate hs
  have hframes := h.frames
  refine ⟨taken, denied, hone, htally, ?_, ?_, ?_, ?_, ?_⟩
  · rw [hrendered, hsame.feed, hsame.held]
    omega
  · rw [hrendered, htally.countP_grants, h.granted]
  · rw [hsame.skippedTotal, hsame.seen]
    exact h.counted
  · rw [hsame.feed, hsame.seen]
    exact h.seen
  · rw [hsame.feed]
    exact h.producer

theorem countSkipped (h : Balanced pushes lost s)
    (hfew : s.feed.slot.skipped.toNat < s.screen.skippedSeen.toNat + 2 ^ 32) (hs : s.countSkipped host = .ok s') : Balanced pushes lost s' ∧ s'.feed = s.feed ∧
      s'.journal = s.journal ∧ s'.screen.skippedSeen = s.feed.slot.skipped ∧ s'.screen.held = s.screen.held ∧
      s'.screen.paused = s.screen.paused := by
  obtain ⟨rate, hrate, rfl⟩ := countSkipped_ok hs
  have hadded := FrameRate.addSkipped_ok hrate
  have hseen := h.seen
  have hsize : UInt32.size = 2 ^ 32 := rfl
  -- Few enough frames were skipped to be counted in one word.
  have hnew : s.newlySkipped.toNat = s.feed.slot.skipped.toNat - s.screen.skippedSeen.toNat := by
    rw [newlySkipped, Nat.min_eq_left (by omega), UInt32.toNat_ofNat_of_lt' (by omega)]
  refine ⟨⟨?_, ?_, ?_, Nat.le_refl _, h.producer⟩, rfl, rfl, rfl, rfl, rfl⟩
  · show pushes = rate.renderedTotal.toNat + _ + _ + _ + lost
    rw [hadded.renderedTotal]
    exact h.frames
  · show rate.renderedTotal.toNat = _
    rw [hadded.renderedTotal]
    exact h.granted
  · show rate.skippedTotal = s.feed.slot.skipped
    refine UInt64.toNat_inj.mp ?_
    rw [hadded.skippedTotal, hnew, h.counted]
    omega

theorem initSize {size : Size} {r : Except DisplayError Unit} (h : Balanced pushes lost s)
    (hs : s.initSize host size = .ok (r, s')) : Balanced pushes lost s' := by
  obtain ⟨-, rfl⟩ := initSize_ok hs
  refine h.keep rfl rfl rfl ⟨rfl, rfl⟩ rfl rfl ?_
  simp [Session.tell, Session.request, Session.update, Entry.grants]

theorem prepareForFrame {size : Size} {r : Outcome} (h : Balanced pushes lost s)
    (hs : s.prepareForFrame host size = .ok (r, s')) : Balanced pushes lost s' := by
  have hgranted := (prepareForFrame_tally hs).countP_grants
  obtain ⟨hlater, ⟨-, rfl⟩ | ⟨window, rect, hscreen⟩⟩ := prepareForFrame_effect hs
  · exact h
  · exact h.keep (by rw [hlater.feed]) (by rw [hlater.feed]) (by rw [hscreen]) ⟨rfl, rfl⟩ (by rw [hscreen])
      (by rw [hscreen]) hgranted

theorem push {frame : VideoFrame} {r : Except FeedError Unit} {feed : Feed} (h : Balanced pushes lost s)
    (hpush : s.feed.push frame = .ok (r, feed)) : Balanced (pushes + 1) lost (s.setFeed feed) := by
  obtain ⟨hone, hmore⟩ := Feed.frames_push hpush
  have hframes := h.frames
  refine ⟨?_, h.granted, h.counted, Nat.le_trans h.seen hmore, (Feed.ends_push hpush).1.trans h.producer⟩
  show pushes + 1 = s.screen.rate.renderedTotal.toNat + feed.slot.skipped.toNat +
    feed.slot.pending.toList.length + s.screen.held.toList.length + lost
  omega

theorem take {frame : VideoFrame} (h : Balanced pushes lost s) (hpending : s.feed.slot.pending = some frame) :
    Balanced pushes (lost + 1) (s.setFeed s.feed.consume.2) := by
  have hframes := h.frames
  rw [hpending, Option.toList_some, List.length_singleton] at hframes
  refine ⟨?_, h.granted, h.counted, h.seen, h.producer⟩
  show pushes = s.screen.rate.renderedTotal.toNat + s.feed.slot.skipped.toNat + 0 +
    s.screen.held.toList.length + (lost + 1)
  omega

/-- Only a frame that was held back already is lost. -/
theorem hold (h : Balanced pushes (lost + 1) s) (frame : VideoFrame) :
    Balanced pushes (lost + s.screen.held.toList.length) (s.update ({ · with held := some frame })) := by
  have hframes := h.frames
  refine ⟨?_, h.granted, h.counted, h.seen, h.producer⟩
  show pushes = s.screen.rate.renderedTotal.toNat + s.feed.slot.skipped.toNat +
    s.feed.slot.pending.toList.length + 1 + (lost + s.screen.held.toList.length)
  omega

theorem release {frame : VideoFrame} (h : Balanced pushes lost s) (hheld : s.screen.held = some frame)
    (paused : Bool) : Balanced pushes (lost + 1) (s.update ({ · with paused, held := none })) := by
  have hframes := h.frames
  rw [hheld, Option.toList_some, List.length_singleton] at hframes
  refine ⟨?_, h.granted, h.counted, h.seen, h.producer⟩
  show pushes = s.screen.rate.renderedTotal.toNat + s.feed.slot.skipped.toNat +
    s.feed.slot.pending.toList.length + 0 + (lost + 1)
  omega

theorem updateFrame {r : Except DisplayError Unit} (h : Balanced pushes lost s)
    (hfew : s.feed.slot.skipped.toNat < s.screen.skippedSeen.toNat + 2 ^ 32) (hs : s.updateFrame host = .ok (r, s')) :
    Balanced pushes (lost + losses [⟨true, s, s'⟩]) s' ∧ s'.screen.skippedSeen = s.feed.slot.skipped ∧
      s'.feed.slot.skipped = s.feed.slot.skipped := by
  obtain ⟨t, hc, hs⟩ := updateFrame_ok hs
  obtain ⟨ht, hfeed, hjournal, hseen, hheld, hpaused⟩ := h.countSkipped hfew hc
  have hskipped : t.feed.slot.skipped = s.feed.slot.skipped := by rw [hfeed]
  have hquiet {u : Session σ} (hu : u.journal = t.journal) : Tally 0 0 s u :=
    .of_untextured (.of_journal (hu.trans hjournal))
  rcases hs with ⟨hnone, rfl⟩ | ⟨frame, hsome, ⟨hpause, rfl⟩ | ⟨hplaying, hs⟩⟩
  · refine ⟨?_, hseen, hskipped⟩
    have hslot : t.feed.consume.2.slot = t.feed.slot := by
      show { t.feed.slot with pending := none } = t.feed.slot
      rw [← hnone]
    have hnothing : losses [⟨true, s, t.setFeed t.feed.consume.2⟩] = 0 := by
      rw [losses_of_tally (hquiet rfl) (Nat.zero_le 1)]
      simp [replaces, ← hfeed, hnone]
    rw [hnothing]
    exact ht.keep hslot rfl rfl ⟨rfl, rfl⟩ rfl rfl rfl
  · refine ⟨?_, hseen, hskipped⟩
    have hreplaced : losses [⟨true, s, (t.setFeed t.feed.consume.2).update ({ · with held := some frame })⟩] =
        t.screen.held.toList.length := by
      rw [losses_of_tally (hquiet rfl) (Nat.zero_le 1)]
      simp only [replaces, ← hfeed, ← hpaused, ← hheld, hsome, hpause]
      cases t.screen.held <;> rfl
    rw [hreplaced]
    exact (ht.take hsome).hold frame
  · have hlater := (applyFrame_later hs).feed
    obtain ⟨taken, denied, hone, htally, hbalanced⟩ := (ht.take hsome).applyFrame hs
    have hwhole : Tally (0 + taken) (0 + denied) s s' := (hquiet rfl).trans htally
    have hlost : losses [⟨true, s, s'⟩] = 0 + denied := by
      rw [losses_of_tally hwhole (by omega)]
      simp [replaces, ← hpaused, hplaying]
    refine ⟨by rw [hlost, Nat.zero_add]; exact hbalanced, ?_, ?_⟩
    · rw [(applyFrame_fate hs).1.seen]
      exact hseen
    · rw [hlater]
      exact hskipped

theorem setPaused {paused : Bool} {r : Except DisplayError Unit} (h : Balanced pushes lost s)
    (hs : s.setPaused host paused = .ok (r, s')) :
    Balanced pushes (lost + losses [⟨false, s, s'⟩]) s' ∧ s'.screen.skippedSeen = s.screen.skippedSeen := by
  have hnothing (hjournal : s'.journal = s.journal) : losses [⟨false, s, s'⟩] = 0 := by
    have htally : Tally 0 0 s s' := .of_untextured (.of_journal hjournal)
    rw [losses_of_tally htally (Nat.zero_le 1)]
    simp [replaces]
  rcases setPaused_ok hs with rfl | rfl | ⟨frame, hheld, hs⟩
  · rw [hnothing rfl]
    exact ⟨h, rfl⟩
  · rw [hnothing rfl]
    exact ⟨h.keep rfl rfl rfl ⟨rfl, rfl⟩ rfl rfl rfl, rfl⟩
  · obtain ⟨taken, denied, hone, htally, hbalanced⟩ := (h.release hheld paused).applyFrame hs
    have hreleased : Tally 0 0 s (s.update ({ · with paused, held := none })) := .of_untextured (.update _)
    have hlost : losses [⟨false, s, s'⟩] = 0 + denied := by
      rw [losses_of_tally (hreleased.trans htally) (by omega)]
      simp [replaces]
    refine ⟨by rw [hlost, Nat.zero_add]; exact hbalanced, ?_⟩
    rw [(applyFrame_fate hs).1.seen]
    rfl

end Balanced

/-! ## Every run -/

/-- After some calls the balance holds, each wake-up among them has been accounted for, and
few enough frames are skipped in the calls to come. -/
structure Accounted (pushes lost : Nat) (calls more : List (FrameCall σ)) (s : Session σ) : Prop where
  balanced : Balanced pushes (lost + losses calls) s
  updates : ∀ c ∈ calls, c.isUpdate = true → c.after.screen.rate.skippedTotal = c.after.feed.slot.skipped
  few : SkipFew s.screen.skippedSeen.toNat more

namespace Accounted

variable {calls calls' more : List (FrameCall σ)}

theorem nil (h : Balanced pushes lost s) (hfew : SkipFew s.screen.skippedSeen.toNat more) :
    Accounted pushes lost [] more s := by
  have hnothing : losses ([] : List (FrameCall σ)) = 0 := rfl
  exact ⟨by rw [hnothing]; exact h, fun _ hc => absurd hc List.not_mem_nil, hfew⟩

theorem append {pushes' : Nat} (h : Accounted pushes lost calls (calls' ++ more) t)
    (h' : Accounted pushes' (lost + losses calls) calls' more s) :
    Accounted pushes' lost (calls ++ calls') more s := by
  refine ⟨?_, fun c hc => ?_, h'.few⟩
  · rw [losses_append, ← Nat.add_assoc]
    exact h'.balanced
  · exact (List.mem_append.mp hc).elim (h.updates c) (h'.updates c)

theorem updateFrame {r : Except DisplayError Unit} (h : Balanced pushes lost s)
    (hfew : SkipFew s.screen.skippedSeen.toNat (⟨true, s, s'⟩ :: more)) (hs : s.updateFrame host = .ok (r, s')) :
    Accounted pushes lost [⟨true, s, s'⟩] more s' := by
  rw [SkipFew, if_pos rfl] at hfew
  obtain ⟨hnow, hlater⟩ := hfew
  obtain ⟨hbalanced, hseen, hskipped⟩ := h.updateFrame hnow hs
  refine ⟨hbalanced, List.forall_mem_singleton.mpr fun _ => ?_, hseen ▸ hlater⟩
  show s'.screen.rate.skippedTotal = s'.feed.slot.skipped
  rw [hbalanced.counted, hseen, hskipped]

theorem handleNotices {notices : List Notice} (h : Balanced pushes lost s)
    (hfew : SkipFew s.screen.skippedSeen.toNat (noticeCalls host s notices ++ more))
    (hs : s.handleNotices host notices = .ok s') : Accounted pushes lost (noticeCalls host s notices) more s' := by
  induction notices generalizing s lost with
  | nil => exact Except.pure_ok_iff.mp hs ▸ nil h hfew
  | cons notice rest ih =>
    obtain ⟨⟨r, t⟩, ht, hrest⟩ := Except.bind_ok_iff.mp hs
    rw [noticeCalls_cons ht] at hfew ⊢
    cases notice with
    | initSize size =>
      rw [if_neg nofun, List.nil_append] at hfew ⊢
      have hbalanced := h.initSize ht
      obtain ⟨-, rfl⟩ := initSize_ok ht
      exact ih hbalanced hfew hrest
    | newFrame =>
      rw [if_pos rfl] at hfew ⊢
      have hupdated := updateFrame h hfew ht
      exact hupdated.append (ih hupdated.balanced hupdated.few hrest)

theorem operation {op : Operation} {reply : Reply} (h : Balanced pushes lost s)
    (hconnected : op ≠ .dropProducer)
    (hfew : SkipFew s.screen.skippedSeen.toNat (s.calls host (.operation op) ++ more))
    (hs : s.apply host op = .ok (reply, s')) :
    Accounted (pushes + if (Event.operation op : Event σ).isPush = true then 1 else 0) lost
      (s.calls host (.operation op)) more s' := by
  have hcarried := apply_ok hs
  by_cases hview : op.isOfView = true
  · obtain ⟨hnothing, hpush⟩ : s.calls host (.operation op) = [] ∧
        (Event.operation op : Event σ).isPush = false := by
      cases op with
      | pump | notice _ | setPaused _ | push _ => cases hview
      | _ => exact ⟨rfl, rfl⟩
    obtain ⟨-, _, _, _, _, _, _, -, hscreen⟩ := hcarried.ofView hview
    rw [hnothing, List.nil_append] at hfew
    rw [hnothing, hpush]
    exact nil (h.ofView hcarried hview) (by rw [hscreen]; exact hfew)
  cases op with
  | push frame =>
    rcases apply_push_ok hs with ⟨hgone, -⟩ | ⟨-, r, feed, hpush, rfl⟩
    · exact Bool.noConfusion (hgone.symm.trans h.producer)
    · exact nil (h.push hpush) hfew
  | announce size =>
    rcases hcarried with rfl | rfl
    · exact nil h hfew
    · exact nil (h.keep (Feed.slot_announce _ _) (Feed.producer_announce _ _) rfl ⟨rfl, rfl⟩ rfl rfl rfl) hfew
  | dropProducer => exact absurd rfl hconnected
  | dropConsumer => exact nil (hcarried ▸ h.keep rfl rfl rfl ⟨rfl, rfl⟩ rfl rfl rfl) (hcarried ▸ hfew)
  | pump =>
    rcases apply_pump_ok hs with ⟨hgone, rfl⟩ | ⟨hconsumer, hs⟩
    · rw [calls, if_neg (Bool.eq_false_iff.mp hgone)] at hfew ⊢
      exact nil h hfew
    · rw [calls, if_pos hconsumer] at hfew ⊢
      have hread : Balanced pushes lost (s.setFeed { s.feed with queue := [] }) :=
        h.keep rfl rfl rfl ⟨rfl, rfl⟩ rfl rfl rfl
      exact handleNotices hread hfew hs
  | notice notice =>
    obtain ⟨r, hs⟩ := hcarried
    have hnotices : s.handleNotices host [notice] = .ok s' := Except.bind_ok_iff.mpr ⟨_, hs, rfl⟩
    exact handleNotices h hfew hnotices
  | setPaused paused =>
    obtain ⟨r, hs⟩ := hcarried
    obtain ⟨hbalanced, hseen⟩ := h.setPaused hs
    rw [calls_setPaused hs] at hfew ⊢
    exact ⟨hbalanced, List.forall_mem_singleton.mpr Bool.noConfusion, hseen ▸ hfew⟩
  | prepare size =>
    obtain ⟨r, hs⟩ := hcarried
    have hseen : s'.screen.skippedSeen = s.screen.skippedSeen := by
      rcases (prepareForFrame_effect hs).2 with ⟨-, rfl⟩ | ⟨window, rect, hscreen⟩
      · rfl
      · rw [hscreen]
    exact nil (h.prepareForFrame hs) (by rw [hseen]; exact hfew)
  | startRate =>
    obtain rfl := hcarried
    exact nil (h.keep rfl rfl rfl (totals_started (.inr ⟨_, rfl⟩)) rfl rfl rfl) hfew
  | stopRate =>
    obtain rfl := hcarried
    exact nil (h.keep rfl rfl rfl ⟨rfl, rfl⟩ rfl rfl rfl) hfew
  | _ => exact absurd rfl hview

theorem react {event : Event σ} (h : Balanced pushes lost s) (hconnected : event ≠ .operation .dropProducer)
    (hfew : SkipFew s.screen.skippedSeen.toNat (s.calls host event ++ more)) (hs : s.react host event = .ok s') :
    Accounted (pushes + if event.isPush = true then 1 else 0) lost (s.calls host event) more s' := by
  cases event with
  | outside w =>
    obtain rfl := Except.pure_ok_iff.mp hs
    exact nil (h.keep rfl rfl rfl ⟨rfl, rfl⟩ rfl rfl rfl) hfew
  | operation op =>
    obtain ⟨reply, hs⟩ := react_operation_ok_iff.mp hs
    exact operation h (fun hop => hconnected (hop ▸ rfl)) hfew hs

theorem run {events : List (Event σ)} (h : Balanced pushes lost s)
    (hconnected : ∀ event ∈ events, event ≠ .operation .dropProducer)
    (hfew : SkipFew s.screen.skippedSeen.toNat (frameCalls host s events ++ more))
    (hrun : s.run host events = .ok s') : Accounted (pushes + events.countP Event.isPush) lost (frameCalls host s events) more s' := by
  induction events generalizing s pushes lost with
  | nil => exact run_nil_ok_iff.mp hrun ▸ nil h hfew
  | cons event rest ih =>
    obtain ⟨t, ht, hrest⟩ := run_cons_ok_iff.mp hrun
    have ⟨hevent, hconnected⟩ := List.forall_mem_cons.mp hconnected
    rw [frameCalls_cons ht, List.append_assoc] at hfew
    rw [frameCalls_cons ht]
    have hreacted := react h hevent hfew ht
    have hrun := ih hreacted.balanced hconnected hreacted.few hrest
    rw [List.countP_cons, ← Nat.add_assoc, Nat.add_right_comm]
    exact hreacted.append hrun

end Accounted

theorem Balanced.start (host : Host σ) (startup : Startup) (w : σ) : Balanced 0 0 (.start host startup w) := by
  have hopened : Balanced 0 0 ({ screen := .initial startup, outside := w } : Session σ) :=
    ⟨rfl, rfl, rfl, Nat.le_refl _, rfl⟩
  unfold Session.start
  split
  · exact hopened.keep rfl rfl rfl ⟨rfl, rfl⟩ rfl rfl rfl
  · exact hopened

/-- **Every frame has one fate.** As long as the producer is there, and fewer than 2^32
frames are skipped between two wake-ups, the meter has counted all skipped frames after
each wake-up, and as many shown frames as the display took. Of the frames that were
given, each is shown, skipped, waiting, held back, replaced while it was held back, or
dropped because the display did not take it. -/
theorem run_fates {startup : Startup} {w : σ} {events : List (Event σ)}
    (hconnected : ∀ event ∈ events, event ≠ .operation .dropProducer)
    (hfew : SkipFew 0 (frameCalls host (.start host startup w) events))
    (hrun : (Session.start host startup w).run host events = .ok s) :
    let calls := frameCalls host (.start host startup w) events
    (∀ c ∈ calls, c.isUpdate = true → c.after.screen.rate.skippedTotal = c.after.feed.slot.skipped) ∧
      s.screen.rate.renderedTotal.toNat = s.journal.countP (·.grants) ∧
      events.countP Event.isPush = s.screen.rate.renderedTotal.toNat + s.feed.slot.skipped.toNat +
        s.feed.slot.pending.toList.length + s.screen.held.toList.length +
        calls.countP replaces + calls.countP drops := by
  intro calls
  have hseen : (Session.start host startup w).screen.skippedSeen.toNat = 0 := by
    unfold Session.start
    split <;> rfl
  have hfew : SkipFew (Session.start host startup w).screen.skippedSeen.toNat (calls ++ []) := by
    rw [hseen, List.append_nil]
    exact hfew
  have haccounted : Accounted (0 + events.countP Event.isPush) 0 calls [] s :=
    .run (.start host startup w) hconnected hfew hrun
  refine ⟨haccounted.updates, haccounted.balanced.granted, ?_⟩
  have hframes := haccounted.balanced.frames
  rw [losses] at hframes
  omega

/-- A run with a frame for every fate, and a second one that is shown. -/
def mixedRun : List (Event Surroundings) :=
  let give : Event Surroundings := .operation (.push ⟨⟨4, 2⟩, []⟩)
  [.operation (.announce ⟨4, 2⟩), give, .operation .pump, give, give, .operation .pump,
    .operation (.setPaused true), give, .operation .pump, give, .operation .pump,
    .outside { updateOutcome := .pending }, .operation (.setPaused false), .operation (.setPaused true), give, .operation .pump, give]

theorem run_fates_mixed :
    let calls := frameCalls Surroundings.host (.start Surroundings.host {} {}) mixedRun
    calls.countP replaces = 1 ∧ calls.countP drops = 1 ∧ ∃ s,
      (Session.start Surroundings.host {} {}).run Surroundings.host mixedRun = .ok s ∧
      s.screen.rate.renderedTotal.toNat = 2 ∧ 2 = s.journal.countP (·.grants) ∧
      7 = 2 + s.feed.slot.skipped.toNat + s.feed.slot.pending.toList.length +
        s.screen.held.toList.length + 1 + 1 := by
  intro calls
  have hreplaced : calls.countP replaces = 1 := by decide +kernel
  have hdropped : calls.countP drops = 1 := by decide +kernel
  have hshown : ((Session.start Surroundings.host {} {}).run Surroundings.host mixedRun).toOption.any
      (·.screen.rate.renderedTotal.toNat = 2) = true := by decide +kernel
  obtain ⟨s, hrun, hshown⟩ := Except.exists_of_any hshown
  have hshown : s.screen.rate.renderedTotal.toNat = 2 := of_decide_eq_true hshown
  have hconnected : ∀ event ∈ mixedRun, event ≠ .operation .dropProducer := by simp [mixedRun]
  have hfew : SkipFew 0 calls := by decide +kernel
  obtain ⟨-, hgranted, hframes⟩ := run_fates hconnected hfew hrun
  rw [hshown] at hgranted hframes
  rw [hreplaced, hdropped] at hframes
  exact ⟨hreplaced, hdropped, s, hrun, hshown, hgranted, hframes⟩

end Session

end RemoteView
