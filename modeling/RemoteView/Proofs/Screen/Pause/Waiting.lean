/-
A run in which the view is paused, beside one in which it is not paused and no notice of a
new frame is acted on (`Session.runFrameless`). In the second run the frames wait in the
slot, where each takes the place of the one before. So its slot holds what the paused view
holds back (`Session.Waits`), and the two runs are the same otherwise.
-/
import RemoteView.Proofs.Screen.Aside
import RemoteView.Proofs.Screen.Calls
import RemoteView.Proofs.Screen.Counted

namespace RemoteView

variable {σ : Type}

/-! ## The frames of a pause -/

/-- The frame that was taken out of the feed in the call. -/
def FrameCall.received (c : FrameCall σ) : Option VideoFrame :=
  if c.isUpdate then c.before.feed.slot.pending else none

/-- The last frame that was taken out of the feed. -/
def lastReceived (calls : List (FrameCall σ)) : Option VideoFrame := (calls.filterMap (·.received)).getLast?

theorem lastReceived_cons (c : FrameCall σ) (calls : List (FrameCall σ)) :
    lastReceived (c :: calls) = (lastReceived calls).or c.received := by
  simp only [lastReceived]
  cases hc : c.received with
  | none => rw [List.filterMap_cons_none hc, Option.or_none]
  | some frame => rw [List.filterMap_cons_some hc, List.getLast?_cons, Option.or_some]

theorem lastReceived_append (calls calls' : List (FrameCall σ)) :
    lastReceived (calls ++ calls') = (lastReceived calls').or (lastReceived calls) := by
  simp only [lastReceived, List.filterMap_append, List.getLast?_append]

/-! ## Two feeds -/

namespace Feed

variable {f f' g g' : Feed} {received : Option VideoFrame}

/-- The feed `g` is like `f`, but there a frame that was received from `f` still waits, unless
another one came. The notices of new frames may differ. -/
structure Lags (received : Option VideoFrame) (f g : Feed) : Prop where
  producer : g.producer = f.producer
  consumer : g.consumer = f.consumer
  notices : g.queue.filter (· ≠ .newFrame) = f.queue.filter (· ≠ .newFrame)
  pending : g.slot.pending = f.slot.pending.or received

namespace Lags

theorem refl (f : Feed) : Lags none f f := ⟨rfl, rfl, rfl, by rw [Option.or_none]⟩

theorem announce (h : Lags received f g) (size : Size) : Lags received (f.announce size).2 (g.announce size).2 := by
  unfold Feed.announce
  split
  · unfold post
    rw [h.consumer]
    split
    · exact ⟨h.producer, rfl, by simp only [List.filter_append, h.notices], h.pending⟩
    · exact h
  · exact h

theorem push {frame : VideoFrame} {r r' : Except FeedError Unit} (h : Lags received f g)
    (hf : f.push frame = .ok (r, f')) (hg : g.push frame = .ok (r', g')) : Lags received f' g' := by
  obtain ⟨hproducer, hconsumer, hnotices⟩ := ends_push hf
  obtain ⟨hproducer', hconsumer', hnotices'⟩ := ends_push hg
  refine ⟨?_, ?_, ?_, ?_⟩
  · rw [hproducer', hproducer, h.producer]
  · rw [hconsumer', hconsumer, h.consumer]
  · rw [hnotices', hnotices, h.notices]
  · rw [pending_push hf, pending_push hg, Option.some_or]

/-- The frame that is taken out of one feed stays in the other. -/
theorem consume (h : Lags received f g) : Lags (f.slot.pending.or received) f.consume.2 g :=
  ⟨h.producer, h.consumer, h.notices, h.pending⟩

end Lags

end Feed

namespace Session

variable {host : Host σ} {s s' t t' : Session σ} {received : Option VideoFrame} {n : Nat} {room : Prop}

/-! ## The run that shows no frames -/

/-- What an event does if no notice of a new frame is acted on. -/
def reactFrameless (s : Session σ) (host : Host σ) : Event σ → Except Fault (Session σ)
  | .operation .pump =>
    if s.feed.consumer then
      (s.setFeed { s.feed with queue := [] }).handleNotices host (s.feed.queue.filter (· ≠ .newFrame))
    else return s
  | .operation (.notice .newFrame) => return s
  | event => s.react host event

def runFrameless (s : Session σ) (host : Host σ) (events : List (Event σ)) : Except Fault (Session σ) :=
  events.foldlM (·.reactFrameless host ·) s

theorem Counted.reactFrameless {event : Event σ} (h : s.Counted n) (hs : s.reactFrameless host event = .ok s') :
    s'.Counted (n + if event.isPush = true then 1 else 0) := by
  unfold Session.reactFrameless at hs
  split at hs
  · split at hs
    · have hread : (s.setFeed { s.feed with queue := [] }).Counted n := h.setFeed rfl
      exact hread.handleNotices hs
    · exact Except.pure_ok_iff.mp hs ▸ h
  · exact Except.pure_ok_iff.mp hs ▸ h
  · exact h.react hs

/-! ## Two sessions at a time -/

/-- The session `t` differs from `s` only in its aside, and there as many frames were shown,
and a frame that was received in `s` still waits. -/
structure Apart (received : Option VideoFrame) (s t : Session σ) : Prop where
  same : t = s.withAside t.aside
  renderedTotal : t.screen.rate.renderedTotal = s.screen.rate.renderedTotal
  started : t.screen.rate.isStarted = s.screen.rate.isStarted
  feed : s.feed.Lags received t.feed

namespace Apart

/-- Both sessions have moved on, with their asides left as they were. -/
theorem move (h : Apart received s t) (haside : s'.aside = s.aside) :
    Apart received s' (s'.withAside t.aside) := by
  have hrate : s'.screen.rate = s.screen.rate := congrArg Aside.rate haside
  have hfeed : s'.feed = s.feed := congrArg Aside.feed haside
  refine ⟨rfl, ?_, ?_, ?_⟩
  · rw [hrate]
    exact h.renderedTotal
  · rw [hrate]
    exact h.started
  · rw [hfeed]
    exact h.feed

theorem setRate {rate rate' : FrameRate} (h : Apart received s t) (hrendered : rate'.renderedTotal = rate.renderedTotal)
    (hstarted : rate'.isStarted = rate.isStarted) : Apart received (s.setRate rate) (t.setRate rate') := by
  refine ⟨?_, hrendered, hstarted, h.feed⟩
  rw [h.same]
  rfl

/-- A meter that is started runs in both sessions. -/
theorem startRate (h : Apart received s t) (now now' : Instant) :
    Apart received (s.setRate (s.screen.rate.start now)) (t.setRate (t.screen.rate.start now')) := by
  refine h.setRate ?_ ?_
  · rw [FrameRate.renderedTotal_start, FrameRate.renderedTotal_start, h.renderedTotal]
  · rw [FrameRate.isStarted_start, FrameRate.isStarted_start]

end Apart

/-- While `s` is paused and holds a frame back, `t` has not received it yet. -/
structure Waits (received : Option VideoFrame) (s t : Session σ) : Prop extends Apart received s t where
  paused : s.screen.paused = true
  held : s.screen.held = received
  playing : t.screen.paused = false
  empty : t.screen.held = none

namespace Waits

theorem start (hplaying : s.screen.paused = false) (hempty : s.screen.held = none) :
    Waits none (s.update ({ · with paused := true })) s :=
  ⟨⟨rfl, rfl, rfl, .refl _⟩, rfl, hempty, hplaying, hempty⟩

/-- A part that pays no attention to the aside. -/
theorem unaffected {α : Type} (part : Session σ → Except Fault (α × Session σ)) {r : α} (h : Waits received s t)
    (hpart : ∀ s x, part (withAside s x) = Prod.map id (·.withAside x) <$> part s) (hs : part s = .ok (r, s')) :
    (part t).YieldsGiven room (Waits received s' ·.2) := by
  obtain ⟨hsame, hall⟩ := of_unaffected part (hpart s) hs
  have haside : s'.aside = s.aside := congrArg (·.2.aside) hsame
  rw [h.same]
  exact .of_ok (hall _) ⟨h.move haside, (congrArg Aside.paused haside).trans h.paused,
    (congrArg Aside.held haside).trans h.held, h.playing, h.empty⟩

theorem setFeed {feed feed' : Feed} (h : Waits received s t) (hfeed : feed.Lags received feed') :
    Waits received (s.setFeed feed) (t.setFeed feed') := by
  refine ⟨⟨?_, h.renderedTotal, h.started, hfeed⟩, h.paused, h.held, h.playing, h.empty⟩
  rw [h.same]
  rfl

/-- A frame is held back in `s`, and stays in the feed of `t`. -/
theorem updateFrame {r : Except DisplayError Unit} (h : Waits received s t)
    (hs : s.updateFrame host = .ok (r, s')) : Waits (s.feed.slot.pending.or received) s' t := by
  obtain ⟨u, hu, hs⟩ := updateFrame_ok hs
  obtain ⟨rate, hrate, rfl⟩ := countSkipped_ok hu
  have hadded := FrameRate.addSkipped_ok hrate
  have hrendered : t.screen.rate.renderedTotal = rate.renderedTotal :=
    h.renderedTotal.trans (UInt64.toNat_inj.mp hadded.renderedTotal).symm
  have hstarted : t.screen.rate.isStarted = rate.isStarted := h.started.trans hadded.started.symm
  have hfeed : s.feed.consume.2.Lags (s.feed.slot.pending.or received) t.feed := h.feed.consume
  rcases hs with ⟨hnone, rfl⟩ | ⟨frame, hsome, ⟨-, rfl⟩ | ⟨hplaying, -⟩⟩
  · have hnone : s.feed.slot.pending = none := hnone
    rw [hnone] at hfeed ⊢
    exact ⟨⟨h.same, hrendered, hstarted, hfeed⟩, h.paused, h.held, h.playing, h.empty⟩
  · have hsome : s.feed.slot.pending = some frame := hsome
    rw [hsome] at hfeed ⊢
    exact ⟨⟨h.same, hrendered, hstarted, hfeed⟩, h.paused, rfl, h.playing, h.empty⟩
  · have hplaying : s.screen.paused = false := hplaying
    rw [h.paused] at hplaying
    cases hplaying

theorem handleNotices {notices : List Notice} (h : Waits received s t) (hs : s.handleNotices host notices = .ok s') :
    (t.handleNotices host (notices.filter (· ≠ .newFrame))).YieldsGiven room
      (Waits ((lastReceived (noticeCalls host s notices)).or received) s') := by
  induction notices generalizing s t received with
  | nil => exact Except.pure_ok_iff.mp hs ▸ .of_ok rfl h
  | cons notice rest ih =>
    obtain ⟨⟨r, u⟩, hu, hrest⟩ := Except.bind_ok_iff.mp hs
    rw [noticeCalls_cons hu]
    cases notice with
    | newFrame =>
      have hwaits : Waits (s.feed.slot.pending.or received) u t := h.updateFrame hu
      rw [if_pos rfl, List.singleton_append, lastReceived_cons, Option.or_assoc]
      exact ih hwaits hrest
    | initSize size =>
      rw [if_neg nofun, List.nil_append]
      have hopened : (t.initSize host size).YieldsGiven room (Waits received u ·.2) :=
        h.unaffected (·.initSize host size) (fun _ _ => initSize_withAside size) hu
      exact hopened.bind fun _ _ hwaits => ih hwaits hrest

theorem announce {size : Size} {reply : Reply} (h : Waits received s t)
    (hs : s.apply host (.announce size) = .ok (reply, s')) :
    (t.apply host (.announce size)).YieldsGiven room (Waits received s' ·.2) := by
  simp only [apply, h.feed.producer] at hs ⊢
  split at hs
  next hproducer =>
    obtain ⟨-, rfl⟩ := Prod.mk.inj (Except.pure_ok_iff.mp hs)
    rw [if_pos hproducer]
    exact .of_ok rfl (h.setFeed (h.feed.announce size))
  next hgone =>
    obtain ⟨-, rfl⟩ := Prod.mk.inj (Except.pure_ok_iff.mp hs)
    rw [if_neg hgone]
    exact .of_ok rfl h

theorem push {frame : VideoFrame} {reply : Reply} (h : Waits received s t) (hcounted : t.Counted n)
    (hs : s.apply host (.push frame) = .ok (reply, s')) :
    (t.apply host (.push frame)).YieldsGiven (n < 2 ^ 32) (Waits received s' ·.2) := by
  rcases apply_push_ok hs with ⟨hgone, rfl⟩ | ⟨hproducer, r, feed, hpush, rfl⟩
  · have hgone : t.feed.producer = false := h.feed.producer.trans hgone
    simp only [apply, hgone]
    exact .of_ok rfl h
  · have hproducer : t.feed.producer = true := h.feed.producer.trans hproducer
    have hpushed : (t.feed.push frame).YieldsGiven (n < 2 ^ 32) (feed.Lags received ·.2) := by
      refine ⟨fun room => ?_, fun _ hpush' => h.feed.push hpush hpush'⟩
      have hsize : UInt64.size = 2 ^ 64 := rfl
      have hframes := hcounted.frames
      obtain ⟨r', feed', hpush'⟩ := t.feed.push_succeeds frame fun _ => by omega
      exact ⟨_, hpush'⟩
    simp only [apply]
    rw [if_pos hproducer]
    exact hpushed.bind fun _ _ hfeed => .of_ok rfl (h.setFeed hfeed)

theorem pump {reply : Reply} (h : Waits received s t) (hs : s.apply host .pump = .ok (reply, s')) :
    (t.reactFrameless host (.operation .pump)).YieldsGiven room
      (Waits ((lastReceived (s.calls host (.operation .pump))).or received) s') := by
  rcases apply_pump_ok hs with ⟨hgone, rfl⟩ | ⟨hconsumer, hs⟩
  · rw [reactFrameless, calls, if_neg (Bool.eq_false_iff.mp hgone),
      if_neg (Bool.eq_false_iff.mp (h.feed.consumer.trans hgone))]
    exact .of_ok rfl h
  · rw [reactFrameless, calls, if_pos hconsumer, if_pos (h.feed.consumer.trans hconsumer), h.feed.notices]
    have hread : Waits received (s.setFeed { s.feed with queue := [] }) (t.setFeed { t.feed with queue := [] }) :=
      h.setFeed ⟨h.feed.producer, h.feed.consumer, rfl, h.feed.pending⟩
    exact hread.handleNotices hs

/-- An operation that is not about the aside brings no frame. -/
theorem unconcerned {op : Operation} {reply : Reply} (h : Waits received s t) (hop : op.isAboutAside = false)
    (hs : s.apply host op = .ok (reply, s')) :
    (t.reactFrameless host (.operation op)).YieldsGiven room
      (Waits ((lastReceived (s.calls host (.operation op))).or received) s') := by
  have happly : (t.apply host op).YieldsGiven room (Waits received s' ·.2) :=
    h.unaffected (·.apply host op) (fun _ _ => apply_withAside hop) hs
  obtain ⟨hreact, hcalls⟩ : t.reactFrameless host (.operation op) = t.react host (.operation op) ∧
      lastReceived (s.calls host (.operation op)) = none := by
    cases op with
    | pump | setPaused _ => cases hop
    | notice notice =>
      cases notice with
      | newFrame => cases hop
      | initSize size =>
        obtain ⟨r, hs⟩ := apply_ok hs
        rw [calls, noticeCalls_cons hs]
        exact ⟨rfl, rfl⟩
    | _ => exact ⟨rfl, rfl⟩
  rw [hreact, hcalls, Option.none_or]
  exact happly.bind fun _ _ hwaits => .of_ok rfl hwaits

/-- An event that does not change the pause. -/
theorem react {event : Event σ} (h : Waits received s t) (hcounted : t.Counted n)
    (hevent : ∀ p, event ≠ .operation (.setPaused p)) (hs : s.react host event = .ok s') :
    (t.reactFrameless host event).YieldsGiven (n < 2 ^ 32)
      (Waits ((lastReceived (s.calls host event)).or received) s') := by
  cases event with
  | outside w =>
    obtain rfl := Except.pure_ok_iff.mp hs
    exact .of_ok rfl ⟨⟨by rw [h.same]; rfl, h.renderedTotal, h.started, h.feed⟩, h.paused, h.held, h.playing, h.empty⟩
  | operation op =>
    obtain ⟨reply, hs⟩ := react_operation_ok_iff.mp hs
    by_cases hop : op.isAboutAside = false
    · exact h.unconcerned hop hs
    cases op with
    | announce size => exact (h.announce hs).bind fun _ _ hwaits => .of_ok rfl hwaits
    | push frame => exact (h.push hcounted hs).bind fun _ _ hwaits => .of_ok rfl hwaits
    | dropProducer =>
      obtain ⟨-, rfl⟩ := Prod.mk.inj (Except.pure_ok_iff.mp hs)
      exact .of_ok rfl (h.setFeed ⟨rfl, h.feed.consumer, h.feed.notices, h.feed.pending⟩)
    | dropConsumer =>
      obtain ⟨-, rfl⟩ := Prod.mk.inj (Except.pure_ok_iff.mp hs)
      exact .of_ok rfl (h.setFeed ⟨h.feed.producer, rfl, rfl, h.feed.pending⟩)
    | pump => exact h.pump hs
    | notice notice =>
      obtain ⟨r, hs⟩ := apply_ok hs
      cases notice with
      | newFrame =>
        rw [calls, noticeCalls_cons hs, if_pos rfl, List.singleton_append, lastReceived_cons]
        exact .of_ok rfl (h.updateFrame hs)
      | initSize size => exact absurd rfl hop
    | setPaused paused => exact absurd rfl (hevent paused)
    | startRate =>
      obtain ⟨-, rfl⟩ := Prod.mk.inj (Except.pure_ok_iff.mp hs)
      exact .of_ok rfl ⟨h.toApart.startRate _ _, h.paused, h.held, h.playing, h.empty⟩
    | stopRate =>
      obtain ⟨-, rfl⟩ := Prod.mk.inj (Except.pure_ok_iff.mp hs)
      exact .of_ok rfl ⟨h.toApart.setRate h.renderedTotal rfl, h.paused, h.held, h.playing, h.empty⟩
    | _ => exact absurd rfl hop

theorem run {events : List (Event σ)} (h : Waits received s t) (hcounted : t.Counted n)
    (hevents : ∀ event ∈ events, ∀ p, event ≠ .operation (.setPaused p)) (hs : s.run host events = .ok s') :
    (t.runFrameless host events).YieldsGiven (n + events.countP Event.isPush < 2 ^ 32) fun t' =>
      Waits ((lastReceived (frameCalls host s events)).or received) s' t' ∧
        t'.Counted (n + events.countP Event.isPush) := by
  induction events generalizing s t received n with
  | nil => exact run_nil_ok_iff.mp hs ▸ .of_ok rfl ⟨h, hcounted⟩
  | cons event rest ih =>
    obtain ⟨u, hu, hs⟩ := run_cons_ok_iff.mp hs
    obtain ⟨hevent, hevents⟩ := List.forall_mem_cons.mp hevents
    rw [frameCalls_cons hu, lastReceived_append, Option.or_assoc, List.countP_cons]
    refine ((h.react hcounted hevent hu).roomy (by omega)).bind ?_
    intro v hv hwaits
    have hrest := ih hwaits (hcounted.reactFrameless hv) hevents hs
    rw [Nat.add_comm (rest.countP _), ← Nat.add_assoc]
    exact hrest

end Waits

end Session

end RemoteView
