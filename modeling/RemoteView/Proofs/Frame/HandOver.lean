/-
Frames on their way from the producers to the consumer, for every order in which
the two sides take their steps.

Any number of producers share the feed; a step does not say which of them takes
it. A producer may also stop halfway through a push, with its frame stored and
the notice still to post. The consumer takes one notice at a time and, in a later
step, the frame that it is about. `run_handOver` says that as many notices are
under way as frames wait in the slot, so no frame is stranded and no consumer
finds the slot empty, and what follows of that for the frames consumed.
-/
import RemoteView.Proofs.Frame.Feed

namespace RemoteView

/-- A feed in use, with what its two ends still have to do and did so far. -/
structure HandOver where
  feed : Feed := {}
  /-- The pushes that stored a frame and have their notice still to post. -/
  posting : Nat := 0
  /-- The notices of a frame that were received and not acted on yet. -/
  received : Nat := 0
  /-- The frames that were pushed, the first one first. -/
  pushed : List VideoFrame := []
  /-- What the consumer got each time that it looked for a frame. -/
  consumed : List (Option VideoFrame) := []

namespace HandOver

inductive Step where
  | announce (size : Size)
  /-- A push from start to end. -/
  | push (frame : VideoFrame)
  /-- The first half of a push: the frame is stored. -/
  | store (frame : VideoFrame)
  /-- The other half of a push that has a notice to post. -/
  | post
  /-- The consumer takes a notice off the queue, if there is one. -/
  | receive
  /-- The consumer acts on a notice of a frame, if it has received one. -/
  | consume

/-- The frame that a step gives. -/
def Step.frame? : Step → Option VideoFrame
  | push frame | store frame => some frame
  | announce _ | post | receive | consume => none

/-- Whether a step is only half of a push. -/
def Step.isHalf : Step → Bool
  | store _ | post => true
  | announce _ | push _ | receive | consume => false

def store (h : HandOver) (frame : VideoFrame) : Except Fault HandOver := do
  let (replaced, slot) ← h.feed.slot.push frame
  return { h with
    feed := { h.feed with slot }, posting := if replaced then h.posting else h.posting + 1
    pushed := h.pushed ++ [frame] }

def post (h : HandOver) : HandOver :=
  if h.posting = 0 then h
  else { h with feed := (h.feed.post .newFrame).2, posting := h.posting - 1 }

def receive (h : HandOver) : HandOver :=
  match h.feed.receive with
  | (some .newFrame, feed) => { h with feed, received := h.received + 1 }
  | (_, feed) => { h with feed }

def consume (h : HandOver) : HandOver :=
  if h.received = 0 then h
  else
    let (frame, feed) := h.feed.consume
    { h with feed, received := h.received - 1, consumed := h.consumed ++ [frame] }

def step (h : HandOver) : Step → Except Fault HandOver
  | .announce size => return { h with feed := (h.feed.announce size).2 }
  | .push frame => do
    let (_, feed) ← h.feed.push frame
    return { h with feed, pushed := h.pushed ++ [frame] }
  | .store frame => h.store frame
  | .post => return h.post
  | .receive => return h.receive
  | .consume => return h.consume

def run (h : HandOver) (steps : List Step) : Except Fault HandOver := steps.foldlM step h

/-- How many frames wait in the slot. -/
def waiting (h : HandOver) : Nat := if h.feed.slot.pending.isSome then 1 else 0

/-- A whole push is its two halves, of which the second has nothing to do after a
frame that replaced another. -/
theorem step_push (h : HandOver) (frame : VideoFrame) :
    h.step (.push frame) = do
      let stored ← h.store frame
      return if h.feed.slot.pending.isSome then stored else stored.post := by
  simp only [step, store, Feed.push]
  cases hs : h.feed.slot.push frame with
  | error e => rfl
  | ok result =>
    obtain ⟨replaced, slot⟩ := result
    obtain ⟨rfl, -, -⟩ := Slot.push_ok hs
    cases h.feed.slot.pending.isSome with
    | true => rfl
    | false => simp [bind, Except.bind, pure, Except.pure, post]

/-! ## What every step keeps -/

/-- Each frame in the slot has one notice: still to post, in the queue, or
received. The frame in the slot is the last one pushed, and the frames pushed
are those consumed, those skipped and that one. -/
structure Sound (h : HandOver) : Prop where
  connected : h.feed.consumer = true
  token : h.feed.queue.count .newFrame + h.received + h.posting = h.waiting
  latest : ∀ frame, h.feed.slot.pending = some frame → h.pushed.getLast? = some frame
  account : ∃ frames, h.consumed = frames.map some ∧
    (frames ++ h.feed.slot.pending.toList).Sublist h.pushed ∧
    h.pushed.length = frames.length + h.feed.slot.skipped.toNat + h.waiting

theorem sound_empty : Sound {} := ⟨rfl, rfl, nofun, [], rfl, .refl _, rfl⟩

theorem Sound.announce {h : HandOver} (hs : h.Sound) (size : Size) :
    Sound { h with feed := (h.feed.announce size).2 } := by
  unfold Feed.announce Feed.post
  split
  · rw [if_pos hs.connected]
    refine ⟨hs.connected, ?_, hs.latest, hs.account⟩
    rw [List.count_append, List.count_singleton, if_neg (by simp), Nat.add_zero]
    exact hs.token
  · exact hs

theorem Sound.store {h h' : HandOver} (hs : h.Sound) {frame : VideoFrame} (hr : h.store frame = .ok h') :
    h'.Sound := by
  simp only [HandOver.store, Except.bind_ok_iff, Except.pure_ok_iff] at hr
  obtain ⟨⟨replaced, slot⟩, hp, rfl⟩ := hr
  obtain ⟨rfl, hpending, hskipped⟩ := Slot.push_ok hp
  obtain ⟨frames, hc, hsub, hlen⟩ := hs.account
  have htoken := hs.token
  refine ⟨hs.connected, ?_, ?_, frames, hc, ?_, ?_⟩
  · -- A frame that replaces another takes over its notice.
    simp only [waiting] at htoken ⊢
    rw [hpending]
    cases hb : h.feed.slot.pending.isSome <;> simp [hb] at htoken ⊢ <;> omega
  · intro f hf
    obtain rfl : frame = f := by simpa [hpending] using hf
    exact List.getLast?_concat
  · have hframes : frames.Sublist h.pushed := (List.sublist_append_left _ _).trans hsub
    simpa [hpending] using hframes.append (List.Sublist.refl [frame])
  · simp only [waiting, List.length_append, List.length_singleton] at hlen ⊢
    rw [hpending, hskipped]
    cases hb : h.feed.slot.pending.isSome <;> simp [hb] at hlen ⊢ <;> omega

theorem Sound.post {h : HandOver} (hs : h.Sound) : h.post.Sound := by
  unfold HandOver.post
  split
  · exact hs
  next hp =>
    have htoken := hs.token
    simp only [Feed.post, if_pos hs.connected]
    refine ⟨hs.connected, ?_, hs.latest, hs.account⟩
    simp only [List.count_append, List.count_singleton_self, waiting] at htoken ⊢
    omega

theorem Sound.receive {h : HandOver} (hs : h.Sound) : h.receive.Sound := by
  have htoken := hs.token
  unfold HandOver.receive Feed.receive
  rcases hq : h.feed.queue with _ | ⟨notice, rest⟩
  · rw [hq] at htoken
    exact ⟨hs.connected, htoken, hs.latest, hs.account⟩
  · rw [hq] at htoken
    cases notice with
    | initSize size =>
      rw [List.count_cons_of_ne (by simp)] at htoken
      exact ⟨hs.connected, htoken, hs.latest, hs.account⟩
    | newFrame =>
      rw [List.count_cons_self] at htoken
      refine ⟨hs.connected, ?_, hs.latest, hs.account⟩
      show rest.count .newFrame + (h.received + 1) + h.posting = h.waiting
      omega

/-- A notice that was received stands for a frame in the slot. -/
theorem Sound.pending_of_received {h : HandOver} (hs : h.Sound) (hr : h.received ≠ 0) :
    ∃ frame, h.feed.slot.pending = some frame := by
  have htoken := hs.token
  simp only [waiting] at htoken
  split at htoken
  next hp => exact Option.isSome_iff_exists.mp hp
  next => omega

theorem Sound.consume {h : HandOver} (hs : h.Sound) : h.consume.Sound := by
  unfold HandOver.consume
  split
  · exact hs
  next hr =>
    obtain ⟨frame, hp⟩ := hs.pending_of_received hr
    obtain ⟨frames, hc, hsub, hlen⟩ := hs.account
    have htoken := hs.token
    simp only [Feed.consume, Slot.consume]
    simp only [waiting, hp, Option.isSome_some, ↓reduceIte] at htoken hlen
    refine ⟨hs.connected, ?_, nofun, frames ++ [frame], ?_, ?_, ?_⟩
    · simp only [waiting, Option.isSome_none, Bool.false_eq_true, ↓reduceIte]
      omega
    · simp [hc, hp]
    · simpa [hp] using hsub
    · simp only [waiting, List.length_append, List.length_singleton, Option.isSome_none,
        Bool.false_eq_true, ↓reduceIte]
      omega

theorem Sound.step {h h' : HandOver} (hs : h.Sound) {s : Step} (hr : h.step s = .ok h') : h'.Sound := by
  cases s with
  | announce size => exact Except.pure_ok_iff.mp hr ▸ hs.announce size
  | push frame =>
    simp only [step_push, Except.bind_ok_iff, Except.pure_ok_iff] at hr
    obtain ⟨stored, hstore, rfl⟩ := hr
    split
    · exact hs.store hstore
    · exact (hs.store hstore).post
  | store frame => exact hs.store hr
  | post => exact Except.pure_ok_iff.mp hr ▸ hs.post
  | receive => exact Except.pure_ok_iff.mp hr ▸ hs.receive
  | consume => exact Except.pure_ok_iff.mp hr ▸ hs.consume

theorem Sound.run {h h' : HandOver} (hs : h.Sound) {steps : List Step} (hr : h.run steps = .ok h') :
    h'.Sound :=
  Except.foldlM_keeps (fun _ _ _ _ hb hstep => hb.step hstep) hs hr

/-! ## Nothing stops the feed -/

theorem Sound.store_succeeds {h : HandOver} (hs : h.Sound) (frame : VideoFrame)
    (room : h.pushed.length < UInt64.size) : ∃ h', h.store frame = .ok h' := by
  obtain ⟨frames, -, -, hlen⟩ := hs.account
  obtain ⟨replaced, slot, hp⟩ := Slot.push_succeeds (s := h.feed.slot) frame fun hpending => by
    simp only [waiting, hpending, ↓reduceIte] at hlen
    omega
  exact ⟨_, Except.bind_ok_iff.mpr ⟨(replaced, slot), hp, rfl⟩⟩

theorem Sound.step_succeeds {h : HandOver} (hs : h.Sound) (s : Step)
    (room : h.pushed.length + s.frame?.toList.length ≤ UInt64.size) : ∃ h', h.step s = .ok h' := by
  cases s with
  | push frame =>
    obtain ⟨stored, hstore⟩ := hs.store_succeeds frame (Nat.lt_of_succ_le room)
    rw [step_push]
    exact ⟨_, Except.bind_ok_iff.mpr ⟨stored, hstore, rfl⟩⟩
  | store frame => exact hs.store_succeeds frame (Nat.lt_of_succ_le room)
  | announce _ | post | receive | consume => exact ⟨_, rfl⟩

theorem pushed_store {h h' : HandOver} {frame : VideoFrame} (hr : h.store frame = .ok h') :
    h'.pushed = h.pushed ++ [frame] := by
  simp only [store, Except.bind_ok_iff, Except.pure_ok_iff] at hr
  obtain ⟨_, -, rfl⟩ := hr
  rfl

theorem pushed_post (h : HandOver) : h.post.pushed = h.pushed := by
  unfold post
  split <;> rfl

theorem pushed_step {h h' : HandOver} {s : Step} (hr : h.step s = .ok h') :
    h'.pushed = h.pushed ++ s.frame?.toList := by
  cases s with
  | push frame =>
    simp only [step_push, Except.bind_ok_iff, Except.pure_ok_iff] at hr
    obtain ⟨stored, hstore, rfl⟩ := hr
    split
    · exact pushed_store hstore
    · exact (pushed_post stored).trans (pushed_store hstore)
  | store frame => exact pushed_store hr
  | announce size => cases hr; exact (List.append_nil _).symm
  | post => cases hr; exact (pushed_post h).trans (List.append_nil _).symm
  | receive =>
    cases hr
    unfold receive
    split <;> exact (List.append_nil _).symm
  | consume =>
    cases hr
    unfold consume
    split <;> exact (List.append_nil _).symm

theorem pushed_run {h h' : HandOver} {steps : List Step} (hr : h.run steps = .ok h') :
    h'.pushed = h.pushed ++ steps.filterMap Step.frame? := by
  induction steps generalizing h with
  | nil => cases hr; exact (List.append_nil _).symm
  | cons s rest ih =>
    simp only [run, List.foldlM_cons, Except.bind_ok_iff] at hr
    obtain ⟨h₁, hstep, hrest⟩ := hr
    rw [ih hrest, pushed_step hstep, List.append_assoc]
    cases hf : s.frame? <;> simp [hf]

/-- A feed faults only when it has counted all the skipped frames that a word can
hold, which takes more pushes than that. -/
theorem Sound.run_succeeds {h : HandOver} (hs : h.Sound) (steps : List Step)
    (room : h.pushed.length + (steps.filterMap Step.frame?).length ≤ UInt64.size) :
    ∃ h', h.run steps = .ok h' := by
  induction steps generalizing h with
  | nil => exact ⟨h, rfl⟩
  | cons s rest ih =>
    have hcons : (List.filterMap Step.frame? (s :: rest)).length =
        s.frame?.toList.length + (rest.filterMap Step.frame?).length := by
      cases hf : s.frame? <;> simp [hf, Nat.add_comm]
    obtain ⟨h₁, hstep⟩ := hs.step_succeeds s (by omega)
    have hlen : h₁.pushed.length = h.pushed.length + s.frame?.toList.length := by
      rw [pushed_step hstep, List.length_append]
    obtain ⟨h', hrest⟩ := ih (hs.step hstep) (by omega)
    exact ⟨h', by simp only [HandOver.run, List.foldlM_cons, Except.bind_ok_iff]; exact ⟨h₁, hstep, hrest⟩⟩

/-- While all pushes are whole, none is halfway. -/
theorem posting_run {h h' : HandOver} {steps : List Step} (whole : ∀ s ∈ steps, s.isHalf = false)
    (hp : h.posting = 0) (hr : h.run steps = .ok h') : h'.posting = 0 := by
  refine Except.foldlM_keeps (P := fun h => h.posting = 0) (fun s hs h₁ h₂ hp hstep => ?_) hp hr
  cases s with
  | push frame =>
    simp only [step, Except.bind_ok_iff, Except.pure_ok_iff] at hstep
    obtain ⟨_, -, rfl⟩ := hstep
    exact hp
  | store _ | post => exact absurd (whole _ hs) (by simp [Step.isHalf])
  | announce size => cases hstep; exact hp
  | receive =>
    cases hstep
    unfold receive
    split <;> exact hp
  | consume =>
    cases hstep
    unfold consume
    split <;> exact hp

/-! ## Every order of steps -/

/-- **The hand-over.** Whatever the producers and the consumer do and in whatever
order, nothing stops them before 2^64 frames are pushed, and at each moment:
the notices in the queue, received or still to post are as many as the frames
that wait in the slot (only halved pushes leave notices to post); a consumer that
has a notice finds a frame, and it is the last one pushed; what was consumed so
far is a selection of the frames pushed, in their order; and each frame that was
pushed was consumed, was skipped or waits. -/
theorem run_handOver (steps : List Step) :
    let pushes := steps.filterMap Step.frame?
    (pushes.length ≤ UInt64.size → ∃ h, run {} steps = .ok h) ∧
    ∀ h, run {} steps = .ok h →
      h.feed.queue.count .newFrame + h.received + h.posting = h.waiting ∧
      ((∀ s ∈ steps, s.isHalf = false) → h.posting = 0) ∧
      (h.received ≠ 0 → ∃ frame, h.feed.consume.1 = some frame ∧ pushes.getLast? = some frame) ∧
      ∃ frames : List VideoFrame, h.consumed = frames.map some ∧ frames.Sublist pushes ∧
        pushes.length = frames.length + h.feed.slot.skipped.toNat + h.waiting := by
  intro pushes
  refine ⟨fun room => sound_empty.run_succeeds steps (by simpa using room), fun h hr => ?_⟩
  have hs : h.Sound := sound_empty.run hr
  have hpushed : h.pushed = pushes := pushed_run hr
  obtain ⟨frames, hc, hsub, hlen⟩ := hs.account
  rw [hpushed] at hsub hlen
  refine ⟨hs.token, fun whole => posting_run whole rfl hr, fun hreceived => ?_,
    frames, hc, (List.sublist_append_left _ _).trans hsub, hlen⟩
  obtain ⟨frame, hp⟩ := hs.pending_of_received hreceived
  exact ⟨frame, hp, hpushed ▸ hs.latest frame hp⟩

end HandOver

end RemoteView
