/-
A feed whose consumer is gone. A notice that cannot be posted tells the producer so, but
not every push posts one: a frame that replaces another relies on the notice of that
one. So a push fails only while no frame waits in the slot, and the frame that a failed
push stored waits there (`run_disconnected`).
-/
import RemoteView.Proofs.Frame.Feed
import RemoteView.Proofs.Since

namespace RemoteView.Feed

inductive Step where
  | announce (size : Size)
  | push (frame : VideoFrame)
  /-- The consumer reads a notice. -/
  | receive
  /-- The consumer takes the frame out of the slot. -/
  | consume
  | dropConsumer

/-- The feed after a step. What the producer is told of it is left out. -/
def step (f : Feed) : Step → Except Fault Feed
  | .announce size => return (f.announce size).2
  | .push frame => return (← f.push frame).2
  | .receive => return f.receive.2
  | .consume => return f.consume.2
  | .dropConsumer => return f.dropConsumer

def run (f : Feed) (steps : List Step) : Except Fault Feed := steps.foldlM step f

/-- A frame was given that nobody has taken since. -/
def Untaken (steps : List Step) : Prop := Since (∃ frame, · = .push frame) (.consume ≠ ·) steps

variable {f f' : Feed} {earlier steps : List Step}

theorem consumer_post (f : Feed) (notice : Notice) : (f.post notice).2.consumer = f.consumer := by
  unfold post
  split <;> rfl

theorem consumer_announce (f : Feed) (size : Size) : (f.announce size).2.consumer = f.consumer := by
  unfold announce
  split
  · exact consumer_post f _
  · rfl

/-! ## Telling the producer -/

theorem announce_disconnected {size : Size} (hgone : f.consumer = false) (hsize : size.isValidFrame = true) :
    (f.announce size).1 = .error .disconnected := by
  simp [announce, post, hsize, hgone]

/-- Without a consumer, a push fails just if it finds the slot empty. -/
theorem push_disconnected_iff (hgone : f.consumer = false) (frame : VideoFrame) :
    (∃ f', f.push frame = .ok (.error .disconnected, f')) ↔ f.slot.pending = none := by
  constructor
  · rintro ⟨f', h⟩
    simp only [push, Except.bind_ok_iff] at h
    obtain ⟨⟨replaced, slot⟩, hslot, h⟩ := h
    obtain ⟨rfl, -, -⟩ := Slot.push_ok hslot
    split at h
    next => cases h
    next hempty => exact Option.not_isSome_iff_eq_none.mp hempty
  · intro hempty
    simp [push, Slot.push, hempty, post, hgone, bind, Except.bind, pure, Except.pure]

/-! ## What the steps do -/

theorem consumer_step {step : Step} (h : f.step step = .ok f') :
    f'.consumer = true ↔ f.consumer = true ∧ .dropConsumer ≠ step := by
  cases step with
  | announce size =>
    cases h
    simp [consumer_announce]
  | push frame =>
    obtain ⟨⟨r, next⟩, hpush, h⟩ := Except.bind_ok_iff.mp h
    cases h
    simp [(ends_push hpush).2.1]
  | receive | consume =>
    cases h
    simp [receive, consume]
  | dropConsumer =>
    cases h
    simp [dropConsumer]

/-- A frame waits after a step that gives one or leaves the one that waited. -/
theorem pending_step {step : Step} (h : f.step step = .ok f') :
    f'.slot.pending.isSome = true ↔
      (∃ frame, step = .push frame) ∨ .consume ≠ step ∧ f.slot.pending.isSome = true := by
  cases step with
  | announce size =>
    cases h
    simp [slot_announce]
  | push frame =>
    obtain ⟨⟨r, next⟩, hpush, h⟩ := Except.bind_ok_iff.mp h
    cases h
    simp [pending_push hpush]
  | receive | dropConsumer =>
    cases h
    simp [receive, dropConsumer]
  | consume =>
    cases h
    simp [consume, Slot.consume]

theorem consumer_run (h : f.run steps = .ok f') :
    f'.consumer = true ↔ f.consumer = true ∧ .dropConsumer ∉ steps := by
  induction steps generalizing f with
  | nil =>
    cases h
    simp
  | cons step steps ih =>
    obtain ⟨next, hstep, hrest⟩ := Except.bind_ok_iff.mp h
    rw [ih hrest, consumer_step hstep, List.mem_cons, not_or, and_assoc]

theorem untaken_concat {step : Step} :
    Untaken (steps ++ [step]) ↔ (∃ frame, step = .push frame) ∨ .consume ≠ step ∧ Untaken steps :=
  since_concat

theorem pending_run (hf : f.slot.pending.isSome = true ↔ Untaken earlier) (h : f.run steps = .ok f') :
    f'.slot.pending.isSome = true ↔ Untaken (earlier ++ steps) := by
  induction steps generalizing f earlier with
  | nil =>
    cases h
    rw [List.append_nil]
    exact hf
  | cons step steps ih =>
    obtain ⟨next, hstep, hrest⟩ := Except.bind_ok_iff.mp h
    have hnext : next.slot.pending.isSome = true ↔ Untaken (earlier ++ [step]) := by
      rw [pending_step hstep, hf, untaken_concat]
    rw [List.append_cons]
    exact ih hnext hrest

/-! ## Every run -/

/-- **Whether the producer learns that the consumer is gone.** It always does when it
announces a valid size. When it pushes a frame, it does just if none of the frames that
were pushed before is left in the slot. -/
theorem run_disconnected (hrun : ({} : Feed).run steps = .ok f) (hdropped : .dropConsumer ∈ steps) :
    (∀ size, size.isValidFrame = true → (f.announce size).1 = .error .disconnected) ∧
      ∀ frame, (∃ f', f.push frame = .ok (.error .disconnected, f')) ↔ ¬ Untaken steps := by
  have hgone : f.consumer = false := by
    rw [← Bool.not_eq_true, consumer_run hrun]
    exact fun h => h.2 hdropped
  refine ⟨fun size => announce_disconnected hgone, fun frame => ?_⟩
  have hempty : ({} : Feed).slot.pending.isSome = true ↔ Untaken [] := ⟨nofun, fun h => absurd h not_since_nil⟩
  have hpending : f.slot.pending.isSome = true ↔ Untaken steps := pending_run hempty hrun
  rw [push_disconnected_iff hgone, ← hpending, Option.not_isSome_iff_eq_none]

/-- The consumer goes away, and the frame that comes after is taken out of the slot. -/
def emptiedSteps (frame : VideoFrame) : List Step :=
  [.announce ⟨4, 2⟩, .receive, .dropConsumer, .push frame, .consume]

theorem run_disconnected_emptied : ∃ f, ({} : Feed).run (emptiedSteps default) = .ok f ∧
    (f.announce ⟨4, 2⟩).1 = .error .disconnected ∧
    ∃ f', f.push default = .ok (.error .disconnected, f') := by
  have hrun : ({} : Feed).run (emptiedSteps default) = .ok _ := rfl
  have hdropped : .dropConsumer ∈ emptiedSteps default := by simp [emptiedSteps]
  have huntaken : ¬ Untaken (emptiedSteps default) := by
    show ¬ Untaken ([.announce ⟨4, 2⟩, .receive, .dropConsumer, .push default] ++ [.consume])
    rw [untaken_concat]
    rintro (⟨frame, hpush⟩ | ⟨htaken, -⟩)
    · cases hpush
    · exact htaken rfl
  obtain ⟨hannounce, hpush⟩ := run_disconnected hrun hdropped
  exact ⟨_, hrun, hannounce ⟨4, 2⟩ rfl, (hpush default).mpr huntaken⟩

/-- The first frame after the consumer has gone is refused, and stays in the slot. The next
one is accepted in its place, though nobody will take it. -/
theorem frame_accepted_unread : ∃ f f', ({} : Feed).run [.dropConsumer, .push default] = .ok f ∧
    f.consumer = false ∧ f.push default = .ok (.ok (), f') :=
  ⟨_, _, rfl, rfl, rfl⟩

end RemoteView.Feed
