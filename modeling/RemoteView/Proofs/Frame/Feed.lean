/-
What the operations of a feed do to the frame that waits in it.
-/
import RemoteView.Frame.Feed
import RemoteView.Proofs.Except

namespace RemoteView

theorem Slot.push_ok {α : Type} {s s' : Slot α} {value : α} {replaced : Bool}
    (h : s.push value = .ok (replaced, s')) :
    replaced = s.pending.isSome ∧ s'.pending = some value ∧
      s'.skipped.toNat = s.skipped.toNat + if s.pending.isSome then 1 else 0 := by
  unfold Slot.push at h
  split at h
  next hp =>
    simp only [Except.bind_ok_iff, Except.pure_ok_iff, Checked.addU64_eq_ok_iff, Prod.mk.injEq] at h
    obtain ⟨skipped, hs, rfl, rfl⟩ := h
    exact ⟨hp.symm, rfl, by rw [if_pos hp]; exact hs⟩
  next hp =>
    simp only [Except.pure_ok_iff, Prod.mk.injEq] at h
    obtain ⟨rfl, rfl⟩ := h
    exact ⟨by simpa using hp, rfl, by rw [if_neg hp]; rfl⟩

/-- A push can only run out of numbers to count skipped values with. -/
theorem Slot.push_succeeds {α : Type} {s : Slot α} (value : α)
    (h : s.pending.isSome = true → s.skipped.toNat + 1 < UInt64.size) :
    ∃ replaced s', s.push value = .ok (replaced, s') := by
  unfold Slot.push
  split
  next hp =>
    have hs : Checked.addU64 s.skipped 1 = .ok (UInt64.ofNat (s.skipped.toNat + 1)) :=
      Checked.addU64_eq_ok_iff.mpr (UInt64.toNat_ofNat_of_lt' (h hp))
    rw [hs]
    exact ⟨_, _, rfl⟩
  next => exact ⟨_, _, rfl⟩

namespace Feed

variable {f f' : Feed}

@[simp] theorem slot_post (f : Feed) (notice : Notice) : (f.post notice).2.slot = f.slot := by
  unfold post
  split <;> rfl

@[simp] theorem slot_announce (f : Feed) (size : Size) : (f.announce size).2.slot = f.slot := by
  unfold announce
  split
  · exact slot_post f _
  · rfl

/-- Neither end goes away by itself. -/
theorem producer_post (f : Feed) (notice : Notice) : (f.post notice).2.producer = f.producer := by
  unfold post
  split <;> rfl

theorem producer_announce (f : Feed) (size : Size) : (f.announce size).2.producer = f.producer := by
  unfold announce
  split
  · exact producer_post f _
  · rfl

theorem push_ok {frame : VideoFrame} {r : Except FeedError Unit} (h : f.push frame = .ok (r, f')) :
    ∃ replaced slot, f.slot.push frame = .ok (replaced, slot) ∧ f'.slot = slot := by
  simp only [push, Except.bind_ok_iff] at h
  obtain ⟨⟨replaced, slot⟩, hs, h⟩ := h
  refine ⟨replaced, slot, hs, ?_⟩
  split at h
  · exact congrArg (·.2.slot) (Except.pure_ok_iff.mp h).symm
  · have hslot := congrArg (·.2.slot) (Except.pure_ok_iff.mp h)
    simpa using hslot.symm

theorem pending_push {frame : VideoFrame} {r : Except FeedError Unit} (h : f.push frame = .ok (r, f')) :
    f'.slot.pending = some frame := by
  obtain ⟨replaced, slot, hslot, rfl⟩ := push_ok h
  exact (Slot.push_ok hslot).2.1

/-- A frame that is given leaves the ends as they are, and can only post its own notice. -/
theorem ends_push {frame : VideoFrame} {r : Except FeedError Unit} (h : f.push frame = .ok (r, f')) :
    f'.producer = f.producer ∧ f'.consumer = f.consumer ∧
      f'.queue.filter (· ≠ .newFrame) = f.queue.filter (· ≠ .newFrame) := by
  simp only [push, Except.bind_ok_iff] at h
  obtain ⟨⟨replaced, slot⟩, -, h⟩ := h
  split at h
  · obtain ⟨-, rfl⟩ := Prod.mk.inj (Except.pure_ok_iff.mp h)
    exact ⟨rfl, rfl, rfl⟩
  · obtain rfl := congrArg Prod.snd (Except.pure_ok_iff.mp h)
    unfold post
    split
    · exact ⟨rfl, rfl, by simp⟩
    · exact ⟨rfl, rfl, rfl⟩

/-- A frame that is given waits, and the one before it is skipped if it waited. -/
theorem frames_push {frame : VideoFrame} {r : Except FeedError Unit} (h : f.push frame = .ok (r, f')) :
    f'.slot.skipped.toNat + f'.slot.pending.toList.length =
        f.slot.skipped.toNat + f.slot.pending.toList.length + 1 ∧
      f.slot.skipped.toNat ≤ f'.slot.skipped.toNat := by
  obtain ⟨replaced, slot, hslot, rfl⟩ := push_ok h
  obtain ⟨-, hpending, hskipped⟩ := Slot.push_ok hslot
  rw [hpending, hskipped]
  constructor
  · cases f.slot.pending <;> rfl
  · exact Nat.le_add_right _ _

theorem push_succeeds (f : Feed) (frame : VideoFrame)
    (h : f.slot.pending.isSome = true → f.slot.skipped.toNat + 1 < UInt64.size) :
    ∃ r f', f.push frame = .ok (r, f') := by
  obtain ⟨replaced, slot, hs⟩ := Slot.push_succeeds frame h
  cases replaced with
  | true => exact ⟨_, _, Except.bind_ok_iff.mpr ⟨(true, slot), hs, rfl⟩⟩
  | false => exact ⟨_, _, Except.bind_ok_iff.mpr ⟨(false, slot), hs, rfl⟩⟩

end Feed

end RemoteView
