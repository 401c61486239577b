/-
The counts of the frame rate. The frames of the running interval are among the
frames of all time, so as long as the totals fit a word of 32 bits, no count
overflows. `CountedAt` says all that counting does to a meter.
-/
import RemoteView.FrameRate
import RemoteView.Proofs.Checked

namespace RemoteView.FrameRate

/-- The counts of an interval are no larger than the totals. -/
structure Consistent (r : FrameRate) : Prop where
  rendered : r.rendered.toNat ≤ r.renderedTotal.toNat
  skipped : r.skipped.toNat ≤ r.skippedTotal.toNat

variable {r r' : FrameRate}

theorem renderedTotal_start (r : FrameRate) (now : Instant) :
    (r.start now).renderedTotal = r.renderedTotal := by
  unfold start
  split <;> rfl

theorem skippedTotal_start (r : FrameRate) (now : Instant) :
    (r.start now).skippedTotal = r.skippedTotal := by
  unfold start
  split <;> rfl

theorem isStarted_start (r : FrameRate) (now : Instant) : (r.start now).isStarted = true := by
  unfold start
  split
  next hstarted => exact hstarted
  next => rfl

namespace Consistent

theorem start (h : r.Consistent) (now : Instant) : (r.start now).Consistent := by
  unfold FrameRate.start
  split
  · exact h
  · exact ⟨Nat.zero_le _, Nat.zero_le _⟩

theorem stop (h : r.Consistent) : r.stop.Consistent := ⟨h.rendered, h.skipped⟩

end Consistent

/-- The meter `r'` has counted some more frames than `r`. It may have closed the interval,
which leaves fewer frames counted in it. -/
structure Added (shown skipped : Nat) (r r' : FrameRate) : Prop where
  renderedTotal : r'.renderedTotal.toNat = r.renderedTotal.toNat + shown
  skippedTotal : r'.skippedTotal.toNat = r.skippedTotal.toNat + skipped
  rendered : r'.rendered.toNat ≤ r.rendered.toNat + shown
  skipped : r'.skipped.toNat ≤ r.skipped.toNat + skipped
  started : r'.isStarted = r.isStarted

theorem roll_added (r : FrameRate) (now : Instant) : Added 0 0 r (r.roll now) := by
  unfold roll
  split
  next => exact ⟨rfl, rfl, Nat.le_refl _, Nat.le_refl _, rfl⟩
  next hbegun =>
    split
    · exact ⟨rfl, rfl, Nat.le_refl _, Nat.le_refl _, rfl⟩
    · exact ⟨rfl, rfl, Nat.zero_le _, Nat.zero_le _, by simp [isStarted, hbegun]⟩

/-- The totals have no part in closing an interval. -/
theorem roll_totals (r : FrameRate) (renderedTotal skippedTotal : UInt64) (now : Instant) :
    roll { r with renderedTotal, skippedTotal } now = { r.roll now with renderedTotal, skippedTotal } := by
  obtain ⟨_ | begun, _⟩ := r
  · rfl
  · simp only [roll]
    split <;> rfl

theorem roll_of_stopped {now : Instant} (h : r.isStarted = false) : r.roll now = r := by
  obtain ⟨_ | begun, _⟩ := r
  · rfl
  · cases h

/-- The meter `r'` has counted some more frames than `r`, all of which came at `now`. If that was
late enough, the interval was closed first. A meter that stands still only counts into the totals. -/
structure CountedAt (now : Instant) (shown skipped : Nat) (r r' : FrameRate) : Prop where
  renderedTotal : r'.renderedTotal.toNat = r.renderedTotal.toNat + shown
  skippedTotal : r'.skippedTotal.toNat = r.skippedTotal.toNat + skipped
  intervalStart : r'.intervalStart = (r.roll now).intervalStart
  lastReport : r'.lastReport = (r.roll now).lastReport
  rendered : r'.rendered.toNat = (r.roll now).rendered.toNat + if r.isStarted = true then shown else 0
  skipped : r'.skipped.toNat = (r.roll now).skipped.toNat + if r.isStarted = true then skipped else 0

theorem CountedAt.added {now : Instant} {shown skipped : Nat} (h : CountedAt now shown skipped r r') :
    Added shown skipped r r' := by
  have hrolled := roll_added r now
  refine ⟨h.renderedTotal, h.skippedTotal, ?_, ?_, ?_⟩
  · rw [h.rendered]
    refine Nat.add_le_add hrolled.rendered ?_
    split <;> omega
  · rw [h.skipped]
    refine Nat.add_le_add hrolled.skipped ?_
    split <;> omega
  · rw [isStarted, h.intervalStart]
    exact hrolled.started

/-- A meter that stands still, after its totals have grown. -/
theorem countedAt_of_stopped {now : Instant} {shown skipped : Nat} {renderedTotal skippedTotal : UInt64}
    (hstopped : r.isStarted = false) (hrendered : renderedTotal.toNat = r.renderedTotal.toNat + shown)
    (hskipped : skippedTotal.toNat = r.skippedTotal.toNat + skipped) :
    CountedAt now shown skipped r { r with renderedTotal, skippedTotal } where
  renderedTotal := hrendered
  skippedTotal := hskipped
  intervalStart := by rw [roll_of_stopped hstopped]
  lastReport := by rw [roll_of_stopped hstopped]
  rendered := by simp [roll_of_stopped hstopped, hstopped]
  skipped := by simp [roll_of_stopped hstopped, hstopped]

theorem addRendered_countedAt {now : Instant} (h : r.addRendered now = .ok r') : CountedAt now 1 0 r r' := by
  simp only [addRendered, Except.bind_ok_iff, roll_totals] at h
  obtain ⟨total, htotal, h⟩ := h
  have htotal : total.toNat = r.renderedTotal.toNat + 1 := Checked.addU64_eq_ok_iff.mp htotal
  split at h
  next hstarted =>
    have hstarted : r.isStarted = true := hstarted
    simp only [Except.bind_ok_iff, Except.pure_ok_iff, Checked.addU32_eq_ok_iff] at h
    obtain ⟨count, hcount, rfl⟩ := h
    exact ⟨htotal, rfl, rfl, rfl, by rw [if_pos hstarted]; exact hcount, by simp⟩
  next hstopped =>
    obtain rfl := Except.pure_ok_iff.mp h
    exact countedAt_of_stopped (Bool.eq_false_iff.mpr hstopped) htotal rfl

theorem addSkipped_countedAt {count : UInt32} {now : Instant} (hcount : count ≠ 0)
    (h : r.addSkipped count now = .ok r') : CountedAt now 0 count.toNat r r' := by
  simp only [addSkipped, if_neg hcount, Except.bind_ok_iff, roll_totals] at h
  obtain ⟨total, htotal, h⟩ := h
  have htotal : total.toNat = r.skippedTotal.toNat + count.toNat :=
    (Checked.addU64_eq_ok_iff.mp htotal).trans (by rw [UInt32.toNat_toUInt64])
  split at h
  next hstarted =>
    have hstarted : r.isStarted = true := hstarted
    simp only [Except.bind_ok_iff, Except.pure_ok_iff, Checked.addU32_eq_ok_iff] at h
    obtain ⟨sum, hsum, rfl⟩ := h
    exact ⟨rfl, htotal, rfl, rfl, by simp, by rw [if_pos hstarted]; exact hsum⟩
  next hstopped =>
    obtain rfl := Except.pure_ok_iff.mp h
    exact countedAt_of_stopped (Bool.eq_false_iff.mpr hstopped) rfl htotal

theorem addSkipped_none {now : Instant} (h : r.addSkipped 0 now = .ok r') : r' = r :=
  (Except.pure_ok_iff.mp h).symm

theorem addRendered_ok {now : Instant} (h : r.addRendered now = .ok r') : Added 1 0 r r' :=
  (addRendered_countedAt h).added

theorem addSkipped_ok {count : UInt32} {now : Instant} (h : r.addSkipped count now = .ok r') :
    Added 0 count.toNat r r' := by
  by_cases hcount : count = 0
  · subst hcount
    obtain rfl := addSkipped_none h
    exact ⟨rfl, rfl, Nat.le_refl _, Nat.le_refl _, rfl⟩
  · exact (addSkipped_countedAt hcount h).added

theorem Consistent.added {shown skipped : Nat} (h : r.Consistent) (hadded : Added shown skipped r r') :
    r'.Consistent := by
  constructor
  · rw [hadded.renderedTotal]
    exact Nat.le_trans hadded.rendered (Nat.add_le_add_right h.rendered _)
  · rw [hadded.skippedTotal]
    exact Nat.le_trans hadded.skipped (Nat.add_le_add_right h.skipped _)

/-! ## Room to count

The totals bound the counts of the interval, so they are all there is to look at. -/

theorem addRendered_yields (h : r.Consistent) (now : Instant) (room : r.renderedTotal.toNat + 1 < 2 ^ 32) :
    (r.addRendered now).Yields (Added 1 0 r) := by
  have hrendered := h.rendered
  have hone : (1 : UInt32).toNat = 1 ∧ (1 : UInt64).toNat = 1 := by decide
  have hends : (r.addRendered now).Yields fun _ => True := by
    refine (Checked.addU64_yields (b := 1) (by omega)).bind ?_
    intro total _ _
    have hrolled : (roll { r with renderedTotal := total } now).rendered.toNat ≤ r.rendered.toNat :=
      (roll_added _ now).rendered
    dsimp only
    split
    · exact (Checked.addU32_yields (b := 1) (by omega)).bind fun _ _ _ => .pure trivial
    · exact .pure trivial
  exact (hends.and fun _ hr => addRendered_ok hr).mono fun _ hr => hr.2

theorem addSkipped_yields (h : r.Consistent) (count : UInt32) (now : Instant)
    (room : r.skippedTotal.toNat + count.toNat < 2 ^ 32) :
    (r.addSkipped count now).Yields (Added 0 count.toNat r) := by
  have hskipped := h.skipped
  have hcount : count.toUInt64.toNat = count.toNat := UInt32.toNat_toUInt64 _
  have hends : (r.addSkipped count now).Yields fun _ => True := by
    unfold addSkipped
    split
    · exact .pure trivial
    · refine (Checked.addU64_yields (b := count.toUInt64) (by omega)).bind ?_
      intro total _ _
      have hrolled : (roll { r with skippedTotal := total } now).skipped.toNat ≤ r.skipped.toNat :=
        (roll_added _ now).skipped
      dsimp only
      split
      · exact (Checked.addU32_yields (b := count) (by omega)).bind fun _ _ _ => .pure trivial
      · exact .pure trivial
  exact (hends.and fun _ hr => addSkipped_ok hr).mono fun _ hr => hr.2

end RemoteView.FrameRate
