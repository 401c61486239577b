/-
When `Resizing` hands out a resize: to the current content size, and only once
nothing constrains the window any more.
-/
import RemoteView.Window.Resizing

namespace RemoteView.Resizing

variable {r : Resizing} {old new content : Size} {change : ResizeRequest}

theorem takePending_request (h : (r.takePending content).1 = some change) :
    change.target = content ∧ r.deferred ≠ none := by
  unfold takePending at h
  split at h
  · cases hd : r.deferred with
    | none => simp [hd] at h
    | some size =>
      simp only [hd, Option.map_some, Option.some.injEq] at h
      exact ⟨h ▸ rfl, nofun⟩
  · cases h

theorem deferred_takePending (h : r.deferred = none) : (r.takePending content).2.deferred = none := by
  unfold takePending
  split
  · rfl
  · exact h

theorem flags_takePending (r : Resizing) (content : Size) : (r.takePending content).2.flags = r.flags := by
  unfold takePending
  split <;> rfl

/-! ## A window that is resized is free -/

theorem isWindowed_of_takePending (h : (r.takePending content).1 = some change) :
    (r.takePending content).2.isWindowed = true := by
  unfold takePending at h ⊢
  split at h
  next hw =>
    rw [if_pos hw]
    exact hw
  next => cases h

theorem isWindowed_of_contentSizeChanged (h : (r.contentSizeChanged old new).1 = some change) :
    (r.contentSizeChanged old new).2.isWindowed = true := by
  unfold contentSizeChanged at h ⊢
  split at h
  next hw =>
    rw [if_pos hw]
    exact hw
  next => cases h

theorem isWindowed_of_onRestored {window : Resizing}
    (h : r.onRestored content = (.restored (some change), window)) : window.isWindowed = true := by
  unfold onRestored at h
  split at h
  next => cases (Prod.mk.inj h).1
  next =>
    obtain ⟨houtcome, rfl⟩ := Prod.mk.inj h
    exact isWindowed_of_takePending (RestoreOutcome.restored.inj houtcome)

theorem isWindowed_leaveMaximized (hfullscreen : r.flags.fullscreen = false)
    (hminimized : r.flags.minimized = false) : r.leaveMaximized.isWindowed = true := by
  have hfree : { r with flags.maximized := false }.isWindowed = true := by
    simp only [isWindowed, WindowFlags.isWindowed, hfullscreen, hminimized]
    rfl
  simp only [leaveMaximized, if_pos hfree]
  exact hfree

end RemoteView.Resizing
