/-
Deferred resizes are neither lost nor done from a size in between.

A window is watched together with the size of the content it shows and a size
that the program does not keep: the content size that the window was last made
to fit (`WatchedWindow.fitted`). `run_deferral` says, after any changes in any
order: a resize is deferred only while something constrains the window; a
resize that is asked for leads from the fitted size to the current one; and a
window that nothing constrains fits its content.
-/
import RemoteView.Window.Resizing

namespace RemoteView

/-- What can happen to a window and its content. The flags may come and go in
any combination. -/
inductive WindowChange where
  | contentSize (new : Size)
  | maximized
  | minimized
  | restored
  | fullscreenToggled
  | leftMaximized
  /-- The deferred resize is asked for outside any other change. -/
  | pendingTaken

/-- A window, the size of the content it shows, and the content size that it was
last made to fit. -/
structure WatchedWindow where
  resizing : Resizing
  content : Size
  fitted : Size

namespace WatchedWindow

/-- A new window, which fits the content it starts with. -/
def opened (content : Size) : WatchedWindow := ⟨{}, content, content⟩

/-- The window after an operation of `Resizing`. If that asks for a resize, the
window fits the target from then on. -/
def after (w : WatchedWindow) (result : Option ResizeRequest × Resizing) :
    Option ResizeRequest × WatchedWindow :=
  (result.1, { w with resizing := result.2, fitted := result.1.elim w.fitted (·.target) })

/-- The resize that a change asks for, and the window after the change. Leaving
the maximized state is followed by a resize of the caller's own, so a window
that it sets free fits its content then. -/
def step (w : WatchedWindow) : WindowChange → Option ResizeRequest × WatchedWindow
  | .contentSize new => { w with content := new }.after (w.resizing.contentSizeChanged w.content new)
  | .maximized => w.after (none, w.resizing.onMaximized)
  | .minimized => w.after (none, w.resizing.onMinimized)
  | .restored =>
    match w.resizing.onRestored w.content with
    | (.ignored, next) => w.after (none, next)
    | (.restored request, next) => w.after (request, next)
  | .fullscreenToggled => w.after (w.resizing.onFullscreenToggled w.content)
  | .leftMaximized =>
    let next := w.resizing.leaveMaximized
    (none, { w with resizing := next, fitted := if next.isWindowed then w.content else w.fitted })
  | .pendingTaken => w.after (w.resizing.takePending w.content)

/-- The window after a list of changes. -/
def run (w : WatchedWindow) (changes : List WindowChange) : WatchedWindow :=
  changes.foldl (fun w change => (w.step change).2) w

/-! ## What every change keeps -/

/-- A free window owes no resize, and the window fits the content that a
deferred resize starts from, or else the current content. -/
structure Accounted (w : WatchedWindow) : Prop where
  free : w.resizing.isWindowed = true → w.resizing.deferred = none
  fits : w.fitted = w.resizing.deferred.getD w.content

/-- The resize that comes with a change leads from the size that `before` fits
to the content that the window shows after it. -/
def Follows (before : WatchedWindow) (result : Option ResizeRequest × WatchedWindow) : Prop :=
  ∀ request, result.1 = some request →
    request.source = before.fitted ∧ request.target = result.2.content

theorem opened_accounted (content : Size) : (opened content).Accounted :=
  ⟨fun _ => rfl, rfl⟩

/-- A change that only constrains the window further asks for nothing. -/
theorem Accounted.constrain {w : WatchedWindow} (h : w.Accounted) {flags : WindowFlags}
    (hf : flags.isWindowed = false) :
    Accounted (w.after (none, { w.resizing with flags })).2 ∧
      w.Follows (w.after (none, { w.resizing with flags })) := by
  refine ⟨⟨fun hw => ?_, h.fits⟩, fun request hr => ?_⟩
  · simp only [after, Resizing.isWindowed] at hw
    rw [hf] at hw
    cases hw
  · cases hr

theorem Accounted.contentSize {w : WatchedWindow} (h : w.Accounted) (new : Size) :
    (w.step (.contentSize new)).2.Accounted ∧ w.Follows (w.step (.contentSize new)) := by
  by_cases hw : w.resizing.isWindowed = true
  · have hnone := h.free hw
    simp only [step, Resizing.contentSizeChanged, if_pos hw]
    refine ⟨⟨fun _ => hnone, ?_⟩, fun request hr => ?_⟩
    · simp only [after, Option.elim_some]
      rw [hnone, Option.getD_none]
    · obtain rfl : (⟨w.content, new⟩ : ResizeRequest) = request := by simpa [after] using hr
      exact ⟨by rw [h.fits, hnone, Option.getD_none], rfl⟩
  · simp only [step, Resizing.contentSizeChanged, if_neg hw]
    refine ⟨⟨fun hw' => absurd hw' hw, ?_⟩, fun request hr => by cases hr⟩
    simp only [after, Option.elim_none, Option.getD_some]
    exact h.fits

/-- Once the flags are as they are going to be, taking the deferred resize makes
up for whatever was deferred. -/
theorem after_takePending {w : WatchedWindow} (h : w.fitted = w.resizing.deferred.getD w.content) :
    (w.after (w.resizing.takePending w.content)).2.Accounted ∧
      w.Follows (w.after (w.resizing.takePending w.content)) := by
  by_cases hw : w.resizing.isWindowed = true
  · simp only [Resizing.takePending, if_pos hw]
    cases hd : w.resizing.deferred with
    | none =>
      rw [hd, Option.getD_none] at h
      exact ⟨⟨fun _ => rfl, h⟩, fun request hr => by cases hr⟩
    | some base =>
      rw [hd, Option.getD_some] at h
      refine ⟨⟨fun _ => rfl, rfl⟩, fun request hr => ?_⟩
      obtain rfl : (⟨base, w.content⟩ : ResizeRequest) = request := by simpa [after] using hr
      exact ⟨h.symm, rfl⟩
  · simp only [Resizing.takePending, if_neg hw]
    exact ⟨⟨fun hw' => absurd hw' hw, h⟩, fun request hr => by cases hr⟩

theorem Accounted.restored {w : WatchedWindow} (h : w.Accounted) :
    (w.step .restored).2.Accounted ∧ w.Follows (w.step .restored) := by
  by_cases hf : w.resizing.flags.fullscreen = true
  · simp only [step, Resizing.onRestored, if_pos hf]
    exact ⟨⟨h.free, h.fits⟩, fun request hr => by cases hr⟩
  · simp only [step, Resizing.onRestored, if_neg hf]
    exact after_takePending (w := { w with resizing := { w.resizing with
      flags.maximized := false, flags.minimized := false } }) h.fits

theorem Accounted.leftMaximized {w : WatchedWindow} (h : w.Accounted) :
    (w.step .leftMaximized).2.Accounted ∧ w.Follows (w.step .leftMaximized) := by
  refine ⟨?_, fun request hr => by cases hr⟩
  simp only [step, Resizing.leaveMaximized]
  by_cases hw : { w.resizing with flags.maximized := false }.isWindowed = true
  · simp only [if_pos hw]
    have hfree : { w.resizing with flags.maximized := false, deferred := none }.isWindowed = true := hw
    simp only [if_pos hfree]
    exact ⟨fun _ => rfl, rfl⟩
  · simp only [if_neg hw]
    exact ⟨fun hw' => absurd hw' hw, h.fits⟩

/-- One change, whichever it is. -/
theorem Accounted.step {w : WatchedWindow} (h : w.Accounted) (change : WindowChange) :
    (w.step change).2.Accounted ∧ w.Follows (w.step change) := by
  cases change with
  | contentSize new => exact h.contentSize new
  | maximized => exact h.constrain (by simp [WindowFlags.isWindowed])
  | minimized => exact h.constrain (by simp [WindowFlags.isWindowed])
  | restored => exact h.restored
  | fullscreenToggled =>
    exact after_takePending (w := { w with resizing := { w.resizing with
      flags.fullscreen := !w.resizing.flags.fullscreen } }) h.fits
  | leftMaximized => exact h.leftMaximized
  | pendingTaken => exact after_takePending h.fits

theorem Accounted.run {w : WatchedWindow} (h : w.Accounted) (changes : List WindowChange) :
    (w.run changes).Accounted := by
  induction changes generalizing w with
  | nil => exact h
  | cons change rest ih => exact ih (h.step change).1

/-! ## Every run -/

/-- **Deferred resizes.** After any changes to a window, whatever its flags: a
resize is deferred only while a flag is set; the next change, if it asks for a
resize, asks for the one from the size that the window was last made to fit to
the size of its content; and a window without flags fits its content. -/
theorem run_deferral (content : Size) (changes : List WindowChange) (next : WindowChange) :
    let w := (opened content).run changes
    (w.resizing.isPending = true →
      w.resizing.flags.fullscreen = true ∨ w.resizing.flags.maximized = true ∨
        w.resizing.flags.minimized = true) ∧
      (∀ request, (w.step next).1 = some request →
        request.source = w.fitted ∧ request.target = (w.step next).2.content) ∧
      (w.resizing.isWindowed = true → w.fitted = w.content) := by
  intro w
  have h : w.Accounted := (opened_accounted content).run changes
  refine ⟨fun hp => ?_, (h.step next).2, fun hw => ?_⟩
  · by_cases hw : w.resizing.isWindowed = true
    · simp [Resizing.isPending, h.free hw] at hp
    · simp only [Resizing.isWindowed, WindowFlags.isWindowed] at hw
      revert hw
      cases w.resizing.flags.fullscreen <;> cases w.resizing.flags.maximized <;>
        cases w.resizing.flags.minimized <;> simp
  · rw [h.fits, h.free hw, Option.getD_none]

/-- The content changes twice under a maximized window, and the window makes up for both at once
when it is restored. -/
example : (((opened ⟨4, 2⟩).run [.maximized, .contentSize ⟨2, 4⟩, .contentSize ⟨6, 6⟩]).step .restored).1 =
    some ⟨⟨4, 2⟩, ⟨6, 6⟩⟩ := by decide

end WatchedWindow

end RemoteView
