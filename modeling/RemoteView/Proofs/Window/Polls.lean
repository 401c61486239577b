/-
A window that is polled. A desktop does not tell when a window is maximized, minimized
or restored, so its state is polled, and each poll makes one event at most. What is
remembered of the window follows these events alone, so its flags can differ from those
that were polled.

They agree on whether the window is free (`run_polled_free`). They do not agree on each
flag: a window that was minimized stays so in memory until it is polled free
(`run_polled_minimized`), also while it is back on the screen, maximized.
-/
import RemoteView.Proofs.Except
import RemoteView.Proofs.Since
import RemoteView.Proofs.Window.Resizing
import RemoteView.Window.Tracker

namespace RemoteView

/-- What a poll tells about a window. -/
structure Poll where
  maximized : Bool := false
  minimized : Bool := false
  deriving DecidableEq

/-- The poll found nothing that constrains the window. -/
def Poll.isFree (p : Poll) : Bool := !p.maximized && !p.minimized

/-- The last poll of a list. A window that was never polled is taken to be free. -/
def lastPoll (polls : List Poll) : Poll := polls.getLast?.getD {}

/-- A poll found the window minimized, and none has found it free since. -/
def MinimizedSince (polls : List Poll) : Prop := Since (·.minimized = true) (·.isFree = false) polls

/-- Takes over the event of a poll of a window that shows content of this size. -/
def Resizing.follow (r : Resizing) (content : Size) : Option WindowEvent → Resizing
  | some .maximized => r.onMaximized
  | some .minimized => r.onMinimized
  | some .restored => (r.onRestored content).2
  | some .exposed | some .sizeChanged | none => r

/-- A window that never goes fullscreen, as it is known from its polls. -/
structure PolledWindow where
  tracker : Tracker
  resizing : Resizing := {}

namespace PolledWindow

inductive Step where
  /-- The window is polled while it shows content of this size. -/
  | poll (p : Poll) (content : Size)
  /-- The desktop reports something between the polls. -/
  | report (event : DesktopEvent)
  | contentSize (old new : Size)

/-- The poll that a step makes. -/
def Step.poll? : Step → Option Poll
  | poll p _ => some p
  | report _ | contentSize .. => none

def opened (scaleFactor : Float) : PolledWindow := { tracker := { scaleFactor } }

/-- The event of a poll, and the window after it. -/
def poll (w : PolledWindow) (p : Poll) (content : Size) : Option WindowEvent × PolledWindow :=
  let (event, tracker) := w.tracker.poll p.maximized p.minimized
  (event, { tracker, resizing := w.resizing.follow content event })

def step (w : PolledWindow) : Step → Except Fault PolledWindow
  | .poll p content => return (w.poll p content).2
  | .report event => return { w with tracker := (← w.tracker.track event).2 }
  | .contentSize old new => return { w with resizing := (w.resizing.contentSizeChanged old new).2 }

def run (w : PolledWindow) (steps : List Step) : Except Fault PolledWindow := steps.foldlM step w

end PolledWindow

/-! ## What polls tell -/

theorem Poll.isFree_iff {p : Poll} : p.isFree = true ↔ p.maximized = false ∧ p.minimized = false := by
  simp [isFree]

theorem Poll.not_free_iff {p : Poll} : p.isFree = false ↔ p.maximized = true ∨ p.minimized = true := by
  cases hmax : p.maximized <;> simp [isFree, hmax]

theorem lastPoll_concat (polls : List Poll) (p : Poll) : lastPoll (polls ++ [p]) = p := by
  rw [lastPoll, List.getLast?_concat, Option.getD_some]

theorem minimizedSince_concat {polls : List Poll} {p : Poll} :
    MinimizedSince (polls ++ [p]) ↔ p.minimized = true ∨ p.isFree = false ∧ MinimizedSince polls :=
  since_concat

/-- It starts with a poll that finds the window minimized ... -/
theorem minimizedSince_of_last {polls : List Poll} (h : (lastPoll polls).minimized = true) :
    MinimizedSince polls := by
  rcases List.eq_nil_or_concat polls with rfl | ⟨earlier, p, rfl⟩
  · cases h
  · rw [List.concat_eq_append] at h ⊢
    rw [lastPoll_concat] at h
    exact minimizedSince_concat.mpr (.inl h)

/-- ... and it is over once a poll finds it free. -/
theorem MinimizedSince.last {polls : List Poll} (h : MinimizedSince polls) : (lastPoll polls).isFree = false := by
  rcases List.eq_nil_or_concat polls with rfl | ⟨earlier, p, rfl⟩
  · exact absurd h not_since_nil
  · rw [List.concat_eq_append] at h ⊢
    rw [lastPoll_concat]
    rcases minimizedSince_concat.mp h with hp | ⟨hp, -⟩
    · exact Poll.not_free_iff.mpr (.inr hp)
    · exact hp

/-! ## The event of a poll -/

/-- The last poll that a tracker knows of. -/
def Tracker.polled (t : Tracker) : Poll := ⟨t.maximized, t.minimized⟩

/-- The event of a poll that tells `now`, when `before` was polled last. -/
inductive Poll.Tells (before now : Poll) : Option WindowEvent → Prop where
  | minimized (h : now.minimized = true) : Tells before now (some .minimized)
  | maximized (h : now.maximized = true) (hold : now.minimized = true → before.minimized = true) :
      Tells before now (some .maximized)
  | restored (hbefore : before.isFree = false) (h : now.isFree = true) : Tells before now (some .restored)
  | nothing (hsame : now.isFree = before.isFree) (hold : now.minimized = true → before.minimized = true) :
      Tells before now none

theorem Tracker.poll_tells (t : Tracker) (p : Poll) :
    t.polled.Tells p (t.poll p.maximized p.minimized).1 := by
  simp only [Tracker.poll]
  split
  next hmin => exact .minimized (Bool.and_eq_true_iff.mp hmin).1
  next hmin =>
  have hold : p.minimized = true → t.minimized = true := by simpa using hmin
  split
  next hmax => exact .maximized (Bool.and_eq_true_iff.mp hmax).1 hold
  next hmax =>
  split
  next hrestored =>
    simp only [Bool.and_eq_true, Bool.or_eq_true, Bool.not_eq_true'] at hrestored
    obtain ⟨⟨hbefore, hmaximized⟩, hminimized⟩ := hrestored
    exact .restored (Poll.not_free_iff.mpr hbefore) (Poll.isFree_iff.mpr ⟨hmaximized, hminimized⟩)
  next hrestored =>
    refine .nothing ?_ hold
    simp only [polled, Poll.isFree]
    grind

/-- Reports of the desktop do not count as polls. -/
theorem Tracker.polled_track {t t' : Tracker} {event : DesktopEvent} {tracked : Option TrackedEvent}
    (h : t.track event = .ok (tracked, t')) : t'.polled = t.polled := by
  cases event with
  | resized | redrawRequested | scaleFactorChanged _ | mouseInput _ _ | unrelated => cases h; rfl
  | cursorMoved x y =>
    simp only [track] at h
    split at h
    · cases h; rfl
    · cases h

/-! ## What is remembered agrees with what was polled -/

namespace Resizing

variable {r : Resizing} {polls : List Poll} {p : Poll} {content old new : Size}

/-- The window is free exactly if it was polled free last, and then it owes no resize. It
is minimized if it was polled so and was not polled free since. -/
structure Agrees (r : Resizing) (polls : List Poll) : Prop where
  switched : r.flags.fullscreen = false
  free : r.isWindowed = (lastPoll polls).isFree
  owed : r.isWindowed = true → r.deferred = none
  minimized : r.flags.minimized = true ↔ MinimizedSince polls

theorem Agrees.onMinimized (h : r.Agrees polls) (hmin : p.minimized = true) :
    r.onMinimized.Agrees (polls ++ [p]) := by
  have hconstrained : r.onMinimized.isWindowed = false := by
    simp [Resizing.onMinimized, isWindowed, WindowFlags.isWindowed]
  refine ⟨h.switched, ?_, fun hfree => ?_, fun _ => minimizedSince_concat.mpr (.inl hmin), fun _ => rfl⟩
  · rw [hconstrained, lastPoll_concat]
    exact (Poll.not_free_iff.mpr (.inr hmin)).symm
  · rw [hconstrained] at hfree
    cases hfree

/-- A maximized window stays minimized in memory, if it was. -/
theorem Agrees.onMaximized (h : r.Agrees polls) (hmax : p.maximized = true)
    (hold : p.minimized = true → (lastPoll polls).minimized = true) :
    r.onMaximized.Agrees (polls ++ [p]) := by
  have hconstrained : r.onMaximized.isWindowed = false := by
    simp [Resizing.onMaximized, isWindowed, WindowFlags.isWindowed]
  have hpolled : p.isFree = false := Poll.not_free_iff.mpr (.inl hmax)
  refine ⟨h.switched, ?_, fun hfree => ?_, h.minimized.trans ?_⟩
  · rw [hconstrained, lastPoll_concat, hpolled]
  · rw [hconstrained] at hfree
    cases hfree
  · rw [minimizedSince_concat]
    exact ⟨fun hsince => .inr ⟨hpolled, hsince⟩,
      fun hsince => hsince.elim (fun hmin => minimizedSince_of_last (hold hmin)) (·.2)⟩

theorem Agrees.onRestored (h : r.Agrees polls) (hfree : p.isFree = true) :
    (r.onRestored content).2.Agrees (polls ++ [p]) := by
  have hrestored : (r.onRestored content).2 = { flags := {}, deferred := none } := by
    simp [Resizing.onRestored, takePending, isWindowed, WindowFlags.isWindowed, h.switched]
  rw [hrestored]
  refine ⟨rfl, ?_, fun _ => rfl, fun hmin => Bool.noConfusion hmin, fun hsince => ?_⟩
  · rw [lastPoll_concat, hfree]
    rfl
  · rw [← lastPoll_concat polls p, hsince.last] at hfree
    cases hfree

/-- A poll without an event. -/
theorem Agrees.unchanged (h : r.Agrees polls) (hsame : p.isFree = (lastPoll polls).isFree)
    (hold : p.minimized = true → (lastPoll polls).minimized = true) : r.Agrees (polls ++ [p]) := by
  refine ⟨h.switched, ?_, h.owed, h.minimized.trans ?_⟩
  · rw [h.free, lastPoll_concat, hsame]
  · rw [minimizedSince_concat, hsame]
    exact ⟨fun hsince => .inr ⟨hsince.last, hsince⟩,
      fun hsince => hsince.elim (fun hmin => minimizedSince_of_last (hold hmin)) (·.2)⟩

theorem Agrees.contentSizeChanged (h : r.Agrees polls) : (r.contentSizeChanged old new).2.Agrees polls := by
  unfold Resizing.contentSizeChanged
  split
  next => exact h
  next hconstrained =>
    exact ⟨h.switched, h.free, fun hfree => absurd hfree hconstrained, h.minimized⟩

end Resizing

namespace PolledWindow

variable {w w' : PolledWindow} {polls : List Poll} {steps : List Step}

/-- The last poll is known, and the rest agrees with all of them. -/
structure Follows (w : PolledWindow) (polls : List Poll) : Prop where
  polled : w.tracker.polled = lastPoll polls
  agrees : w.resizing.Agrees polls

theorem opened_follows (scaleFactor : Float) : (opened scaleFactor).Follows [] :=
  ⟨rfl, rfl, rfl, fun _ => rfl, nofun, fun h => absurd h not_since_nil⟩

theorem Follows.poll (h : w.Follows polls) (p : Poll) (content : Size) :
    (w.poll p content).2.Follows (polls ++ [p]) := by
  refine ⟨(lastPoll_concat polls p).symm, ?_⟩
  have htells := w.tracker.poll_tells p
  rw [h.polled] at htells
  show (w.resizing.follow content (w.tracker.poll p.maximized p.minimized).1).Agrees (polls ++ [p])
  generalize (w.tracker.poll p.maximized p.minimized).1 = event at htells
  cases htells with
  | minimized hmin => exact h.agrees.onMinimized hmin
  | maximized hmax hold => exact h.agrees.onMaximized hmax hold
  | restored _ hfree => exact h.agrees.onRestored hfree
  | nothing hsame hold => exact h.agrees.unchanged hsame hold

theorem Follows.step (h : w.Follows polls) {step : Step} (hstep : w.step step = .ok w') :
    w'.Follows (polls ++ step.poll?.toList) := by
  cases step with
  | poll p content =>
    cases hstep
    exact h.poll p content
  | report event =>
    obtain ⟨⟨tracked, tracker⟩, htrack, hw'⟩ := Except.bind_ok_iff.mp hstep
    cases hw'
    rw [Step.poll?, Option.toList_none, List.append_nil]
    exact ⟨(Tracker.polled_track htrack).trans h.polled, h.agrees⟩
  | contentSize old new =>
    cases hstep
    rw [Step.poll?, Option.toList_none, List.append_nil]
    exact ⟨h.polled, h.agrees.contentSizeChanged⟩

theorem Follows.run (h : w.Follows polls) (hrun : w.run steps = .ok w') :
    w'.Follows (polls ++ steps.filterMap Step.poll?) := by
  induction steps generalizing w polls with
  | nil =>
    obtain rfl := Except.pure_ok_iff.mp hrun
    rw [List.filterMap_nil, List.append_nil]
    exact h
  | cons step steps ih =>
    obtain ⟨next, hstep, hrest⟩ := Except.bind_ok_iff.mp hrun
    have hpolls : (step :: steps).filterMap Step.poll? = step.poll?.toList ++ steps.filterMap Step.poll? := by
      cases hpoll : step.poll? <;> simp [hpoll]
    rw [hpolls, ← List.append_assoc]
    exact ih (h.step hstep) hrest

theorem Follows.restored_iff (h : w.Follows polls) {p : Poll} {content : Size} :
    (w.poll p content).1 = some .restored ↔ (lastPoll polls).isFree = false ∧ p.isFree = true := by
  have htells := w.tracker.poll_tells p
  rw [h.polled] at htells
  show (w.tracker.poll p.maximized p.minimized).1 = some .restored ↔ _
  generalize (w.tracker.poll p.maximized p.minimized).1 = event at htells
  cases htells with
  | minimized hmin =>
    have hp : p.isFree = false := Poll.not_free_iff.mpr (.inr hmin)
    simp [hp]
  | maximized hmax _ =>
    have hp : p.isFree = false := Poll.not_free_iff.mpr (.inl hmax)
    simp [hp]
  | restored hbefore hfree => simp [hbefore, hfree]
  | nothing hsame _ => simp [hsame]

/-! ## Every run -/

/-- **Memory and polls agree on whether the window is free**, whatever the content sizes and
the reports between the polls. A resize is owed only while the last poll found the window
constrained, and a restore is told exactly when a poll finds it free after one that did not. -/
theorem run_polled_free {scaleFactor : Float} (hrun : (opened scaleFactor).run steps = .ok w) :
    let last := lastPoll (steps.filterMap Step.poll?)
    (w.resizing.isWindowed = true ↔ last.isFree = true) ∧
      (w.resizing.isPending = true → last.isFree = false) ∧
      ∀ p content, (w.poll p content).1 = some .restored ↔ last.isFree = false ∧ p.isFree = true := by
  intro last
  have h : w.Follows (steps.filterMap Step.poll?) := (opened_follows scaleFactor).run hrun
  have hfree : w.resizing.isWindowed = last.isFree := h.agrees.free
  refine ⟨by rw [hfree], fun hpending => ?_, fun p content => h.restored_iff⟩
  rw [← hfree, ← Bool.not_eq_true]
  intro hwindowed
  rw [Resizing.isPending, h.agrees.owed hwindowed] at hpending
  cases hpending

/-- A maximized window whose content grows, and which is then minimized. -/
def constrainedSteps : List Step :=
  [.report .resized, .poll { maximized := true } ⟨4, 2⟩, .contentSize ⟨4, 2⟩ ⟨6, 3⟩,
    .poll { maximized := true, minimized := true } ⟨6, 3⟩, .poll { minimized := true } ⟨6, 3⟩]

theorem run_polled_free_minimized : ∃ w, (opened 1).run constrainedSteps = .ok w ∧
    w.resizing.isPending = true ∧ w.resizing.isWindowed = false ∧
    (w.poll {} ⟨6, 3⟩).1 = some .restored := by
  have hrun : (opened 1).run constrainedSteps = .ok _ := rfl
  obtain ⟨hwindowed, -, hrestored⟩ := run_polled_free hrun
  refine ⟨_, hrun, rfl, ?_, (hrestored {} ⟨6, 3⟩).mpr ⟨rfl, rfl⟩⟩
  exact Bool.eq_false_iff.mpr fun hfree => nomatch hwindowed.mp hfree

/-- **What is remembered of a minimized window.** After a poll that finds it minimized it is
remembered so. After any other poll it is remembered so just if the window is maximized, was
found minimized earlier, and has not been found free since. -/
theorem run_polled_minimized {scaleFactor : Float} (hrun : (opened scaleFactor).run steps = .ok w) :
    ∀ p content, (w.poll p content).2.resizing.flags.minimized = true ↔
      p.minimized = true ∨ p.maximized = true ∧ MinimizedSince (steps.filterMap Step.poll?) := by
  intro p content
  have h : w.Follows (steps.filterMap Step.poll?) := (opened_follows scaleFactor).run hrun
  rw [(h.poll p content).agrees.minimized, minimizedSince_concat, Poll.not_free_iff]
  grind

theorem run_polled_minimized_twice : ∃ w, (opened 1).run constrainedSteps = .ok w ∧
    (w.poll { minimized := true } ⟨6, 3⟩).2.resizing.flags.minimized = true ∧
    (w.poll {} ⟨6, 3⟩).2.resizing.flags.minimized = false := by
  have hrun : (opened 1).run constrainedSteps = .ok _ := rfl
  have hpolled := run_polled_minimized hrun
  refine ⟨_, hrun, (hpolled { minimized := true } ⟨6, 3⟩).mpr (.inl rfl), ?_⟩
  exact Bool.eq_false_iff.mpr fun hmin => ((hpolled {} ⟨6, 3⟩).mp hmin).elim nofun nofun

/-- A window that is restored from the task bar to its maximized state stays minimized in
memory, though no poll finds it so any more. -/
theorem visible_window_minimized : ∃ w p content,
    (opened 1).run [.poll { minimized := true } ⟨4, 2⟩] = .ok w ∧ p.minimized = false ∧
      (w.poll p content).2.resizing.flags.minimized = true :=
  ⟨_, { maximized := true }, ⟨4, 2⟩, rfl, rfl, rfl⟩

end PolledWindow

end RemoteView
