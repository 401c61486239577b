/-
A constrained window is left alone: whatever happens to a view, it asks for another
size of its window only while the window is free. There is one exception. A view that
was sent to fullscreen before its first frame still sizes its window when that frame
comes (`run_resizes`).
-/
import RemoteView.Proofs.Screen.Invariant

namespace RemoteView

variable {σ : Type}

/-- Whether the request is never made before a frame is about to be shown. -/
def Request.needsFrame : Request → Bool
  | setSize _ | setPosition .. | restoreWindow | showWindow | render _ | forward _ => true
  | setFullscreen _ | hideWindow | raiseWindow | setOnTop _ | setCursor _ | setTextureSize _
  | updateTexture _ | send _ => false

/-- The window was sent to fullscreen, and the host did not refuse. -/
def Entry.EntersFullscreen (e : Entry) : Prop := e.request = .setFullscreen true ∧ e.outcome ≠ .error

/-- The window is fullscreen when it gets its first size. Nothing was shown yet, but
the window had been sent to fullscreen. -/
structure Entry.FirstSizing (e : Entry) (earlier : List Entry) : Prop where
  flags : e.flags = { fullscreen := true }
  unshown : ∀ e' ∈ earlier, e'.request.needsFrame = false
  entered : ∃ e' ∈ earlier, e'.EntersFullscreen

/-- The window is left alone, unless it is free or gets its first size. -/
def Entry.SparesAfter (e : Entry) (earlier : List Entry) : Prop :=
  ∀ size, e.request = .setSize size → e.flags.isWindowed = true ∨ e.FirstSizing earlier

theorem Entry.Spares.after {e : Entry} (h : e.Spares) (earlier : List Entry) : e.SparesAfter earlier :=
  fun size hsize => .inl (h size hsize)

namespace Session

variable {host : Host σ} {s s' : Session σ}

/-! ## Before the first frame -/

/-- The one change of the window that is not ignored. If nothing was deferred, it comes
with no resize. -/
theorem toggleFullscreen_unshown (hf : s.screen.hasFrame = false) (howed : s.screen.window.deferred = none)
    (h : s.toggleFullscreen host = .ok s') :
    let asked := s.request host (.setFullscreen (!s.screen.window.flags.fullscreen))
    (asked.1 = .error ∧ s' = asked.2) ∨
      asked.1 ≠ .error ∧ s' = asked.2.setWindow (s.screen.window.onFullscreenToggled s.screen.contentSize).2 := by
  rcases toggleFullscreen_ok h with hrefused | ⟨haccepted, t, ht, hr⟩
  · exact .inl hrefused
  · have hnothing : (s.screen.window.onFullscreenToggled s.screen.contentSize).1 = none :=
      Option.eq_none_iff_forall_ne_some.mpr fun _ hc => (Resizing.takePending_request hc).2 howed
    rw [hnothing] at ht
    obtain rfl := Except.pure_ok_iff.mp ht
    rcases render_ok hr with ⟨-, rfl⟩ | ⟨he, -⟩
    · exact .inr ⟨haccepted, rfl⟩
    · exact Bool.noConfusion (hf.symm.trans he)

/-- Nothing was shown, no resize is owed, and the window is fullscreen at most. -/
structure Early (s : Session σ) : Prop where
  unshown : ∀ e ∈ s.journal, e.request.needsFrame = false
  owed : s.screen.window.deferred = none
  flags : s.screen.window.flags = { fullscreen := s.screen.window.flags.fullscreen }
  entered : s.screen.window.flags.fullscreen = true → ∃ e ∈ s.journal, e.EntersFullscreen

namespace Early

theorem opened (startup : Startup) (w : σ) : Early ({ screen := .initial startup, outside := w } : Session σ) :=
  ⟨fun _ he => absurd he List.not_mem_nil, rfl, rfl, nofun⟩

/-- A part that shows nothing and lets the window be. -/
theorem keep (h : Early s) (hasked : Asked (·.request.needsFrame = false) s s')
    (hwindow : s'.screen.window = s.screen.window) : Early s' := by
  obtain ⟨added, hadded, hunshown⟩ := hasked
  refine ⟨fun e he => ?_, hwindow ▸ h.owed, hwindow ▸ h.flags, fun hfullscreen => ?_⟩
  · rw [hadded] at he
    exact (List.mem_append.mp he).elim (hunshown e) (h.unshown e)
  · obtain ⟨e, he, hentered⟩ := h.entered (hwindow ▸ hfullscreen)
    exact ⟨e, hadded ▸ List.mem_append_right _ he, hentered⟩

/-- A render changes nothing before there is a frame. -/
theorem render {refresh : Bool} (h : Early s) (hf : s.screen.hasFrame = false)
    (hs : s.render host refresh = .ok s') : Early s' := by
  rcases render_ok hs with ⟨-, rfl⟩ | ⟨he, -⟩
  · exact h
  · exact Bool.noConfusion (hf.symm.trans he)

theorem setContentSize {size : Size} (h : Early s) (hf : s.screen.hasFrame = false)
    (hs : s.setContentSize host size = .ok s') : Early s' ∧ s'.screen.hasFrame = false := by
  rcases setContentSize_ok hs with rfl | ⟨he, -⟩
  · exact ⟨h.keep (.update _) rfl, hf⟩
  · exact Bool.noConfusion (hf.symm.trans he)

theorem setOrientation {o : Orientation} (h : Early s) (hf : s.screen.hasFrame = false)
    (hs : s.setOrientation host o = .ok s') : Early s' := by
  rcases setOrientation_ok hs with ⟨-, rfl⟩ | ⟨t, ht, hr⟩
  · exact h
  · have ⟨hearly, hf⟩ := h.setContentSize hf ht
    have hturned : Early (t.update ({ · with orientation := o })) := hearly.keep (.update _) rfl
    exact hturned.render hf hr

theorem toggleFullscreen (h : Early s) (hf : s.screen.hasFrame = false)
    (hs : s.toggleFullscreen host = .ok s') : Early s' := by
  rcases toggleFullscreen_unshown hf h.owed hs with ⟨-, rfl⟩ | ⟨haccepted, rfl⟩
  · exact h.keep (.request fun _ _ => rfl) rfl
  · let turned := s.screen.window.onFullscreenToggled s.screen.contentSize
    have hflags : turned.2.flags =
        { s.screen.window.flags with fullscreen := !s.screen.window.flags.fullscreen } :=
      Resizing.flags_takePending _ _
    refine ⟨fun e he => ?_, Resizing.deferred_takePending h.owed, ?_, fun hfullscreen => ?_⟩
    · exact (List.mem_cons.mp he).elim (fun he => he ▸ rfl) (h.unshown e)
    · show turned.2.flags = { fullscreen := turned.2.flags.fullscreen }
      rw [hflags, h.flags]
    · have hentered : (!s.screen.window.flags.fullscreen) = true :=
        (congrArg WindowFlags.fullscreen hflags).symm.trans hfullscreen
      exact ⟨_, List.mem_cons_self, congrArg Request.setFullscreen hentered, haccepted⟩

theorem updatePanel {update : Panel.Update} (h : Early s) (hf : s.screen.hasFrame = false)
    (hs : s.updatePanel host update = .ok s') : Early s' := by
  rcases updatePanel_ok hs with rfl | ⟨overlay, cursor, -, hr⟩
  · exact h
  · have ⟨_, _, _, hscreen⟩ := applyCursorIfAny_effect (s.setOverlay overlay) host cursor
    have hasked : Asked (·.request.needsFrame = false) (s.setOverlay overlay) _ :=
      applyCursorIfAny_asked _ host cursor fun _ _ _ => rfl
    have hupdated : Early ((s.setOverlay overlay).applyCursorIfAny host cursor) :=
      h.keep ((Asked.update _).trans hasked) (by rw [hscreen]; rfl)
    exact hupdated.render (by rw [hscreen]; exact hf) hr

theorem ofView {op : Operation} (h : Early s) (hf : s.screen.hasFrame = false)
    (hs : s.CarriedOut host s' op) (hop : op.isOfView = true) : Early s' := by
  have hno {P : Prop} (he : s.screen.hasFrame = true) : P := Bool.noConfusion (hf.symm.trans he)
  cases op with
  | announce _ | push _ | dropProducer | dropConsumer | pump | notice _ | prepare _ | setPaused _
  | startRate | stopRate => cases hop
  | render refresh => exact h.render hf hs
  | windowEvent event =>
    rcases handleWindowEvent_ok hs with rfl | ⟨he, -⟩
    · exact h
    · exact hno he
  | pointer event =>
    rcases handlePointer_ok hs with ⟨-, rfl⟩ | ⟨he, -⟩
    · exact h
    · exact hno he
  | setOrientation o => exact h.setOrientation hf hs
  | toggleFullscreen => exact h.toggleFullscreen hf hs
  | resizeToFit =>
    rcases resizeToFit_ok hs with rfl | ⟨⟨he, -⟩, -⟩
    · exact h
    · exact hno he
  | resizeToPixelPerfect =>
    rcases resizeToPixelPerfect_ok hs with rfl | ⟨⟨he, -⟩, -⟩
    · exact h
    · exact hno he
  | hide | raise | setOnTop onTop | panelClick id => exact hs ▸ h.keep (.tell fun _ _ => rfl) rfl
  | updatePanel visible buttons | panelMessage text =>
    rcases hs with rfl | ⟨update, -, hs⟩
    · exact h
    · exact h.updatePanel hf hs
  | map point => exact hs ▸ h

theorem prepareForFrame {size : Size} {r : Outcome} (h : Early s) (hf : s.screen.hasFrame = false)
    (hs : s.prepareForFrame host size = .ok (r, s')) : Early s' ∧ s'.screen.hasFrame = false := by
  rcases prepareForFrame_ok hs with ⟨-, -, rfl⟩ | ⟨t, u, ht, hu, hr⟩
  · exact ⟨h, hf⟩
  · have hframe : Early (s.update ({ · with frameSize := size })) := h.keep (.update _) rfl
    have ⟨hsized, hf⟩ := hframe.setContentSize hf ht
    obtain ⟨rect, rfl⟩ := layOut_effect hu
    obtain rfl := congrArg Prod.snd hr
    exact ⟨hsized.keep ((Asked.update _).trans (.request fun _ _ => rfl)) rfl, hf⟩

/-- The first size that the window gets. -/
theorem firstSizing (h : Early s) (r : Request) (outcome : Outcome) (resized : Bool) :
    s.screen.window.flags.isWindowed = true ∨
      Entry.FirstSizing ⟨r, outcome, s.screen.window.flags, resized⟩ s.journal := by
  cases hfullscreen : s.screen.window.flags.fullscreen with
  | false =>
    rw [h.flags, hfullscreen]
    exact .inl rfl
  | true => exact .inr ⟨by rw [h.flags, hfullscreen], h.unshown, h.entered hfullscreen⟩

end Early

/-! ## Every run -/

/-- The window was left alone as it should, and before the first frame it still is
as it was, but for fullscreen. -/
structure Sparing (s : Session σ) : Prop where
  spared : Throughout Entry.SparesAfter s.journal
  early : s.screen.hasFrame = false → Early s

namespace Sparing

theorem prepareForFrame {size : Size} {r : Outcome} (h : Sparing s)
    (hs : s.prepareForFrame host size = .ok (r, s')) : Sparing s' := by
  refine ⟨?_, fun hf => ?_⟩
  · rcases prepareForFrame_asked hs with ⟨-, -, rfl⟩ | ⟨t, hasked, hr⟩
    · exact h.spared
    · obtain rfl := congrArg Prod.snd hr
      exact (h.spared.asked hasked fun _ hview => hview.spares.after).cons nofun
  · have hf : s.screen.hasFrame = false := by
      rcases (prepareForFrame_effect hs).2 with ⟨-, rfl⟩ | ⟨window, rect, hscreen⟩
      · exact hf
      · rw [hscreen] at hf
        exact hf
    exact ((h.early hf).prepareForFrame hf hs).1

theorem showUploaded (h : Sparing s) (hs : s.showUploaded host = .ok s') : Sparing s' := by
  obtain ⟨-, window, rect, sent, started, now, rate, -, -, hscreen⟩ := showUploaded_effect hs
  refine ⟨?_, fun hf => by rw [hscreen] at hf; cases hf⟩
  obtain ⟨t, ht, hasked⟩ := showUploaded_asked hs
  -- Only the first size is asked for whatever the flags are.
  have htspared : Throughout Entry.SparesAfter t.journal := by
    rcases ht with rfl | ⟨hf, size, rfl⟩
    · exact h.spared
    · exact h.spared.cons fun _ _ => (h.early hf).firstSizing _ _ _
  exact htspared.asked hasked fun _ hview => hview.spares.after

theorem applyFrame {frame : VideoFrame} {r : Except DisplayError Unit} (h : Sparing s)
    (hs : s.applyFrame host frame = .ok (r, s')) : Sparing s' := by
  obtain ⟨prepared, t, hp, hs⟩ := applyFrame_ok hs
  have ht := h.prepareForFrame hp
  have hu : Sparing (t.request host (.updateTexture frame)).2 :=
    ⟨ht.spared.cons nofun, fun hf => (ht.early hf).keep (.request fun _ _ => rfl) rfl⟩
  rcases hs with ⟨-, rfl⟩ | ⟨-, ⟨-, rfl⟩ | ⟨-, hs⟩⟩
  · exact ht
  · exact hu
  · exact hu.showUploaded hs

theorem kept (host : Host σ) : Kept host Sparing where
  opened startup w := ⟨.nil, fun _ => .opened startup w⟩
  still h hjournal hscreen := by
    refine ⟨hjournal ▸ h.spared, fun hf => ?_⟩
    rw [hscreen] at hf
    exact (h.early hf).keep (.of_journal hjournal) (by rw [hscreen])
  view h hs hop := by
    refine ⟨h.spared.asked (hs.asked hop) fun _ hview => hview.spares.after, fun hf => ?_⟩
    obtain ⟨-, _, _, _, _, _, _, -, hscreen⟩ := hs.ofView hop
    rw [hscreen] at hf
    exact (h.early hf).ofView hf hs hop
  initSize h hs := by
    obtain ⟨hf, rfl⟩ := initSize_ok hs
    exact ⟨h.spared.cons nofun,
      fun _ => (h.early hf).keep ((Asked.update _).trans (.request fun _ _ => rfl)) rfl⟩
  prepareForFrame h hs := h.prepareForFrame hs
  applyFrame h hs := h.applyFrame hs

end Sparing

/-- **A constrained window is not resized.** Whenever a view asks for another size of
its window, nothing constrains it at that moment, unless it is the first size and the
window was sent to fullscreen before any frame was shown. -/
theorem run_resizes {startup : Startup} {w : σ} {events : List (Event σ)}
    (hrun : (Session.start host startup w).run host events = .ok s) {e : Entry} {earlier : List Entry}
    (he : e :: earlier <:+ s.journal) {size : Size} (hsize : e.request = .setSize size) :
    e.flags.isWindowed = true ∨ e.FirstSizing earlier :=
  ((Sparing.kept host).run hrun).spared e earlier he size hsize

/-- The content is turned while the window is maximized, and then shown pixel by pixel. -/
def maximizedRun : List (Event Size) :=
  [.operation (.announce ⟨4, 2⟩), .operation (.push ⟨⟨4, 2⟩, []⟩), .operation .pump,
    .operation (.windowEvent .maximized), .operation (.setOrientation ⟨false, .deg90⟩),
    .operation .resizeToPixelPerfect]

theorem run_resizes_maximized : ∃ s e earlier,
    (Session.start cappedHost {} ⟨800, 600⟩).run cappedHost maximizedRun = .ok s ∧
      e :: earlier <:+ s.journal ∧ e.request = .setSize ⟨2, 4⟩ ∧
      (e.flags.isWindowed = true ∨ e.FirstSizing earlier) := by
  have hsized : ((Session.start cappedHost {} ⟨800, 600⟩).run cappedHost maximizedRun).toOption.any
      (decide <| ∃ e ∈ ·.journal, e.request = .setSize ⟨2, 4⟩) = true := by decide +kernel
  obtain ⟨s, hrun, hsized⟩ := Except.exists_of_any hsized
  obtain ⟨e, hmem, hsize⟩ := of_decide_eq_true hsized
  obtain ⟨later, earlier, hjournal⟩ := List.append_of_mem hmem
  have he : e :: earlier <:+ s.journal := ⟨later, hjournal.symm⟩
  exact ⟨s, e, earlier, hrun, he, hsize, run_resizes hrun he hsize⟩

/-- The window is sent to fullscreen, and then the first frame comes. -/
def fullscreenFirst : List (Event Size) :=
  [.operation .toggleFullscreen, .operation (.announce ⟨800, 600⟩), .operation (.push ⟨⟨800, 600⟩, []⟩),
    .operation .pump]

/-- The exception is real: the fullscreen window is sized. -/
theorem fullscreen_window_sized : ∃ s,
    (Session.start cappedHost {} ⟨800, 600⟩).run cappedHost fullscreenFirst = .ok s ∧
      ∃ e ∈ s.journal, e.request = .setSize ⟨800, 600⟩ ∧ e.flags.isWindowed = false := by
  have hsized : ((Session.start cappedHost {} ⟨800, 600⟩).run cappedHost fullscreenFirst).toOption.any
      (decide <| ∃ e ∈ ·.journal, e.request = .setSize ⟨800, 600⟩ ∧ e.flags.isWindowed = false) = true := by
    decide +kernel
  obtain ⟨s, hrun, hsized⟩ := Except.exists_of_any hsized
  exact ⟨s, hrun, of_decide_eq_true hsized⟩

end Session

end RemoteView
