/-
What the view pays no attention to. Only the calls that bring frames to the display look
at the feed, at the meter, and at whether the view is paused. Every other part of an
operation does the same whatever these are (`Session.withAside`).
-/
import Mathlib.Control.Basic
import RemoteView.Proofs.Screen.Effects.Operation

namespace RemoteView

variable {σ : Type}

/-- What has to do with frames that are not shown yet, and with their counts. -/
structure Aside where
  rate : FrameRate
  skippedSeen : UInt64
  paused : Bool
  held : Option VideoFrame
  feed : Feed

/-- Whether the operation changes the aside. -/
def Operation.isAboutAside : Operation → Bool
  | announce _ | push _ | dropProducer | dropConsumer | pump | notice .newFrame | setPaused _ | startRate
  | stopRate => true
  | _ => false

namespace Session

variable {host : Host σ} {s s' : Session σ} {x : Aside}

def aside (s : Session σ) : Aside :=
  ⟨s.screen.rate, s.screen.skippedSeen, s.screen.paused, s.screen.held, s.feed⟩

/-- The session with another aside. -/
def withAside (s : Session σ) (x : Aside) : Session σ :=
  { s with
    screen := { s.screen with rate := x.rate, skippedSeen := x.skippedSeen, paused := x.paused, held := x.held }
    feed := x.feed }

theorem request_withAside (r : Request) :
    (s.withAside x).request host r = ((s.request host r).1, (s.request host r).2.withAside x) := rfl

/-- What a part brings about that pays no attention to the aside, which can be changed in it
by `onto`. -/
theorem of_unaffected {α : Type} (part : Session σ → Except Fault α) {onto : Aside → α → α} {a : α}
    (hpart : ∀ x, part (s.withAside x) = onto x <$> part s) (h : part s = .ok a) :
    a = onto s.aside a ∧ ∀ x, part (s.withAside x) = .ok (onto x a) := by
  have hall (x : Aside) : part (s.withAside x) = .ok (onto x a) := by
    rw [hpart, h]
    rfl
  have hagain : part s = .ok (onto s.aside a) := hall s.aside
  exact ⟨Except.ok.inj (h.symm.trans hagain), hall⟩

/-- A part whose second half goes on with the session. -/
theorem bind_withAside {first first' : Except Fault (Session σ)} {rest : Session σ → Except Fault (Session σ)}
    (hfirst : first' = (·.withAside x) <$> first)
    (hrest : ∀ s, rest (s.withAside x) = (·.withAside x) <$> rest s) :
    first' >>= rest = (·.withAside x) <$> (first >>= rest) := by
  rw [hfirst, bind_map_left, map_bind]
  simp only [hrest]

theorem layOut_withAside : (s.withAside x).layOut host = (·.withAside x) <$> s.layOut host := by
  show (if s.screen.contentSize.isEmpty then _ else _) = _ <$> (if s.screen.contentSize.isEmpty then _ else _)
  split
  · rfl
  · simp only [map_bind, map_pure]
    rfl

theorem announceReady_withAside : (s.withAside x).announceReady host = (s.announceReady host).withAside x := by
  show (if s.screen.readySent then _ else _) = withAside (if s.screen.readySent then _ else _) x
  split
  · rfl
  · rfl

theorem present_withAside : (s.withAside x).present host = (·.withAside x) <$> s.present host := by
  simp only [present, map_bind, map_pure, ← announceReady_withAside]
  rfl

theorem render_withAside (refresh : Bool) :
    (s.withAside x).render host refresh = (·.withAside x) <$> s.render host refresh := by
  show (if !s.screen.hasFrame then _ else _) = _ <$> (if !s.screen.hasFrame then _ else _)
  split
  · rfl
  · split
    · exact bind_withAside layOut_withAside fun _ => present_withAside
    · exact present_withAside

theorem resizeForContent_withAside (change : ResizeRequest) :
    (s.withAside x).resizeForContent host change = (·.withAside x) <$> s.resizeForContent host change := by
  simp only [resizeForContent, map_bind, map_pure]
  rfl

theorem resizeIfDue_withAside (change : Option ResizeRequest) :
    (s.withAside x).resizeIfDue host change = (·.withAside x) <$> s.resizeIfDue host change := by
  cases change with
  | none => rfl
  | some change => exact resizeForContent_withAside change

theorem setContentSize_withAside (size : Size) :
    (s.withAside x).setContentSize host size = (·.withAside x) <$> s.setContentSize host size := by
  simp only [setContentSize]
  show (if !s.screen.hasFrame || s.screen.contentSize.isEmpty then _ else _) =
    _ <$> (if !s.screen.hasFrame || s.screen.contentSize.isEmpty then _ else _)
  split
  · rfl
  · rw [← resizeIfDue_withAside]
    rfl

theorem setOrientation_withAside (o : Orientation) :
    (s.withAside x).setOrientation host o = (·.withAside x) <$> s.setOrientation host o := by
  unfold setOrientation
  show (if o = s.screen.orientation then _ else _) = _ <$> (if o = s.screen.orientation then _ else _)
  split
  · rfl
  · refine bind_withAside (setContentSize_withAside _) fun t => ?_
    exact render_withAside (s := t.update ({ · with orientation := o })) true

theorem toggleFullscreen_withAside :
    (s.withAside x).toggleFullscreen host = (·.withAside x) <$> s.toggleFullscreen host := by
  simp only [toggleFullscreen, request_withAside]
  let asked := s.request host (.setFullscreen (!s.screen.window.flags.fullscreen))
  show (if asked.1 = .error then _ else _) = _ <$> (if asked.1 = .error then _ else _)
  split
  · rfl
  · let turned := asked.2.screen.window.onFullscreenToggled asked.2.screen.contentSize
    exact bind_withAside (resizeIfDue_withAside (s := asked.2.setWindow turned.2) turned.1) fun _ =>
      render_withAside true

theorem resizeToFit_withAside :
    (s.withAside x).resizeToFit host = (·.withAside x) <$> s.resizeToFit host := by
  unfold resizeToFit
  show (if !s.screen.hasFrame || !s.screen.window.isWindowed then _ else _) =
    _ <$> (if !s.screen.hasFrame || !s.screen.window.isWindowed then _ else _)
  split
  · rfl
  · simp only [map_bind, map_pure]
    rfl

theorem resizeToPixelPerfect_withAside :
    (s.withAside x).resizeToPixelPerfect host = (·.withAside x) <$> s.resizeToPixelPerfect host := by
  simp only [resizeToPixelPerfect]
  let flags := s.screen.window.flags
  show (if !s.screen.hasFrame || flags.fullscreen || flags.minimized then _ else _) =
    _ <$> (if !s.screen.hasFrame || flags.fullscreen || flags.minimized then _ else _)
  split
  · rfl
  · cases hmaximized : flags.maximized with
    | false | true =>
      have hmaximized' : (s.withAside x).screen.window.flags.maximized = _ := hmaximized
      simp only [hmaximized', map_bind, map_pure]
      rfl

theorem handleWindowEvent_withAside (event : WindowEvent) :
    (s.withAside x).handleWindowEvent host event = (·.withAside x) <$> s.handleWindowEvent host event := by
  unfold handleWindowEvent
  show (if !s.screen.hasFrame then _ else _) = _ <$> (if !s.screen.hasFrame then _ else _)
  split
  · rfl
  · cases event with
    | exposed | sizeChanged => exact render_withAside true
    | maximized | minimized => rfl
    | restored =>
      rcases hrestored : s.screen.window.onRestored s.screen.contentSize with ⟨answer, window⟩
      have hrestored' : (s.withAside x).screen.window.onRestored (s.withAside x).screen.contentSize =
          (answer, window) := hrestored
      simp only [hrestored']
      cases answer with
      | ignored => rfl
      | restored change =>
        exact bind_withAside (resizeIfDue_withAside (s := s.setWindow window) change) fun _ => render_withAside true

theorem applyCursor_withAside (shape : Panel.CursorShape) :
    (s.withAside x).applyCursor host shape = (s.applyCursor host shape).withAside x := by
  simp only [applyCursor, request_withAside]
  show (if (s.request host (.setCursor shape)).1 = .error then _ else _) =
    withAside (if (s.request host (.setCursor shape)).1 = .error then _ else _) x
  split
  · rfl
  · rfl

theorem applyCursorIfAny_withAside (shape : Option Panel.CursorShape) :
    (s.withAside x).applyCursorIfAny host shape = (s.applyCursorIfAny host shape).withAside x := by
  cases shape with
  | none => rfl
  | some shape => exact applyCursor_withAside shape

theorem forward_withAside (event : PointerEvent) :
    (s.withAside x).forward host event = (·.withAside x) <$> s.forward host event := by
  simp only [forward, map_bind, map_pure]
  rfl

theorem performAction_withAside (event : PointerEvent) (action : Panel.Action) :
    (s.withAside x).performAction host event action = (·.withAside x) <$> s.performAction host event action := by
  cases action with
  | pass | forwardThenSwallow => exact forward_withAside event
  | swallow | activate id => rfl
  | releaseThenSwallow release => exact forward_withAside release

theorem handlePointer_withAside (event : PointerEvent) :
    (s.withAside x).handlePointer host event = (·.withAside x) <$> s.handlePointer host event := by
  unfold handlePointer
  show (if !s.screen.hasFrame then _ else _) = _ <$> (if !s.screen.hasFrame then _ else _)
  split
  · rfl
  · simp only [map_bind, ← performAction_withAside, ← applyCursorIfAny_withAside]
    rfl

theorem updatePanel_withAside (update : Panel.Update) :
    (s.withAside x).updatePanel host update = (·.withAside x) <$> s.updatePanel host update := by
  simp only [updatePanel]
  show (if !s.screen.startup.panelShow then _ else _) = _ <$> (if !s.screen.startup.panelShow then _ else _)
  split
  · rfl
  · rw [← render_withAside, ← applyCursorIfAny_withAside]
    rfl

theorem updatePanelMessage_withAside (text : String) :
    (s.withAside x).updatePanelMessage host text =
      Prod.map id (·.withAside x) <$> s.updatePanelMessage host text := by
  unfold updatePanelMessage
  split
  · rfl
  · rfl
  · simp only [updatePanel_withAside, bind_map_left, map_bind, map_pure]
    rfl

theorem initSize_withAside (size : Size) :
    (s.withAside x).initSize host size = Prod.map id (·.withAside x) <$> s.initSize host size := by
  simp only [initSize]
  show (if s.screen.hasFrame then _ else _) = _ <$> (if s.screen.hasFrame then _ else _)
  split
  · rfl
  · rfl

theorem prepareForFrame_withAside (size : Size) :
    (s.withAside x).prepareForFrame host size = Prod.map id (·.withAside x) <$> s.prepareForFrame host size := by
  simp only [prepareForFrame]
  show (if s.screen.frameSize = size then _ else _) = _ <$> (if s.screen.frameSize = size then _ else _)
  split
  · rfl
  · let content := s.screen.orientation.orientedSize size
    have hcontent : ((s.update ({ · with frameSize := size })).withAside x).setContentSize host content =
      (·.withAside x) <$> (s.update ({ · with frameSize := size })).setContentSize host content :=
        setContentSize_withAside content
    show (do
      let t ← ((s.update ({ · with frameSize := size })).withAside x).setContentSize host content
      let t ← t.layOut host
      return t.request host (.setTextureSize size)) = _
    rw [hcontent]
    simp only [bind_map_left, layOut_withAside, map_bind, map_pure]
    rfl

theorem replyDone_withAside {first first' : Except Fault (Session σ)} (hfirst : first' = (·.withAside x) <$> first) :
    (return (← first').replyDone) = Prod.map id (·.withAside x) <$> (return (← first).replyDone) := by
  simp only [hfirst, bind_map_left, map_bind, map_pure]
  rfl

/-- An operation replies the same and does the same, whatever the aside is, unless it is
about the aside. -/
theorem apply_withAside {op : Operation} (hop : op.isAboutAside = false) :
    (s.withAside x).apply host op = Prod.map id (·.withAside x) <$> s.apply host op := by
  cases op with
  | announce _ | push _ | dropProducer | dropConsumer | pump | setPaused _ | startRate | stopRate => cases hop
  | notice notice =>
    cases notice with
    | newFrame => cases hop
    | initSize size =>
      simp only [apply, handleNotice, initSize_withAside, bind_map_left, map_bind, map_pure]
      rfl
  | prepare size =>
    simp only [apply, prepareForFrame_withAside, bind_map_left, map_bind, map_pure]
    rfl
  | render refresh => exact replyDone_withAside (render_withAside refresh)
  | windowEvent event => exact replyDone_withAside (handleWindowEvent_withAside event)
  | pointer event => exact replyDone_withAside (handlePointer_withAside event)
  | setOrientation o => exact replyDone_withAside (setOrientation_withAside o)
  | toggleFullscreen => exact replyDone_withAside toggleFullscreen_withAside
  | resizeToFit => exact replyDone_withAside resizeToFit_withAside
  | resizeToPixelPerfect => exact replyDone_withAside resizeToPixelPerfect_withAside
  | hide | raise | setOnTop onTop | panelClick id => rfl
  | updatePanel visible buttons =>
    simp only [apply]
    split
    · rfl
    next update _ => exact replyDone_withAside (updatePanel_withAside update)
  | panelMessage text =>
    simp only [apply, updatePanelMessage_withAside, bind_map_left, map_bind]
    congr 1
    funext r
    obtain ⟨answer, t⟩ := r
    cases answer with
    | error e | ok forPanel => rfl
  | map point =>
    simp only [apply, map_bind, map_pure]
    rfl

end Session

end RemoteView
