/-
No picture is stale. Whenever a session has shown a frame, the last scene that it
drew is the one that its state and its window determine at that moment
(`run_current`), as long as the changes of the window that the view does not make
up for by itself are told to it at once.
-/
import RemoteView.Proofs.Orientation
import RemoteView.Proofs.Screen.FrameSizes
import RemoteView.Proofs.Screen.Picture.Current

namespace RemoteView

variable {σ : Type}

/-- A display that is always ready and takes every frame. -/
structure Host.DisplayReady (host : Host σ) : Prop where
  texture : ∀ size w, (host.perform (.setTextureSize size) w).1 = .ok
  upload : ∀ frame w, (host.perform (.updateTexture frame) w).1 = .ok

/-- Whether the event tells the view to look at the sizes of its window. -/
def Event.isAnnouncement : Event σ → Bool
  | .operation (.windowEvent .sizeChanged) | .operation (.windowEvent .exposed) => true
  | _ => false

/-- A size with pixels. -/
def Size.HasPixels (s : Size) : Prop := s.isEmpty = false

namespace Session

variable {host : Host σ} {s s' t : Session σ}

/-- Whether a window with a picture changed size, and is fullscreen no more and no less than it was. -/
def movedUnswitched (host : Host σ) (s s' : Session σ) : Bool :=
  s.screen.hasFrame && s'.screen.window.flags.fullscreen == s.screen.window.flags.fullscreen &&
    host.sizes s'.outside != host.sizes s.outside

/-- The picture is current, if there is one. -/
def UpToDate (host : Host σ) (s : Session σ) : Prop := s.screen.hasFrame = true → s.Current host

theorem Framed.hasContent (h : Framed Size.HasPixels s) (hf : s.screen.hasFrame = true) :
    s.screen.contentSize.isEmpty = false := by
  rw [h.content, Orientation.isEmpty_orientedSize]
  exact h.shown hf

namespace UpToDate

/-- A part that asks nothing of importance and changes no field that matters. -/
theorem quiet {window rate sent paused held seen overlay} (h : s.UpToDate host) (hq : Quiet host s s')
    (hcalm : s'.strays = s.strays) (hpanel : overlay.panel = s.screen.overlay.panel)
    (hscreen : s'.screen = { s.screen with
      window, rate, readySent := sent, paused, held, skippedSeen := seen, overlay }) : s'.UpToDate host := by
  intro hf
  rw [hscreen] at hf
  have halike : Alike host s s' := .of_screen (hq.sizes hcalm) hpanel hscreen
  exact halike.current hq.scene (h hf)

theorem render {refresh : Bool} (h : s.UpToDate host) (hsizes : Framed Size.HasPixels s)
    (hs : s.render host refresh = .ok s') (hcalm : s'.strays = s.strays) : s'.UpToDate host := by
  rcases render_ok hs with ⟨-, rfl⟩ | ⟨hf, ⟨rfl, -⟩ | ⟨-, hp⟩⟩
  · exact h
  · exact fun _ => render_current hf (hsizes.hasContent hf) hs hcalm
  · exact fun _ => present_current (h hf).laid hp hcalm

/-- Whatever was done before, it does not matter once the view is drawn anew. -/
theorem redrawn (hgrown : s.journal <:+ t.journal)
    (hcontent : t.screen.hasFrame = true → t.screen.contentSize.isEmpty = false)
    (hr : t.render host true = .ok s') (hcalm : s'.strays = s.strays) : s'.UpToDate host := by
  have ⟨hlater, rect, sent, hscreen⟩ := render_effect hr
  have hle := strays_le hgrown
  have hle' := strays_le hlater.journal
  intro hf
  have hf : t.screen.hasFrame = true := by
    rw [hscreen] at hf
    exact hf
  exact render_current hf (hcontent hf) hr (by omega)

/-! ## The window and the pointer -/

/-- The view catches up with a change of the window, however late it was. -/
theorem caughtUp {event : WindowEvent} (hevent : event = .sizeChanged ∨ event = .exposed)
    (hsizes : Framed Size.HasPixels s) (hs : s.handleWindowEvent host event = .ok s')
    (hcalm : s'.strays = s.strays) : s'.UpToDate host := by
  unfold Session.handleWindowEvent at hs
  split at hs
  next hf =>
    obtain rfl := Except.pure_ok_iff.mp hs
    exact fun hf' => by simp [hf'] at hf
  next =>
    have hr : s.render host true = .ok s' := by rcases hevent with rfl | rfl <;> exact hs
    exact redrawn List.suffix_rfl hsizes.hasContent hr hcalm

theorem handleWindowEvent {event : WindowEvent} (h : s.UpToDate host) (hsizes : Framed Size.HasPixels s)
    (hs : s.handleWindowEvent host event = .ok s') (hcalm : s'.strays = s.strays) : s'.UpToDate host := by
  rcases handleWindowEvent_ok hs with rfl | ⟨-, ⟨window, rfl⟩ | ⟨window, change, t, -, ht, hr⟩⟩
  · exact h
  · exact h.quiet (.update _) rfl rfl rfl
  · have ⟨hlater, hscreen⟩ := resizeIfDue_effect ht
    exact redrawn hlater.journal (by rw [hscreen]; exact hsizes.hasContent) hr hcalm

theorem handlePointer {event : PointerEvent} (h : s.UpToDate host)
    (hs : s.handlePointer host event = .ok s') (hcalm : s'.strays = s.strays) : s'.UpToDate host := by
  obtain ⟨-, overlay, hpanel, hscreen⟩ := handlePointer_effect hs
  exact h.quiet (handlePointer_quiet hs) hcalm hpanel hscreen

/-- A refused switch leaves the picture alone, as a resize for the user does. -/
theorem toggleFullscreen (h : s.UpToDate host) (hsizes : Framed Size.HasPixels s)
    (hs : s.toggleFullscreen host = .ok s') (hcalm : s'.strays = s.strays)
    (hswitched : s.movedUnswitched host s' = false) : s'.UpToDate host := by
  rcases toggleFullscreen_ok hs with ⟨-, rfl⟩ | ⟨-, t, ht, hr⟩
  · intro hf
    have hf : s.screen.hasFrame = true := hf
    have hsame : host.sizes (s.tell host (.setFullscreen (!s.screen.window.flags.fullscreen))).outside =
        host.sizes s.outside := by
      simpa [movedUnswitched, hf, tell] using hswitched
    have halike : Alike host s (s.tell host (.setFullscreen (!s.screen.window.flags.fullscreen))) :=
      .of_screen hsame rfl rfl
    exact halike.current rfl (h hf)
  · have ⟨hlater, hscreen⟩ := resizeIfDue_effect ht
    exact redrawn ((List.suffix_cons _ _).trans hlater.journal) (by rw [hscreen]; exact hsizes.hasContent) hr
      hcalm

theorem setOrientation {o : Orientation} (h : s.UpToDate host) (hsizes : Framed Size.HasPixels s)
    (hs : s.setOrientation host o = .ok s') (hcalm : s'.strays = s.strays) : s'.UpToDate host := by
  rcases setOrientation_ok hs with ⟨-, rfl⟩ | ⟨t, ht, hr⟩
  · exact h
  · have ⟨hlater, window, hscreen⟩ := setContentSize_effect ht
    have hcontent (hf : s.screen.hasFrame = true) : (o.orientedSize s.screen.frameSize).isEmpty = false := by
      rw [Orientation.isEmpty_orientedSize]
      exact hsizes.shown hf
    exact redrawn (t := t.update _) hlater.journal (by rw [screen_update, hscreen]; exact hcontent) hr hcalm

theorem updatePanel {update : Panel.Update} (h : s.UpToDate host) (hsizes : Framed Size.HasPixels s)
    (hs : s.updatePanel host update = .ok s') (hcalm : s'.strays = s.strays) : s'.UpToDate host := by
  rcases updatePanel_ok hs with rfl | ⟨overlay, cursor, -, hr⟩
  · exact h
  · have ⟨hlater, _, _, hscreen⟩ := applyCursorIfAny_effect (s.setOverlay overlay) host cursor
    exact redrawn hlater.journal (by rw [hscreen]; exact hsizes.hasContent) hr hcalm

/-- A resize that the user asked for leaves the picture alone, so it is right only
if the window has the sizes that it had before. -/
theorem resizeToFit (h : s.UpToDate host) (hs : s.resizeToFit host = .ok s')
    (hsame : host.sizes s'.outside = host.sizes s.outside) : s'.UpToDate host := by
  rcases resizeToFit_ok hs with rfl | ⟨-, size, x, y, rfl⟩
  · exact h
  · have halike : Alike host s ((s.tell host (.setSize size)).tell host (.setPosition x y)) :=
      .of_screen hsame rfl rfl
    exact fun hf => halike.current rfl (h hf)

theorem resizeToPixelPerfect (h : s.UpToDate host) (hs : s.resizeToPixelPerfect host = .ok s')
    (hsame : host.sizes s'.outside = host.sizes s.outside) : s'.UpToDate host := by
  rcases resizeToPixelPerfect_ok hs with rfl | ⟨-, t, size, rfl | rfl, rfl⟩
  · exact h
  · have halike : Alike host t ((t.setWindow t.screen.window.leaveMaximized).tell host (.setSize size)) :=
      .of_screen hsame rfl rfl
    exact fun hf => halike.current rfl (h hf)
  · have halike : Alike host s (((s.tell host .restoreWindow).setWindow
        s.screen.window.leaveMaximized).tell host (.setSize size)) := .of_screen hsame rfl rfl
    exact fun hf => halike.current rfl (h hf)

/-! ## Frames -/

theorem showUploaded (h : s.Laid host ∨ s.screen.hasFrame = false)
    (hcontent : s.screen.contentSize.isEmpty = false) (hs : s.showUploaded host = .ok s')
    (hcalm : s'.strays = s.strays) : s'.UpToDate host := by
  obtain ⟨t, rate, ht, -, hr⟩ := showUploaded_ok hs
  rcases ht with ⟨hf, rfl⟩ | ⟨hf, ht⟩
  · have halike : Alike host t (t.update ({ · with hasFrame := true, rate })) := .of_screen rfl rfl rfl
    have hl : t.Laid host := h.resolve_right (by simp [hf])
    rw [hf] at hr
    rcases render_ok hr with ⟨he, -⟩ | ⟨-, ⟨he, -⟩ | ⟨-, hp⟩⟩
    · cases he
    · cases he
    · exact fun _ => present_current (halike.laid hl) hp hcalm
  · rw [hf] at hr
    obtain ⟨hlater, window, rect, sent, rate, -, hscreen⟩ := showInitialWindow_effect ht
    exact redrawn (t := t.update _) hlater.journal (by rw [screen_update, hscreen]; exact fun _ => hcontent) hr
      hcalm

/-- A display that is ready is always prepared, and then the content lies where
it belongs, unless it is still to be laid out for the first frame. -/
theorem prepareForFrame {size : Size} {r : Outcome} (ready : host.DisplayReady) (h : s.UpToDate host)
    (hsize : size.HasPixels) (hs : s.prepareForFrame host size = .ok (r, s')) (hcalm : s'.strays = s.strays) :
    r = .ok ∧ (s'.Laid host ∨ s'.screen.hasFrame = false) := by
  rcases prepareForFrame_ok hs with ⟨-, rfl, rfl⟩ | ⟨t, u, ht, hu, hr⟩
  · cases hf : s'.screen.hasFrame with
    | true => exact ⟨rfl, .inl (h hf).laid⟩
    | false => exact ⟨rfl, .inr rfl⟩
  · obtain ⟨rfl, rfl⟩ := Prod.mk.inj hr
    have ⟨hlater, window, hscreen⟩ := setContentSize_effect ht
    have hcontent : t.screen.contentSize.isEmpty = false := by
      rw [hscreen]
      exact (Orientation.isEmpty_orientedSize _ _).trans hsize
    have hlaid := layOut_laid hcontent hu
    obtain ⟨rect, rfl⟩ := layOut_effect hu
    have hquiet : Quiet host (t.update ({ · with contentRect := rect }))
        ((t.update ({ · with contentRect := rect })).request host (.setTextureSize size)).2 :=
      .request rfl fun _ _ => rfl
    have hle : s.strays ≤ t.strays := strays_le hlater.journal
    have hle' := hquiet.strays
    have hsame := hquiet.sizes (Nat.le_antisymm (hcalm ▸ hle) hle')
    have halike : Alike host (t.update ({ · with contentRect := rect }))
        ((t.update ({ · with contentRect := rect })).request host (.setTextureSize size)).2 :=
      .of_screen hsame rfl rfl
    exact ⟨ready.texture _ _, .inl (halike.laid hlaid)⟩

theorem applyFrame {frame : VideoFrame} {r : Except DisplayError Unit} (ready : host.DisplayReady)
    (h : s.UpToDate host) (hsizes : Framed Size.HasPixels s) (hframe : frame.size.HasPixels)
    (hs : s.applyFrame host frame = .ok (r, s')) (hcalm : s'.strays = s.strays) : s'.UpToDate host := by
  obtain ⟨prepared, t, hp, hs⟩ := applyFrame_ok hs
  have ⟨ht, hsize⟩ := hsizes.prepareForFrame hframe hp
  have hcontent : t.screen.contentSize.isEmpty = false := by
    rw [ht.content, Orientation.isEmpty_orientedSize]
    exact hsize
  have hgrown : t.journal <:+ s'.journal := by
    rcases hs with ⟨-, rfl⟩ | ⟨-, ⟨-, rfl⟩ | ⟨-, hs⟩⟩
    · exact List.suffix_rfl
    · exact List.suffix_cons _ _
    · exact (List.suffix_cons _ _).trans (showUploaded_effect hs).1.journal
  have hle : s.strays ≤ t.strays := strays_le (prepareForFrame_effect hp).1.journal
  have hle' : t.strays ≤ s'.strays := strays_le hgrown
  obtain ⟨rfl, hl⟩ := h.prepareForFrame ready hframe hp (by omega)
  rcases hs with ⟨he, -⟩ | ⟨-, ⟨he, -⟩ | ⟨-, hs⟩⟩
  · exact (he rfl).elim
  · exact (he (ready.upload _ _)).elim
  · have hquiet : Quiet host t (t.request host (.updateTexture frame)).2 := .request rfl fun _ _ => rfl
    have hstart := hquiet.strays
    have hend : (t.request host (.updateTexture frame)).2.strays ≤ s'.strays :=
      strays_le (showUploaded_effect hs).1.journal
    have halike : Alike host t (t.request host (.updateTexture frame)).2 :=
      .of_screen (hquiet.sizes (by omega)) rfl rfl
    exact showUploaded (hl.imp halike.laid id) hcontent hs (by omega)

theorem handleNotice {notice : Notice} {r : Except DisplayError Unit} (ready : host.DisplayReady)
    (h : s.UpToDate host) (hsizes : Framed Size.HasPixels s)
    (hs : s.handleNotice host notice = .ok (r, s')) (hcalm : s'.strays = s.strays) : s'.UpToDate host := by
  cases notice with
  | initSize size =>
    obtain ⟨hf, rfl⟩ := initSize_ok hs
    exact fun he => Bool.noConfusion (hf.symm.trans he)
  | newFrame =>
    obtain ⟨t, hc, hs⟩ := updateFrame_ok hs
    obtain ⟨rate, -, rfl⟩ := countSkipped_ok hc
    let t := s.update ({ · with rate, skippedSeen := s.feed.slot.skipped })
    have ht : (t.setFeed t.feed.consume.2).UpToDate host :=
      h.quiet ((Quiet.update _).trans (.setFeed _)) rfl rfl rfl
    have htsizes : Framed Size.HasPixels t := hsizes.keep (.update _) rfl
    rcases hs with ⟨-, rfl⟩ | ⟨frame, hpending, ⟨-, rfl⟩ | ⟨-, hs⟩⟩
    · exact ht
    · exact ht.quiet (.update _) rfl rfl rfl
    · exact ht.applyFrame ready htsizes.consume (hsizes.waiting frame hpending) hs hcalm

theorem handleNotices {notices : List Notice} (ready : host.DisplayReady) (h : s.UpToDate host)
    (hsizes : Framed Size.HasPixels s) (hs : s.handleNotices host notices = .ok s')
    (hcalm : s'.strays = s.strays) : s'.UpToDate host := by
  induction notices generalizing s with
  | nil => exact Except.pure_ok_iff.mp hs ▸ h
  | cons notice rest ih =>
    obtain ⟨⟨r, t⟩, ht, hs⟩ := Except.bind_ok_iff.mp hs
    have hle := strays_le (handleNotice_journal ht)
    have hle' := strays_le (handleNotices_journal hs)
    have htcalm : t.strays = s.strays := by omega
    exact ih (h.handleNotice ready hsizes ht htcalm) (hsizes.handleNotice ht) hs (by omega)

theorem setPaused {paused : Bool} {r : Except DisplayError Unit} (ready : host.DisplayReady)
    (h : s.UpToDate host) (hsizes : Framed Size.HasPixels s) (hs : s.setPaused host paused = .ok (r, s'))
    (hcalm : s'.strays = s.strays) : s'.UpToDate host := by
  rcases setPaused_ok hs with rfl | rfl | ⟨frame, hheld, hs⟩
  · exact h
  · exact h.quiet (.update _) rfl rfl rfl
  · have ht : (s.update ({ · with paused, held := none })).UpToDate host := h.quiet (.update _) rfl rfl rfl
    exact ht.applyFrame ready (hsizes.release paused) (hsizes.held frame hheld) hs hcalm

end UpToDate

/-! ## Changes of the window that the view is told of -/

/-- Whether an event left the window with sizes that the view did not follow. The
view follows what it asks for, but not after a resize for the user, and not after
a switch to fullscreen or back that was refused. -/
def unannounced (host : Host σ) (s s' : Session σ) : Event σ → Bool
  | .outside _ | .operation .resizeToFit | .operation .resizeToPixelPerfect =>
    host.sizes s'.outside != host.sizes s.outside
  | .operation .toggleFullscreen => s'.strays != s.strays || s.movedUnswitched host s'
  | .operation _ => s'.strays != s.strays

/-- Whether such an event comes directly after each change that needs one. -/
def announced (host : Host σ) : Session σ → List (Event σ) → Bool
  | _, [] => true
  | s, event :: rest =>
    match s.react host event with
    | .error _ => true
    | .ok s' => (!unannounced host s s' event || rest.head?.any Event.isAnnouncement) && announced host s' rest

theorem UpToDate.operation {op : Operation} (ready : host.DisplayReady) (h : s.UpToDate host)
    (hsizes : Framed Size.HasPixels s) (hop : (Event.operation op : Event σ).OfStream Size.HasPixels)
    (hs : s.CarriedOut host s' op) (hcalm : unannounced host s s' (.operation op) = false) :
    s'.UpToDate host := by
  have told {r : Request} (hscene : r.scene? = none) (hstray : ∀ outcome flags resized,
      Entry.isStray ⟨r, outcome, flags, resized⟩ = resized) (hs : s' = s.tell host r)
      (hcalm : s'.strays = s.strays) : s'.UpToDate host := by
    subst hs
    exact h.quiet (.request hscene (hstray _)) hcalm rfl rfl
  cases op with
  | announce size =>
    rcases hs with rfl | rfl
    · exact h
    · exact h.quiet (.setFeed _) rfl rfl rfl
  | push frame =>
    rcases hs with rfl | ⟨r, feed, -, rfl⟩
    · exact h
    · exact h.quiet (.setFeed _) rfl rfl rfl
  | dropProducer | dropConsumer => exact hs ▸ h.quiet (.setFeed _) rfl rfl rfl
  | pump =>
    rcases hs with rfl | hs
    · exact h
    · have hread : (s.setFeed { s.feed with queue := [] }).UpToDate host := h.quiet (.setFeed _) rfl rfl rfl
      exact hread.handleNotices ready (hsizes.setFeed hsizes.waiting) hs (bne_eq_false_iff_eq.mp hcalm)
  | notice notice =>
    obtain ⟨r, hs⟩ := hs
    exact h.handleNotice ready hsizes hs (bne_eq_false_iff_eq.mp hcalm)
  | prepare size => exact hop.elim
  | setPaused paused =>
    obtain ⟨r, hs⟩ := hs
    exact h.setPaused ready hsizes hs (bne_eq_false_iff_eq.mp hcalm)
  | render refresh => exact h.render hsizes hs (bne_eq_false_iff_eq.mp hcalm)
  | windowEvent event => exact h.handleWindowEvent hsizes hs (bne_eq_false_iff_eq.mp hcalm)
  | pointer event => exact h.handlePointer hs (bne_eq_false_iff_eq.mp hcalm)
  | setOrientation o => exact h.setOrientation hsizes hs (bne_eq_false_iff_eq.mp hcalm)
  | toggleFullscreen =>
    obtain ⟨hcalm, hswitched⟩ := Bool.or_eq_false_iff.mp hcalm
    exact h.toggleFullscreen hsizes hs (bne_eq_false_iff_eq.mp hcalm) hswitched
  | resizeToFit => exact h.resizeToFit hs (bne_eq_false_iff_eq.mp hcalm)
  | resizeToPixelPerfect => exact h.resizeToPixelPerfect hs (bne_eq_false_iff_eq.mp hcalm)
  | hide | raise | setOnTop onTop | panelClick id =>
    exact told rfl (fun _ _ _ => rfl) hs (bne_eq_false_iff_eq.mp hcalm)
  | updatePanel visible buttons | panelMessage text =>
    rcases hs with rfl | ⟨update, -, hs⟩
    · exact h
    · exact h.updatePanel hsizes hs (bne_eq_false_iff_eq.mp hcalm)
  | startRate | stopRate => exact hs ▸ h.quiet (.update _) rfl rfl rfl
  | map point => exact hs ▸ h

theorem UpToDate.react {event : Event σ} (ready : host.DisplayReady) (hsizes : Framed Size.HasPixels s)
    (hevent : event.OfStream Size.HasPixels) (h : s.UpToDate host ∨ event.isAnnouncement = true)
    (hs : s.react host event = .ok s') (hcalm : unannounced host s s' event = false) : s'.UpToDate host := by
  cases event with
  | outside w =>
    obtain rfl := Except.pure_ok_iff.mp hs
    have h : s.UpToDate host := h.resolve_right nofun
    have halike : Alike host s { s with outside := w } := .of_screen (bne_eq_false_iff_eq.mp hcalm) rfl rfl
    exact fun hf => halike.current rfl (h hf)
  | operation op =>
    obtain ⟨reply, hs⟩ := react_operation_ok_iff.mp hs
    rcases h with h | h
    · exact h.operation ready hsizes hevent (apply_ok hs) hcalm
    · cases op with
      | windowEvent event =>
        have hsize : event = .sizeChanged ∨ event = .exposed := by
          cases event with
          | sizeChanged => exact .inl rfl
          | exposed => exact .inr rfl
          | maximized | minimized | restored => cases h
        exact caughtUp hsize hsizes (apply_ok hs) (bne_eq_false_iff_eq.mp hcalm)
      | _ => cases h

theorem UpToDate.run {events : List (Event σ)} (ready : host.DisplayReady)
    (hevents : ∀ event ∈ events, event.OfStream Size.HasPixels) (hsizes : Framed Size.HasPixels s)
    (h : s.UpToDate host ∨ events.head?.any Event.isAnnouncement = true)
    (hannounced : announced host s events = true) (hs : s.run host events = .ok s') : s'.UpToDate host := by
  induction events generalizing s with
  | nil => exact run_nil_ok_iff.mp hs ▸ h.resolve_right nofun
  | cons event rest ih =>
    obtain ⟨t, ht, hs⟩ := run_cons_ok_iff.mp hs
    simp only [Session.announced, ht, Bool.and_eq_true, Bool.or_eq_true, Bool.not_eq_true'] at hannounced
    obtain ⟨hcalm, hannounced⟩ := hannounced
    have hevent := hevents event List.mem_cons_self
    have hrest := fun e he => hevents e (List.mem_cons_of_mem _ he)
    refine ih hrest (hsizes.react hevent.sized ht) (hcalm.imp_left fun hcalm => ?_) hannounced hs
    exact react ready hsizes hevent h ht hcalm

/-- **No stale picture.** After a run in which the display was always ready, every
frame had pixels, and each change of a size of the window that does not come
with the view's own handling, or that comes with a refused switch to fullscreen,
was followed at once by an event that told of it: if there is a frame, the last
scene drawn has the content where the sizes of this moment put it, the
orientation of the view, and the panel as it lies and looks now. -/
theorem run_current {startup : Startup} {w : σ} {events : List (Event σ)} (ready : host.DisplayReady)
    (hevents : ∀ event ∈ events, event.OfStream Size.HasPixels)
    (hannounced : announced host (.start host startup w) events = true)
    (hrun : (Session.start host startup w).run host events = .ok s) (hframe : s.screen.hasFrame = true) :
    s.Current host := by
  have hstart : (Session.start host startup w).UpToDate host := by
    intro hf
    unfold start at hf
    split at hf <;> cases hf
  exact UpToDate.run ready hevents (.start startup w) (.inl hstart) hannounced hrun hframe

/-- A stream is shown beside a panel with a button, turned and fitted, and then the window is
resized from outside. Both resizes are told to the view. -/
def resizedRun : List (Event Size) :=
  [.operation (.announce ⟨4, 2⟩), .operation .pump, .operation (.push ⟨⟨4, 2⟩, []⟩), .operation .pump,
    .operation (.updatePanel none [⟨"back", "Back"⟩]), .operation (.setOrientation ⟨false, .deg90⟩),
    .operation .resizeToFit, .operation (.windowEvent .sizeChanged), .outside ⟨300, 500⟩,
    .operation (.windowEvent .exposed)]

theorem run_current_resized :
    ∃ s, (Session.start cappedHost { panelShow := true } ⟨800, 600⟩).run cappedHost resizedRun = .ok s ∧
      s.screen.hasFrame = true ∧ s.Current cappedHost ∧ (s.lastScene.bind (·.panel)).isSome = true := by
  have hshown : ((Session.start cappedHost { panelShow := true } ⟨800, 600⟩).run cappedHost
      resizedRun).toOption.any (fun s => s.screen.hasFrame && (s.lastScene.bind (·.panel)).isSome) = true := by
    decide +kernel
  obtain ⟨s, hrun, hshown⟩ := Except.exists_of_any hshown
  obtain ⟨hframe, hpanel⟩ := Bool.and_eq_true_iff.mp hshown
  have hevents : ∀ event ∈ resizedRun, event.OfStream Size.HasPixels := by
    simp [resizedRun, Event.OfStream, Size.HasPixels, Size.isEmpty]
  exact ⟨s, hrun, hframe,
    run_current ⟨fun _ _ => rfl, fun _ _ => rfl⟩ hevents (by decide +kernel) hrun hframe, hpanel⟩

/-! ## Changes that are not announced

The view does not look at its window by itself when it was resized for the user, and not when the
host refuses to switch to fullscreen. -/

/-- The sizes of this moment would put the content elsewhere. -/
def isStale (host : Host σ) (s : Session σ) : Bool :=
  (Fitting.contentRect (host.drawableSize s.outside) s.screen.contentSize (s.panelWidth host)).toOption.any
    (· ≠ s.screen.contentRect)

theorem not_current_of_isStale (h : s.isStale host = true) : ¬s.Current host := by
  obtain ⟨rect, hrect, hmoved⟩ := Except.exists_of_any h
  intro hcurrent
  exact of_decide_eq_true hmoved (Except.ok.inj (hrect.symm.trans hcurrent.laid))

/-- A host that refuses to switch to fullscreen, and whose window has another size after that. -/
def refusingHost : Host Size :=
  { cappedHost with
    perform := fun r w => match r with
      | .setFullscreen _ => (.error, ⟨300, 500⟩)
      | _ => cappedHost.perform r w }

/-- A view with this host, in whose window the content will have borders. -/
def borderedStart : Session Size :=
  .start refusingHost { window.width := some 300, window.height := some 500 } ⟨800, 600⟩

/-- A stream is shown, and then the borders are taken away. -/
def fittedRun : List (Event Size) :=
  [.operation (.announce ⟨4, 2⟩), .operation (.push ⟨⟨4, 2⟩, []⟩), .operation .pump, .operation .resizeToFit]

/-- The view is told of its new size, and is to be fullscreen. -/
def refusedRun : List (Event Size) := [.operation (.windowEvent .sizeChanged), .operation .toggleFullscreen]

/-- Announcements are needed. The picture of `s` is stale until the view is told that its window
was resized for the user, and that of `t` because no one tells it what came of the refused switch.
No size changes here but with a request for a size or for fullscreen. -/
theorem run_unannounced : ∃ s t,
    borderedStart.run refusingHost fittedRun = .ok s ∧ s.run refusingHost refusedRun = .ok t ∧
      refusingHost.DisplayReady ∧
      (∀ event ∈ fittedRun ++ refusedRun, event.OfStream Size.HasPixels) ∧
      (∀ e ∈ t.journal, e.resized = true → e.request.isSizing = true) ∧
      s.screen.hasFrame = true ∧ ¬s.Current refusingHost ∧
      t.screen.hasFrame = true ∧ ¬t.Current refusingHost := by
  have hstale : (borderedStart.run refusingHost fittedRun).toOption.any (fun s =>
      s.screen.hasFrame && s.isStale refusingHost && (s.run refusingHost refusedRun).toOption.any fun t =>
        t.journal.all (fun e => !e.resized || e.request.isSizing) && t.screen.hasFrame &&
          t.isStale refusingHost) = true := by
    decide +kernel
  obtain ⟨s, hs, hstale⟩ := Except.exists_of_any hstale
  simp only [Bool.and_eq_true] at hstale
  obtain ⟨⟨hframe, hfitted⟩, hrefused⟩ := hstale
  obtain ⟨t, ht, hrefused⟩ := Except.exists_of_any hrefused
  simp only [Bool.and_eq_true, List.all_eq_true, Bool.or_eq_true, Bool.not_eq_true'] at hrefused
  obtain ⟨⟨hsizing, hframe'⟩, hrefused⟩ := hrefused
  have hevents : ∀ event ∈ fittedRun ++ refusedRun, event.OfStream Size.HasPixels := by
    simp [fittedRun, refusedRun, Event.OfStream, Size.HasPixels, Size.isEmpty]
  refine ⟨s, t, hs, ht, ⟨fun _ _ => rfl, fun _ _ => rfl⟩, hevents, fun e he hresized => ?_, hframe,
    not_current_of_isStale hfitted, hframe', not_current_of_isStale hrefused⟩
  exact (hsizing e he).resolve_left (by simp [hresized])

end Session

end RemoteView
