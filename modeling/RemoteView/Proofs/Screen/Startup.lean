/-
How a view starts. Until the display takes a frame, nothing is shown, and no events are
sent but clicks that are reported directly. The call in which the display takes the first
frame sets the window up, draws once and announces the view. If the window is not shown
then, it never is, and the view is not announced again (`run_startup`).
-/
import RemoteView.Proofs.Screen.Calls
import RemoteView.Proofs.Screen.Resizes

namespace RemoteView

variable {σ : Type}

/-- The event that a request sends. -/
def Request.event? : Request → Option Outbound
  | send event => some event
  | _ => none

/-- The click that is reported directly. -/
def Event.click? : Event σ → Option Outbound
  | .operation (.panelClick id) => some (.panelButtonClick id)
  | _ => none

/-- The requests that set the window up. A hidden window is left as it is. -/
def Startup.opening (startup : Startup) (size : Size) (fullscreen : Bool) : List Request :=
  if startup.hideWindow then []
  else
    let place := startup.window
    [.setSize size, .setPosition (Session.startCoordinate place.x) (Session.startCoordinate place.y)] ++
      (if startup.fullscreen then [.setFullscreen fullscreen] else []) ++ [.showWindow]

namespace Session

variable {host : Host σ} {s s' t : Session σ} {startup : Startup} {clicks : List Outbound}

/-- The events that were sent, in their order. -/
def sent (s : Session σ) : List Outbound := s.journal.reverse.filterMap (·.request.event?)

/-- Nothing was shown, and of all events just these were sent. -/
structure Unstarted (clicks : List Outbound) (s : Session σ) : Prop where
  ungranted : ∀ e ∈ s.journal, e.grants = false
  unshown : ∀ e ∈ s.journal, e.request.needsFrame = false
  sent : s.sent = clicks

/-- From `s` to `s'` the display takes a frame, after it was asked for a texture if need
be. The window is set up for it, and it is drawn, and the view announces itself. -/
def Opens (startup : Startup) (s s' : Session σ) : Prop :=
  ∃ prepared uploaded opened frame size fullscreen scene,
    s'.journal = (prepared ++ uploaded :: opened).reverse ++ s.journal ∧
      (∀ e ∈ prepared, e.request = .setTextureSize frame.size) ∧
      uploaded.request = .updateTexture frame ∧ uploaded.outcome = .ok ∧
      opened.map (·.request) = startup.opening size fullscreen ++ [.render scene, .send .ready]

/-- The window is not shown on the way, and the view does not announce itself. -/
abbrev Settled : Session σ → Session σ → Prop :=
  Asked fun e => e.request ≠ .showWindow ∧ e.request ≠ .send .ready

/-! ## Requests in a row -/

/-- Just these requests were made, in this order. -/
def AskedFor (requests : List Request) (s s' : Session σ) : Prop :=
  ∃ entries : List Entry, s'.journal = entries.reverse ++ s.journal ∧ entries.map (·.request) = requests

namespace AskedFor

variable {requests requests' : List Request}

theorem of_journal (h : s'.journal = s.journal) : AskedFor [] s s' := ⟨[], h, rfl⟩

theorem tell (r : Request) : AskedFor [r] s (s.tell host r) := ⟨[_], rfl, rfl⟩

theorem trans (h : AskedFor requests s t) (h' : AskedFor requests' t s') :
    AskedFor (requests ++ requests') s s' := by
  obtain ⟨entries, hadded, rfl⟩ := h
  obtain ⟨entries', hadded', rfl⟩ := h'
  refine ⟨entries ++ entries', ?_, List.map_append⟩
  rw [hadded', hadded, List.reverse_append, List.append_assoc]

/-- What is asked for does not depend on what is only remembered. -/
theorem after_journal (h : AskedFor requests s t) (hsame : s'.journal = t.journal) : AskedFor requests s s' := by
  obtain ⟨entries, hadded, hrequests⟩ := h
  exact ⟨entries, hsame.trans hadded, hrequests⟩

end AskedFor

/-! ## Waiting for the first frame -/

structure Waiting (startup : Startup) (clicks : List Outbound) (s : Session σ) : Prop where
  startup : s.screen.startup = startup
  noFrame : s.screen.hasFrame = false
  unready : s.screen.readySent = false
  early : Early s
  ungranted : ∀ e ∈ s.journal, e.grants = false
  sent : s.sent = clicks

namespace Waiting

theorem unstarted (h : Waiting startup clicks s) : Unstarted clicks s :=
  ⟨h.ungranted, h.early.unshown, h.sent⟩

/-- A part that brings no frame to the display and sends nothing. -/
theorem keep (h : Waiting startup clicks s) (hearly : Early s') (hstartup : s'.screen.startup = s.screen.startup)
    (hf : s'.screen.hasFrame = s.screen.hasFrame) (hready : s'.screen.readySent = s.screen.readySent)
    (hasked : Asked (fun e => e.grants = false ∧ e.request.event? = none) s s') : Waiting startup clicks s' := by
  obtain ⟨added, hadded, hquiet⟩ := hasked
  refine ⟨hstartup.trans h.startup, hf.trans h.noFrame, hready.trans h.unready, hearly, fun e he => ?_, ?_⟩
  · rw [hadded] at he
    exact (List.mem_append.mp he).elim (fun he => (hquiet e he).1) (h.ungranted e)
  · have hsilent : added.reverse.filterMap (·.request.event?) = [] :=
      List.filterMap_eq_nil_iff.mpr fun e he => (hquiet e (List.mem_reverse.mp he)).2
    rw [Session.sent, hadded, List.reverse_append, List.filterMap_append, hsilent, List.append_nil]
    exact h.sent

theorem still {rate seen paused held} (h : Waiting startup clicks s) (hjournal : s'.journal = s.journal)
    (hscreen : s'.screen = { s.screen with rate, skippedSeen := seen, paused, held }) :
    Waiting startup clicks s' :=
  h.keep (h.early.keep (.of_journal hjournal) (by rw [hscreen])) (by rw [hscreen]) (by rw [hscreen]) (by rw [hscreen])
    (.of_journal hjournal)

theorem start (host : Host σ) (startup : Startup) (w : σ) : Waiting startup [] (.start host startup w) := by
  have hopened : Waiting startup [] ({ screen := .initial startup, outside := w } : Session σ) :=
    ⟨rfl, rfl, rfl, .opened startup w, fun _ he => absurd he List.not_mem_nil, rfl⟩
  unfold Session.start
  split
  · exact hopened.keep (hopened.early.keep (.tell fun _ _ => rfl) rfl) rfl rfl rfl
      (.tell fun _ _ => ⟨rfl, rfl⟩)
  · exact hopened

theorem click (h : Waiting startup clicks s) (host : Host σ) (id : String) :
    Waiting startup (clicks ++ [.panelButtonClick id]) (s.sendPanelClick host id) := by
  refine ⟨h.startup, h.noFrame, h.unready, h.early.keep (.tell fun _ _ => rfl) rfl, ?_, ?_⟩
  · exact List.forall_mem_cons.mpr ⟨rfl, h.ungranted⟩
  · rw [← h.sent]
    simp [Session.sent, sendPanelClick, sendEvent, Session.tell, Session.request, Request.event?]

theorem ofView {op : Operation} (h : Waiting startup clicks s) (hs : s.CarriedOut host s' op)
    (hop : op.isOfView = true) :
    Waiting startup (clicks ++ (Event.operation op : Event σ).click?.toList) s' := by
  by_cases hclick : ∃ id, op = .panelClick id
  · obtain ⟨id, rfl⟩ := hclick
    obtain rfl : s' = s.sendPanelClick host id := hs
    exact h.click host id
  · have hnone : (Event.operation op : Event σ).click? = none := by
      cases op with
      | panelClick id => exact absurd ⟨id, rfl⟩ hclick
      | _ => rfl
    rw [hnone, Option.toList_none, List.append_nil]
    obtain ⟨-, _, _, _, _, _, _, -, hscreen⟩ := hs.ofView hop
    rcases hs.course hop with hcourse | ⟨id, hid, -⟩ | ⟨he, -⟩
    · obtain ⟨hf, -, hready⟩ := hcourse.kept
      refine h.keep (h.early.ofView h.noFrame hs hop) (by rw [hscreen]) hf (hready h.noFrame) ?_
      refine (hcourse.plain h.noFrame).mono fun e hplain => ?_
      cases hr : e.request with
      | updateTexture _ | send _ =>
        rw [hr] at hplain
        cases hplain
      | _ => exact ⟨by rw [Entry.grants, hr], rfl⟩
    · exact absurd ⟨id, hid⟩ hclick
    · exact Bool.noConfusion (h.noFrame.symm.trans he)

end Waiting

/-! ## The first frame -/

theorem prepareForFrame_unshown {size : Size} {r : Outcome} (hf : s.screen.hasFrame = false)
    (h : s.prepareForFrame host size = .ok (r, s')) : Asked (·.request = .setTextureSize size) s s' := by
  rcases prepareForFrame_ok h with ⟨-, -, rfl⟩ | ⟨t, u, ht, hu, hr⟩
  · exact .refl _
  · obtain ⟨rect, rfl⟩ := layOut_effect hu
    obtain rfl := congrArg Prod.snd hr
    rcases setContentSize_ok ht with rfl | ⟨he, -⟩
    · have hsized : Asked (·.request = .setTextureSize size) s (s.update fun v =>
          { v with frameSize := size, contentSize := s.screen.orientation.orientedSize size, contentRect := rect }) :=
        .update _
      exact hsized.trans (.request fun _ _ => rfl)
    · exact Bool.noConfusion (hf.symm.trans he)

theorem showInitialWindow_opening (hf : s.screen.hasFrame = false) (howed : s.screen.window.deferred = none)
    (h : s.showInitialWindow host = .ok s') :
    ∃ size fullscreen, AskedFor (s.screen.startup.opening size fullscreen) s s' := by
  rcases showInitialWindow_ok h with ⟨hhide, h⟩ | ⟨hhide, size, t, u, ht, hu, h⟩
  · obtain ⟨rect, rfl⟩ := layOut_effect h
    refine ⟨{}, false, ?_⟩
    rw [Startup.opening, if_pos hhide]
    exact .of_journal rfl
  · obtain ⟨rect, rfl⟩ := layOut_effect h
    let place := s.screen.startup.window
    let sized := (s.tell host (.setSize size)).tell host
      (.setPosition (startCoordinate place.x) (startCoordinate place.y))
    have hsized :
        AskedFor [.setSize size, .setPosition (startCoordinate place.x) (startCoordinate place.y)] s sized :=
      (AskedFor.tell _).trans (.tell _)
    obtain ⟨fullscreen, hswitched⟩ : ∃ fullscreen,
        AskedFor (if s.screen.startup.fullscreen then [.setFullscreen fullscreen] else []) sized t := by
      rcases ht with ⟨hno, rfl⟩ | ⟨hyes, ht⟩
      · refine ⟨false, ?_⟩
        rw [hno]
        exact .of_journal rfl
      · refine ⟨!sized.screen.window.flags.fullscreen, ?_⟩
        rw [if_pos hyes]
        rcases toggleFullscreen_unshown (s := sized) hf howed ht with ⟨-, rfl⟩ | ⟨-, rfl⟩
        · exact .tell _
        · exact (AskedFor.tell _).after_journal rfl
    have hmeter : u.journal = t.journal := by
      rcases hu with rfl | rfl
      · rfl
      · rfl
    refine ⟨size, fullscreen, ?_⟩
    rw [Startup.opening, if_neg (Bool.eq_false_iff.mp hhide)]
    have hshown : AskedFor [.showWindow] u (u.tell host .showWindow) := .tell _
    exact (((hsized.trans hswitched).after_journal hmeter).trans hshown).after_journal rfl

structure Opened (s : Session σ) : Prop where
  frame : s.screen.hasFrame = true
  ready : s.screen.readySent = true

/-- The first drawing. -/
theorem present_announces (hframe : s.screen.hasFrame = true) (hunready : s.screen.readySent = false)
    (h : s.present host = .ok s') : (∃ scene, AskedFor [.render scene, .send .ready] s s') ∧ Opened s' := by
  have hscreen := (present_effect h).2
  obtain ⟨layout, -, rfl⟩ := present_ok h
  let drawn := s.tell host (.render (s.scene layout))
  have hready : drawn.announceReady host = (drawn.update ({ · with readySent := true })).tell host (.send .ready) :=
    if_neg (Bool.eq_false_iff.mp hunready)
  have hdrawn : AskedFor [.render (s.scene layout)] s drawn := .tell _
  have hsame : AskedFor [] drawn (drawn.update ({ · with readySent := true })) := .of_journal rfl
  exact ⟨⟨s.scene layout, hready ▸ hdrawn.trans (hsame.trans (.tell _))⟩,
    by rw [hscreen]; exact hframe, by rw [hscreen]⟩

theorem render_announces {refresh : Bool} (hframe : s.screen.hasFrame = true)
    (hunready : s.screen.readySent = false) (h : s.render host refresh = .ok s') :
    (∃ scene, AskedFor [.render scene, .send .ready] s s') ∧ Opened s' := by
  rcases render_ok h with ⟨he, -⟩ | ⟨-, ⟨-, t, hl, hp⟩ | ⟨-, hp⟩⟩
  · exact Bool.noConfusion (he.symm.trans hframe)
  · obtain ⟨rect, rfl⟩ := layOut_effect hl
    let laid := s.update ({ · with contentRect := rect })
    have ⟨⟨scene, hdrawn⟩, hopened⟩ := present_announces (s := laid) hframe hunready hp
    have hlaid : AskedFor [] s laid := .of_journal rfl
    exact ⟨⟨scene, hlaid.trans hdrawn⟩, hopened⟩
  · exact present_announces hframe hunready hp

theorem showUploaded_opening (hf : s.screen.hasFrame = false) (hunready : s.screen.readySent = false)
    (howed : s.screen.window.deferred = none) (h : s.showUploaded host = .ok s') :
    (∃ size fullscreen scene,
      AskedFor (s.screen.startup.opening size fullscreen ++ [.render scene, .send .ready]) s s') ∧ Opened s' := by
  obtain ⟨t, rate, ht, -, hr⟩ := showUploaded_ok h
  rcases ht with ⟨he, -⟩ | ⟨-, ht⟩
  · exact Bool.noConfusion (hf.symm.trans he)
  · obtain ⟨size, fullscreen, hopening⟩ := showInitialWindow_opening hf howed ht
    have hready : t.screen.readySent = false := by
      rcases showInitialWindow_course ht with hcourse | ⟨size, u, rate, hsized, hshown⟩
      · exact (hcourse.kept.2.2 hf).trans hunready
      · have hu := hsized.kept
        exact (hshown.kept.2.2 (hu.1.trans hf)).trans ((hu.2.2 hf).trans hunready)
    let counted := t.update ({ · with hasFrame := true, rate })
    have ⟨⟨scene, hdrawn⟩, hopened⟩ := render_announces (s := counted) rfl hready hr
    have hcounted : AskedFor [] t counted := .of_journal rfl
    exact ⟨⟨size, fullscreen, scene, hopening.trans (hcounted.trans hdrawn)⟩, hopened⟩

namespace Waiting

theorem prepareForFrame {size : Size} {r : Outcome} (h : Waiting startup clicks s)
    (hs : s.prepareForFrame host size = .ok (r, s')) : Waiting startup clicks s' := by
  have ⟨hearly, hf⟩ := h.early.prepareForFrame h.noFrame hs
  have hasked : Asked (fun e => e.grants = false ∧ e.request.event? = none) s s' :=
    (prepareForFrame_unshown h.noFrame hs).mono fun e he => ⟨by rw [Entry.grants, he], by rw [he]; rfl⟩
  rcases (prepareForFrame_effect hs).2 with ⟨-, rfl⟩ | ⟨window, rect, hscreen⟩
  · exact h
  · exact h.keep hearly (by rw [hscreen]) (hf.trans h.noFrame.symm) (by rw [hscreen]) hasked

/-- A frame that the display does not take leaves the view waiting. -/
theorem applyFrame {frame : VideoFrame} {r : Except DisplayError Unit} (h : Waiting startup clicks s)
    (hs : s.applyFrame host frame = .ok (r, s')) : Waiting startup clicks s' ∨ Opens startup s s' ∧ Opened s' := by
  obtain ⟨prepared, t, hp, hs⟩ := applyFrame_ok hs
  have ht := h.prepareForFrame hp
  obtain ⟨added, hadded, hprepared⟩ := prepareForFrame_unshown h.noFrame hp
  obtain ⟨uploaded, huploaded, hframe, houtcome⟩ := journal_request t host (.updateTexture frame)
  rcases hs with ⟨-, rfl⟩ | ⟨-, ⟨hrefused, rfl⟩ | ⟨htaken, hs⟩⟩
  · exact .inl ht
  · refine .inl (ht.keep (ht.early.keep (.request fun _ _ => rfl) rfl) rfl rfl rfl ⟨[uploaded], huploaded, ?_⟩)
    refine List.forall_mem_singleton.mpr ⟨?_, by rw [hframe]; rfl⟩
    simp only [Entry.grants, hframe, houtcome, decide_eq_false_iff_not]
    exact hrefused
  · obtain ⟨⟨size, fullscreen, scene, opened, hjournal, hopening⟩, hopened⟩ :=
      showUploaded_opening (s := (t.request host (.updateTexture frame)).2) ht.noFrame ht.unready ht.early.owed hs
    refine .inr ⟨⟨added.reverse, uploaded, opened, frame, size, fullscreen, scene, ?_,
      fun e he => hprepared e (List.mem_reverse.mp he), hframe, houtcome.trans htaken, ht.startup ▸ hopening⟩,
      hopened⟩
    rw [hjournal, huploaded, hadded]
    simp

theorem updateFrame {r : Except DisplayError Unit} (h : Waiting startup clicks s)
    (hs : s.updateFrame host = .ok (r, s')) : Waiting startup clicks s' ∨ Opens startup s s' ∧ Opened s' := by
  obtain ⟨t, hc, hs⟩ := updateFrame_ok hs
  obtain ⟨rate, -, rfl⟩ := countSkipped_ok hc
  let t := s.update ({ · with rate, skippedSeen := s.feed.slot.skipped })
  have hu : Waiting startup clicks (t.setFeed t.feed.consume.2) := h.still rfl rfl
  rcases hs with ⟨-, rfl⟩ | ⟨frame, -, ⟨-, rfl⟩ | ⟨-, hs⟩⟩
  · exact .inl hu
  · exact .inl (hu.still rfl rfl)
  · exact hu.applyFrame hs

theorem setPaused {paused : Bool} {r : Except DisplayError Unit} (h : Waiting startup clicks s)
    (hs : s.setPaused host paused = .ok (r, s')) : Waiting startup clicks s' ∨ Opens startup s s' ∧ Opened s' := by
  rcases setPaused_ok hs with rfl | rfl | ⟨frame, -, hs⟩
  · exact .inl h
  · exact .inl (h.still rfl rfl)
  · have hreleased : Waiting startup clicks (s.update ({ · with paused, held := none })) := h.still rfl rfl
    exact hreleased.applyFrame hs

end Waiting

/-! ## After the first frame -/

theorem Course.settled (h : Course host s s') (hs : Opened s) : Opened s' ∧ Settled s s' := by
  obtain ⟨hframe, hready, -⟩ := h.kept
  refine ⟨⟨hframe.trans hs.frame, hready hs.ready⟩, h.asked_of (fun e hplain _ => ?_) (fun _ e scene he => ?_)
    fun _ hunready => Bool.noConfusion (hunready.symm.trans hs.ready)⟩
  · cases hr : e.request with
    | showWindow | send _ =>
      rw [hr] at hplain
      cases hplain
    | _ => exact ⟨nofun, nofun⟩
  · rw [he]
    exact ⟨nofun, nofun⟩

theorem prepareForFrame_settled {size : Size} {r : Outcome} (h : s.prepareForFrame host size = .ok (r, s'))
    (hs : Opened s) : Opened s' ∧ Settled s s' := by
  rcases prepareForFrame_course h with ⟨-, -, rfl⟩ | ⟨t, ht, hr⟩
  · exact ⟨hs, .refl _⟩
  · obtain rfl := congrArg Prod.snd hr
    obtain ⟨hopened, hsettled⟩ := ht.settled ⟨hs.frame, hs.ready⟩
    exact ⟨⟨hopened.frame, hopened.ready⟩,
      (Asked.update _).trans (hsettled.trans (.request fun _ _ => ⟨nofun, nofun⟩))⟩

theorem applyFrame_settled {frame : VideoFrame} {r : Except DisplayError Unit}
    (h : s.applyFrame host frame = .ok (r, s')) (hs : Opened s) : Opened s' ∧ Settled s s' := by
  obtain ⟨prepared, t, hp, h⟩ := applyFrame_ok h
  obtain ⟨ht, hsettled⟩ := prepareForFrame_settled hp hs
  have hu : Settled t (t.request host (.updateTexture frame)).2 := .request fun _ _ => ⟨nofun, nofun⟩
  rcases h with ⟨-, rfl⟩ | ⟨-, ⟨-, rfl⟩ | ⟨-, h⟩⟩
  · exact ⟨ht, hsettled⟩
  · exact ⟨⟨ht.frame, ht.ready⟩, hsettled.trans hu⟩
  · obtain ⟨u, rate, ⟨-, rfl⟩ | ⟨he, -⟩, hcourse⟩ := showUploaded_course h
    · obtain ⟨hopened, hshown⟩ := hcourse.settled ⟨rfl, ht.ready⟩
      exact ⟨hopened, hsettled.trans (hu.trans ((Asked.update _).trans hshown))⟩
    · exact Bool.noConfusion (he.symm.trans ht.frame)

theorem carries_settled (host : Host σ) :
    Carries host (fun _ => True) fun s s' => Opened s → Opened s' ∧ Settled s s' where
  trans h h' hs := by
    obtain ⟨ht, hst⟩ := h hs
    obtain ⟨hs', hts⟩ := h' ht
    exact ⟨hs', hst.trans hts⟩
  still hjournal hscreen hs :=
    ⟨⟨by rw [hscreen]; exact hs.frame, by rw [hscreen]; exact hs.ready⟩, .of_journal hjournal⟩
  view h hop _ hs := by
    rcases h.course hop with hcourse | ⟨id, -, rfl⟩ | ⟨-, -, t, hcourse, htold⟩
    · exact hcourse.settled hs
    · exact ⟨⟨hs.frame, hs.ready⟩, .tell fun _ _ => ⟨nofun, nofun⟩⟩
    · obtain ⟨ht, hsettled⟩ := hcourse.settled hs
      rcases htold with ⟨pointer, -, rfl⟩ | ⟨id, rfl⟩
      · exact ⟨⟨ht.frame, ht.ready⟩, hsettled.trans (.tell fun _ _ => ⟨nofun, nofun⟩)⟩
      · exact ⟨⟨ht.frame, ht.ready⟩, hsettled.trans (.tell fun _ _ => ⟨nofun, nofun⟩)⟩
  initSize h hs := Bool.noConfusion ((initSize_ok h).1.symm.trans hs.frame)
  prepareForFrame h hs := prepareForFrame_settled h hs
  applyFrame h hs := applyFrame_settled h hs

/-! ## Every run -/

/-- The view waits still, or it started in one of the calls and has been settled since. -/
inductive Progress (startup : Startup) (clicks clicks' : List Outbound) (calls : List (FrameCall σ))
    (s' : Session σ) : Prop where
  | waits (h : Waiting startup clicks' s')
  | starts (c : FrameCall σ) (hc : c ∈ calls) (hbefore : Waiting startup clicks c.before)
      (hopens : Opens startup c.before c.after) (hopened : Opened s') (hsettled : Settled c.after s')

namespace Waiting

theorem handleNotices {notices : List Notice} (h : Waiting startup clicks s)
    (hs : s.handleNotices host notices = .ok s') :
    Progress startup clicks clicks (noticeCalls host s notices) s' := by
  induction notices generalizing s with
  | nil => exact .waits (Except.pure_ok_iff.mp hs ▸ h)
  | cons notice rest ih =>
    obtain ⟨⟨r, t⟩, ht, hrest⟩ := Except.bind_ok_iff.mp hs
    rw [noticeCalls_cons ht]
    have hwaits (h : Waiting startup clicks t) : Progress startup clicks clicks
        ((if notice = .newFrame then [⟨true, s, t⟩] else []) ++ noticeCalls host t rest) s' := by
      cases ih h hrest with
      | waits h => exact .waits h
      | starts c hc hbefore hopens hopened hsettled =>
        exact .starts c (List.mem_append_right _ hc) hbefore hopens hopened hsettled
    cases notice with
    | initSize size =>
      obtain ⟨hf, rfl⟩ := initSize_ok ht
      exact hwaits (h.keep (h.early.keep (.tell fun _ _ => rfl) rfl) rfl rfl rfl
        (.tell fun _ _ => ⟨rfl, rfl⟩))
    | newFrame =>
      rcases h.updateFrame ht with h | ⟨hopens, hopened⟩
      · exact hwaits h
      · obtain ⟨hopened, hsettled⟩ := (carries_settled host).handleNotices hrest hopened
        exact .starts ⟨true, s, t⟩ List.mem_cons_self h hopens hopened hsettled

theorem operation {op : Operation} {reply : Reply} (h : Waiting startup clicks s)
    (hs : s.apply host op = .ok (reply, s')) :
    Progress startup clicks (clicks ++ (Event.operation op : Event σ).click?.toList)
      (s.calls host (.operation op)) s' := by
  have hcarried := apply_ok hs
  by_cases hview : op.isOfView = true
  · exact .waits (h.ofView hcarried hview)
  have hnone : (Event.operation op : Event σ).click? = none := by
    cases op with
    | panelClick id => exact absurd rfl hview
    | _ => rfl
  rw [hnone, Option.toList_none, List.append_nil]
  cases op with
  | announce size =>
    rcases hcarried with rfl | rfl
    · exact .waits h
    · exact .waits (h.still rfl rfl)
  | push frame =>
    rcases hcarried with rfl | ⟨r, feed, -, rfl⟩
    · exact .waits h
    · exact .waits (h.still rfl rfl)
  | dropProducer | dropConsumer => exact .waits (hcarried ▸ h.still rfl rfl)
  | pump =>
    rcases apply_pump_ok hs with ⟨-, rfl⟩ | ⟨hconsumer, hs⟩
    · exact .waits h
    · have hread : Waiting startup clicks (s.setFeed { s.feed with queue := [] }) := h.still rfl rfl
      rw [calls, if_pos hconsumer]
      exact hread.handleNotices hs
  | notice notice =>
    obtain ⟨r, hs⟩ := hcarried
    have hnotices : s.handleNotices host [notice] = .ok s' := Except.bind_ok_iff.mpr ⟨_, hs, rfl⟩
    exact h.handleNotices hnotices
  | prepare size =>
    obtain ⟨r, hs⟩ := hcarried
    exact .waits (h.prepareForFrame hs)
  | setPaused paused =>
    obtain ⟨r, hs⟩ := hcarried
    rw [calls_setPaused hs]
    rcases h.setPaused hs with h | ⟨hopens, hopened⟩
    · exact .waits h
    · exact .starts ⟨false, s, s'⟩ List.mem_cons_self h hopens hopened (.refl _)
  | startRate | stopRate => exact .waits (hcarried ▸ h.still rfl rfl)
  | _ => exact absurd rfl hview

theorem react {event : Event σ} (h : Waiting startup clicks s) (hs : s.react host event = .ok s') :
    Progress startup clicks (clicks ++ event.click?.toList) (s.calls host event) s' := by
  cases event with
  | outside w =>
    obtain rfl := Except.pure_ok_iff.mp hs
    exact .waits ((List.append_nil clicks).symm ▸ h.still rfl rfl)
  | operation op =>
    obtain ⟨reply, hs⟩ := react_operation_ok_iff.mp hs
    exact h.operation hs

theorem run {events : List (Event σ)} (h : Waiting startup clicks s) (hrun : s.run host events = .ok s') :
    Waiting startup (clicks ++ events.filterMap Event.click?) s' ∨
      ∃ done event rest t c, events = done ++ event :: rest ∧ s.run host done = .ok t ∧ c ∈ t.calls host event ∧
        Waiting startup (clicks ++ done.filterMap Event.click?) c.before ∧ Opens startup c.before c.after ∧
        Settled c.after s' := by
  induction events generalizing s clicks with
  | nil =>
    obtain rfl := run_nil_ok_iff.mp hrun
    rw [List.filterMap_nil, List.append_nil]
    exact .inl h
  | cons event rest ih =>
    obtain ⟨t, ht, hrest⟩ := run_cons_ok_iff.mp hrun
    have hclicks (l : List (Event σ)) : clicks ++ event.click?.toList ++ l.filterMap Event.click? =
        clicks ++ (event :: l).filterMap Event.click? := by
      rw [List.append_assoc, List.filterMap_cons]
      cases event.click? <;> rfl
    cases h.react ht with
    | starts c hc hbefore hopens hopened hsettled =>
      obtain ⟨-, hlast⟩ := (carries_settled host).run hrest hopened
      refine .inr ⟨[], event, rest, s, c, rfl, run_nil_ok_iff.mpr rfl, hc, ?_, hopens, hsettled.trans hlast⟩
      rw [List.filterMap_nil, List.append_nil]
      exact hbefore
    | waits h =>
      rcases ih h hrest with h | ⟨done, event', rest', u, c, rfl, hdone, hc, hbefore, hopens, hsettled⟩
      · exact .inl (hclicks _ ▸ h)
      · exact .inr ⟨event :: done, event', rest', u, c, rfl, run_cons_ok_iff.mpr ⟨t, ht, hdone⟩, hc,
          hclicks _ ▸ hbefore, hopens, hsettled⟩

end Waiting

/-- **How a view starts.** As long as the display took no frame, nothing was shown, and
just the clicks were sent that were reported directly. Otherwise the first frame was
taken in some call of some event of the run. This call set up the window, drew the view
once and announced it right after that. Since then the window was not shown and the view
not announced. -/
theorem run_startup {startup : Startup} {w : σ} {events : List (Event σ)}
    (hrun : (Session.start host startup w).run host events = .ok s) :
    Unstarted (events.filterMap Event.click?) s ∨
      ∃ done event rest t c, events = done ++ event :: rest ∧
        (Session.start host startup w).run host done = .ok t ∧ c ∈ t.calls host event ∧
        Unstarted (done.filterMap Event.click?) c.before ∧ Opens startup c.before c.after ∧
        Settled c.after s := by
  rcases (Waiting.start host startup w).run hrun with
    h | ⟨done, event, rest, t, c, hevents, hdone, hc, hbefore, hlast⟩
  · exact .inl h.unstarted
  · exact .inr ⟨done, event, rest, t, c, hevents, hdone, hc, hbefore.unstarted, hlast⟩

/-- A view that is paused for its first frame, with clicks before and after it. -/
def pausedFirst : List (Event Size) :=
  [.operation (.panelClick "home"), .operation (.setPaused true), .operation (.announce ⟨4, 2⟩),
    .operation (.push ⟨⟨4, 2⟩, []⟩), .operation .pump, .operation (.setPaused false), .operation (.panelClick "home")]

theorem run_startup_paused : ∃ s,
    (Session.start cappedHost { fullscreen := true } ⟨800, 600⟩).run cappedHost pausedFirst = .ok s ∧
    ∃ done event rest t c, pausedFirst = done ++ event :: rest ∧
      (Session.start cappedHost { fullscreen := true } ⟨800, 600⟩).run cappedHost done = .ok t ∧
      c ∈ t.calls cappedHost event ∧ Unstarted (done.filterMap Event.click?) c.before ∧
      Opens { fullscreen := true } c.before c.after ∧ Settled c.after s := by
  have htaken : ((Session.start cappedHost { fullscreen := true } ⟨800, 600⟩).run cappedHost pausedFirst).toOption.any
      (decide <| ∃ e ∈ ·.journal, e.grants = true) = true := by decide +kernel
  obtain ⟨s, hrun, htaken⟩ := Except.exists_of_any htaken
  obtain ⟨e, he, htaken⟩ := of_decide_eq_true htaken
  rcases run_startup hrun with h | hstarted
  · exact Bool.noConfusion (htaken.symm.trans (h.ungranted e he))
  · exact ⟨s, hrun, hstarted⟩

end Session

end RemoteView
