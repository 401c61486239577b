/-
The content has a place before anything is pointed at. From the first frame with pixels
on, the content rectangle has pixels, so that every pointer event can be mapped
(`Session.run_laidOut`). A view whose frames all had no pixels has no content to lay out,
but it counts as having a frame, and a pointer event then stops it.
-/
import RemoteView.Proofs.Overflow
import RemoteView.Proofs.Screen.Effects.Layout
import RemoteView.Proofs.Screen.FrameSizes
import RemoteView.Proofs.Screen.Invariant

namespace RemoteView

variable {σ : Type}

/-- The display took this frame. -/
def Entry.Takes (e : Entry) (frame : VideoFrame) : Prop := e.request = .updateTexture frame ∧ e.outcome = .ok

namespace Session

variable {host : Host σ} {s s' t : Session σ}

/-! ## Pointing at content that has a place -/

theorem performAction_overflows {event : PointerEvent} (h : s.screen.contentRect.isEmpty = false)
    (action : Panel.Action) : OnlyOverflows (s.performAction host event action) := by
  have hforward (event : PointerEvent) : OnlyOverflows (s.forward host event) :=
    Except.FailsOnly.map ((s.mapping host).windowToPosition_overflows h event.point)
  cases action with
  | pass | forwardThenSwallow => exact hforward event
  | releaseThenSwallow release => exact hforward release
  | swallow | activate _ => exact .pure

theorem handlePointer_overflows (h : s.screen.contentRect.isEmpty = false) (event : PointerEvent) :
    OnlyOverflows (s.handlePointer host event) := by
  unfold handlePointer
  split
  · exact .pure
  · refine (Panel.Layout.forScreen_overflows _ _ _ _).bind fun layout => ?_
    refine (s.screen.overlay.handlePointer_overflows event _ layout).bind fun (outcome, overlay) => ?_
    obtain ⟨-, overlay', -, hscreen⟩ := applyCursorIfAny_effect (s.setOverlay overlay) host outcome.cursor
    refine performAction_overflows ?_ outcome.action
    rw [hscreen]
    exact h

theorem react_pointer_overflows (h : s.screen.contentRect.isEmpty = false) (event : PointerEvent) :
    OnlyOverflows (s.react host (.operation (.pointer event))) := by
  have happlied : OnlyOverflows (s.apply host (.pointer event)) := by
    rw [Session.apply]
    exact (handlePointer_overflows h event).map
  rw [react]
  exact happlied.map

/-! ## What every part keeps -/

/-- Nothing but frames without pixels was shown so far, and nothing was laid out. -/
structure Blank (s : Session σ) : Prop where
  rect : s.screen.contentRect = {}
  shown : s.screen.hasFrame = true → s.screen.frameSize.isEmpty = true
  taken : ∀ e ∈ s.journal, ∀ frame, e.Takes frame → frame.size.isEmpty = true

/-- The place of the content has pixels, or it is known why it has none. A view that has
a frame brought one to the display. -/
structure LaidOut (s : Session σ) : Prop where
  content : s.screen.contentSize = s.screen.orientation.orientedSize s.screen.frameSize
  place : s.screen.contentRect.isEmpty = false ∨ s.Blank
  taken : s.screen.hasFrame = true → ∃ e ∈ s.journal, ∃ frame, e.Takes frame

/-- Only a request for an upload takes a frame. -/
theorem Asked.untaken (h : Asked (·.request.isOfTexture = false) s s') : Asked (∀ frame, ¬ ·.Takes frame) s s' := by
  refine h.mono fun e hother frame ⟨hupload, _⟩ => ?_
  rw [hupload] at hother
  cases hother

theorem prepareForFrame_untaken {size : Size} {r : Outcome} (h : s.prepareForFrame host size = .ok (r, s')) :
    Asked (∀ frame, ¬ ·.Takes frame) s s' := by
  rcases prepareForFrame_asked h with ⟨-, -, rfl⟩ | ⟨t, hasked, hr⟩
  · exact .refl _
  · obtain rfl : (t.request host (.setTextureSize size)).2 = s' := congrArg Prod.snd hr
    exact hasked.untextured.untaken.trans (.request fun _ _ _ => nofun)

namespace LaidOut

theorem framed (h : s.LaidOut) : Framed (fun _ => True) s :=
  ⟨h.content, fun _ => trivial, fun _ _ => trivial, fun _ _ => trivial⟩

theorem opened (startup : Startup) (w : σ) : LaidOut ({ screen := .initial startup, outside := w } : Session σ) := by
  refine ⟨(Framed.opened (P := fun _ => True) startup w).content, .inr ⟨rfl, nofun, fun e he => ?_⟩, nofun⟩
  exact absurd he List.not_mem_nil

/-- A frame that was taken stays in the journal. -/
theorem taken_of_suffix (h : s.LaidOut) (hframe : s'.screen.hasFrame = s.screen.hasFrame)
    (hjournal : s.journal <:+ s'.journal) (hf : s'.screen.hasFrame = true) :
    ∃ e ∈ s'.journal, ∃ frame, e.Takes frame := by
  obtain ⟨e, he, htakes⟩ := h.taken (hframe ▸ hf)
  exact ⟨e, hjournal.subset he, htakes⟩

/-- While no frame is taken, a view stays blank or is laid out. -/
theorem place_of_relaid (h : s.LaidOut) (hrelaid : Relaid s s') (hasked : Asked (∀ frame, ¬ ·.Takes frame) s s')
    (hshown : s.Blank → s'.screen.hasFrame = true → s'.screen.frameSize.isEmpty = true) :
    s'.screen.contentRect.isEmpty = false ∨ s'.Blank := by
  rcases h.place with hpixels | hblank
  · exact .inl (hrelaid.pixels hpixels)
  rcases hrelaid with hsame | hpixels
  · obtain ⟨added, hadded, hnone⟩ := hasked
    refine .inr ⟨hsame.trans hblank.rect, hshown hblank, fun e he frame htakes => ?_⟩
    rw [hadded] at he
    rcases List.mem_append.mp he with he | he
    · exact absurd htakes (hnone e he frame)
    · exact hblank.taken e he frame htakes
  · exact .inl hpixels

/-- A part that has nothing to do with frames. -/
theorem keep (h : s.LaidOut) (hcontent : s'.screen.contentSize = s'.screen.orientation.orientedSize s'.screen.frameSize)
    (hrelaid : Relaid s s') (hasked : Asked (·.request.isOfTexture = false) s s')
    (hsize : s'.screen.frameSize = s.screen.frameSize) (hframe : s'.screen.hasFrame = s.screen.hasFrame) :
    s'.LaidOut := by
  refine ⟨hcontent, h.place_of_relaid hrelaid hasked.untaken fun hblank hf => ?_, h.taken_of_suffix hframe ?_⟩
  · rw [hsize]
    exact hblank.shown (hframe ▸ hf)
  · obtain ⟨added, hadded, -⟩ := hasked
    exact ⟨added, hadded.symm⟩

theorem prepareForFrame {size : Size} {r : Outcome} (h : s.LaidOut)
    (hs : s.prepareForFrame host size = .ok (r, s')) : s'.LaidOut ∧ s'.screen.frameSize = size := by
  obtain ⟨hlater, ⟨hsame, rfl⟩ | ⟨window, rect, hscreen⟩⟩ := prepareForFrame_effect hs
  · exact ⟨h, hsame⟩
  have hsize : s'.screen.frameSize = size := by rw [hscreen]
  have hframe : s'.screen.hasFrame = s.screen.hasFrame := by rw [hscreen]
  obtain ⟨hrelaid, hlaid⟩ := prepareForFrame_relaid hs
  refine ⟨⟨by rw [hscreen], ?_, h.taken_of_suffix hframe hlater.journal⟩, hsize⟩
  cases hempty : size.isEmpty with
  | false =>
    rcases hlaid with rfl | hpixels
    · exact h.place
    · exact .inl (hpixels hempty)
  | true => exact h.place_of_relaid hrelaid (prepareForFrame_untaken hs) fun _ _ => hsize ▸ hempty

/-- An upload leaves a blank view blank, unless the display took a frame with pixels. -/
theorem uploaded {frame : VideoFrame} (h : s.LaidOut)
    (hfits : (s.request host (.updateTexture frame)).1 = .ok → frame.size.isEmpty = true) :
    (s.request host (.updateTexture frame)).2.LaidOut := by
  refine ⟨h.content, h.place.imp_right fun hblank => ⟨hblank.rect, hblank.shown, ?_⟩,
    h.taken_of_suffix rfl (List.suffix_cons _ _)⟩
  intro e he taken ⟨hrequest, houtcome⟩
  rcases List.mem_cons.mp he with rfl | he
  · obtain rfl := Request.updateTexture.inj hrequest
    exact hfits houtcome
  · exact hblank.taken e he taken ⟨hrequest, houtcome⟩

theorem showUploaded {frame : VideoFrame} (h : s.LaidOut) (hsize : s.screen.frameSize = frame.size)
    (hok : (s.request host (.updateTexture frame)).1 = .ok)
    (hs : (s.request host (.updateTexture frame)).2.showUploaded host = .ok s') : s'.LaidOut := by
  obtain ⟨hlater, window, rect, sent, started, now, rate, -, -, hscreen⟩ := showUploaded_effect hs
  obtain ⟨hrelaid, hfirst⟩ := showUploaded_relaid hs
  have hcontent : s'.screen.contentSize = s'.screen.orientation.orientedSize s'.screen.frameSize := by
    rw [hscreen]
    exact h.content
  obtain ⟨e, hjournal, hrequest, houtcome⟩ := journal_request s host (.updateTexture frame)
  have he : e ∈ s'.journal := hlater.journal.subset (hjournal ▸ List.mem_cons_self)
  refine ⟨hcontent, ?_, fun _ => ⟨e, he, frame, hrequest, houtcome.trans hok⟩⟩
  cases hempty : frame.size.isEmpty with
  | true =>
    refine (h.uploaded fun _ => hempty).place_of_relaid hrelaid (showUploaded_untextured hs).untaken fun _ _ => ?_
    have hsame : s'.screen.frameSize = s.screen.frameSize := by rw [hscreen]; rfl
    rw [hsame, hsize]
    exact hempty
  | false =>
    have hpixels : s.screen.frameSize.isEmpty = false := hsize ▸ hempty
    rcases h.place with hlaid | hblank
    · exact .inl (hrelaid.pixels hlaid)
    · -- A blank view that has a frame would have one without pixels, so this is the first.
      refine .inl (hfirst (Bool.eq_false_iff.mpr fun hf => ?_) ?_)
      · exact Bool.noConfusion (hpixels.symm.trans (hblank.shown hf))
      · show s.screen.contentSize.isEmpty = false
        rw [h.content, Orientation.isEmpty_orientedSize]
        exact hpixels

theorem applyFrame {frame : VideoFrame} {r : Except DisplayError Unit} (h : s.LaidOut)
    (hs : s.applyFrame host frame = .ok (r, s')) : s'.LaidOut := by
  obtain ⟨prepared, t, hp, hs⟩ := applyFrame_ok hs
  have ⟨ht, hsize⟩ := h.prepareForFrame hp
  rcases hs with ⟨-, rfl⟩ | ⟨-, ⟨hrefused, rfl⟩ | ⟨hok, hs⟩⟩
  · exact ht
  · exact ht.uploaded fun hok => absurd hok hrefused
  · exact ht.showUploaded hsize hok hs

theorem initSize {size : Size} {r : Except DisplayError Unit} (h : s.LaidOut)
    (hs : s.initSize host size = .ok (r, s')) : s'.LaidOut := by
  obtain ⟨hf, rfl⟩ := initSize_ok hs
  refine ⟨rfl, h.place_of_relaid (.inl rfl) ?_ fun _ hf' => ?_, fun hf' => ?_⟩
  · exact (Asked.update _).trans (.tell fun _ _ _ => nofun)
  · exact Bool.noConfusion (hf.symm.trans hf')
  · exact Bool.noConfusion (hf.symm.trans hf')

theorem kept (host : Host σ) : Kept host LaidOut where
  opened startup w := .opened startup w
  still h hjournal hscreen :=
    h.keep (by rw [hscreen]; exact h.content) (.inl (by rw [hscreen])) (.of_journal hjournal) (by rw [hscreen])
      (by rw [hscreen])
  view h hs hop := by
    obtain ⟨-, _, _, _, _, _, _, -, hscreen⟩ := hs.ofView hop
    exact h.keep (h.framed.ofView hs hop).content (hs.relaid hop) (hs.asked hop).untextured (by rw [hscreen])
      (by rw [hscreen])
  initSize h hs := h.initSize hs
  prepareForFrame h hs := (h.prepareForFrame hs).1
  applyFrame h hs := h.applyFrame hs

end LaidOut

/-! ## Every run -/

/-- **The content has a place.** A view that has a frame shows its content on at least one
pixel, and no pointer event finds the content without a place; or all frames that the
display took had no pixels, and nothing was laid out so far. -/
theorem run_laidOut {startup : Startup} {w : σ} {events : List (Event σ)}
    (hrun : (Session.start host startup w).run host events = .ok s) (hframe : s.screen.hasFrame = true) :
    (0 < s.screen.contentRect.w ∧ 0 < s.screen.contentRect.h ∧
        ∀ event, s.react host (.operation (.pointer event)) ≠ .error .contentNotLaidOut) ∨
      s.screen.contentRect = {} ∧ s.screen.contentSize.isEmpty = true ∧
        (∃ e ∈ s.journal, ∃ frame, e.Takes frame) ∧
        ∀ e ∈ s.journal, ∀ frame, e.Takes frame → frame.size.isEmpty = true := by
  have h : s.LaidOut := (LaidOut.kept host).run hrun
  rcases h.place with hpixels | hblank
  · have hsides : ¬ s.screen.contentRect.w ≤ 0 ∧ ¬ s.screen.contentRect.h ≤ 0 := by
      simpa [Rect.isEmpty] using hpixels
    refine .inl ⟨Int32.not_le.mp hsides.1, Int32.not_le.mp hsides.2, fun event hfault => ?_⟩
    cases react_pointer_overflows hpixels event _ hfault
  · refine .inr ⟨hblank.rect, ?_, h.taken hframe, hblank.taken⟩
    rw [h.content, Orientation.isEmpty_orientedSize]
    exact hblank.shown hframe

/-- A stream whose second frame has no pixels. -/
def fadingRun : List (Event Size) :=
  [.operation (.announce ⟨4, 2⟩), .operation (.push ⟨⟨4, 2⟩, []⟩), .operation .pump,
    .operation (.push ⟨⟨0, 2⟩, []⟩), .operation .pump]

theorem run_laidOut_fading : ∃ s, (Session.start cappedHost {} ⟨800, 600⟩).run cappedHost fadingRun = .ok s ∧
    s.screen.hasFrame = true ∧ 0 < s.screen.contentRect.w ∧ 0 < s.screen.contentRect.h ∧
    ∀ event, s.react cappedHost (.operation (.pointer event)) ≠ .error .contentNotLaidOut := by
  have hshown : ((Session.start cappedHost {} ⟨800, 600⟩).run cappedHost fadingRun).toOption.any
      (fun s => s.screen.hasFrame && s.screen.contentRect ≠ {}) = true := by decide +kernel
  obtain ⟨s, hrun, hshown⟩ := Except.exists_of_any hshown
  obtain ⟨hframe, hrect⟩ := Bool.and_eq_true_iff.mp hshown
  rcases run_laidOut hrun hframe with hlaid | ⟨hnone, -⟩
  · exact ⟨s, hrun, hframe, hlaid⟩
  · exact absurd hnone (of_decide_eq_true hrect)

/-- The exception is real: a stream that opens with a valid size brings a frame without
pixels first, and pointing at it stops the view. -/
theorem unplaced_content_pointed_at : ∃ s event,
    (Session.start cappedHost {} ⟨800, 600⟩).run cappedHost [.operation (.announce ⟨800, 600⟩),
      .operation (.push ⟨⟨0, 600⟩, []⟩), .operation .pump] = .ok s ∧
    s.screen.hasFrame = true ∧ s.screen.contentRect = {} ∧
    s.react cappedHost (.operation (.pointer event)) = .error .contentNotLaidOut :=
  ⟨_, .down ⟨10, 10⟩ .left 1, rfl, rfl, rfl, rfl⟩

end Session

end RemoteView
