/-
The course of a part that has nothing to do with frames: the view changes what it
remembers of its window, its content and its panel, asks for something plain, or draws.
All that such a part asks of the host is said once for the steps of a course
(`Session.Course.asked_of`); each part only has to be shown to be one.
-/
import RemoteView.Proofs.Screen.Effects.Operation

namespace RemoteView

variable {σ : Type}

/-- Whether the request is about the window and the cursor alone, and does not show the
window. -/
def Request.isPlain : Request → Bool
  | setSize _ | setPosition .. | setFullscreen _ | restoreWindow | hideWindow | raiseWindow | setOnTop _
  | setCursor _ => true
  | showWindow | setTextureSize _ | updateTexture _ | render _ | forward _ | send _ => false

/-- The window is left alone unless it was free when the request was made. -/
def Entry.Spares (e : Entry) : Prop := ∀ size, e.request = .setSize size → e.flags.isWindowed = true

namespace Session

variable {host : Host σ} {s s' t : Session σ} {P Q : Entry → Prop}

/-! ## Requests on the way -/

/-- The entries that were added to a journal, with the first one first. -/
theorem entriesSince_of_journal {added : List Entry} (h : s'.journal = added ++ s.journal) :
    s'.entriesSince s = added.reverse := by
  simp [entriesSince, h]

/-- Every request on the way from `s` to `s'` is as `P` says. -/
def Asked (P : Entry → Prop) (s s' : Session σ) : Prop :=
  ∃ added, s'.journal = added ++ s.journal ∧ ∀ e ∈ added, P e

namespace Asked

theorem of_journal (h : s'.journal = s.journal) : Asked P s s' := ⟨[], h, fun _ he => absurd he List.not_mem_nil⟩

theorem refl (s : Session σ) : Asked P s s := of_journal rfl

theorem update (change : Screen → Screen) : Asked P s (s.update change) := of_journal rfl

theorem trans (h : Asked P s t) (h' : Asked P t s') : Asked P s s' := by
  obtain ⟨added, hadded, hP⟩ := h
  obtain ⟨added', hadded', hP'⟩ := h'
  refine ⟨added' ++ added, by rw [hadded', hadded, List.append_assoc], fun e he => ?_⟩
  exact (List.mem_append.mp he).elim (hP' e) (hP e)

theorem mono (hPQ : ∀ e, P e → Q e) (h : Asked P s s') : Asked Q s s' := by
  obtain ⟨added, hadded, hP⟩ := h
  exact ⟨added, hadded, fun e he => hPQ e (hP e he)⟩

theorem of_mem {e : Entry} (h : Asked P s s') (he : e ∈ s'.entriesSince s) : P e := by
  obtain ⟨added, hadded, hP⟩ := h
  rw [entriesSince_of_journal hadded] at he
  exact hP e (List.mem_reverse.mp he)

theorem request {r : Request} (h : ∀ outcome resized, P ⟨r, outcome, s.screen.window.flags, resized⟩) :
    Asked P s (s.request host r).2 :=
  ⟨[_], rfl, fun _ he => List.mem_singleton.mp he ▸ h _ _⟩

theorem tell {r : Request} (h : ∀ outcome resized, P ⟨r, outcome, s.screen.window.flags, resized⟩) :
    Asked P s (s.tell host r) :=
  request h

end Asked

/-! ## Courses -/

inductive Course (host : Host σ) (s : Session σ) : Session σ → Prop where
  | stay : Course host s s
  | change {t : Session σ} (content : Size) (window : Resizing) (orientation : Orientation) (rect : Rect)
      (overlay : Panel.Overlay) (h : Course host s t) :
      Course host s (t.update ({ · with contentSize := content, window, orientation, contentRect := rect, overlay }))
  | ask {t : Session σ} {r : Request} (hplain : r.isPlain = true)
      (hfree : ∀ size, r = .setSize size → t.screen.window.isWindowed = true) (h : Course host s t) :
      Course host s (t.tell host r)
  | draw {t : Session σ} (scene : Scene) (hframe : t.screen.hasFrame = true) (h : Course host s t) :
      Course host s ((t.tell host (.render scene)).announceReady host)

namespace Course

theorem trans (h : Course host s t) (h' : Course host t s') : Course host s s' := by
  induction h' with
  | stay => exact h
  | change content window orientation rect overlay _ ih => exact ih.change content window orientation rect overlay
  | ask hplain hfree _ ih => exact ih.ask hplain hfree
  | draw scene hframe _ ih => exact ih.draw scene hframe

/-- One plain request that is not for another size. -/
theorem tell {r : Request} (hplain : r.isPlain = true) (hsize : ∀ size, r ≠ .setSize size) :
    Course host s (s.tell host r) :=
  .ask hplain (fun size h => absurd h (hsize size)) .stay

theorem setWindow (window : Resizing) : Course host s (s.setWindow window) :=
  .change s.screen.contentSize window s.screen.orientation s.screen.contentRect s.screen.overlay .stay

theorem setOverlay (overlay : Panel.Overlay) : Course host s (s.setOverlay overlay) :=
  .change s.screen.contentSize s.screen.window s.screen.orientation s.screen.contentRect overlay .stay

/-- A view has its first frame only through a frame, and without one it does not
announce itself. -/
theorem kept (h : Course host s s') : s'.screen.hasFrame = s.screen.hasFrame ∧
    (s.screen.readySent = true → s'.screen.readySent = true) ∧
    (s.screen.hasFrame = false → s'.screen.readySent = s.screen.readySent) := by
  induction h with
  | stay => exact ⟨rfl, id, fun _ => rfl⟩
  | change _ _ _ _ _ _ ih => exact ih
  | ask _ _ _ ih => exact ih
  | @draw t scene hframe _ ih =>
    rw [(announceReady_effect (t.tell host (.render scene)) host).2]
    exact ⟨ih.1, fun _ => rfl, fun hf => Bool.noConfusion (hf.symm.trans (ih.1.symm.trans hframe))⟩

/-- All that is asked for on a course: plain requests, which leave a constrained
window alone, drawings if there is a frame, and that the view is ready if this was not
said before. -/
theorem asked_of (h : Course host s s') (hplain : ∀ e : Entry, e.request.isPlain = true → e.Spares → P e)
    (hdrawn : s.screen.hasFrame = true → ∀ (e : Entry) scene, e.request = .render scene → P e)
    (hready : s.screen.hasFrame = true → s.screen.readySent = false →
      ∀ e : Entry, e.request = .send .ready → P e) : Asked P s s' := by
  induction h with
  | stay => exact .refl s
  | change _ _ _ _ _ _ ih => exact ih.trans (.update _)
  | ask hr hfree _ ih => exact ih.trans (.tell fun _ _ => hplain _ hr hfree)
  | @draw t scene hframe h ih =>
    obtain ⟨hsame, hsent, -⟩ := h.kept
    have hrendered : Asked P t (t.tell host (.render scene)) :=
      .tell fun _ _ => hdrawn (hsame ▸ hframe) _ scene rfl
    refine ih.trans (hrendered.trans ?_)
    unfold announceReady
    split
    next => exact .refl _
    next hunsent =>
      have hunsent : s.screen.readySent = false :=
        Bool.eq_false_iff.mpr fun he => hunsent (hsent he)
      exact (Asked.update _).trans (.tell fun _ _ => hready (hsame ▸ hframe) hunsent _ rfl)

/-- Without a frame nothing but plain requests is made. -/
theorem plain (h : Course host s s') (hf : s.screen.hasFrame = false) : Asked (·.request.isPlain = true) s s' :=
  h.asked_of (fun _ hplain _ => hplain) (fun he => Bool.noConfusion (hf.symm.trans he))
    fun he => Bool.noConfusion (hf.symm.trans he)

end Course

/-! ## Drawing -/

theorem layOut_course (h : s.layOut host = .ok s') : Course host s s' := by
  obtain ⟨rect, rfl⟩ := layOut_effect h
  exact .change s.screen.contentSize s.screen.window s.screen.orientation rect s.screen.overlay .stay

theorem render_course {refresh : Bool} (h : s.render host refresh = .ok s') : Course host s s' := by
  rcases render_ok h with ⟨-, rfl⟩ | ⟨hframe, ⟨-, t, hl, hp⟩ | ⟨-, hp⟩⟩
  · exact .stay
  · obtain ⟨layout, -, rfl⟩ := present_ok hp
    have hlaid := layOut_course hl
    exact hlaid.draw _ (hlaid.kept.1.trans hframe)
  · obtain ⟨layout, -, rfl⟩ := present_ok hp
    exact .draw _ hframe .stay

/-! ## Sizing the window -/

theorem resizeIfDue_course {change : Option ResizeRequest}
    (hfree : ∀ c, change = some c → s.screen.window.isWindowed = true)
    (h : s.resizeIfDue host change = .ok s') : Course host s s' := by
  cases change with
  | none => exact Except.pure_ok_iff.mp h ▸ .stay
  | some change =>
    obtain ⟨size, rfl⟩ := resizeForContent_effect h
    exact .ask rfl (fun _ _ => hfree change rfl) .stay

theorem setContentSize_course {size : Size} (h : s.setContentSize host size = .ok s') : Course host s s' := by
  have hsized : Course host s (s.update ({ · with contentSize := size })) :=
    .change size s.screen.window s.screen.orientation s.screen.contentRect s.screen.overlay .stay
  rcases setContentSize_ok h with rfl | ⟨-, h⟩
  · exact hsized
  · have hresized := resizeIfDue_course (fun _ hc => Resizing.isWindowed_of_contentSizeChanged hc) h
    exact hsized.trans ((Course.setWindow _).trans hresized)

theorem setOrientation_course {o : Orientation} (h : s.setOrientation host o = .ok s') : Course host s s' := by
  rcases setOrientation_ok h with ⟨-, rfl⟩ | ⟨t, ht, hr⟩
  · exact .stay
  · have hturned : Course host t (t.update ({ · with orientation := o })) :=
      .change t.screen.contentSize t.screen.window o t.screen.contentRect t.screen.overlay .stay
    exact (setContentSize_course ht).trans (hturned.trans (render_course hr))

theorem toggleFullscreen_course (h : s.toggleFullscreen host = .ok s') : Course host s s' := by
  have hasked : Course host s (s.request host (.setFullscreen (!s.screen.window.flags.fullscreen))).2 :=
    .tell rfl nofun
  rcases toggleFullscreen_ok h with ⟨-, rfl⟩ | ⟨-, t, ht, hr⟩
  · exact hasked
  · have hresized := resizeIfDue_course (fun _ hc => Resizing.isWindowed_of_takePending hc) ht
    exact hasked.trans ((Course.setWindow _).trans (hresized.trans (render_course hr)))

theorem resizeToFit_course (h : s.resizeToFit host = .ok s') : Course host s s' := by
  rcases resizeToFit_ok h with rfl | ⟨⟨-, hfree⟩, size, x, y, rfl⟩
  · exact .stay
  · have hsized : Course host s (s.tell host (.setSize size)) := .ask rfl (fun _ _ => hfree) .stay
    exact hsized.trans (.tell rfl nofun)

theorem resizeToPixelPerfect_course (h : s.resizeToPixelPerfect host = .ok s') : Course host s s' := by
  rcases resizeToPixelPerfect_ok h with rfl | ⟨⟨-, hfree⟩, t, size, ht, rfl⟩
  · exact .stay
  · have hrestored : Course host s t := by
      rcases ht with rfl | rfl
      · exact .stay
      · exact .tell rfl nofun
    exact (hrestored.trans (.setWindow _)).ask rfl fun _ _ => hfree

theorem handleWindowEvent_course {event : WindowEvent} (h : s.handleWindowEvent host event = .ok s') :
    Course host s s' := by
  rcases handleWindowEvent_ok h with rfl | ⟨-, ⟨window, rfl⟩ | ⟨window, change, t, hfree, ht, hr⟩⟩
  · exact .stay
  · exact .setWindow window
  · exact (Course.setWindow window).trans ((resizeIfDue_course hfree ht).trans (render_course hr))

/-! ## The pointer and the panel -/

theorem applyCursorIfAny_course (s : Session σ) (host : Host σ) (shape : Option Panel.CursorShape) :
    Course host s (s.applyCursorIfAny host shape) := by
  cases shape with
  | none => exact .stay
  | some shape =>
    obtain ⟨overlay, -, heq⟩ := applyCursor_ok s host shape
    have hasked : Course host s (s.request host (.setCursor shape)).2 := .tell rfl nofun
    show Course host s (s.applyCursor host shape)
    exact heq ▸ hasked.trans (.setOverlay overlay)

theorem decided_course {event : PointerEvent} (h : s.decided host event = .ok t) : Course host s t := by
  obtain ⟨overlay, cursor, -, rfl⟩ := decided_ok h
  exact (Course.setOverlay overlay).trans (applyCursorIfAny_course _ host cursor)

theorem updatePanel_course {update : Panel.Update} (h : s.updatePanel host update = .ok s') :
    Course host s s' := by
  rcases updatePanel_ok h with rfl | ⟨overlay, cursor, -, hr⟩
  · exact .stay
  · exact (Course.setOverlay overlay).trans ((applyCursorIfAny_course _ host cursor).trans (render_course hr))

/-- An operation of the view is a course, except that a click can be reported directly,
and that a pointer event may be handed on or reported as a click at the end. -/
theorem CarriedOut.course {op : Operation} (h : s.CarriedOut host s' op) (hop : op.isOfView = true) :
    Course host s s' ∨ (∃ id, op = .panelClick id ∧ s' = s.sendPanelClick host id) ∨
      s.screen.hasFrame = true ∧ (∃ event, op = .pointer event) ∧ ∃ t, Course host s t ∧
        ((∃ pointer, HandedOn host t pointer s') ∨ ∃ id, s' = t.sendPanelClick host id) := by
  cases op with
  | announce _ | push _ | dropProducer | dropConsumer | pump | notice _ | prepare _ | setPaused _
  | startRate | stopRate => cases hop
  | render refresh => exact .inl (render_course h)
  | windowEvent event => exact .inl (handleWindowEvent_course h)
  | pointer event =>
    rcases handlePointer_ok h with ⟨-, rfl⟩ | ⟨hframe, t, action, ht, ha⟩
    · exact .inl .stay
    · have hcourse := decided_course ht
      rcases performAction_ok ha with rfl | hs
      · exact .inl hcourse
      · exact .inr (.inr ⟨hframe, ⟨event, rfl⟩, t, hcourse, hs⟩)
  | setOrientation o => exact .inl (setOrientation_course h)
  | toggleFullscreen => exact .inl (toggleFullscreen_course h)
  | resizeToFit => exact .inl (resizeToFit_course h)
  | resizeToPixelPerfect => exact .inl (resizeToPixelPerfect_course h)
  | hide | raise | setOnTop onTop => exact .inl (h ▸ .tell rfl nofun)
  | panelClick id => exact .inr (.inl ⟨id, rfl, h⟩)
  | updatePanel visible buttons | panelMessage text =>
    rcases h with rfl | ⟨update, -, h⟩
    · exact .inl .stay
    · exact .inl (updatePanel_course h)
  | map point => exact .inl (h ▸ .stay)

end Session

end RemoteView
