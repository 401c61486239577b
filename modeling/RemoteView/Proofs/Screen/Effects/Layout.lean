/-
What each part of an operation does to the place of the content. It is laid out anew or
left alone (`Session.Relaid`), and content with pixels always gets some, so that once it
has a place there is something to point at.
-/
import RemoteView.Proofs.Fitting.Bounds
import RemoteView.Proofs.Orientation
import RemoteView.Proofs.Screen.Effects.Operation

namespace RemoteView

variable {σ : Type}

namespace Session

variable {host : Host σ} {s s' t : Session σ}

/-- The content is where it was, or it was laid out and has pixels. -/
def Relaid (s s' : Session σ) : Prop :=
  s'.screen.contentRect = s.screen.contentRect ∨ s'.screen.contentRect.isEmpty = false

namespace Relaid

theorem refl (s : Session σ) : Relaid s s := .inl rfl

theorem trans (h : Relaid s t) (h' : Relaid t s') : Relaid s s' := by
  rcases h' with hsame | hlaid
  · rcases h with hsame' | hlaid
    · exact .inl (hsame.trans hsame')
    · exact .inr (hsame ▸ hlaid)
  · exact .inr hlaid

theorem request (r : Request) : Relaid s (s.request host r).2 := .inl rfl

theorem tell (r : Request) : Relaid s (s.tell host r) := request r

theorem setWindow (window : Resizing) : Relaid s (s.setWindow window) := .inl rfl

/-- Content that has pixels keeps some. -/
theorem pixels (h : Relaid s s') (hs : s.screen.contentRect.isEmpty = false) :
    s'.screen.contentRect.isEmpty = false :=
  h.elim (· ▸ hs) id

end Relaid

theorem layOut_relaid (h : s.layOut host = .ok s') : Relaid s s' := by
  rcases layOut_ok h with ⟨-, rfl⟩ | ⟨-, rect, hrect, rfl⟩
  · exact .refl _
  · exact .inr (Fitting.isEmpty_contentRect hrect)

theorem layOut_pixels (hcontent : s.screen.contentSize.isEmpty = false) (h : s.layOut host = .ok s') :
    s'.screen.contentRect.isEmpty = false := by
  rcases layOut_ok h with ⟨hempty, -⟩ | ⟨-, rect, hrect, rfl⟩
  · rw [hcontent] at hempty
    cases hempty
  · exact Fitting.isEmpty_contentRect hrect

theorem render_relaid {refresh : Bool} (h : s.render host refresh = .ok s') : Relaid s s' := by
  have hpresent {t : Session σ} (h : t.present host = .ok s') : Relaid t s' := .inl (by rw [(present_effect h).2])
  rcases render_ok h with ⟨-, rfl⟩ | ⟨-, ⟨-, t, hl, hp⟩ | ⟨-, hp⟩⟩
  · exact .refl _
  · exact (layOut_relaid hl).trans (hpresent hp)
  · exact hpresent hp

theorem resizeIfDue_relaid {change : Option ResizeRequest} (h : s.resizeIfDue host change = .ok s') :
    Relaid s s' :=
  .inl (by rw [(resizeIfDue_effect h).2])

theorem setContentSize_relaid {size : Size} (h : s.setContentSize host size = .ok s') : Relaid s s' := by
  obtain ⟨-, window, hscreen⟩ := setContentSize_effect h
  exact .inl (by rw [hscreen])

theorem setOrientation_relaid {o : Orientation} (h : s.setOrientation host o = .ok s') : Relaid s s' := by
  rcases setOrientation_ok h with ⟨-, rfl⟩ | ⟨t, ht, hr⟩
  · exact .refl _
  · have hturned : Relaid t (t.update ({ · with orientation := o })) := .inl rfl
    exact (setContentSize_relaid ht).trans (hturned.trans (render_relaid hr))

theorem toggleFullscreen_relaid (h : s.toggleFullscreen host = .ok s') : Relaid s s' := by
  rcases toggleFullscreen_ok h with ⟨-, rfl⟩ | ⟨-, t, ht, hr⟩
  · exact .request _
  · exact (Relaid.request _).trans
      ((Relaid.setWindow _).trans ((resizeIfDue_relaid ht).trans (render_relaid hr)))

theorem handleWindowEvent_relaid {event : WindowEvent} (h : s.handleWindowEvent host event = .ok s') :
    Relaid s s' := by
  rcases handleWindowEvent_ok h with rfl | ⟨-, ⟨window, rfl⟩ | ⟨window, change, t, -, ht, hr⟩⟩
  · exact .refl _
  · exact .setWindow window
  · exact (Relaid.setWindow window).trans ((resizeIfDue_relaid ht).trans (render_relaid hr))

theorem updatePanel_relaid {update : Panel.Update} (h : s.updatePanel host update = .ok s') : Relaid s s' := by
  rcases updatePanel_ok h with rfl | ⟨overlay, cursor, -, hr⟩
  · exact .refl _
  · obtain ⟨-, overlay', -, hscreen⟩ := applyCursorIfAny_effect (s.setOverlay overlay) host cursor
    have hupdated : Relaid s ((s.setOverlay overlay).applyCursorIfAny host cursor) := .inl (by rw [hscreen]; rfl)
    exact hupdated.trans (render_relaid hr)

theorem CarriedOut.relaid {op : Operation} (h : s.CarriedOut host s' op) (hop : op.isOfView = true) :
    Relaid s s' := by
  cases op with
  | announce _ | push _ | dropProducer | dropConsumer | pump | notice _ | prepare _ | setPaused _
  | startRate | stopRate => cases hop
  | render refresh => exact render_relaid h
  | windowEvent event => exact handleWindowEvent_relaid h
  | pointer event =>
    obtain ⟨-, overlay, -, hscreen⟩ := handlePointer_effect h
    exact .inl (by rw [hscreen])
  | setOrientation o => exact setOrientation_relaid h
  | toggleFullscreen => exact toggleFullscreen_relaid h
  | resizeToFit => exact .inl (by rw [(resizeToFit_effect h).2])
  | resizeToPixelPerfect =>
    obtain ⟨-, window, hscreen⟩ := resizeToPixelPerfect_effect h
    exact .inl (by rw [hscreen])
  | hide | raise | setOnTop onTop | panelClick id => exact h ▸ .inl rfl
  | updatePanel visible buttons | panelMessage text =>
    rcases h with rfl | ⟨update, -, h⟩
    · exact .refl _
    · exact updatePanel_relaid h
  | map point => exact h ▸ .refl _

/-! ## Laying out for a frame -/

/-- A new frame size is laid out, unless it has no pixels. -/
theorem prepareForFrame_relaid {size : Size} {r : Outcome} (h : s.prepareForFrame host size = .ok (r, s')) :
    Relaid s s' ∧ (s' = s ∨ (size.isEmpty = false → s'.screen.contentRect.isEmpty = false)) := by
  rcases prepareForFrame_ok h with ⟨-, -, rfl⟩ | ⟨t, u, ht, hu, hr⟩
  · exact ⟨.refl _, .inl rfl⟩
  · obtain ⟨-, window, hscreen⟩ := setContentSize_effect ht
    have hresized : Relaid s t := .inl (by rw [hscreen]; rfl)
    have hasked : Relaid u s' := by
      obtain rfl : (u.request host (.setTextureSize size)).2 = s' := congrArg Prod.snd hr
      exact .request _
    refine ⟨hresized.trans ((layOut_relaid hu).trans hasked), .inr fun hsize => ?_⟩
    have hcontent : t.screen.contentSize.isEmpty = false := by
      rw [hscreen]
      exact (Orientation.isEmpty_orientedSize _ size).trans hsize
    exact hasked.pixels (layOut_pixels hcontent hu)

theorem showInitialWindow_relaid (h : s.showInitialWindow host = .ok s') :
    Relaid s s' ∧ (s.screen.contentSize.isEmpty = false → s'.screen.contentRect.isEmpty = false) := by
  rcases showInitialWindow_ok h with ⟨-, h⟩ | ⟨-, size, t, u, ht, hu, h⟩
  · exact ⟨layOut_relaid h, fun hcontent => layOut_pixels hcontent h⟩
  · obtain ⟨htoggled, hcontent⟩ : Relaid s t ∧ t.screen.contentSize = s.screen.contentSize := by
      rcases ht with ⟨-, rfl⟩ | ⟨-, ht⟩
      · exact ⟨.inl rfl, rfl⟩
      · obtain ⟨-, window, rect, sent, hscreen⟩ := toggleFullscreen_effect ht
        refine ⟨(Relaid.tell _).trans ((Relaid.tell _).trans (toggleFullscreen_relaid ht)), ?_⟩
        rw [hscreen]
        rfl
    -- Starting the meter and showing the window leave the view as it is.
    have hshown : Relaid t (u.tell host .showWindow) ∧
        (u.tell host .showWindow).screen.contentSize = t.screen.contentSize := by
      rcases hu with rfl | rfl
      · exact ⟨.inl rfl, rfl⟩
      · exact ⟨.inl rfl, rfl⟩
    refine ⟨htoggled.trans (hshown.1.trans (layOut_relaid h)), fun hs => layOut_pixels ?_ h⟩
    rw [hshown.2, hcontent]
    exact hs

/-- The first frame is laid out, unless it has no pixels. -/
theorem showUploaded_relaid (h : s.showUploaded host = .ok s') :
    Relaid s s' ∧ (s.screen.hasFrame = false → s.screen.contentSize.isEmpty = false →
      s'.screen.contentRect.isEmpty = false) := by
  obtain ⟨t, rate, ht, -, hr⟩ := showUploaded_ok h
  have hcounted : Relaid t (t.update ({ · with hasFrame := true, rate })) := .inl rfl
  have hdrawn : Relaid t s' := hcounted.trans (render_relaid hr)
  rcases ht with ⟨hframe, rfl⟩ | ⟨-, ht⟩
  · exact ⟨hdrawn, fun hfirst => Bool.noConfusion (hfirst.symm.trans hframe)⟩
  · have ⟨hshown, hlaid⟩ := showInitialWindow_relaid ht
    exact ⟨hshown.trans hdrawn, fun _ hcontent => hdrawn.pixels (hlaid hcontent)⟩

end Session

end RemoteView
