/-
What the parts of an operation ask of the host about the window and the texture. Apart
from the first sizing of the window (`Session.showUploaded_asked`), a part that is not
about frames asks nothing of the texture, and it asks for another size only if the window
is free (`Session.CarriedOut.asked`).
-/
import RemoteView.Proofs.Screen.Effects.Course

namespace RemoteView

variable {σ : Type}

/-- Whether the request is about the texture that takes the frames. -/
def Request.isOfTexture : Request → Bool
  | setTextureSize _ | updateTexture _ => true
  | _ => false

/-- The display took a frame. -/
def Entry.grants (e : Entry) : Bool :=
  match e.request with
  | .updateTexture _ => e.outcome = .ok
  | _ => false

/-- The display was not ready for a frame, or failed. -/
def Entry.refuses (e : Entry) : Bool := e.request.isOfTexture && e.outcome ≠ .ok

/-- A request of a part that is not about frames. -/
structure Entry.OfView (e : Entry) : Prop where
  texture : e.request.isOfTexture = false
  spares : e.Spares

theorem Entry.OfView.of_plain {e : Entry} (hplain : e.request.isPlain = true) (hspares : e.Spares) : e.OfView := by
  refine ⟨?_, hspares⟩
  cases hr : e.request with
  | setTextureSize _ | updateTexture _ =>
    rw [hr] at hplain
    cases hplain
  | _ => rfl

/-- A request for anything but a size. -/
theorem Entry.OfView.of_eq {e : Entry} {r : Request} (hr : e.request = r) (htexture : r.isOfTexture = false)
    (hsize : ∀ size, r ≠ .setSize size) : e.OfView :=
  ⟨hr ▸ htexture, fun size h => absurd (hr.symm.trans h) (hsize size)⟩

namespace Session

variable {host : Host σ} {s s' t : Session σ} {P : Entry → Prop}

theorem Asked.untextured (h : Asked Entry.OfView s s') : Asked (·.request.isOfTexture = false) s s' :=
  h.mono fun _ hview => hview.texture

/-- What a course asks for. -/
theorem Course.asked (h : Course host s s') : Asked Entry.OfView s s' :=
  h.asked_of (fun _ => .of_plain) (fun _ _ _ hr => .of_eq hr rfl nofun)
    fun _ _ _ hr => .of_eq hr rfl nofun

theorem applyCursorIfAny_asked (s : Session σ) (host : Host σ) (shape : Option Panel.CursorShape)
    (h : ∀ shape outcome resized, P ⟨.setCursor shape, outcome, s.screen.window.flags, resized⟩) :
    Asked P s (s.applyCursorIfAny host shape) := by
  cases shape with
  | none => exact .refl s
  | some shape =>
    obtain ⟨overlay, -, heq⟩ := applyCursor_ok s host shape
    have hasked : Asked P s (s.request host (.setCursor shape)).2 := .request (h shape)
    show Asked P s (s.applyCursor host shape)
    exact heq ▸ hasked.trans (.update _)

/-- What an operation of the view asks for. -/
theorem CarriedOut.asked {op : Operation} (h : s.CarriedOut host s' op) (hop : op.isOfView = true) :
    Asked Entry.OfView s s' := by
  rcases h.course hop with hcourse | ⟨id, -, rfl⟩ | ⟨-, -, t, hcourse, ⟨pointer, -, rfl⟩ | ⟨id, rfl⟩⟩
  · exact hcourse.asked
  · exact .tell fun _ _ => .of_eq rfl rfl nofun
  · exact hcourse.asked.trans (.tell fun _ _ => .of_eq rfl rfl nofun)
  · exact hcourse.asked.trans (.tell fun _ _ => .of_eq rfl rfl nofun)

/-! ## Frames -/

/-- Once the window has followed a new frame size, a texture of that size is asked for. -/
theorem prepareForFrame_course {size : Size} {r : Outcome} (h : s.prepareForFrame host size = .ok (r, s')) :
    (s.screen.frameSize = size ∧ r = .ok ∧ s' = s) ∨
      ∃ t, Course host (s.update ({ · with frameSize := size })) t ∧
        t.request host (.setTextureSize size) = (r, s') := by
  rcases prepareForFrame_ok h with hsame | ⟨t, u, ht, hu, hr⟩
  · exact .inl hsame
  · exact .inr ⟨u, (setContentSize_course ht).trans (layOut_course hu), hr⟩

theorem prepareForFrame_asked {size : Size} {r : Outcome} (h : s.prepareForFrame host size = .ok (r, s')) :
    (s.screen.frameSize = size ∧ r = .ok ∧ s' = s) ∨
      ∃ t, Asked Entry.OfView s t ∧ t.request host (.setTextureSize size) = (r, s') := by
  rcases prepareForFrame_course h with hsame | ⟨t, ht, hr⟩
  · exact .inl hsame
  · exact .inr ⟨t, (Asked.update _).trans ht.asked, hr⟩

/-- A window that is shown for the first time is sized whether it is free or not. -/
theorem showInitialWindow_course (h : s.showInitialWindow host = .ok s') :
    Course host s s' ∨ ∃ size u rate,
      Course host (s.tell host (.setSize size)) u ∧
        Course host ((u.setRate rate).tell host .showWindow) s' := by
  rcases showInitialWindow_ok h with ⟨-, h⟩ | ⟨-, size, t, u, ht, hu, h⟩
  · exact .inl (layOut_course h)
  · have hplaced (x y : Coordinate) : Course host (s.tell host (.setSize size))
        ((s.tell host (.setSize size)).tell host (.setPosition x y)) :=
      .tell rfl nofun
    have ht : Course host (s.tell host (.setSize size)) t := by
      rcases ht with ⟨-, rfl⟩ | ⟨-, ht⟩
      · exact hplaced _ _
      · exact (hplaced _ _).trans (toggleFullscreen_course ht)
    rcases hu with rfl | rfl
    · exact .inr ⟨size, u, u.screen.rate, ht, layOut_course h⟩
    · exact .inr ⟨size, t, _, ht, layOut_course h⟩

/-- A frame that was uploaded is drawn on a course, once the window was set up for it. -/
theorem showUploaded_course (h : s.showUploaded host = .ok s') :
    ∃ t rate, (s.screen.hasFrame = true ∧ t = s ∨
        s.screen.hasFrame = false ∧ s.showInitialWindow host = .ok t) ∧
      Course host (t.update ({ · with hasFrame := true, rate })) s' := by
  obtain ⟨t, rate, ht, -, hr⟩ := showUploaded_ok h
  exact ⟨t, rate, ht, render_course hr⟩

theorem showUploaded_asked (h : s.showUploaded host = .ok s') :
    ∃ t, (t = s ∨ s.screen.hasFrame = false ∧ ∃ size, t = s.tell host (.setSize size)) ∧
      Asked Entry.OfView t s' := by
  obtain ⟨u, rate, hu, hr⟩ := showUploaded_course h
  have hdrawn : Asked Entry.OfView u s' := (Asked.update _).trans hr.asked
  rcases hu with ⟨-, rfl⟩ | ⟨hf, hu⟩
  · exact ⟨u, .inl rfl, hdrawn⟩
  · rcases showInitialWindow_course hu with hu | ⟨size, t, rate', ht, hu⟩
    · exact ⟨s, .inl rfl, hu.asked.trans hdrawn⟩
    · have hshown : Asked Entry.OfView t ((t.setRate rate').tell host .showWindow) :=
        (Asked.update _).trans (.tell fun _ _ => .of_eq rfl rfl nofun)
      exact ⟨_, .inr ⟨hf, size, rfl⟩, ht.asked.trans (hshown.trans (hu.asked.trans hdrawn))⟩

/-- Once a frame was uploaded, nothing more is asked of the texture. -/
theorem showUploaded_untextured (h : s.showUploaded host = .ok s') :
    Asked (·.request.isOfTexture = false) s s' := by
  obtain ⟨t, ht, hasked⟩ := showUploaded_asked h
  rcases ht with rfl | ⟨-, size, rfl⟩
  · exact hasked.untextured
  · have hsized : Asked (·.request.isOfTexture = false) s (s.tell host (.setSize size)) := .tell fun _ _ => rfl
    exact hsized.trans hasked.untextured

end Session

end RemoteView
