/-
What it means that a picture is current, and what keeps it so.

The picture of a session is the last scene that it drew. It is `Current` if the
content lies in it where the sizes of this moment put it, if it is turned as the
view is, and if the panel is there when it is to be seen, with all its buttons.
A picture is made of the sizes of the window, of the place and the orientation of
the content, and of the panel. `Alike` says that these are unchanged, `Quiet`
that nothing was asked of the host that draws or that may resize the window. A
host can resize the window with any request; `strays` counts how often it did so
with one that is not there for it.
-/
import RemoteView.Proofs.Screen.Effects.Input

namespace RemoteView

variable {σ : Type}

/-- The scene that a request draws. -/
def Request.scene? : Request → Option Scene
  | .render scene => some scene
  | _ => none

/-- Whether the request asks for a window of another size. -/
def Request.isSizing : Request → Bool
  | setSize _ | setFullscreen _ => true
  | _ => false

/-- Whether a size changed with a request that is not there to change it. -/
def Entry.isStray (e : Entry) : Bool := !e.request.isSizing && e.resized

namespace Session

variable {host : Host σ} {s s' t : Session σ}

def strays (s : Session σ) : Nat := s.journal.countP Entry.isStray

/-- The scene that was drawn last. -/
def lastScene (s : Session σ) : Option Scene := s.journal.findSome? (·.request.scene?)

/-- The content lies where the sizes of this moment put it, beside a panel that
is as wide as they make it. -/
def Laid (host : Host σ) (s : Session σ) : Prop :=
  Fitting.contentRect (host.drawableSize s.outside) s.screen.contentSize
    (Fitting.panelWidthScaled s.screen.overlay.panel.visible Panel.logicalWidth (host.windowSize s.outside)
      (host.drawableSize s.outside)) = .ok s.screen.contentRect

/-- The scene shows the view as it is: the content where it was laid out and turned as it is now,
and a panel only if there is one to see, with its buttons and where each of them lies. -/
structure Shows (host : Host σ) (s : Session σ) (scene : Scene) : Prop where
  contentRect : scene.contentRect = s.screen.contentRect
  orientation : scene.orientation = s.screen.orientation
  unseen : s.screen.overlay.panel.visible = false ∨ s.screen.overlay.panel.buttons = [] → scene.panel = none
  seen : s.screen.overlay.panel.visible = true → s.screen.overlay.panel.buttons ≠ [] → ∃ layout,
    Panel.Layout.forScreen s.screen.contentRect
      (Fitting.panelWidthScaled s.screen.overlay.panel.visible Panel.logicalWidth (host.windowSize s.outside)
        (host.drawableSize s.outside))
      (host.drawableSize s.outside).height.toInt32 s.screen.overlay.panel.buttons.length = .ok layout ∧
    scene.panel = some ⟨layout, s.screen.overlay.panel.buttons⟩

/-- The last scene is the one that the view and the window determine now. -/
structure Current (host : Host σ) (s : Session σ) : Prop where
  laid : s.Laid host
  drawn : ∃ scene, s.lastScene = some scene ∧ s.Shows host scene

theorem shows_scene {layout : Panel.Layout} (h : s.panelLayout host = .ok layout) :
    s.Shows host (s.scene layout) where
  contentRect := rfl
  orientation := rfl
  unseen := by
    rintro (hpanel | hpanel)
    · simp [Session.scene, hpanel]
    · simp [Session.scene, hpanel]
  seen hvisible hbuttons := ⟨layout, h, by simp [Session.scene, hvisible, hbuttons]⟩

theorem strays_le (h : s.journal <:+ s'.journal) : s.strays ≤ s'.strays := h.sublist.countP_le

theorem sizes_request {r : Request}
    (hstray : ∀ flags resized, Entry.isStray ⟨r, (host.perform r s.outside).1, flags, resized⟩ = resized)
    (hcalm : (s.request host r).2.strays = s.strays) :
    host.sizes (s.request host r).2.outside = host.sizes s.outside := by
  simp only [strays, request, List.countP_cons, hstray] at hcalm
  by_cases hsizes : host.sizes (host.perform r s.outside).2 = host.sizes s.outside
  · exact hsizes
  · simp [hsizes] at hcalm

/-! ## What a picture is made of -/

/-- Nothing that a picture is made of has changed. -/
structure Alike (host : Host σ) (s s' : Session σ) : Prop where
  sizes : host.sizes s'.outside = host.sizes s.outside
  rect : s'.screen.contentRect = s.screen.contentRect
  content : s'.screen.contentSize = s.screen.contentSize
  orientation : s'.screen.orientation = s.screen.orientation
  panel : s'.screen.overlay.panel = s.screen.overlay.panel

namespace Alike

/-- The fields that no picture is made of. -/
theorem of_screen {window rate sent paused held seen frame overlay}
    (hsizes : host.sizes s'.outside = host.sizes s.outside)
    (hpanel : overlay.panel = s.screen.overlay.panel) (hscreen : s'.screen = { s.screen with
      window, rate, readySent := sent, paused, held, skippedSeen := seen, hasFrame := frame, overlay }) :
    Alike host s s' :=
  ⟨hsizes, by rw [hscreen], by rw [hscreen], by rw [hscreen], by rw [hscreen]; exact hpanel⟩

theorem windowSize (h : Alike host s s') : host.windowSize s'.outside = host.windowSize s.outside :=
  congrArg Prod.fst h.sizes

theorem drawableSize (h : Alike host s s') : host.drawableSize s'.outside = host.drawableSize s.outside :=
  congrArg Prod.snd h.sizes

theorem laid (h : Alike host s s') (hs : s.Laid host) : s'.Laid host := by
  rw [Laid, h.drawableSize, h.windowSize, h.content, h.panel, h.rect]
  exact hs

theorem shows (h : Alike host s s') {scene : Scene} (hs : s.Shows host scene) : s'.Shows host scene where
  contentRect := hs.contentRect.trans h.rect.symm
  orientation := hs.orientation.trans h.orientation.symm
  unseen := by
    rw [h.panel]
    exact hs.unseen
  seen := by
    rw [h.panel, h.rect, h.drawableSize, h.windowSize]
    exact hs.seen

theorem current (h : Alike host s s') (hscene : s'.lastScene = s.lastScene) (hs : s.Current host) :
    s'.Current host := by
  obtain ⟨scene, hlast, hshows⟩ := hs.drawn
  exact ⟨h.laid hs.laid, scene, hscene.trans hlast, h.shows hshows⟩

end Alike

/-! ## Requests that leave the picture alone -/

/-- Nothing was drawn, and the sizes can only have changed as strays. -/
structure Quiet (host : Host σ) (s s' : Session σ) : Prop where
  scene : s'.lastScene = s.lastScene
  strays : s.strays ≤ s'.strays
  sizes : s'.strays = s.strays → host.sizes s'.outside = host.sizes s.outside

namespace Quiet

theorem refl (s : Session σ) : Quiet host s s := ⟨rfl, Nat.le_refl _, fun _ => rfl⟩

theorem trans (h : Quiet host s t) (h' : Quiet host t s') : Quiet host s s' := by
  refine ⟨h'.scene.trans h.scene, Nat.le_trans h.strays h'.strays, fun he => ?_⟩
  -- No strays on the whole way are none on either part of it.
  have hle := h.strays
  have hle' := h'.strays
  exact (h'.sizes (by omega)).trans (h.sizes (by omega))

theorem update (change : Screen → Screen) : Quiet host s (s.update change) :=
  ⟨rfl, Nat.le_refl _, fun _ => rfl⟩

theorem setFeed (feed : Feed) : Quiet host s (s.setFeed feed) := ⟨rfl, Nat.le_refl _, fun _ => rfl⟩

/-- A request that does not draw, and with which a change of a size is a stray. -/
theorem request {r : Request} (hscene : r.scene? = none) (hstray : ∀ flags resized,
    Entry.isStray ⟨r, (host.perform r s.outside).1, flags, resized⟩ = resized) :
    Quiet host s (s.request host r).2 :=
  ⟨by simp only [lastScene, Session.request, List.findSome?_cons, hscene], strays_le (List.suffix_cons _ _),
    sizes_request hstray⟩

end Quiet

theorem announceReady_quiet (s : Session σ) (host : Host σ) : Quiet host s (s.announceReady host) := by
  unfold announceReady
  split
  · exact .refl s
  · exact (Quiet.update _).trans (.request rfl fun _ _ => rfl)

theorem applyCursorIfAny_quiet (s : Session σ) (host : Host σ) (shape : Option Panel.CursorShape) :
    Quiet host s (s.applyCursorIfAny host shape) := by
  cases shape with
  | none => exact .refl s
  | some shape =>
    obtain ⟨overlay, -, heq⟩ := applyCursor_ok s host shape
    have hasked : Quiet host s (s.request host (.setCursor shape)).2 := .request rfl fun _ _ => rfl
    show Quiet host s (s.applyCursor host shape)
    exact heq ▸ hasked.trans (.update _)

theorem performAction_quiet {event : PointerEvent} {action : Panel.Action}
    (h : s.performAction host event action = .ok s') : Quiet host s s' := by
  rcases performAction_ok h with rfl | ⟨pointer, -, rfl⟩ | ⟨id, rfl⟩
  · exact .refl _
  · exact .request rfl fun _ _ => rfl
  · exact .request rfl fun _ _ => rfl

theorem handlePointer_quiet {event : PointerEvent} (h : s.handlePointer host event = .ok s') :
    Quiet host s s' := by
  rcases handlePointer_ok h with ⟨-, rfl⟩ | ⟨-, t, action, ht, ha⟩
  · exact .refl _
  · obtain ⟨overlay, cursor, -, rfl⟩ := decided_ok ht
    have hcursor := applyCursorIfAny_quiet (s.setOverlay overlay) host cursor
    exact (Quiet.update _).trans (hcursor.trans (performAction_quiet ha))

/-! ## Drawing -/

theorem present_current (hl : s.Laid host) (h : s.present host = .ok s') (hcalm : s'.strays = s.strays) :
    s'.Current host := by
  obtain ⟨layout, hlayout, rfl⟩ := present_ok h
  have hready := announceReady_quiet (s.tell host (.render (s.scene layout))) host
  have hscreen := (announceReady_effect (s.tell host (.render (s.scene layout))) host).2
  have hdrawn : s.strays ≤ (s.tell host (.render (s.scene layout))).strays :=
    strays_le (List.suffix_cons _ _)
  have hle := hready.strays
  have hcalm' : (s.tell host (.render (s.scene layout))).strays = s.strays := by omega
  have hsizes : host.sizes (s.tell host (.render (s.scene layout))).outside = host.sizes s.outside :=
    sizes_request (fun _ _ => rfl) hcalm'
  have halike : Alike host s ((s.tell host (.render (s.scene layout))).announceReady host) :=
    .of_screen ((hready.sizes (by omega)).trans hsizes) rfl hscreen
  exact ⟨halike.laid hl, s.scene layout, hready.scene, halike.shows (shows_scene hlayout)⟩

theorem layOut_laid (hcontent : s.screen.contentSize.isEmpty = false) (h : s.layOut host = .ok s') :
    s'.Laid host := by
  rcases layOut_ok h with ⟨he, -⟩ | ⟨-, rect, hr, rfl⟩
  · exact Bool.noConfusion (hcontent.symm.trans he)
  · exact hr

theorem render_current (hf : s.screen.hasFrame = true) (hcontent : s.screen.contentSize.isEmpty = false)
    (h : s.render host true = .ok s') (hcalm : s'.strays = s.strays) : s'.Current host := by
  rcases render_ok h with ⟨he, -⟩ | ⟨-, ⟨-, t, hl, hp⟩ | ⟨he, -⟩⟩
  · exact Bool.noConfusion (hf.symm.trans he)
  · have hlaid := layOut_laid hcontent hl
    obtain ⟨rect, rfl⟩ := layOut_effect hl
    exact present_current hlaid hp hcalm
  · cases he

end Session

end RemoteView
