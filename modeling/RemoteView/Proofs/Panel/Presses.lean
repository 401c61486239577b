/-
Which presses the device is left with.

An overlay is watched together with the events that it let through to the device
(`WatchedOverlay.sent`). What it remembers of the pointer follows from these alone
(`Recalls`): it is the last button that went down beside the visible panel, until a
button goes up there. The two main statements are read off that memory. A release
that is made up ends a press, unless the last that the device saw of the button went
past a hidden panel (`run_release_ends_press`). And a pointer on the panel leaves a
button down only if it went down past a hidden panel or if another button was used
after it (`run_pressed_on_panel`).
-/
import RemoteView.Proofs.Panel.Overlay

namespace RemoteView

namespace PointerEvent

/-- The button that went down or up. -/
def button? : PointerEvent → Option MouseButton
  | motion _ => none
  | down _ button _ | up _ button _ => some button

def isPress : PointerEvent → Bool
  | down .. => true
  | motion _ | up .. => false

end PointerEvent

namespace Panel

/-- The event that the device sees after a decision on `event`, if any. -/
def Action.sent? (event : PointerEvent) : Action → Option PointerEvent
  | pass | forwardThenSwallow => some event
  | swallow | activate _ => none
  | releaseThenSwallow release => some release

/-- What can happen to an overlay. Every pointer event may find another layout. -/
inductive OverlayChange where
  | pointer (event : PointerEvent) (drawn : Point) (layout : Layout)
  | updated (update : Update)
  | cursorSwapDisabled

/-- An event that the device saw, and whether the panel was visible then. -/
structure SentEvent where
  event : PointerEvent
  visible : Bool
  deriving DecidableEq

/-- An overlay with all that the device saw since it was made, the last event first. -/
structure WatchedOverlay where
  overlay : Overlay
  sent : List SentEvent := []
  deriving DecidableEq

/-- The last event of a button. -/
def lastOf (button : MouseButton) (sent : List SentEvent) : Option SentEvent :=
  sent.find? (·.event.button? == some button)

/-- What came after the last event of a button. -/
def sinceLastOf (button : MouseButton) (sent : List SentEvent) : List SentEvent :=
  sent.takeWhile (·.event.button? != some button)

/-- The last button that went down beside the visible panel, unless one went up
there since. -/
def remembered : List SentEvent → Option MouseButton
  | [] => none
  | e :: older =>
    match e.visible, e.event with
    | true, .down _ button _ => some button
    | true, .up .. => none
    | true, .motion _ | false, _ => remembered older

namespace WatchedOverlay

/-- A new overlay, with its panel shown or hidden. -/
def opened (visible : Bool) : WatchedOverlay := { overlay := { panel := { visible } } }

def step (w : WatchedOverlay) : OverlayChange → Except Fault WatchedOverlay
  | .pointer event drawn layout => do
    let (outcome, overlay) ← w.overlay.handlePointer event drawn layout
    let sent := (outcome.action.sent? event).map (⟨·, w.overlay.visible⟩)
    return { overlay, sent := sent.toList ++ w.sent }
  | .updated update => return { w with overlay := (w.overlay.applyUpdate update).2 }
  | .cursorSwapDisabled => return { w with overlay := w.overlay.disableCursorSwap }

/-- The overlay after a list of changes. -/
def run (w : WatchedOverlay) (changes : List OverlayChange) : Except Fault WatchedOverlay :=
  changes.foldlM step w

end WatchedOverlay

/-! ## What the memory says about the events -/

theorem lastOf_cons_of_ne {button : MouseButton} {e : SentEvent} (h : e.event.button? ≠ some button)
    (sent : List SentEvent) : lastOf button (e :: sent) = lastOf button sent :=
  List.find?_cons_of_neg (by simpa using h)

theorem lastOf_cons_self {button : MouseButton} {e : SentEvent} (h : e.event.button? = some button)
    (sent : List SentEvent) : lastOf button (e :: sent) = some e :=
  List.find?_cons_of_pos (by simpa using h)

theorem sinceLastOf_cons_of_ne {button : MouseButton} {e : SentEvent}
    (h : e.event.button? ≠ some button) (sent : List SentEvent) :
    sinceLastOf button (e :: sent) = e :: sinceLastOf button sent :=
  List.takeWhile_cons_of_pos (by simpa using h)

/-- A remembered button is down, or it was used past a hidden panel. -/
theorem lastOf_of_remembered {button : MouseButton} {sent : List SentEvent}
    (h : remembered sent = some button) :
    ∃ last, lastOf button sent = some last ∧ (last.event.isPress = true ∨ last.visible = false) := by
  induction sent with
  | nil => cases h
  | cons e older ih =>
    by_cases hbutton : e.event.button? = some button
    · rw [lastOf_cons_self hbutton]
      refine ⟨e, rfl, ?_⟩
      obtain ⟨event, visible⟩ := e
      cases visible with
      | false => exact .inr rfl
      | true =>
        cases event with
        | motion point => cases hbutton
        | down point _ clicks => exact .inl rfl
        | up point _ clicks => cases h
    · rw [lastOf_cons_of_ne hbutton]
      -- Beside the visible panel, an event of another button would have replaced the memory.
      obtain ⟨event, visible⟩ := e
      cases visible with
      | false => exact ih h
      | true =>
        cases event with
        | motion point => exact ih h
        | down point other clicks => exact absurd h hbutton
        | up point other clicks => cases h

/-- A button that went down beside the visible panel is remembered until some button
is used there again. -/
theorem remembered_of_lastOf {button : MouseButton} {sent : List SentEvent} {press : SentEvent}
    (hlast : lastOf button sent = some press) (hpress : press.event.isPress = true)
    (hvisible : press.visible = true)
    (hsince : ∀ e ∈ sinceLastOf button sent, e.visible = true → e.event.isButton = false) :
    remembered sent = some button := by
  induction sent with
  | nil => cases hlast
  | cons e older ih =>
    by_cases hbutton : e.event.button? = some button
    · rw [lastOf_cons_self hbutton] at hlast
      obtain rfl := Option.some.inj hlast
      obtain ⟨event, visible⟩ := e
      obtain rfl : visible = true := hvisible
      cases event with
      | motion _ | up _ _ _ => cases hpress
      | down point _ clicks => exact hbutton
    · rw [lastOf_cons_of_ne hbutton] at hlast
      rw [sinceLastOf_cons_of_ne hbutton] at hsince
      -- `e` came after the press, so `hsince` rules out that it touched the memory.
      have hrest := ih hlast fun e he => hsince e (List.mem_cons_of_mem _ he)
      have hnewest := hsince e List.mem_cons_self
      obtain ⟨event, visible⟩ := e
      cases visible with
      | false => exact hrest
      | true =>
        cases event with
        | motion point => exact hrest
        | down _ _ _ | up _ _ _ => cases hnewest rfl

/-! ## What an overlay remembers -/

namespace Overlay

variable {o o' : Overlay} {sent : List SentEvent}

/-- A visible panel that remembers what the events call for still does after the next
one. -/
theorem remembered_decided (hit : Hit) (event : PointerEvent)
    (hmemory : o.pressedOutside = remembered sent) :
    (o.decided hit event).2.pressedOutside =
      remembered ((((o.decided hit event).1.action.sent? event).map (SentEvent.mk · true)).toList ++ sent) := by
  cases event with
  | motion point =>
    by_cases houtside : hit = .outside
    · subst houtside
      exact (o.handleMotion_outside point).trans hmemory
    · obtain ⟨hspent, haction⟩ := o.handleMotion_on_panel point houtside
      rw [decided, hspent, haction]
      cases hp : o.pressedOutside with
      | none => exact hp.symm.trans hmemory
      | some button => rfl
  | down point button clicks =>
    by_cases houtside : hit = .outside
    · subst houtside
      rfl
    · obtain ⟨action, hdown, haction⟩ := o.handleDown_on_panel button houtside
      rw [decided, hdown]
      rcases haction with rfl | ⟨id, rfl⟩ <;> exact hmemory
  | up point button clicks =>
    simp only [decided, handleUp]
    split <;> rfl

/-- Past a hidden panel events go unnoticed. -/
theorem remembered_handlePointer {event : PointerEvent} {drawn : Point} {layout : Layout}
    {outcome : Outcome} (h : o.handlePointer event drawn layout = .ok (outcome, o'))
    (hmemory : o.pressedOutside = remembered sent) :
    o'.pressedOutside =
      remembered (((outcome.action.sent? event).map (SentEvent.mk · o.visible)).toList ++ sent) := by
  rcases handlePointer_ok h with ⟨hhidden, hpass, rfl⟩ | ⟨hvisible, hit, -, rfl, rfl⟩
  · rw [hhidden, hpass]
    exact hmemory
  · rw [hvisible]
    exact remembered_decided hit event hmemory

end Overlay

/-! ## Every run -/

namespace WatchedOverlay

variable {w w' : WatchedOverlay} {changes : List OverlayChange}

/-- The memory is the one that the events sent so far call for. -/
def Recalls (w : WatchedOverlay) : Prop := w.overlay.pressedOutside = remembered w.sent

theorem Recalls.step {change : OverlayChange} (h : w.Recalls) (hs : w.step change = .ok w') :
    w'.Recalls := by
  cases change with
  | pointer event drawn layout =>
    simp only [WatchedOverlay.step, Except.bind_ok_iff, Except.pure_ok_iff] at hs
    obtain ⟨⟨outcome, overlay⟩, ho, rfl⟩ := hs
    exact Overlay.remembered_handlePointer ho h
  | updated update => exact Except.pure_ok_iff.mp hs ▸ h
  | cursorSwapDisabled => exact Except.pure_ok_iff.mp hs ▸ h

theorem recalls_opened (visible : Bool) : (opened visible).Recalls := rfl

theorem Recalls.run (h : w.Recalls) (hrun : w.run changes = .ok w') : w'.Recalls :=
  Except.foldlM_keeps (fun _ _ _ _ h hs => h.step hs) h hrun

/-- **No release without a press.** When an overlay makes up a release, whatever it
went through before, the device saw its button go down and nothing of that button
since, unless the last that it saw of the button went past a hidden panel. -/
theorem run_release_ends_press {visible : Bool} (hrun : (opened visible).run changes = .ok w)
    {event release : PointerEvent} {drawn : Point} {layout : Layout} {outcome : Outcome} {next : Overlay}
    (hdecided : w.overlay.handlePointer event drawn layout = .ok (outcome, next))
    (hrelease : outcome.action = .releaseThenSwallow release) :
    ∃ button last, release = .up event.point button 1 ∧ lastOf button w.sent = some last ∧
      (last.event.isPress = true ∨ last.visible = false) := by
  obtain ⟨button, hp, hup⟩ := Overlay.pressedOutside_of_release hdecided hrelease
  have hrecalls : w.overlay.pressedOutside = remembered w.sent := (recalls_opened visible).run hrun
  rw [hrecalls] at hp
  obtain ⟨last, hlast, hends⟩ := lastOf_of_remembered hp
  exact ⟨button, last, hup, hlast, hends⟩

/-- A panel of a hundred columns, right of five hundred columns of content. -/
def asideLayout : Layout := { panel := ⟨500, 0, 100, 900⟩, buttons := [] }

/-- A pointer event in a window whose pixels are drawing pixels. -/
def aside (event : PointerEvent) : OverlayChange := .pointer event event.point asideLayout

/-- A click past the panel, and a button that goes down once the panel was hidden and
shown again. -/
def dragRun : List OverlayChange :=
  [aside (.down ⟨100, 100⟩ .right 1), aside (.up ⟨300, 200⟩ .right 1), .updated ⟨some false, []⟩,
    .updated ⟨some true, []⟩, aside (.down ⟨100, 100⟩ .left 1)]

def afterDrag : WatchedOverlay where
  overlay := { panel := { visible := true }, pressedOutside := some .left }
  sent := [⟨.down ⟨100, 100⟩ .left 1, true⟩, ⟨.up ⟨300, 200⟩ .right 1, true⟩,
    ⟨.down ⟨100, 100⟩ .right 1, true⟩]

theorem run_release_ends_press_drag : ∃ next,
    (opened true).run dragRun = .ok afterDrag ∧
    afterDrag.overlay.handlePointer (.motion ⟨510, 20⟩) ⟨510, 20⟩ asideLayout =
      .ok ({ action := .releaseThenSwallow (.up ⟨510, 20⟩ .left 1) }, next) ∧
    ∃ button last, PointerEvent.up ⟨510, 20⟩ .left 1 = .up ⟨510, 20⟩ button 1 ∧
      lastOf button afterDrag.sent = some last ∧ (last.event.isPress = true ∨ last.visible = false) := by
  have hrun : (opened true).run dragRun = .ok afterDrag := rfl
  have hdecided : afterDrag.overlay.handlePointer (.motion ⟨510, 20⟩) ⟨510, 20⟩ asideLayout =
      .ok ({ action := .releaseThenSwallow (.up ⟨510, 20⟩ .left 1) }, { panel := { visible := true } }) := rfl
  exact ⟨_, hrun, hdecided, run_release_ends_press hrun hdecided rfl⟩

/-- A button that goes down beside the panel and up past the hidden panel. -/
def hiddenRelease : List OverlayChange :=
  [aside (.down ⟨100, 100⟩ .left 1), .updated ⟨some false, []⟩, aside (.up ⟨100, 100⟩ .left 1),
    .updated ⟨some true, []⟩]

/-- The exception is real: the release of the button is made up a second time. -/
theorem release_made_up_again : ∃ w outcome next,
    (opened true).run hiddenRelease = .ok w ∧
    w.overlay.handlePointer (.motion ⟨510, 20⟩) ⟨510, 20⟩ asideLayout = .ok (outcome, next) ∧
    outcome.action = .releaseThenSwallow (.up ⟨510, 20⟩ .left 1) ∧
    (lastOf .left w.sent).map (·.event) = some (.up ⟨100, 100⟩ .left 1) :=
  ⟨_, _, _, rfl, rfl, rfl, rfl⟩

/-- **The last press ends on the panel.** After a motion over the visible panel, of
which the device sees at most a release, a button is down only if it went down past a
hidden panel or if another button was used beside the visible panel since. -/
theorem run_pressed_on_panel {visible : Bool} (hrun : (opened visible).run changes = .ok w)
    (point : Point) {drawn : Point} {layout : Layout} {hit : Hit} (hvisible : w.overlay.visible = true)
    (hhit : layout.hitTest drawn = .ok hit) (hpanel : hit ≠ .outside) :
    ∃ w', w.step (.pointer (.motion point) drawn layout) = .ok w' ∧
      ∀ button last, lastOf button w'.sent = some last → last.event.isPress = true →
        last.visible = false ∨
          ∃ e ∈ sinceLastOf button w'.sent, e.visible = true ∧ e.event.isButton = true := by
  have hdecided : w.overlay.handlePointer (.motion point) drawn layout =
      .ok (w.overlay.handleMotion point hit) := by
    simp only [Overlay.handlePointer, hvisible, hhit, bind, Except.bind]
    rfl
  obtain ⟨w', hs, hspent⟩ : ∃ w', w.step (.pointer (.motion point) drawn layout) = .ok w' ∧
      w'.overlay.pressedOutside = none :=
    ⟨_, Except.bind_ok_iff.mpr ⟨_, hdecided, rfl⟩, (w.overlay.handleMotion_on_panel point hpanel).1⟩
  refine ⟨w', hs, fun button last hlast hpress => ?_⟩
  have hrecalls : w'.overlay.pressedOutside = remembered w'.sent :=
    ((recalls_opened visible).run hrun).step hs
  by_cases hused : ∃ e ∈ sinceLastOf button w'.sent, e.visible = true ∧ e.event.isButton = true
  · exact .inr hused
  · refine .inl (Bool.eq_false_iff.mpr fun hlastVisible => ?_)
    have hremembered : remembered w'.sent = some button :=
      remembered_of_lastOf hlast hpress hlastVisible fun e he hv =>
        Bool.eq_false_iff.mpr fun hbutton => hused ⟨e, he, hv, hbutton⟩
    rw [← hrecalls, hspent] at hremembered
    cases hremembered

theorem run_pressed_on_panel_drag : ∃ w w',
    (opened true).run dragRun = .ok w ∧ w.overlay.visible = true ∧
    asideLayout.hitTest ⟨510, 20⟩ = .ok .background ∧ Hit.background ≠ .outside ∧
    w.step (aside (.motion ⟨510, 20⟩)) = .ok w' ∧
    ∀ button last, lastOf button w'.sent = some last → last.event.isPress = true →
      last.visible = false ∨
        ∃ e ∈ sinceLastOf button w'.sent, e.visible = true ∧ e.event.isButton = true := by
  have hrun : (opened true).run dragRun = .ok afterDrag := rfl
  have hhit : asideLayout.hitTest ⟨510, 20⟩ = .ok .background := rfl
  obtain ⟨w', hs, hpressed⟩ := run_pressed_on_panel hrun ⟨510, 20⟩ rfl hhit nofun
  exact ⟨afterDrag, w', hrun, rfl, hhit, nofun, hs, hpressed⟩

/-- A button that is used and let go while another stays down, and a third that goes
down past the hidden panel. -/
def threeButtons : List OverlayChange :=
  [aside (.down ⟨100, 100⟩ .left 1), aside (.down ⟨100, 100⟩ .right 1), aside (.up ⟨100, 100⟩ .right 1),
    aside (.motion ⟨510, 20⟩), .updated ⟨some false, []⟩, aside (.down ⟨100, 100⟩ .middle 1),
    .updated ⟨some true, []⟩]

/-- Both exceptions are real: neither button is released by the motion over the panel. -/
theorem pressed_on_panel_still : ∃ w w',
    (opened true).run threeButtons = .ok w ∧ w.overlay.visible = true ∧
    asideLayout.hitTest ⟨510, 20⟩ = .ok .background ∧
    w.step (aside (.motion ⟨510, 20⟩)) = .ok w' ∧
    lastOf .left w'.sent = some ⟨.down ⟨100, 100⟩ .left 1, true⟩ ∧
    lastOf .middle w'.sent = some ⟨.down ⟨100, 100⟩ .middle 1, false⟩ :=
  ⟨_, _, rfl, rfl, rfl, rfl, rfl, rfl⟩

end WatchedOverlay

end Panel

end RemoteView
