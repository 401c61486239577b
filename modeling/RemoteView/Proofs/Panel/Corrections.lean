/-
The releases that an overlay makes up while its panel stays visible. All that it remembers
is told by the last event that counts: a press beside the panel, a release, or a motion on
the panel (`lastPress`). A release is made up by each motion on the panel that
finds a press remembered, so two of them have a new press between them
(`RecordedOverlay.run_corrections`).
-/
import Mathlib.Data.List.Induction
import RemoteView.Proofs.Panel.Record
import RemoteView.Proofs.Since

namespace RemoteView

namespace PointerEvent

def isRelease : PointerEvent → Bool
  | up .. => true
  | motion _ | down .. => false

end PointerEvent

namespace Panel

/-- A pointer event and what it hits. -/
structure Touch where
  event : PointerEvent
  hit : Hit
  deriving DecidableEq

namespace Touch

/-- The event is a press beside the panel, a release anywhere, or a motion on the panel. -/
def counts (t : Touch) : Bool :=
  match t.event with
  | .down .. => t.hit = .outside
  | .up .. => true
  | .motion _ => t.hit ≠ .outside

/-- The button that went down beside the panel. -/
def pressed? (t : Touch) : Option MouseButton :=
  match t.event, t.hit with
  | .down _ button _, .outside => some button
  | .down .., .background | .down .., .button _ | .up .., _ | .motion _, _ => none

end Touch

/-- The pointer event of a change, with what it hits. -/
def OverlayChange.touch? : OverlayChange → Option Touch
  | .pointer event drawn layout => (layout.hitTest drawn).toOption.map (Touch.mk event)
  | .updated _ | .cursorSwapDisabled => none

/-- The pointer events of some changes, each with what it hits. -/
def touches (changes : List OverlayChange) : List Touch := changes.filterMap (·.touch?)

/-- The change is an update that hides the panel. -/
def OverlayChange.hides : OverlayChange → Bool
  | .updated update => update.visible = some false
  | .pointer .. | .cursorSwapDisabled => false

/-- The button that was pressed, if the last event that counts is a press. -/
def lastPress (touches : List Touch) : Option MouseButton :=
  (touches.filter (·.counts)).getLast?.bind (·.pressed?)

/-- A release was made up in place of the event. -/
def Exchange.corrects (e : Exchange) : Bool :=
  match e.action with
  | some (.releaseThenSwallow _) => true
  | some .pass | some .swallow | some (.activate _) | some .forwardThenSwallow | none => false

/-! ## The last press -/

section LastPress

variable {history : List Touch} {t : Touch} {button : MouseButton}

theorem Touch.counts_of_pressed (h : t.pressed? = some button) : t.counts = true := by
  obtain ⟨event, hit⟩ := t
  cases event with
  | motion _ | up _ _ _ => cases h
  | down _ _ _ =>
    cases hit with
    | outside => rfl
    | background | button _ => cases h

theorem lastPress_concat : lastPress (history ++ [t]) = if t.counts then t.pressed? else lastPress history := by
  unfold lastPress
  rw [List.filter_append, List.filter_cons, List.filter_nil]
  split
  · rw [List.getLast?_concat]
    rfl
  · rw [List.append_nil]

/-- A button pressed last, and nothing since that counts. -/
theorem lastPress_eq_some_iff : lastPress history = some button ↔
    Since (·.pressed? = some button) (·.counts = false) history := by
  induction history using List.reverseRecOn with
  | nil => exact ⟨nofun, fun h => absurd h not_since_nil⟩
  | append_singleton history t ih =>
    rw [lastPress_concat, since_concat, ← ih]
    split
    next hcounts => simp [hcounts]
    next hcounts =>
      have hnone : t.pressed? ≠ some button := fun h => hcounts (Touch.counts_of_pressed h)
      simp [hcounts, hnone]

end LastPress

/-! ## One event -/

section Decided

variable {hit : Hit} {event : PointerEvent}

theorem Overlay.pressedOutside_decided (o : Overlay) (hit : Hit) (event : PointerEvent) :
    (o.decided hit event).2.pressedOutside =
      if Touch.counts ⟨event, hit⟩ then Touch.pressed? ⟨event, hit⟩ else o.pressedOutside := by
  cases event with
  | motion point =>
    by_cases houtside : hit = .outside
    · subst houtside
      exact o.handleMotion_outside point
    · rw [if_pos (by simp [Touch.counts, houtside])]
      exact (o.handleMotion_on_panel point houtside).1
  | down point button clicks =>
    by_cases houtside : hit = .outside
    · subst houtside
      rfl
    · obtain ⟨action, hdown, -⟩ := o.handleDown_on_panel button houtside
      rw [decided, hdown, if_neg (by simp [Touch.counts, houtside])]
  | up point button clicks => rfl

/-- A press on the panel is for the panel alone, and is not remembered. -/
theorem Overlay.press_on_panel (o : Overlay) (hpress : event.isPress = true) (hpanel : hit ≠ .outside) :
    (o.decided hit event).2.pressedOutside = o.pressedOutside ∧
      (o.decided hit event).1.action.sent? event = none := by
  cases event with
  | motion _ | up _ _ _ => cases hpress
  | down point button clicks =>
    obtain ⟨action, hdown, haction⟩ := o.handleDown_on_panel button hpanel
    rw [decided, hdown]
    rcases haction with rfl | ⟨id, rfl⟩ <;> exact ⟨rfl, rfl⟩

end Decided

/-! ## Every run -/

theorem Exchange.corrects_iff {e : Exchange} :
    e.corrects = true ↔ ∃ release, e.action = some (.releaseThenSwallow release) := by
  obtain ⟨change, action, cursor⟩ := e
  constructor
  · intro h
    unfold corrects at h
    split at h
    next release haction => exact ⟨release, haction⟩
    all_goals cases h
  · rintro ⟨release, rfl⟩
    rfl

theorem OverlayChange.touch?_of_hit {drawn : Point} {layout : Layout} {hit : Hit}
    (h : layout.hitTest drawn = .ok hit) (event : PointerEvent) :
    (pointer event drawn layout).touch? = some ⟨event, hit⟩ := by
  rw [touch?, h]
  rfl

theorem touches_concat (earlier : List OverlayChange) (change : OverlayChange) :
    touches (earlier ++ [change]) = touches earlier ++ change.touch?.toList := by
  rw [touches, List.filterMap_append]
  cases h : change.touch? <;> simp [touches, h]

theorem Overlay.visible_applyUpdate {o : Overlay} {update : Update} (h : o.visible = true)
    (hshown : (OverlayChange.updated update).hides = false) : (o.applyUpdate update).2.visible = true := by
  simp only [OverlayChange.hides, decide_eq_false_iff_not] at hshown
  show update.visible.getD o.visible = true
  cases hv : update.visible with
  | none => exact h
  | some visible =>
    cases visible with
    | true => rfl
    | false => exact absurd hv hshown

namespace RecordedOverlay

open WatchedOverlay (asideLayout aside)

variable {r r' : RecordedOverlay} {changes : List OverlayChange} {change : OverlayChange}

/-- The panel is shown, the memory is what the last event that counts calls for, and releases were
made up in place of motions on the panel. -/
structure Recounts (r : RecordedOverlay) : Prop where
  shown : r.overlay.visible = true
  memory : r.overlay.pressedOutside = lastPress (touches r.changes)
  corrected : ∀ e ∈ r.record, e.corrects = true →
    ∃ t, e.change.touch? = some t ∧ t.counts = true ∧ t.pressed? = none

theorem Recounts.pointer (h : r.Recounts) {event : PointerEvent} {drawn : Point} {layout : Layout}
    (hs : r.step (.pointer event drawn layout) = .ok r') : r'.Recounts := by
  obtain ⟨exchange, hanswer, hrecord⟩ := step_ok hs
  obtain ⟨outcome, hdecided, rfl⟩ := Overlay.answer_pointer_ok.mp hanswer
  have hshown : r'.overlay.visible = true := by
    rw [Overlay.visible, Overlay.panel_handlePointer hdecided]
    exact h.shown
  rcases Overlay.handlePointer_ok hdecided with ⟨hhidden, -, -⟩ | ⟨-, hit, hhit, rfl, hnext⟩
  · rw [h.shown] at hhidden
    cases hhidden
  have htouch := OverlayChange.touch?_of_hit hhit event
  refine ⟨hshown, ?_, ?_⟩
  · rw [hnext, Overlay.pressedOutside_decided, h.memory, changes_step hs, touches_concat, htouch,
      Option.toList_some, lastPress_concat]
  · intro e he hcorrects
    rw [hrecord, List.mem_append, List.mem_singleton] at he
    rcases he with he | rfl
    · exact h.corrected e he hcorrects
    · obtain ⟨release, hrelease⟩ := Exchange.corrects_iff.mp hcorrects
      obtain ⟨point, button, rfl, hpanel, -⟩ := Overlay.release_decided_iff.mp (Option.some.inj hrelease)
      exact ⟨_, htouch, decide_eq_true hpanel, rfl⟩

/-- A change that is not about the pointer. -/
theorem Recounts.still (h : r.Recounts) (hs : r.step change = .ok r') (hno : change.touch? = none)
    (hshown : r'.overlay.visible = true) (hkept : r'.overlay.pressedOutside = r.overlay.pressedOutside)
    (hrecord : ∀ e ∈ r'.record, e ∈ r.record ∨ e.action = none) : r'.Recounts := by
  refine ⟨hshown, ?_, ?_⟩
  · rw [hkept, h.memory, changes_step hs, touches_concat, hno, Option.toList_none, List.append_nil]
  · intro e he hcorrects
    rcases hrecord e he with he | hnothing
    · exact h.corrected e he hcorrects
    · rw [Exchange.corrects, hnothing] at hcorrects
      cases hcorrects

theorem Recounts.step (h : r.Recounts) (hshown : change.hides = false) (hs : r.step change = .ok r') :
    r'.Recounts := by
  obtain ⟨exchange, hanswer, hrecord⟩ := step_ok hs
  have hadded : ∀ e ∈ r'.record, e ∈ r.record ∨ e = exchange := by
    intro e he
    rwa [hrecord, List.mem_append, List.mem_singleton] at he
  obtain ⟨overlay, record⟩ := r'
  cases change with
  | pointer event drawn layout => exact h.pointer hs
  | updated update =>
    cases hanswer
    exact h.still hs rfl (Overlay.visible_applyUpdate h.shown hshown) rfl
      fun e he => (hadded e he).imp_right fun heq => by rw [heq]
  | cursorSwapDisabled =>
    cases hanswer
    exact h.still hs rfl h.shown rfl fun e he => (hadded e he).imp_right fun heq => by rw [heq]

theorem Recounts.run (h : r.Recounts) (hshown : ∀ change ∈ changes, change.hides = false)
    (hrun : r.run changes = .ok r') : r'.Recounts :=
  Except.foldlM_keeps (fun change hc _ _ h hs => h.step (hshown change hc) hs) h hrun

/-- Where a release was made up, nothing is remembered, so a button that is remembered now went
down later. -/
theorem Recounts.pressed_since (h : r.Recounts) {earlier later : List Exchange} {e : Exchange}
    (hrecord : r.record = earlier ++ e :: later) (hcorrects : e.corrects = true) {button : MouseButton}
    (hbutton : lastPress (touches r.changes) = some button) :
    Since (·.pressed? = some button) (·.event.isRelease = false) (touches (later.map (·.change))) := by
  obtain ⟨t, htouch, hcounts, hnone⟩ := h.corrected e (hrecord ▸ by simp) hcorrects
  have htouches : touches r.changes =
      touches (earlier.map (·.change)) ++ t :: touches (later.map (·.change)) := by
    rw [RecordedOverlay.changes, hrecord]
    simp [touches, htouch]
  have hsince := lastPress_eq_some_iff.mp hbutton
  rw [htouches] at hsince
  refine (hsince.later (by simp [hnone]) (by simp [hcounts])).mono (fun _ h => h) ?_
  rintro ⟨event, hit⟩ hnot
  cases event with
  | motion _ | down _ _ _ => rfl
  | up _ _ _ => cases hnot

/-- **One correction for each press.** While the panel of a new overlay stays visible, a button is
remembered exactly if the last event that counts is a press beside the panel, and it is the button of
that press. Whatever event comes next, a release is made up for it exactly if it is a motion on the
panel and a button is remembered; the release is of that button, a single one, where the motion is.
Since a release that was made up before, a button went down beside the panel and none went up. A press
on the panel leaves the memory as it is and does not reach the device. -/
theorem run_corrections {o : Overlay} (hvisible : o.visible = true) (hfresh : o.pressedOutside = none)
    (hshown : ∀ change ∈ changes, change.hides = false)
    (hrun : RecordedOverlay.run { overlay := o } changes = .ok r) :
    r.overlay.pressedOutside = lastPress (touches changes) ∧
      ∀ event drawn layout hit, layout.hitTest drawn = .ok hit →
        ∃ outcome next, r.overlay.handlePointer event drawn layout = .ok (outcome, next) ∧
          (∀ release, outcome.action = .releaseThenSwallow release ↔ ∃ point button, event = .motion point ∧
            hit ≠ .outside ∧ lastPress (touches changes) = some button ∧ release = .up point button 1) ∧
          (∀ release, outcome.action = .releaseThenSwallow release →
            ∀ earlier e later, r.record = earlier ++ e :: later → e.corrects = true →
              Since (·.pressed?.isSome = true) (·.event.isRelease = false)
                (touches (later.map (·.change)))) ∧
          (event.isPress = true → hit ≠ .outside →
            next.pressedOutside = r.overlay.pressedOutside ∧ outcome.action.sent? event = none) := by
  have hrecounts : r.Recounts := Recounts.run ⟨hvisible, hfresh, fun e he => by cases he⟩ hshown hrun
  have hchanges : r.changes = changes := changes_run hrun
  have hmemory := hchanges ▸ hrecounts.memory
  refine ⟨hmemory, fun event drawn layout hit hhit => ?_⟩
  have hdecided := Overlay.handlePointer_of_hit hrecounts.shown hhit event
  refine ⟨(r.overlay.decided hit event).1, (r.overlay.decided hit event).2, hdecided, fun release => ?_, ?_,
    r.overlay.press_on_panel⟩
  · rw [Overlay.release_decided_iff, hmemory]
  · intro release hrelease earlier e later hrecord hcorrects
    obtain ⟨-, button, -, -, hbutton, -⟩ := Overlay.release_decided_iff.mp hrelease
    rw [hrecounts.memory] at hbutton
    refine (hrecounts.pressed_since hrecord hcorrects hbutton).mono (fun t h => ?_) fun _ h => h
    rw [h, Option.isSome_some]

/-- A drag onto the panel, and the press of another button. -/
def twoDrags : List OverlayChange :=
  [aside (.down ⟨100, 100⟩ .left 1), aside (.motion ⟨510, 20⟩), .updated ⟨none, [⟨"id", "label"⟩]⟩,
    aside (.down ⟨100, 100⟩ .right 2), aside (.motion ⟨200, 100⟩)]

def afterTwoDrags : RecordedOverlay where
  overlay := { panel := ⟨true, [⟨"id", "label"⟩]⟩, pressedOutside := some .right }
  record :=
    [⟨aside (.down ⟨100, 100⟩ .left 1), some .pass, none⟩,
      ⟨aside (.motion ⟨510, 20⟩), some (.releaseThenSwallow (.up ⟨510, 20⟩ .left 1)), none⟩,
      ⟨.updated ⟨none, [⟨"id", "label"⟩]⟩, none, none⟩,
      ⟨aside (.down ⟨100, 100⟩ .right 2), some .pass, none⟩,
      ⟨aside (.motion ⟨200, 100⟩), some .pass, none⟩]

theorem run_corrections_two_drags : ∃ outcome next,
    (∀ change ∈ twoDrags, change.hides = false) ∧
    (opened true).run twoDrags = .ok afterTwoDrags ∧
    afterTwoDrags.overlay.pressedOutside = lastPress (touches twoDrags) ∧
    asideLayout.hitTest ⟨520, 30⟩ = .ok .background ∧
    afterTwoDrags.overlay.handlePointer (.motion ⟨520, 30⟩) ⟨520, 30⟩ asideLayout = .ok (outcome, next) ∧
    outcome.action = .releaseThenSwallow (.up ⟨520, 30⟩ .right 1) ∧
    Since (·.pressed?.isSome = true) (·.event.isRelease = false)
      (touches ((afterTwoDrags.record.drop 2).map (·.change))) := by
  have hshown : ∀ change ∈ twoDrags, change.hides = false := by decide
  have hrun : (opened true).run twoDrags = .ok afterTwoDrags := rfl
  have hhit : asideLayout.hitTest ⟨520, 30⟩ = .ok .background := rfl
  obtain ⟨hmemory, hnext⟩ := run_corrections rfl rfl hshown hrun
  obtain ⟨outcome, next, hdecided, hreleases, hsince, -⟩ := hnext (.motion ⟨520, 30⟩) _ _ _ hhit
  have hrelease := (hreleases (.up ⟨520, 30⟩ .right 1)).mpr ⟨_, .right, rfl, nofun, by decide, rfl⟩
  exact ⟨outcome, next, hshown, hrun, hmemory, hhit, hdecided, hrelease,
    hsince _ hrelease (afterTwoDrags.record.take 1) _ _ rfl rfl⟩

end RecordedOverlay

end Panel

end RemoteView
