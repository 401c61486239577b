/-
Where a pointer event is handed on to the device: at the end of an operation that was
given a pointer event, and measured in the frame that is shown then. If the pointer is
over the content, its position is that of a pixel of the frame (`run_forwarded`).
-/
import RemoteView.Proofs.Mapping.Inside
import RemoteView.Proofs.Screen.FrameSizes
import RemoteView.Proofs.Screen.Invariant
import RemoteView.Screen.Surroundings

namespace RemoteView

variable {σ : Type}

/-- Whether the request hands a pointer event on. -/
def Request.isForward : Request → Bool
  | forward _ => true
  | _ => false

/-- Whether the event is one of the pointer. -/
def Operation.isPointer : Operation → Bool
  | pointer _ => true
  | _ => false

namespace Session

variable {host : Host σ} {s s' t : Session σ}

/-! ## Nothing but a pointer event is handed on -/

/-- Nothing was handed on between two moments. -/
abbrev Unforwarded : Session σ → Session σ → Prop := Asked (·.request.isForward = false)

theorem Course.unforwarded (h : Course host s s') : Unforwarded s s' := by
  refine h.asked_of (fun e hplain _ => ?_) (fun _ e scene he => ?_) (fun _ _ e he => ?_)
  · cases hr : e.request with
    | forward pointer =>
      rw [hr] at hplain
      cases hplain
    | _ => rfl
  · rw [he]
    rfl
  · rw [he]
    rfl

theorem prepareForFrame_unforwarded {size : Size} {r : Outcome}
    (h : s.prepareForFrame host size = .ok (r, s')) : Unforwarded s s' := by
  rcases prepareForFrame_course h with ⟨-, -, rfl⟩ | ⟨t, ht, hr⟩
  · exact .refl _
  · obtain rfl := congrArg Prod.snd hr
    exact (Asked.update _).trans (ht.unforwarded.trans (.request fun _ _ => rfl))

theorem showUploaded_unforwarded (h : s.showUploaded host = .ok s') : Unforwarded s s' := by
  obtain ⟨t, rate, ht, hr⟩ := showUploaded_course h
  have hdrawn : Unforwarded t s' := (Asked.update _).trans hr.unforwarded
  rcases ht with ⟨-, rfl⟩ | ⟨-, ht⟩
  · exact hdrawn
  · rcases showInitialWindow_course ht with ht | ⟨size, u, rate', hu, ht⟩
    · exact ht.unforwarded.trans hdrawn
    · have hsized : Unforwarded s (s.tell host (.setSize size)) := .tell fun _ _ => rfl
      have hshown : Unforwarded u ((u.setRate rate').tell host .showWindow) :=
        (Asked.update _).trans (.tell fun _ _ => rfl)
      exact hsized.trans (hu.unforwarded.trans (hshown.trans (ht.unforwarded.trans hdrawn)))

theorem applyFrame_unforwarded {frame : VideoFrame} {r : Except DisplayError Unit}
    (h : s.applyFrame host frame = .ok (r, s')) : Unforwarded s s' := by
  obtain ⟨prepared, t, hp, h⟩ := applyFrame_ok h
  have ht := prepareForFrame_unforwarded hp
  have hu : Unforwarded t (t.request host (.updateTexture frame)).2 := .request fun _ _ => rfl
  rcases h with ⟨-, rfl⟩ | ⟨-, ⟨-, rfl⟩ | ⟨-, h⟩⟩
  · exact ht
  · exact ht.trans hu
  · exact ht.trans (hu.trans (showUploaded_unforwarded h))

theorem carries_unforwarded (host : Host σ) : Carries host (·.isPointer = false) Unforwarded where
  trans := Asked.trans
  still hjournal _ := .of_journal hjournal
  view hs hop hother := by
    rcases hs.course hop with hcourse | ⟨id, -, rfl⟩ | ⟨-, ⟨event, rfl⟩, -⟩
    · exact hcourse.unforwarded
    · exact .tell fun _ _ => rfl
    · cases hother
  initSize hs := by
    obtain ⟨-, rfl⟩ := initSize_ok hs
    exact (Asked.update _).trans (.tell fun _ _ => rfl)
  prepareForFrame := prepareForFrame_unforwarded
  applyFrame := applyFrame_unforwarded

/-! ## What a pointer event hands on -/

/-- A pointer event hands on at most one event, at its end. -/
theorem handlePointer_forwarded {event : PointerEvent} (h : s.handlePointer host event = .ok s') :
    Asked (fun e => ∀ pointer, e.request = .forward pointer → s.screen.hasFrame = true ∧
      ∃ t, s.decided host event = .ok t ∧ HandedOn host t pointer s') s s' := by
  rcases handlePointer_ok h with ⟨-, rfl⟩ | ⟨hframe, t, action, ht, ha⟩
  · exact .refl _
  · have hdecided : Unforwarded s t := (decided_course ht).unforwarded
    refine (hdecided.mono fun e hother pointer he => ?_).trans ?_
    · rw [he] at hother
      cases hother
    · rcases performAction_ok ha with rfl | ⟨pointer, hs⟩ | ⟨id, rfl⟩
      · exact .refl _
      · obtain ⟨hposition, rfl⟩ := hs
        refine .tell fun _ _ pointer' he => ?_
        obtain rfl := Request.forward.inj he
        exact ⟨hframe, t, ht, hposition, rfl⟩
      · exact .tell fun _ _ => nofun

/-! ## Every run -/

/-- **What is handed on lies in the frame.** At any moment of a run whose frames have
valid sizes, the content has the size of the turned frame. What the next event hands on
is measured in the frame that is shown then, and if the pointer is over the content,
its position is that of a pixel of this frame. -/
theorem run_forwarded {startup : Startup} {w : σ} {events : List (Event σ)}
    (hsizes : ∀ event ∈ events, event.Sized (·.isValidFrame = true))
    (hrun : (Session.start host startup w).run host events = .ok s) :
    s.screen.contentSize = s.screen.orientation.orientedSize s.screen.frameSize ∧
      ∀ event s', s.react host event = .ok s' →
        ∀ e ∈ s'.entriesSince s, ∀ pointer, e.request = .forward pointer →
          pointer.position.frameSize = s'.screen.frameSize ∧
            ∃ input t, event = .operation (.pointer input) ∧ s.decided host input = .ok t ∧
              s' = t.tell host (.forward pointer) ∧
              (t.screen.contentRect.Covers ((t.mapping host).windowToDrawable pointer.event.point) →
                s'.screen.orientation.Points s'.screen.frameSize pointer.position.point) := by
  have hframed : Framed (·.isValidFrame = true) s := (Framed.start startup w).run hsizes hrun
  refine ⟨hframed.content, fun event s' hs e he pointer hpointer => ?_⟩
  by_cases hinput : ∃ input, event = .operation (.pointer input)
  · obtain ⟨input, rfl⟩ := hinput
    obtain ⟨reply, hs⟩ := react_operation_ok_iff.mp hs
    have hpointed : s.handlePointer host input = .ok s' := apply_ok hs
    obtain ⟨hframe, t, ht, hposition, rfl⟩ :=
      (handlePointer_forwarded hpointed).of_mem he pointer hpointer
    obtain ⟨-, overlay, -, hscreen⟩ := decided_effect ht
    have hcontent : t.screen.contentSize = t.screen.orientation.orientedSize t.screen.frameSize := by
      rw [hscreen]
      exact hframed.content
    have hframeSize : (t.mapping host).frameSize = t.screen.frameSize := by
      show t.screen.orientation.orientedSize t.screen.contentSize = t.screen.frameSize
      rw [hcontent, Orientation.orientedSize_orientedSize]
    have hvalid : (t.mapping host).contentSize.isValidFrame = true := by
      show t.screen.contentSize.isValidFrame = true
      rw [hcontent, Orientation.isValidFrame_orientedSize, hscreen]
      exact hframed.shown hframe
    have ⟨hsize, hinside⟩ := Mapping.windowToPosition_inside hvalid hposition
    rw [hframeSize] at hsize hinside
    exact ⟨hsize, input, t, rfl, ht, rfl, hinside⟩
  · have hother : Unforwarded s s' := (carries_unforwarded host).react (fun op hop => by
      cases op with
      | pointer input => exact absurd ⟨input, hop⟩ hinput
      | _ => rfl) hs
    have hunforwarded : e.request.isForward = false := hother.of_mem he
    rw [hpointer] at hunforwarded
    cases hunforwarded

/-- A view on a display on which a window has two drawing pixels for each of its own. -/
def denseStart : Session Surroundings := .start Surroundings.host {} { density := (2, 1) }

/-- Its content is turned and flipped. -/
def turnedRun : List (Event Surroundings) :=
  [.operation (.announce ⟨40, 20⟩), .operation (.push ⟨⟨40, 20⟩, []⟩), .operation .pump,
    .operation (.setOrientation ⟨true, .deg90⟩)]

/-- A press on the content of this view, and where it is in the frame. -/
def turnedPress : ForwardedPointer := ⟨.down ⟨5, 30⟩ .left 1, ⟨10, 15⟩, ⟨40, 20⟩⟩

theorem run_forwarded_turned : ∃ s s',
    denseStart.run Surroundings.host turnedRun = .ok s ∧
      s.screen.contentSize = ⟨20, 40⟩ ∧ s.screen.contentRect = ⟨0, 0, 40, 80⟩ ∧
      s.react Surroundings.host (.operation (.pointer turnedPress.event)) = .ok s' ∧
      (∃ e ∈ s'.entriesSince s, e.request = .forward turnedPress) ∧
      turnedPress.position.frameSize = s'.screen.frameSize ∧
      s'.screen.orientation.Points s'.screen.frameSize turnedPress.position.point := by
  have hpressed : (denseStart.run Surroundings.host turnedRun).toOption.any (fun s =>
      s.screen.contentSize = ⟨20, 40⟩ && s.screen.contentRect = ⟨0, 0, 40, 80⟩ &&
        (s.react Surroundings.host (.operation (.pointer turnedPress.event))).toOption.any (fun s' =>
          decide (∃ e ∈ s'.entriesSince s, e.request = .forward turnedPress)) &&
        (s.decided Surroundings.host turnedPress.event).toOption.any fun t => t.screen.contentRect.Covers
          ((t.mapping Surroundings.host).windowToDrawable turnedPress.event.point)) = true := by
    decide +kernel
  obtain ⟨s, hrun, hpressed⟩ := Except.exists_of_any hpressed
  simp only [Bool.and_eq_true, decide_eq_true_eq] at hpressed
  obtain ⟨⟨⟨hcontent, hrect⟩, hs⟩, ht⟩ := hpressed
  obtain ⟨s', hs, hforwarded⟩ := Except.exists_of_any hs
  obtain ⟨e, he, hpointer⟩ := of_decide_eq_true hforwarded
  obtain ⟨t, ht, hcovers⟩ := Except.exists_of_any ht
  have hsizes : ∀ event ∈ turnedRun, event.Sized (·.isValidFrame = true) := by
    simp only [turnedRun, List.forall_mem_cons]
    exact ⟨trivial, rfl, trivial, trivial, nofun⟩
  obtain ⟨-, hforwards⟩ := run_forwarded hsizes hrun
  obtain ⟨hsize, input, t', hinput, ht', -, hinside⟩ := hforwards _ s' hs e he turnedPress hpointer
  obtain rfl : turnedPress.event = input := by
    injection hinput with hinput
    injection hinput
  obtain rfl : t = t' := Except.ok.inj (ht.symm.trans ht')
  exact ⟨s, s', hrun, hcontent, hrect, hs, ⟨e, he, hpointer⟩, hsize, hinside (of_decide_eq_true hcovers)⟩

end Session

end RemoteView
