/-
The sizes in a session follow from its frames. The content is always the frame
turned as the orientation says, and if all frames of a stream have sizes with
some property, so do the frames that wait and the frame that is shown
(`Session.Framed.run`).
-/
import RemoteView.Proofs.Screen.Effects.Operation

namespace RemoteView

variable {σ : Type} {P : Size → Prop}

/-- The frames that are given have sizes as `P` says, and the display is prepared for
such sizes only. -/
def Event.Sized (P : Size → Prop) : Event σ → Prop
  | .operation (.push frame) => P frame.size
  | .operation (.prepare size) => P size
  | _ => True

/-- An event of a stream whose frames have sizes as `P` says. The display is
prepared for no size but those of its frames. -/
def Event.OfStream (P : Size → Prop) : Event σ → Prop
  | .operation (.push frame) => P frame.size
  | .operation (.prepare _) => False
  | _ => True

theorem Event.OfStream.sized {event : Event σ} (h : event.OfStream P) : event.Sized P := by
  cases event with
  | outside w => trivial
  | operation op =>
    cases op with
    | push frame => exact h
    | prepare size => exact h.elim
    | _ => trivial

namespace Session

variable {host : Host σ} {s s' t : Session σ}

structure Framed (P : Size → Prop) (s : Session σ) : Prop where
  content : s.screen.contentSize = s.screen.orientation.orientedSize s.screen.frameSize
  shown : s.screen.hasFrame = true → P s.screen.frameSize
  waiting : ∀ frame, s.feed.slot.pending = some frame → P frame.size
  held : ∀ frame, s.screen.held = some frame → P frame.size

namespace Framed

theorem opened (startup : Startup) (w : σ) : Framed P ({ screen := .initial startup, outside := w } : Session σ) := by
  have hcontent : ({} : Size) = startup.orientation.orientedSize {} := by
    unfold Orientation.orientedSize
    cases startup.orientation.isSwap <;> rfl
  exact ⟨hcontent, nofun, nofun, nofun⟩

theorem start (startup : Startup) (w : σ) : Framed P (.start host startup w) := by
  have h : Framed P ({ screen := .initial startup, outside := w } : Session σ) := .opened startup w
  unfold Session.start
  split
  · exact ⟨h.content, h.shown, h.waiting, h.held⟩
  · exact h

/-- The fields that have nothing to do with sizes of frames. -/
theorem keep {window rect sent overlay rate seen paused} (h : Framed P s) (hlater : Later s s')
    (hscreen : s'.screen = { s.screen with
      window, contentRect := rect, readySent := sent, overlay, rate, skippedSeen := seen, paused }) :
    Framed P s' := by
  have hfeed := hlater.feed
  exact ⟨by rw [hscreen]; exact h.content, by rw [hscreen]; exact h.shown, by rw [hfeed]; exact h.waiting,
    by rw [hscreen]; exact h.held⟩

/-- A feed in which no other frame waits. -/
theorem setFeed {feed : Feed} (h : Framed P s)
    (hwaiting : ∀ frame, feed.slot.pending = some frame → P frame.size) : Framed P (s.setFeed feed) :=
  ⟨h.content, h.shown, hwaiting, h.held⟩

theorem consume (h : Framed P s) : Framed P (s.setFeed s.feed.consume.2) := h.setFeed nofun

/-- The frame that was held back is about to be shown. -/
theorem release (h : Framed P s) (paused : Bool) : Framed P (s.update ({ · with paused, held := none })) :=
  ⟨h.content, h.shown, h.waiting, nofun⟩

/-- An operation of the view may turn the content. -/
theorem ofView {op : Operation} (h : Framed P s) (hs : s.CarriedOut host s' op) (hop : op.isOfView = true) :
    Framed P s' := by
  have ⟨hlater, content, window, orientation, rect, sent, overlay, hturned, hscreen⟩ := hs.ofView hop
  have hfeed := hlater.feed
  refine ⟨?_, by rw [hscreen]; exact h.shown, by rw [hfeed]; exact h.waiting, by rw [hscreen]; exact h.held⟩
  rw [hscreen]
  rcases hturned with ⟨rfl, rfl⟩ | rfl
  · exact h.content
  · rfl

/-! ## Frames on their way -/

theorem prepareForFrame {size : Size} {r : Outcome} (h : Framed P s) (hP : P size)
    (hs : s.prepareForFrame host size = .ok (r, s')) : Framed P s' ∧ P s'.screen.frameSize := by
  have ⟨hlater, heffect⟩ := prepareForFrame_effect hs
  have hfeed := hlater.feed
  rcases heffect with ⟨he, rfl⟩ | ⟨window, rect, hscreen⟩
  · exact ⟨h, he ▸ hP⟩
  · refine ⟨⟨by rw [hscreen], fun _ => by rw [hscreen]; exact hP, by rw [hfeed]; exact h.waiting,
      by rw [hscreen]; exact h.held⟩, by rw [hscreen]; exact hP⟩

theorem showUploaded (h : Framed P s) (hP : P s.screen.frameSize) (hs : s.showUploaded host = .ok s') :
    Framed P s' := by
  have ⟨hlater, window, rect, sent, started, now, rate, _, _, hscreen⟩ := showUploaded_effect hs
  have hfeed := hlater.feed
  exact ⟨by rw [hscreen]; exact h.content, fun _ => by rw [hscreen]; exact hP,
    by rw [hfeed]; exact h.waiting, by rw [hscreen]; exact h.held⟩

theorem applyFrame {frame : VideoFrame} {r : Except DisplayError Unit} (h : Framed P s) (hP : P frame.size)
    (hs : s.applyFrame host frame = .ok (r, s')) : Framed P s' := by
  obtain ⟨prepared, t, hp, hs⟩ := applyFrame_ok hs
  have ⟨ht, hsize⟩ := h.prepareForFrame hP hp
  have hu : Framed P (t.request host (.updateTexture frame)).2 := ht.keep (.request _) rfl
  rcases hs with ⟨-, rfl⟩ | ⟨-, ⟨-, rfl⟩ | ⟨-, hs⟩⟩
  · exact ht
  · exact hu
  · exact hu.showUploaded hsize hs

theorem updateFrame {r : Except DisplayError Unit} (h : Framed P s)
    (hs : s.updateFrame host = .ok (r, s')) : Framed P s' := by
  obtain ⟨t, hc, hs⟩ := updateFrame_ok hs
  obtain ⟨rate, -, rfl⟩ := countSkipped_ok hc
  have ht : Framed P (s.update ({ · with rate, skippedSeen := s.feed.slot.skipped })) :=
    h.keep (.update _) rfl
  have hu := ht.consume
  rcases hs with ⟨-, rfl⟩ | ⟨frame, hpending, ⟨-, rfl⟩ | ⟨-, hs⟩⟩
  · exact hu
  · exact ⟨hu.content, hu.shown, hu.waiting, fun _ he => Option.some.inj he ▸ h.waiting frame hpending⟩
  · exact hu.applyFrame (h.waiting frame hpending) hs

theorem handleNotice {notice : Notice} {r : Except DisplayError Unit} (h : Framed P s)
    (hs : s.handleNotice host notice = .ok (r, s')) : Framed P s' := by
  cases notice with
  | newFrame => exact h.updateFrame hs
  | initSize size =>
    obtain ⟨hf, rfl⟩ := initSize_ok hs
    exact ⟨rfl, fun he => Bool.noConfusion (hf.symm.trans he), h.waiting, h.held⟩

theorem handleNotices {notices : List Notice} (h : Framed P s)
    (hs : s.handleNotices host notices = .ok s') : Framed P s' := by
  induction notices generalizing s with
  | nil => exact Except.pure_ok_iff.mp hs ▸ h
  | cons notice rest ih =>
    obtain ⟨⟨r, t⟩, ht, hs⟩ := Except.bind_ok_iff.mp hs
    exact ih (h.handleNotice ht) hs

theorem setPaused {paused : Bool} {r : Except DisplayError Unit} (h : Framed P s)
    (hs : s.setPaused host paused = .ok (r, s')) : Framed P s' := by
  rcases setPaused_ok hs with rfl | rfl | ⟨frame, hheld, hs⟩
  · exact h
  · exact h.keep (.update _) rfl
  · exact (h.release paused).applyFrame (h.held frame hheld) hs

/-! ## Every event -/

theorem operation {op : Operation} (h : Framed P s) (hop : (Event.operation op : Event σ).Sized P)
    (hs : s.CarriedOut host s' op) : Framed P s' := by
  by_cases hview : op.isOfView = true
  · exact h.ofView hs hview
  cases op with
  | announce size =>
    rcases hs with rfl | rfl
    · exact h
    · exact h.setFeed (by rw [Feed.slot_announce]; exact h.waiting)
  | push frame =>
    rcases hs with rfl | ⟨r, feed, hpush, rfl⟩
    · exact h
    · obtain ⟨replaced, slot, hslot, hfeed⟩ := Feed.push_ok hpush
      have hpending := (Slot.push_ok hslot).2.1
      exact h.setFeed fun f hf => by
        rw [hfeed, hpending] at hf
        exact Option.some.inj hf ▸ hop
  | dropProducer | dropConsumer => exact hs ▸ h.setFeed h.waiting
  | pump =>
    rcases hs with rfl | hs
    · exact h
    · have hread : Framed P (s.setFeed { s.feed with queue := [] }) := h.setFeed h.waiting
      exact hread.handleNotices hs
  | notice notice =>
    obtain ⟨r, hs⟩ := hs
    exact h.handleNotice hs
  | prepare size =>
    obtain ⟨r, hs⟩ := hs
    exact (h.prepareForFrame hop hs).1
  | setPaused paused =>
    obtain ⟨r, hs⟩ := hs
    exact h.setPaused hs
  | startRate | stopRate => exact hs ▸ h.keep (.update _) rfl
  | _ => exact absurd rfl hview

theorem react {event : Event σ} (h : Framed P s) (hevent : event.Sized P)
    (hs : s.react host event = .ok s') : Framed P s' := by
  cases event with
  | outside w => exact Except.pure_ok_iff.mp hs ▸ ⟨h.content, h.shown, h.waiting, h.held⟩
  | operation op =>
    obtain ⟨reply, hs⟩ := react_operation_ok_iff.mp hs
    exact h.operation hevent (apply_ok hs)

theorem run {events : List (Event σ)} (h : Framed P s) (hevents : ∀ event ∈ events, event.Sized P)
    (hs : s.run host events = .ok s') : Framed P s' :=
  Except.foldlM_keeps (fun event hmem _ _ h hs => h.react (hevents event hmem) hs) h hs

end Framed

end Session

end RemoteView
