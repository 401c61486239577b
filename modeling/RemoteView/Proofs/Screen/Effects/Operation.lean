/-
What a whole operation did, in terms of the part of the session that carried it
out (`Session.apply_ok`). Replies are left out. Most operations are about the view
and its window alone, and what they can change is said once
(`Session.CarriedOut.ofView`).
-/
import RemoteView.Proofs.Frame.Feed
import RemoteView.Proofs.Screen.Effects.Frames
import RemoteView.Proofs.Screen.Effects.Input

namespace RemoteView

/-- Whether the operation has to do with the view and its window, and not with the
feed, the frames or their rate. -/
def Operation.isOfView : Operation → Bool
  | render _ | windowEvent _ | pointer _ | setOrientation _ | toggleFullscreen | resizeToFit
  | resizeToPixelPerfect | hide | raise | setOnTop _ | panelClick _ | updatePanel .. | panelMessage _
  | map _ => true
  | announce _ | push _ | dropProducer | dropConsumer | pump | notice _ | prepare _ | setPaused _
  | startRate | stopRate => false

namespace Session

variable {σ : Type} {host : Host σ} {s s' : Session σ}

/-- The session `s'` comes from `s` by the part that an operation stands for. -/
def CarriedOut (host : Host σ) (s s' : Session σ) : Operation → Prop
  | .announce size => s' = s ∨ s' = s.setFeed (s.feed.announce size).2
  | .push frame => s' = s ∨ ∃ r feed, s.feed.push frame = .ok (r, feed) ∧ s' = s.setFeed feed
  | .dropProducer => s' = s.setFeed s.feed.dropProducer
  | .dropConsumer => s' = s.setFeed s.feed.dropConsumer
  | .pump => s' = s ∨ (s.setFeed { s.feed with queue := [] }).handleNotices host s.feed.queue = .ok s'
  | .notice notice => ∃ r, s.handleNotice host notice = .ok (r, s')
  | .prepare size => ∃ r, s.prepareForFrame host size = .ok (r, s')
  | .render refresh => s.render host refresh = .ok s'
  | .windowEvent event => s.handleWindowEvent host event = .ok s'
  | .pointer event => s.handlePointer host event = .ok s'
  | .setOrientation o => s.setOrientation host o = .ok s'
  | .setPaused paused => ∃ r, s.setPaused host paused = .ok (r, s')
  | .toggleFullscreen => s.toggleFullscreen host = .ok s'
  | .resizeToFit => s.resizeToFit host = .ok s'
  | .resizeToPixelPerfect => s.resizeToPixelPerfect host = .ok s'
  | .hide => s' = s.tell host .hideWindow
  | .raise => s' = s.tell host .raiseWindow
  | .setOnTop onTop => s' = s.tell host (.setOnTop onTop)
  | .panelClick id => s' = s.sendPanelClick host id
  | .updatePanel visible buttons => s' = s ∨ ∃ update, Panel.Update.of visible buttons = .ok update ∧
      s.updatePanel host update = .ok s'
  | .panelMessage text => s' = s ∨ ∃ update, Panel.Update.ofMessage text = .ok (some update) ∧
      s.updatePanel host update = .ok s'
  | .startRate => s' = s.setRate (s.screen.rate.start (host.now s.outside))
  | .stopRate => s' = s.setRate s.screen.rate.stop
  | .map _ => s' = s

/-- Nobody gives frames once the producer is gone. -/
theorem apply_push_ok {frame : VideoFrame} {reply : Reply} (h : s.apply host (.push frame) = .ok (reply, s')) :
    (s.feed.producer = false ∧ s' = s) ∨ s.feed.producer = true ∧
      ∃ r feed, s.feed.push frame = .ok (r, feed) ∧ s' = s.setFeed feed := by
  simp only [apply] at h
  split at h
  next hproducer =>
    simp only [Except.bind_ok_iff, Except.pure_ok_iff, Prod.mk.injEq] at h
    obtain ⟨⟨r, feed⟩, hpush, -, rfl⟩ := h
    exact .inr ⟨hproducer, r, feed, hpush, rfl⟩
  next hproducer => exact .inl ⟨Bool.eq_false_iff.mpr hproducer, (Prod.mk.inj (Except.pure_ok_iff.mp h)).2.symm⟩

/-- Nobody reads the notices once the consumer is gone. -/
theorem apply_pump_ok {reply : Reply} (h : s.apply host .pump = .ok (reply, s')) :
    (s.feed.consumer = false ∧ s' = s) ∨ s.feed.consumer = true ∧
      (s.setFeed { s.feed with queue := [] }).handleNotices host s.feed.queue = .ok s' := by
  simp only [apply] at h
  split at h
  next hconsumer =>
    simp only [pump, Except.bind_ok_iff, Except.pure_ok_iff, Prod.mk.injEq] at h
    obtain ⟨_, ⟨t, ht, rfl⟩, -, rfl⟩ := h
    exact .inr ⟨hconsumer, ht⟩
  next hconsumer => exact .inl ⟨Bool.eq_false_iff.mpr hconsumer, (Prod.mk.inj (Except.pure_ok_iff.mp h)).2.symm⟩

theorem apply_ok {op : Operation} {reply : Reply} (h : s.apply host op = .ok (reply, s')) :
    s.CarriedOut host s' op := by
  cases op with
  | announce size =>
    simp only [apply] at h
    split at h
    · exact .inr (Prod.mk.inj (Except.pure_ok_iff.mp h)).2.symm
    · exact .inl (Prod.mk.inj (Except.pure_ok_iff.mp h)).2.symm
  | push frame => exact (apply_push_ok h).imp And.right And.right
  | pump => exact (apply_pump_ok h).imp And.right And.right
  | notice _ | prepare _ | setPaused _ =>
    simp only [apply, replyDisplay, Except.bind_ok_iff, Except.pure_ok_iff, Prod.mk.injEq] at h
    obtain ⟨⟨r, t⟩, ht, -, rfl⟩ := h
    exact ⟨r, ht⟩
  | render _ | windowEvent _ | pointer _ | setOrientation _ | toggleFullscreen | resizeToFit
  | resizeToPixelPerfect =>
    simp only [apply, replyDone, Except.bind_ok_iff, Except.pure_ok_iff, Prod.mk.injEq] at h
    obtain ⟨t, ht, -, rfl⟩ := h
    exact ht
  | dropProducer | dropConsumer | hide | raise | setOnTop _ | panelClick _ | startRate | stopRate =>
    exact (Prod.mk.inj (Except.pure_ok_iff.mp h)).2.symm
  | updatePanel visible buttons =>
    simp only [apply] at h
    split at h
    next => exact .inl (Prod.mk.inj (Except.pure_ok_iff.mp h)).2.symm
    next update hupdate =>
      simp only [replyDone, Except.bind_ok_iff, Except.pure_ok_iff, Prod.mk.injEq] at h
      obtain ⟨t, ht, -, rfl⟩ := h
      exact .inr ⟨update, hupdate, ht⟩
  | panelMessage text =>
    simp only [apply, updatePanelMessage] at h
    obtain ⟨⟨answer, t⟩, ht, h⟩ := Except.bind_ok_iff.mp h
    obtain rfl : t = s' := by
      cases answer with
      | error e | ok b => exact (Prod.mk.inj (Except.pure_ok_iff.mp h)).2
    split at ht
    · exact .inl (Prod.mk.inj (Except.pure_ok_iff.mp ht)).2.symm
    · exact .inl (Prod.mk.inj (Except.pure_ok_iff.mp ht)).2.symm
    next update hupdate =>
      simp only [Except.bind_ok_iff, Except.pure_ok_iff, Prod.mk.injEq] at ht
      obtain ⟨u, hu, -, rfl⟩ := ht
      exact .inr ⟨update, hupdate, hu⟩
  | map point =>
    simp only [apply, Except.bind_ok_iff, Except.pure_ok_iff, Prod.mk.injEq] at h
    obtain ⟨_, -, -, rfl⟩ := h
    rfl

/-- If an operation of the view turned the content, this has the size of the
turned frame. -/
theorem CarriedOut.ofView {op : Operation} (h : s.CarriedOut host s' op) (hop : op.isOfView = true) :
    Later s s' ∧ ∃ content window orientation rect sent overlay,
      (content = s.screen.contentSize ∧ orientation = s.screen.orientation ∨
        content = orientation.orientedSize s.screen.frameSize) ∧
      s'.screen = { s.screen with
        contentSize := content, window, orientation, contentRect := rect, readySent := sent, overlay } := by
  cases op with
  | announce _ | push _ | dropProducer | dropConsumer | pump | notice _ | prepare _ | setPaused _
  | startRate | stopRate => cases hop
  | render refresh =>
    have ⟨hlater, rect, sent, hscreen⟩ := render_effect h
    exact ⟨hlater, _, _, _, rect, sent, _, .inl ⟨rfl, rfl⟩, hscreen⟩
  | windowEvent event =>
    have ⟨hlater, window, rect, sent, hscreen⟩ := handleWindowEvent_effect h
    exact ⟨hlater, _, window, _, rect, sent, _, .inl ⟨rfl, rfl⟩, hscreen⟩
  | pointer event =>
    obtain ⟨hlater, overlay, -, hscreen⟩ := handlePointer_effect h
    exact ⟨hlater, _, _, _, _, _, overlay, .inl ⟨rfl, rfl⟩, hscreen⟩
  | setOrientation o =>
    rcases setOrientation_effect h with ⟨hlater, ⟨-, rfl⟩ | ⟨window, rect, sent, hscreen⟩⟩
    · exact ⟨hlater, _, _, _, _, _, _, .inl ⟨rfl, rfl⟩, rfl⟩
    · exact ⟨hlater, _, window, o, rect, sent, _, .inr rfl, hscreen⟩
  | toggleFullscreen =>
    have ⟨hlater, window, rect, sent, hscreen⟩ := toggleFullscreen_effect h
    exact ⟨hlater, _, window, _, rect, sent, _, .inl ⟨rfl, rfl⟩, hscreen⟩
  | resizeToFit =>
    have ⟨hlater, hscreen⟩ := resizeToFit_effect h
    exact ⟨hlater, _, _, _, _, _, _, .inl ⟨rfl, rfl⟩, hscreen⟩
  | resizeToPixelPerfect =>
    have ⟨hlater, window, hscreen⟩ := resizeToPixelPerfect_effect h
    exact ⟨hlater, _, window, _, _, _, _, .inl ⟨rfl, rfl⟩, hscreen⟩
  | hide | raise | setOnTop onTop | panelClick id =>
    exact h ▸ ⟨.tell _, _, _, _, _, _, _, .inl ⟨rfl, rfl⟩, rfl⟩
  | updatePanel visible buttons | panelMessage text =>
    rcases h with rfl | ⟨update, -, h⟩
    · exact ⟨.refl _, _, _, _, _, _, _, .inl ⟨rfl, rfl⟩, rfl⟩
    · obtain ⟨hlater, overlay, rect, sent, -, hscreen⟩ := updatePanel_effect h
      exact ⟨hlater, _, _, _, rect, sent, overlay, .inl ⟨rfl, rfl⟩, hscreen⟩
  | map point => exact h ▸ ⟨.refl _, _, _, _, _, _, _, .inl ⟨rfl, rfl⟩, rfl⟩

end Session

end RemoteView
