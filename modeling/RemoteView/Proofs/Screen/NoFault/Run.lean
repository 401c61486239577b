/-
No run faults whose callers keep their promises (`run_without_fault`), whatever the
host answers: the windows are modest, a pointer event lies inside its window, a
stream is opened before its first frame is shown, its frames have valid sizes, and
there are fewer than 2^32 of them.
-/
import RemoteView.Proofs.Screen.NoFault.Frames

namespace RemoteView

variable {σ : Type}

namespace Session

variable {host : Host σ} {s s' : Session σ} {n : Nat}

/-! ## What callers promise -/

/-- Whether no stream is opened after a frame was shown, when these notices are
acted on in order. -/
def opensEarly (host : Host σ) : Session σ → List Notice → Bool
  | _, [] => true
  | s, notice :: rest =>
    (match notice with
      | .initSize _ => !s.screen.hasFrame
      | .newFrame => true) &&
    match s.handleNotice host notice with
    | .ok (_, t) => opensEarly host t rest
    | .error _ => true

/-- Whether an event is one that a caller may bring about now. -/
def promised (host : Host σ) (s : Session σ) : Event σ → Bool
  | .operation (.push frame) => frame.size.isValidFrame
  | .operation .pump => opensEarly host (s.setFeed { s.feed with queue := [] }) s.feed.queue
  | .operation (.notice notice) => opensEarly host s [notice]
  | .operation (.pointer event) => s.pointsInside host event.point
  | .operation (.prepare _) | .operation (.map _) => false
  | .operation _ | .outside _ => true

/-- Whether every event of a run is. -/
def keepsPromises (host : Host σ) : Session σ → List (Event σ) → Bool
  | _, [] => true
  | s, event :: rest =>
    promised host s event &&
    match s.react host event with
    | .ok t => keepsPromises host t rest
    | .error _ => true

theorem opensEarly_head {notice : Notice} {rest : List Notice}
    (h : opensEarly host s (notice :: rest) = true) :
    (∀ size, notice = .initSize size → s.screen.hasFrame = false) ∧
      ∀ r t, s.handleNotice host notice = .ok (r, t) → opensEarly host t rest = true := by
  simp only [opensEarly, Bool.and_eq_true] at h
  refine ⟨fun size hsize => ?_, fun r t ht => ?_⟩
  · subst hsize
    simpa using h.1
  · simpa only [ht] using h.2

/-! ## Every operation -/

theorem handleNotices_yields (hm : host.Modest) (h : s.Sane n) (room : n < 2 ^ 32) {notices : List Notice}
    (hearly : opensEarly host s notices = true) : (s.handleNotices host notices).Yields (·.Sane n) := by
  induction notices generalizing s with
  | nil => exact .pure h
  | cons notice rest ih =>
    have ⟨hnotice, hrest⟩ := opensEarly_head hearly
    refine (handleNotice_yields hm h room hnotice).bind ?_
    rintro ⟨r, t⟩ ht hsane
    exact ih hsane (hrest r t ht)

/-- An operation of the view ends well, and the view is steady after it. -/
theorem ofView_yields (hm : host.Modest) (h : s.Sane n) {op : Operation} (hview : op.isOfView = true)
    (hop : promised host s (.operation op) = true) : (s.apply host op).Yields (·.2.screen.Steady) := by
  cases op with
  | announce _ | push _ | dropProducer | dropConsumer | pump | notice _ | prepare _ | setPaused _
  | startRate | stopRate => cases hview
  | render refresh => exact (render_yields hm h.steady refresh).bind fun _ _ ht => .pure ht
  | windowEvent event => exact (handleWindowEvent_yields hm h.steady event).bind fun _ _ ht => .pure ht
  | pointer event => exact (handlePointer_yields hm h.steady hop).bind fun _ _ ht => .pure ht
  | setOrientation o => exact (setOrientation_yields hm h.steady h.framed.shown).bind fun _ _ ht => .pure ht
  | toggleFullscreen => exact (toggleFullscreen_yields hm h.steady).bind fun _ _ ht => .pure ht
  | resizeToFit => exact (resizeToFit_yields hm h.steady).bind fun _ _ ht => .pure ht
  | resizeToPixelPerfect => exact (resizeToPixelPerfect_yields h.steady).bind fun _ _ ht => .pure ht
  | hide | raise | setOnTop onTop | panelClick id => exact .pure h.steady
  | updatePanel visible buttons =>
    simp only [Session.apply]
    split
    next => exact .pure h.steady
    next update hupdate =>
      have hbuttons := Panel.Update.of_ok hupdate
      exact (updatePanel_yields hm h.steady hbuttons).bind fun _ _ ht => .pure ht
  | panelMessage text =>
    have hmessage : (s.updatePanelMessage host text).Yields (·.2.screen.Steady) := by
      unfold updatePanelMessage
      split
      next => exact .pure h.steady
      next => exact .pure h.steady
      next update hupdate =>
        have hbuttons := Panel.Update.ofMessage_ok hupdate
        exact (updatePanel_yields hm h.steady hbuttons).bind fun _ _ ht => .pure ht
    refine hmessage.bind ?_
    rintro ⟨answer, t⟩ _ ht
    cases answer with
    | error e => exact .pure ht
    | ok forPanel => exact .pure ht
  | map point => cases hop

/-- An operation brings the session to where it is sane again, with one more frame
given if it gave one. -/
theorem apply_yields (hm : host.Modest) (h : s.Sane n) {op : Operation}
    (hop : promised host s (.operation op) = true)
    (room : n + (if (Event.operation op : Event σ).isPush = true then 1 else 0) < 2 ^ 32) :
    (s.apply host op).Yields fun r =>
      r.2.Sane (n + if (Event.operation op : Event σ).isPush = true then 1 else 0) := by
  have hstream : (Event.operation op : Event σ).OfStream (·.isValidFrame = true) := by
    cases op with
    | push frame => exact hop
    | prepare size => cases hop
    | _ => trivial
  refine Sane.of_yields (fun _ hr => h.framed.operation hstream.sized (apply_ok hr))
    (fun _ hr => h.counted.operation (apply_ok hr)) ?_
  by_cases hview : op.isOfView = true
  · exact ofView_yields hm h hview hop
  cases op with
  | announce size =>
    simp only [Session.apply]
    split
    · exact .pure h.steady
    · exact .pure h.steady
  | push frame =>
    have hframes := h.counted.frames
    simp only [Session.apply]
    split
    · have hsize : UInt64.size = 2 ^ 64 := rfl
      obtain ⟨r, feed, hpush⟩ := s.feed.push_succeeds frame fun _ => by omega
      exact ⟨_, Except.bind_ok_iff.mpr ⟨_, hpush, rfl⟩, h.steady⟩
    · exact .pure h.steady
  | dropProducer | dropConsumer => exact .pure h.steady
  | pump =>
    simp only [Session.apply]
    split
    · have hread : (s.setFeed { s.feed with queue := [] }).Sane n :=
        ⟨h.steady, h.framed.setFeed h.framed.waiting, h.counted.setFeed rfl⟩
      have hpump : (s.pump host).Yields (·.2.Sane n) :=
        (handleNotices_yields hm hread room hop).bind fun _ _ ht => .pure ht
      exact hpump.bind fun _ _ ht => .pure ht.steady
    · exact .pure h.steady
  | notice notice =>
    have hnotice := (opensEarly_head hop).1
    exact (handleNotice_yields hm h room hnotice).bind fun _ _ ht => .pure ht.steady
  | prepare size => cases hop
  | setPaused paused => exact (setPaused_yields hm h room paused).bind fun _ _ ht => .pure ht.steady
  | startRate | stopRate => exact .pure h.steady.keep
  | _ => exact absurd rfl hview

/-! ## Every run -/

theorem Sane.start (startup : Startup) (w : σ) : (Session.start host startup w).Sane 0 := by
  have h : ({ screen := .initial startup, outside := w } : Session σ).screen.Steady :=
    ⟨nofun, nofun, fun _ => rfl, Nat.zero_le _⟩
  refine ⟨?_, .start startup w, .start startup w⟩
  unfold Session.start
  split
  · exact h
  · exact h

theorem react_yields (hm : host.Modest) (h : s.Sane n) {event : Event σ}
    (hevent : promised host s event = true) (room : n + (if event.isPush = true then 1 else 0) < 2 ^ 32) :
    (s.react host event).Yields (·.Sane (n + if event.isPush = true then 1 else 0)) := by
  cases event with
  | operation op => exact (apply_yields hm h hevent room).bind fun _ _ ht => .pure ht
  | outside w =>
    exact .pure ⟨h.steady, ⟨h.framed.content, h.framed.shown, h.framed.waiting, h.framed.held⟩,
      h.counted.keep rfl (.inl rfl) rfl⟩

theorem run_yields (hm : host.Modest) {events : List (Event σ)} (h : s.Sane n)
    (hkept : keepsPromises host s events = true) (room : n + events.countP Event.isPush < 2 ^ 32) :
    (s.run host events).Yields (·.Sane (n + events.countP Event.isPush)) := by
  induction events generalizing s n with
  | nil => exact .pure h
  | cons event rest ih =>
    simp only [keepsPromises, Bool.and_eq_true] at hkept
    rw [List.countP_cons] at room ⊢
    refine (react_yields hm h hkept.1 (by omega)).bind ?_
    intro t ht hsane
    have hrest : keepsPromises host t rest = true := by simpa only [ht] using hkept.2
    have hrun := ih hsane hrest (by omega)
    rw [Nat.add_assoc, Nat.add_comm (if event.isPush = true then 1 else 0)] at hrun
    exact hrun

/-- **No run faults.** On a host with modest windows, a run comes to its end
without a fault if its callers kept their promises and gave fewer than 2^32
frames: no word overflows, nothing is mapped or laid out before its size is
known, no frame size comes too late, and no range is empty. -/
theorem run_without_fault (hm : host.Modest) (startup : Startup) (w : σ) {events : List (Event σ)}
    (hkept : keepsPromises host (.start host startup w) events = true)
    (room : events.countP Event.isPush < 2 ^ 32) :
    ∃ s, (Session.start host startup w).run host events = .ok s := by
  obtain ⟨s, hs, -⟩ := run_yields hm (.start startup w) hkept (by omega)
  exact ⟨s, hs⟩

theorem cappedHost_modest : cappedHost.Modest := by
  have hmin (v : UInt32) : (min v 32767).toNat ≤ 32767 := by
    show (if v ≤ 32767 then v else 32767).toNat ≤ 32767
    split
    next h => exact UInt32.le_iff_toNat_le.mp h
    next => exact Nat.le_refl _
  have horigin : Point.Central {} := ⟨by decide, by decide⟩
  exact ⟨fun w => ⟨hmin w.width, hmin w.height⟩, fun w => ⟨hmin w.width, hmin w.height⟩,
    fun _ => horigin⟩

/-- A stream of two frame sizes, with input between them and a resize that is put
off while the window is fullscreen. -/
def busyRun : List (Event Size) :=
  [.operation (.announce ⟨1920, 1080⟩), .operation .pump, .operation (.push ⟨⟨1920, 1080⟩, []⟩),
    .operation .pump, .operation (.pointer (.motion ⟨1873, 1025⟩)), .operation .toggleFullscreen,
    .operation (.setPaused true), .operation (.push ⟨⟨1080, 1920⟩, []⟩), .operation .pump, .outside ⟨500, 400⟩,
    .operation (.pointer (.down ⟨499, 399⟩ .left 1)), .operation (.setPaused false),
    .operation (.setOrientation ⟨true, .deg90⟩), .operation .toggleFullscreen, .operation .resizeToFit]

theorem run_without_fault_busy :
    ∃ s, (Session.start cappedHost { panelShow := true } ⟨800, 600⟩).run cappedHost busyRun = .ok s :=
  run_without_fault cappedHost_modest { panelShow := true } ⟨800, 600⟩ (by decide +kernel) (by decide)

end Session

end RemoteView
