/-
Properties that hold after every run. `Session.Kept` lists the few parts of the
operations that have to keep a property; then it holds whatever happens
(`Session.Kept.run`), and `Session.Carries` does the same for a relation between two
moments. Such properties often say what each request was preceded by, which is what
`Session.Throughout` is for.
-/
import RemoteView.Proofs.Screen.Effects.Requests

namespace RemoteView.Session

variable {σ : Type} {host : Host σ} {s s' : Session σ}

/-! ## Every entry of a journal -/

/-- Each entry of the journal is as `P` says of it and of the entries before it. -/
def Throughout (P : Entry → List Entry → Prop) (journal : List Entry) : Prop :=
  ∀ e earlier, e :: earlier <:+ journal → P e earlier

namespace Throughout

variable {P : Entry → List Entry → Prop} {Q : Entry → Prop} {journal : List Entry}

theorem nil : Throughout P [] := fun _ _ h => nomatch List.suffix_nil.mp h

theorem cons {e : Entry} (h : Throughout P journal) (he : P e journal) : Throughout P (e :: journal) := by
  intro e' earlier hsuffix
  rcases List.suffix_cons_iff.mp hsuffix with heq | hsuffix
  · obtain ⟨rfl, rfl⟩ := List.cons.inj heq
    exact he
  · exact h e' earlier hsuffix

/-- Requests that are all right whatever came before them. -/
theorem asked (h : Throughout P s.journal) (hasked : Asked Q s s') (hQ : ∀ e, Q e → ∀ earlier, P e earlier) :
    Throughout P s'.journal := by
  obtain ⟨added, hadded, hall⟩ := hasked
  rw [hadded]
  clear hadded
  -- The last request comes after all others, so they are taken off from the last one on.
  induction added with
  | nil => exact h
  | cons e added ih =>
    have hrest := ih fun e he => hall e (List.mem_cons_of_mem _ he)
    exact hrest.cons (hQ e (hall e List.mem_cons_self) _)

end Throughout

/-! ## What is kept -/

/-- A relation between an earlier and a later moment that the parts of all operations
have, where only the operations of the view that are `allowed` are considered. -/
structure Carries (host : Host σ) (allowed : Operation → Prop) (R : Session σ → Session σ → Prop) : Prop where
  trans : ∀ {s t s'}, R s t → R t s' → R s s'
  /-- The feed, the surroundings and what is only counted or held back do not matter. -/
  still : ∀ {s s' rate seen paused held}, s'.journal = s.journal →
    s'.screen = { s.screen with rate, skippedSeen := seen, paused, held } → R s s'
  view : ∀ {s s' op}, CarriedOut host s s' op → op.isOfView = true → allowed op → R s s'
  initSize : ∀ {s s' size r}, s.initSize host size = .ok (r, s') → R s s'
  prepareForFrame : ∀ {s s' size r}, s.prepareForFrame host size = .ok (r, s') → R s s'
  applyFrame : ∀ {s s' frame r}, s.applyFrame host frame = .ok (r, s') → R s s'

namespace Carries

variable {allowed : Operation → Prop} {R : Session σ → Session σ → Prop}

theorem refl (hR : Carries host allowed R) (s : Session σ) : R s s := hR.still rfl rfl

theorem updateFrame {r : Except DisplayError Unit} (hR : Carries host allowed R)
    (hs : s.updateFrame host = .ok (r, s')) : R s s' := by
  obtain ⟨t, hc, hs⟩ := updateFrame_ok hs
  obtain ⟨rate, -, rfl⟩ := countSkipped_ok hc
  let t := s.update ({ · with rate, skippedSeen := s.feed.slot.skipped })
  have hu : R s (t.setFeed t.feed.consume.2) := hR.still rfl rfl
  rcases hs with ⟨-, rfl⟩ | ⟨frame, -, ⟨-, rfl⟩ | ⟨-, hs⟩⟩
  · exact hu
  · exact hR.trans hu (hR.still rfl rfl)
  · exact hR.trans hu (hR.applyFrame hs)

theorem handleNotice {notice : Notice} {r : Except DisplayError Unit} (hR : Carries host allowed R)
    (hs : s.handleNotice host notice = .ok (r, s')) : R s s' := by
  cases notice with
  | initSize size => exact hR.initSize hs
  | newFrame => exact hR.updateFrame hs

theorem handleNotices {notices : List Notice} (hR : Carries host allowed R)
    (hs : s.handleNotices host notices = .ok s') : R s s' := by
  induction notices generalizing s with
  | nil => exact Except.pure_ok_iff.mp hs ▸ hR.refl s
  | cons notice rest ih =>
    obtain ⟨⟨r, t⟩, ht, hs⟩ := Except.bind_ok_iff.mp hs
    exact hR.trans (hR.handleNotice ht) (ih hs)

theorem setPaused {paused : Bool} {r : Except DisplayError Unit} (hR : Carries host allowed R)
    (hs : s.setPaused host paused = .ok (r, s')) : R s s' := by
  rcases setPaused_ok hs with rfl | rfl | ⟨frame, -, hs⟩
  · exact hR.refl _
  · exact hR.still rfl rfl
  · have hreleased : R s (s.update ({ · with paused, held := none })) := hR.still rfl rfl
    exact hR.trans hreleased (hR.applyFrame hs)

theorem operation {op : Operation} (hR : Carries host allowed R) (hop : allowed op)
    (hs : s.CarriedOut host s' op) : R s s' := by
  by_cases hview : op.isOfView = true
  · exact hR.view hs hview hop
  cases op with
  | announce size =>
    rcases hs with rfl | rfl
    · exact hR.refl _
    · exact hR.still rfl rfl
  | push frame =>
    rcases hs with rfl | ⟨r, feed, -, rfl⟩
    · exact hR.refl _
    · exact hR.still rfl rfl
  | dropProducer | dropConsumer => exact hs ▸ hR.still rfl rfl
  | pump =>
    rcases hs with rfl | hs
    · exact hR.refl _
    · have hread : R s (s.setFeed { s.feed with queue := [] }) := hR.still rfl rfl
      exact hR.trans hread (hR.handleNotices hs)
  | notice notice =>
    obtain ⟨r, hs⟩ := hs
    exact hR.handleNotice hs
  | prepare size =>
    obtain ⟨r, hs⟩ := hs
    exact hR.prepareForFrame hs
  | setPaused paused =>
    obtain ⟨r, hs⟩ := hs
    exact hR.setPaused hs
  | startRate | stopRate => exact hs ▸ hR.still rfl rfl
  | _ => exact absurd rfl hview

theorem react {event : Event σ} (hR : Carries host allowed R) (hevent : ∀ op, event = .operation op → allowed op)
    (hs : s.react host event = .ok s') : R s s' := by
  cases event with
  | outside w => exact Except.pure_ok_iff.mp hs ▸ hR.still rfl rfl
  | operation op =>
    obtain ⟨reply, hs⟩ := react_operation_ok_iff.mp hs
    exact hR.operation (hevent op rfl) (apply_ok hs)

theorem run {events : List (Event σ)} (hR : Carries host (fun _ => True) R) (hrun : s.run host events = .ok s') :
    R s s' :=
  Except.foldlM_keeps (fun _ _ _ _ h hs => hR.trans h (hR.react (fun _ _ => trivial) hs)) (hR.refl s) hrun

end Carries

/-- A property that the parts of every operation keep. -/
structure Kept (host : Host σ) (I : Session σ → Prop) : Prop where
  opened : ∀ startup w, I { screen := .initial startup, outside := w }
  /-- The feed, the surroundings and what is only counted or held back do not matter. -/
  still : ∀ {s s' rate seen paused held}, I s → s'.journal = s.journal →
    s'.screen = { s.screen with rate, skippedSeen := seen, paused, held } → I s'
  view : ∀ {s s' op}, I s → CarriedOut host s s' op → op.isOfView = true → I s'
  initSize : ∀ {s s' size r}, I s → s.initSize host size = .ok (r, s') → I s'
  prepareForFrame : ∀ {s s' size r}, I s → s.prepareForFrame host size = .ok (r, s') → I s'
  applyFrame : ∀ {s s' frame r}, I s → s.applyFrame host frame = .ok (r, s') → I s'

namespace Kept

variable {I : Session σ → Prop}

theorem start (hI : Kept host I) (startup : Startup) (w : σ) : I (.start host startup w) := by
  have hopened := hI.opened startup w
  unfold Session.start
  split
  · let s : Session σ := { screen := .initial startup, outside := w }
    have htold : s.CarriedOut host (s.tell host (.setOnTop true)) (.setOnTop true) := rfl
    exact hI.view hopened htold rfl
  · exact hopened

theorem carries (hI : Kept host I) : Carries host (fun _ => True) fun s s' => I s → I s' where
  trans h h' hs := h' (h hs)
  still hjournal hscreen h := hI.still h hjournal hscreen
  view hs hop _ h := hI.view h hs hop
  initSize hs h := hI.initSize h hs
  prepareForFrame hs h := hI.prepareForFrame h hs
  applyFrame hs h := hI.applyFrame h hs

theorem run {startup : Startup} {w : σ} {events : List (Event σ)} (hI : Kept host I)
    (hrun : (Session.start host startup w).run host events = .ok s) : I s :=
  hI.carries.run hrun (hI.start startup w)

end Kept

end RemoteView.Session
