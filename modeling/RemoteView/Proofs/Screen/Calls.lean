/-
The calls of a run that can bring a frame to the display: each notice of a new frame that
is acted on, and each change of the pause. A run acts on many notices in one event, so
its calls are found by going through the notices one by one.
-/
import RemoteView.Proofs.Screen.Run

namespace RemoteView

variable {σ : Type}

/-- A call, with the session before and after it. -/
structure FrameCall (σ : Type) where
  /-- Whether a new frame was taken from the feed. If not, the pause was changed. -/
  isUpdate : Bool
  before : Session σ
  after : Session σ

/-- The requests that were made in the call. -/
def FrameCall.entries (c : FrameCall σ) : List Entry := c.after.entriesSince c.before

namespace Session

variable {host : Host σ} {s s' t : Session σ}

/-- The calls that a list of notices leads to. -/
def noticeCalls (host : Host σ) : Session σ → List Notice → List (FrameCall σ)
  | _, [] => []
  | s, notice :: rest =>
    match s.handleNotice host notice with
    | .ok (_, t) => (if notice = .newFrame then [⟨true, s, t⟩] else []) ++ noticeCalls host t rest
    | .error _ => []

/-- The calls of an event. -/
def calls (s : Session σ) (host : Host σ) : Event σ → List (FrameCall σ)
  | .operation .pump =>
    if s.feed.consumer then noticeCalls host (s.setFeed { s.feed with queue := [] }) s.feed.queue else []
  | .operation (.notice notice) => noticeCalls host s [notice]
  | .operation (.setPaused paused) =>
    match s.setPaused host paused with
    | .ok (_, t) => [⟨false, s, t⟩]
    | .error _ => []
  | _ => []

/-- The calls of a run. -/
def frameCalls (host : Host σ) : Session σ → List (Event σ) → List (FrameCall σ)
  | _, [] => []
  | s, event :: rest =>
    match s.react host event with
    | .ok t => s.calls host event ++ frameCalls host t rest
    | .error _ => []

theorem noticeCalls_cons {notice : Notice} {rest : List Notice} {r : Except DisplayError Unit}
    (h : s.handleNotice host notice = .ok (r, t)) : noticeCalls host s (notice :: rest) =
      (if notice = .newFrame then [⟨true, s, t⟩] else []) ++ noticeCalls host t rest := by
  rw [noticeCalls, h]

theorem frameCalls_cons {event : Event σ} {rest : List (Event σ)} (h : s.react host event = .ok t) :
    frameCalls host s (event :: rest) = s.calls host event ++ frameCalls host t rest := by
  rw [frameCalls, h]

theorem calls_setPaused {paused : Bool} {r : Except DisplayError Unit} (h : s.setPaused host paused = .ok (r, t)) :
    s.calls host (.operation (.setPaused paused)) = [⟨false, s, t⟩] := by
  simp only [calls, h]

end Session

end RemoteView
