/-
Frames on their way to the display. A frame is shown in three steps: the display
is prepared for its size, the frame is uploaded, and the view is drawn. A display
that is not ready at one of the first two makes the view drop the frame; an error
there is reported. While the view is paused, the latest frame is held back.
-/
import RemoteView.Screen.Sizing

namespace RemoteView

/-- Why the display could not be used. -/
inductive DisplayError where
  | texture (size : Size)
  | preparation (size : Size)
  | upload
  deriving DecidableEq

def DisplayError.message : DisplayError → String
  | texture size => "could not allocate a " ++ size.text ++ " texture"
  | preparation size => "could not prepare display for a " ++ size.text ++ " frame"
  | upload => "could not update texture"

namespace Session

variable {σ : Type}

/-- Takes over the frame size of a stream that opened. -/
def initSize (s : Session σ) (host : Host σ) (size : Size) :
    Except Fault (Except DisplayError Unit × Session σ) := do
  if s.screen.hasFrame then throw .lateFrameSize
  let content := s.screen.orientation.orientedSize size
  let s := s.update ({ · with frameSize := size, contentSize := content })
  let (outcome, s) := s.request host (.setTextureSize size)
  return (if outcome = .error then .error (.texture size) else .ok (), s)

/-- Prepares the window and the display for a frame of a new size. -/
def prepareForFrame (s : Session σ) (host : Host σ) (size : Size) :
    Except Fault (Outcome × Session σ) := do
  if s.screen.frameSize = size then return (.ok, s)
  let content := s.screen.orientation.orientedSize size
  let s ← (s.update ({ · with frameSize := size })).setContentSize host content
  let s ← s.layOut host
  return s.request host (.setTextureSize size)

/-- Draws a frame that the display has taken. Before the first one is drawn the
window is set up, still without a frame, so that nothing is drawn too early. -/
def showUploaded (s : Session σ) (host : Host σ) : Except Fault (Session σ) := do
  let first := !s.screen.hasFrame
  let s ← if first then s.showInitialWindow host else pure s
  let rate ← s.screen.rate.addRendered (host.now s.outside)
  (s.update ({ · with hasFrame := true, rate })).render host first

/-- Brings a frame to the display. -/
def applyFrame (s : Session σ) (host : Host σ) (frame : VideoFrame) :
    Except Fault (Except DisplayError Unit × Session σ) := do
  match ← s.prepareForFrame host frame.size with
  | (.pending, s) => return (.ok (), s)
  | (.error, s) => return (.error (.preparation frame.size), s)
  | (.ok, s) =>
    match s.request host (.updateTexture frame) with
    | (.pending, s) => return (.ok (), s)
    | (.error, s) => return (.error .upload, s)
    | (.ok, s) => return (.ok (), ← s.showUploaded host)

/-- How many of the frames that the feed skipped are not accounted for yet. -/
def newlySkipped (s : Session σ) : UInt32 :=
  UInt32.ofNat (min (s.feed.slot.skipped.toNat - s.screen.skippedSeen.toNat) (UInt32.size - 1))

/-- Accounts for the frames that the feed skipped. -/
def countSkipped (s : Session σ) (host : Host σ) : Except Fault (Session σ) := do
  let rate ← s.screen.rate.addSkipped s.newlySkipped (host.now s.outside)
  return s.update ({ · with rate, skippedSeen := s.feed.slot.skipped })

/-- Takes the frame that a notice was about. -/
def updateFrame (s : Session σ) (host : Host σ) :
    Except Fault (Except DisplayError Unit × Session σ) := do
  let s ← s.countSkipped host
  let (frame, feed) := s.feed.consume
  let s := s.setFeed feed
  match frame with
  | none => return (.ok (), s)
  | some frame =>
    if s.screen.paused then return (.ok (), s.update ({ · with held := some frame }))
    else s.applyFrame host frame

/-- Acts on a notice of the feed. -/
def handleNotice (s : Session σ) (host : Host σ) :
    Notice → Except Fault (Except DisplayError Unit × Session σ)
  | .initSize size => s.initSize host size
  | .newFrame => s.updateFrame host

/-- Acts on a list of notices, whether or not there are errors. -/
def handleNotices (s : Session σ) (host : Host σ) : List Notice → Except Fault (Session σ)
  | [] => return s
  | notice :: rest => do
    let (_, s) ← s.handleNotice host notice
    s.handleNotices host rest

/-- Acts on all notices under way. Tells whether more can come. -/
def pump (s : Session σ) (host : Host σ) : Except Fault (Bool × Session σ) := do
  let s ← (s.setFeed { s.feed with queue := [] }).handleNotices host s.feed.queue
  return (s.feed.producer, s)

/-- Pauses the view or lets it go on. A view that was paused shows the frame it
holds, also when it is paused once more. -/
def setPaused (s : Session σ) (host : Host σ) (paused : Bool) :
    Except Fault (Except DisplayError Unit × Session σ) := do
  if !paused && !s.screen.paused then return (.ok (), s)
  let wasPaused := s.screen.paused
  let s := s.update ({ · with paused })
  match wasPaused, s.screen.held with
  | true, some frame => (s.update ({ · with held := none })).applyFrame host frame
  | _, _ => return (.ok (), s)

end Session

end RemoteView
