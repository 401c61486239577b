/-
The operations of a session: all that can be asked of a view and of the two
ends of its feed. `Session.apply` carries one out and gives its reply.
-/
import RemoteView.Screen.Frames
import RemoteView.Screen.Input

namespace RemoteView

inductive Operation where
  /-- The producer announces the frame size of its stream. -/
  | announce (size : Size)
  /-- The producer gives a frame. -/
  | push (frame : VideoFrame)
  | dropProducer
  | dropConsumer
  /-- Act on all notices of the feed. -/
  | pump
  /-- Act on a notice that does not come from the queue. -/
  | notice (notice : Notice)
  | prepare (size : Size)
  | render (refresh : Bool)
  | windowEvent (event : WindowEvent)
  | pointer (event : PointerEvent)
  | setOrientation (orientation : Orientation)
  | setPaused (paused : Bool)
  | toggleFullscreen
  | resizeToFit
  | resizeToPixelPerfect
  | hide
  | raise
  | setOnTop (onTop : Bool)
  | panelClick (id : String)
  | updatePanel (visible : Option Bool) (buttons : List Panel.Button)
  | panelMessage (text : String)
  | startRate
  | stopRate
  /-- Map a window point, and the same point taken as a drawing pixel. -/
  | map (point : Point)

/-- Why an operation failed. -/
inductive Failure where
  | feed (cause : FeedError)
  | display (cause : DisplayError)
  | panel (cause : Panel.UpdateError)
  deriving DecidableEq

def Failure.message : Failure → String
  | feed cause => cause.message
  | display cause => cause.message
  | panel cause => cause.message

/-- What an operation answers. -/
inductive Reply where
  | done
  | answer (yes : Bool)
  | outcome (outcome : Outcome)
  | mapped (drawable fromWindow fromDrawable : Point)
  | failed (failure : Failure)
  deriving DecidableEq

/-- The reply of an operation that has nothing to tell but an error. -/
def Reply.ofResult {ε : Type} (failure : ε → Failure) : Except ε Unit → Reply
  | .ok () => .done
  | .error e => .failed (failure e)

namespace Session

variable {σ : Type}

/-- The session of a view that starts now. -/
def start (host : Host σ) (startup : Startup) (outside : σ) : Session σ :=
  let s : Session σ := { screen := .initial startup, outside }
  if startup.alwaysOnTop then s.tell host (.setOnTop true) else s

/-- The session with a reply that says no more than that it was done. -/
def replyDone (s : Session σ) : Reply × Session σ := (.done, s)

/-- The reply of an operation that can meet an error of the display. -/
def replyDisplay (r : Except DisplayError Unit × Session σ) : Reply × Session σ :=
  (.ofResult .display r.1, r.2)

/-- The three points that `Operation.map` gives. -/
def mapPoint (s : Session σ) (host : Host σ) (p : Point) : Except Fault Reply := do
  let m := s.mapping host
  return .mapped (m.windowToDrawable p) (← m.windowToFrame p) (← m.drawableToFrame p)

/-- Carries out an operation. An end of the feed that was dropped cannot be
used, and such an operation does nothing. -/
def apply (s : Session σ) (host : Host σ) : Operation → Except Fault (Reply × Session σ)
  | .announce size =>
    if s.feed.producer then
      let (result, feed) := s.feed.announce size
      return (.ofResult .feed result, s.setFeed feed)
    else return s.replyDone
  | .push frame => do
    if s.feed.producer then
      let (result, feed) ← s.feed.push frame
      return (.ofResult .feed result, s.setFeed feed)
    else return s.replyDone
  | .dropProducer => return (s.setFeed s.feed.dropProducer).replyDone
  | .dropConsumer => return (s.setFeed s.feed.dropConsumer).replyDone
  | .pump => do
    if s.feed.consumer then
      let (more, s) ← s.pump host
      return (.answer more, s)
    else return s.replyDone
  | .notice notice => return replyDisplay (← s.handleNotice host notice)
  | .prepare size => do
    let (outcome, s) ← s.prepareForFrame host size
    return (.outcome outcome, s)
  | .render refresh => return (← s.render host refresh).replyDone
  | .windowEvent event => return (← s.handleWindowEvent host event).replyDone
  | .pointer event => return (← s.handlePointer host event).replyDone
  | .setOrientation o => return (← s.setOrientation host o).replyDone
  | .setPaused paused => return replyDisplay (← s.setPaused host paused)
  | .toggleFullscreen => return (← s.toggleFullscreen host).replyDone
  | .resizeToFit => return (← s.resizeToFit host).replyDone
  | .resizeToPixelPerfect => return (← s.resizeToPixelPerfect host).replyDone
  | .hide => return (s.tell host .hideWindow).replyDone
  | .raise => return (s.tell host .raiseWindow).replyDone
  | .setOnTop onTop => return (s.tell host (.setOnTop onTop)).replyDone
  | .panelClick id => return (s.sendPanelClick host id).replyDone
  | .updatePanel visible buttons =>
    match Panel.Update.of visible buttons with
    | .error e => return (.failed (.panel e), s)
    | .ok update => return (← s.updatePanel host update).replyDone
  | .panelMessage text => do
    match ← s.updatePanelMessage host text with
    | (.error e, s) => return (.failed (.panel e), s)
    | (.ok forPanel, s) => return (.answer forPanel, s)
  | .startRate => return (s.setRate (s.screen.rate.start (host.now s.outside))).replyDone
  | .stopRate => return (s.setRate s.screen.rate.stop).replyDone
  | .map point => return (← s.mapPoint host point, s)

end Session

end RemoteView
