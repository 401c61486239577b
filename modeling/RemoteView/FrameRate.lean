/-
Frame rate accounting. Totals of shown and skipped frames are kept all the
time. While the meter runs, frames are also counted over intervals of at least
one second: the first frame that comes a second or more after the start of the
interval closes it with a report, and is itself counted in the next one.
-/
import RemoteView.Checked

namespace RemoteView

/-- A moment, in microseconds from some fixed origin. A clock may tell moments apart that lie
closer together. -/
abbrev Instant := Rat

/-- The frames of one finished interval. -/
structure FrameReport where
  rendered : UInt32
  skipped : UInt32
  deriving DecidableEq

structure FrameRate where
  /-- When the running interval began; none while the meter stands still. -/
  intervalStart : Option Instant := none
  rendered : UInt32 := 0
  skipped : UInt32 := 0
  renderedTotal : UInt64 := 0
  skippedTotal : UInt64 := 0
  lastReport : Option FrameReport := none
  deriving DecidableEq

namespace FrameRate

/-- The length of a reporting interval, in microseconds. -/
def interval : Rat := 1000000

def isStarted (r : FrameRate) : Bool := r.intervalStart.isSome

/-- Starts the meter. A meter that runs goes on with its interval. -/
def start (r : FrameRate) (now : Instant) : FrameRate :=
  if r.isStarted then r else { r with intervalStart := some now, rendered := 0, skipped := 0 }

/-- Stops the meter and leaves the frames of its last interval unreported. -/
def stop (r : FrameRate) : FrameRate := { r with intervalStart := none }

/-- Closes the interval if it has lasted long enough. A moment before the start
of the interval counts as no time passed. -/
def roll (r : FrameRate) (now : Instant) : FrameRate :=
  match r.intervalStart with
  | none => r
  | some begun =>
    if now - begun < interval then r
    else { r with
      intervalStart := some now, rendered := 0, skipped := 0
      lastReport := some ⟨r.rendered, r.skipped⟩ }

/-- Counts a frame that was shown. -/
def addRendered (r : FrameRate) (now : Instant) : Except Fault FrameRate := do
  let r := { r with renderedTotal := ← Checked.addU64 r.renderedTotal 1 }
  if r.isStarted then
    let r := r.roll now
    return { r with rendered := ← Checked.addU32 r.rendered 1 }
  else return r

/-- Counts frames that were never shown. -/
def addSkipped (r : FrameRate) (count : UInt32) (now : Instant) : Except Fault FrameRate := do
  if count = 0 then return r
  let r := { r with skippedTotal := ← Checked.addU64 r.skippedTotal count.toUInt64 }
  if r.isStarted then
    let r := r.roll now
    return { r with skipped := ← Checked.addU32 r.skipped count }
  else return r

end FrameRate

end RemoteView
