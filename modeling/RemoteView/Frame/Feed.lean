/-
The feed of decoded frames: a slot that holds the latest frame, and a queue of
notices that tells the consumer when to look. A notice is posted only for a frame
that found the slot empty. A frame that replaces another one needs no notice of
its own, since the notice of the replaced frame is still under way.
-/
import RemoteView.Frame.Slot
import RemoteView.Geometry

namespace RemoteView

/-- A decoded frame: its size and its raw pixels. -/
structure VideoFrame where
  size : Size
  pixels : List UInt8
  deriving DecidableEq, Inhabited

/-- What the producer of frames tells their consumer. -/
inductive Notice where
  /-- The stream opened, and its frames have this size. -/
  | initSize (size : Size)
  /-- A frame waits in the slot. -/
  | newFrame
  deriving DecidableEq, Inhabited

/-- Why a feed turned a request of the producer down. -/
inductive FeedError where
  | invalidSize (size : Size)
  | disconnected
  deriving DecidableEq

def FeedError.message : FeedError → String
  | invalidSize size => "invalid video size: " ++ size.text
  | disconnected => "screen event receiver disconnected"

/-- The largest dimension that an announced frame size may have. -/
def maxFrameDimension : UInt32 := 0xFFFF

/-- A size that a stream may announce: neither dimension is zero or too large. -/
def Size.isValidFrame (s : Size) : Bool :=
  1 ≤ s.width && s.width ≤ maxFrameDimension && 1 ≤ s.height && s.height ≤ maxFrameDimension

/-- The slot, the notices under way with the oldest first, and which of the two
ends are still there. -/
structure Feed where
  slot : Slot VideoFrame := {}
  queue : List Notice := []
  producer : Bool := true
  consumer : Bool := true
  deriving DecidableEq

namespace Feed

/-- Puts a notice at the end of the queue, unless nobody is left to read it. -/
def post (f : Feed) (notice : Notice) : Except FeedError Unit × Feed :=
  if f.consumer then (.ok (), { f with queue := f.queue ++ [notice] }) else (.error .disconnected, f)

/-- Announces the frame size of a stream, before its first frame. -/
def announce (f : Feed) (size : Size) : Except FeedError Unit × Feed :=
  if size.isValidFrame then f.post (.initSize size) else (.error (.invalidSize size), f)

/-- Gives a frame. It is stored even if its notice cannot be posted. -/
def push (f : Feed) (frame : VideoFrame) : Except Fault (Except FeedError Unit × Feed) := do
  let (replaced, slot) ← f.slot.push frame
  let f := { f with slot }
  if replaced then return (.ok (), f) else return f.post .newFrame

/-- Reads the oldest notice. -/
def receive (f : Feed) : Option Notice × Feed := (f.queue.head?, { f with queue := f.queue.tail })

/-- Takes the frame out of the slot. -/
def consume (f : Feed) : Option VideoFrame × Feed :=
  let (frame, slot) := f.slot.consume
  (frame, { f with slot })

/-- The consumer goes away, and the notices under way with it. -/
def dropConsumer (f : Feed) : Feed := { f with consumer := false, queue := [] }

/-- The producer goes away. Its notices can still be read. -/
def dropProducer (f : Feed) : Feed := { f with producer := false }

end Feed

end RemoteView
