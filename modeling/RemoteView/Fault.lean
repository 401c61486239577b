/-
Faults: the ways in which an operation can come to a stop with no answer. A
fault is not an error that a caller handles; it says that a bound or an order
of calls that the caller had promised was not kept. Arithmetic on machine words
faults instead of wrapping (`RemoteView.Checked`), and the rest are checks made
on entry.
-/
namespace RemoteView

/-- The cause that stopped an operation. -/
inductive Fault where
  | addOverflow
  | subOverflow
  | mulOverflow
  /-- A point was mapped before any content was laid out. -/
  | contentNotLaidOut
  /-- Content was laid out before its size was known. -/
  | contentSizeUnknown
  /-- The size of a stream was announced after its first frame. -/
  | lateFrameSize
  /-- A value was to be held between zero and a negative bound. -/
  | emptyRange (upper : Int32)
  /-- A scale factor was not a positive normal number. -/
  | invalidScale
  deriving DecidableEq

/-- The report that a fault leaves behind. -/
def Fault.message : Fault → String
  | addOverflow => "attempt to add with overflow"
  | subOverflow => "attempt to subtract with overflow"
  | mulOverflow => "attempt to multiply with overflow"
  | contentNotLaidOut => "content rect must be initialized before mapping coordinates"
  | contentSizeUnknown => "content size must be known before layout"
  | lateFrameSize => "frame size must be initialized before the first frame"
  | emptyRange upper => s!"min > max. min = 0, max = {upper.toInt}"
  | invalidScale => "assertion failed: validate_scale_factor(scale_factor)"

end RemoteView
