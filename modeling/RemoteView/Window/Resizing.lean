/-
When a window is resized for new content. A window that the window manager
constrains (fullscreen, maximized or minimized) must be left alone, so a resize
that comes up meanwhile is deferred. It is done from the content size that the
window last had when it was free, however often the content changed since.
-/
import RemoteView.Geometry

namespace RemoteView

/-- What a windowing system tells about a window. -/
inductive WindowEvent where
  | exposed
  | sizeChanged
  | maximized
  | minimized
  | restored
  deriving DecidableEq, Inhabited

/-- The constraints on a window. They are independent of each other: some
systems report a window as maximized and fullscreen at once. -/
structure WindowFlags where
  fullscreen : Bool := false
  maximized : Bool := false
  minimized : Bool := false
  deriving DecidableEq, Inhabited

/-- Whether nothing constrains the size of the window. -/
def WindowFlags.isWindowed (f : WindowFlags) : Bool := !f.fullscreen && !f.maximized && !f.minimized

/-- A window has to follow its content from one size to another. -/
structure ResizeRequest where
  source : Size
  target : Size
  deriving DecidableEq

/-- What came of a window being restored. -/
inductive RestoreOutcome where
  /-- The window is fullscreen, and its flags stay as they are. -/
  | ignored
  | restored (resize : Option ResizeRequest)
  deriving DecidableEq

/-- The constraints on a window and the resize it owes. -/
structure Resizing where
  flags : WindowFlags := {}
  /-- The content size that a deferred resize starts from. -/
  deferred : Option Size := none
  deriving DecidableEq

namespace Resizing

def isWindowed (r : Resizing) : Bool := r.flags.isWindowed

/-- Whether a resize is deferred. -/
def isPending (r : Resizing) : Bool := r.deferred.isSome

/-- The content changes size. A free window is resized now; otherwise the
resize is deferred, and the first size it was deferred from is kept. -/
def contentSizeChanged (r : Resizing) (old new : Size) : Option ResizeRequest × Resizing :=
  if r.isWindowed then (some ⟨old, new⟩, r)
  else (none, { r with deferred := some (r.deferred.getD old) })

def onMaximized (r : Resizing) : Resizing := { r with flags.maximized := true }

def onMinimized (r : Resizing) : Resizing := { r with flags.minimized := true }

/-- Hands out the deferred resize once the window is free. -/
def takePending (r : Resizing) (content : Size) : Option ResizeRequest × Resizing :=
  if r.isWindowed then (r.deferred.map (⟨·, content⟩), { r with deferred := none }) else (none, r)

/-- The window was restored. A fullscreen window ignores this: leaving
fullscreen from maximized can report a restore while it is still fullscreen. -/
def onRestored (r : Resizing) (content : Size) : RestoreOutcome × Resizing :=
  if r.flags.fullscreen then (.ignored, r)
  else
    let free := { r with flags.maximized := false, flags.minimized := false }
    let (resize, next) := free.takePending content
    (.restored resize, next)

/-- The window went fullscreen or came back from it. -/
def onFullscreenToggled (r : Resizing) (content : Size) : Option ResizeRequest × Resizing :=
  { r with flags.fullscreen := !r.flags.fullscreen }.takePending content

/-- The window leaves the maximized state for a resize of its own, which makes
a deferred one obsolete. -/
def leaveMaximized (r : Resizing) : Resizing :=
  let r := { r with flags.maximized := false }
  if r.isWindowed then { r with deferred := none } else r

end Resizing

end RemoteView
