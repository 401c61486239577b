/-
The button panel and its updates. An update replaces all buttons at once, and
it exists only after every button was checked, so a panel never shows part of
a faulty update.
-/
import RemoteView.Geometry

namespace RemoteView

/-- A button: the name that is sent when it is pressed, and what it shows. -/
structure Panel.Button where
  id : String
  label : String
  deriving DecidableEq, Inhabited

/-- The buttons beside the content, in order from the top. -/
structure Panel where
  visible : Bool := false
  buttons : List Panel.Button := []
  deriving DecidableEq

namespace Panel

def maxButtons : Nat := 32

/-- The longest name of a button, in bytes. -/
def maxIdBytes : Nat := 31

/-- The longest label that is kept, in bytes. -/
def maxLabelBytes : Nat := 63

/-- Why an update was turned down. Buttons are numbered from zero. -/
inductive UpdateError where
  | malformedMessage
  | noData
  | malformedData
  | notAnObject (index : Nat)
  | noStringId (index : Nat)
  | noLabel (index : Nat) (id : String)
  | tooManyButtons (count : Nat)
  | emptyId (index : Nat)
  | longId (index bytes : Nat)
  deriving DecidableEq

def UpdateError.message : UpdateError → String
  | malformedMessage => "malformed control message"
  | noData => "panel message without data"
  | malformedData => "malformed panel data"
  | notAnObject index => s!"panel button {index} is not an object"
  | noStringId index => s!"panel button {index} has no string id"
  | noLabel index id => s!"panel button {index} ({id}) has no label"
  | tooManyButtons count => s!"panel update has {count} buttons, at most {maxButtons} allowed"
  | emptyId index => s!"panel button {index} has an empty id"
  | longId index bytes => s!"panel button {index} id is {bytes} bytes, at most {maxIdBytes} allowed"

/-- The longest start of a text, in whole characters, that takes no more than
`room` bytes. -/
def takeBytes (room : Nat) : List Char → List Char
  | [] => []
  | c :: rest => if c.utf8Size ≤ room then c :: takeBytes (room - c.utf8Size) rest else []

/-- The button with its label cut to size, if its name is neither empty nor too
long. -/
def Button.checked (button : Button) (index : Nat) : Except UpdateError Button :=
  let bytes := button.id.utf8ByteSize
  if bytes = 0 then .error (.emptyId index)
  else if maxIdBytes < bytes then .error (.longId index bytes)
  else .ok { button with label := String.ofList (takeBytes maxLabelBytes button.label.toList) }

/-- A checked replacement of the whole panel. Without a word on visibility the
panel stays as it is. -/
structure Update where
  visible : Option Bool
  buttons : List Button
  deriving DecidableEq

/-- The update with these buttons, if there are not too many and each of them
is in order. -/
def Update.of (visible : Option Bool) (buttons : List Button) : Except UpdateError Update := do
  if maxButtons < buttons.length then throw (.tooManyButtons buttons.length)
  return { visible, buttons := ← buttons.zipIdx.mapM fun (button, index) => button.checked index }

/-- The panel after an update. -/
def apply (p : Panel) (update : Update) : Panel := ⟨update.visible.getD p.visible, update.buttons⟩

end Panel

end RemoteView
