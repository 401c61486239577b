/-
Panel updates that come as control messages. A message names its type and
carries data; only messages of type `panel` are for the panel. Its data lists
the buttons, each an object with an `id` and a label. The label is the field
`text`, or else the first other field that holds a string.
-/
import RemoteView.Json.Reader
import RemoteView.Json.Record
import RemoteView.Json.Value
import RemoteView.Panel.Basic

namespace RemoteView.Panel

/-- A control message: its type, and the data it carries unless that is null. -/
structure Envelope where
  kind : String
  data : Option Json.Value

def Envelope.ofJson? (d : Json.Document) : Option Envelope := do
  let fields ← d.record? ["type", "data"]
  return {
    kind := ← Json.field? "type" Json.text? fields
    data := ← Json.fieldOr? "data" none (Json.nullable? (Json.value? 1)) fields }

def Envelope.read? (text : String) : Option Envelope := (Json.read? text).bind Envelope.ofJson?

/-- The data of a panel message, with its buttons still unread. -/
structure Data where
  buttons : List Json.Value
  visible : Option Bool

/-- The `visible` field: a boolean, or a null for no change. -/
def Data.visible? : Json.Value → Option (Option Bool)
  | .null => some none
  | .bool b => some (some b)
  | _ => none

/-- Panel data is an object, or an array of the buttons and the visibility. -/
def Data.ofValue? : Json.Value → Option Data
  | .object fields =>
    match fields.lookup "buttons" with
    | some (.array buttons) => do
      return ⟨buttons, ← Data.visible? ((fields.lookup "visible").getD .null)⟩
    | _ => none
  | .array [.array buttons] => some ⟨buttons, none⟩
  | .array [.array buttons, visible] => do return ⟨buttons, ← Data.visible? visible⟩
  | _ => none

/-- The text of a string value. -/
def stringValue? : Json.Value → Option String
  | .string s => some s
  | _ => none

/-- The first string among the fields of a button, its `id` apart. -/
def freeLabel? (fields : List (String × Json.Value)) : Option String :=
  (fields.filter (·.1 != "id")).findSome? (stringValue? ·.2)

/-- The label of a button with these fields. -/
def label? (fields : List (String × Json.Value)) : Option String :=
  ((fields.lookup "text").bind stringValue?).orElse fun _ => freeLabel? fields

/-- The button that entry number `index` of the list describes. -/
def Button.ofValue (index : Nat) (entry : Json.Value) : Except UpdateError Button :=
  match entry with
  | .object fields =>
    match (fields.lookup "id").bind stringValue? with
    | none => .error (.noStringId index)
    | some id =>
      match label? fields with
      | none => .error (.noLabel index id)
      | some label => .ok { id, label }
  | _ => .error (.notAnObject index)

/-- The update that a control message asks for; none if the message is not for
the panel. All entries are read before any button is checked. -/
def Update.ofMessage (text : String) : Except UpdateError (Option Update) := do
  let some envelope := Envelope.read? text | throw .malformedMessage
  if envelope.kind != "panel" then return none
  let some value := envelope.data | throw .noData
  let some data := Data.ofValue? value | throw .malformedData
  let buttons ← data.buttons.zipIdx.mapM fun (entry, index) => Button.ofValue index entry
  return some (← Update.of data.visible buttons)

end RemoteView.Panel
