/-
Events for the application that controls the view, in their JSON form: an
object with the `type` of the event and its `data`, if it has any.
-/
import RemoteView.Json.Reader
import RemoteView.Json.Record
import RemoteView.Json.Value
import RemoteView.Json.Writer

namespace RemoteView

inductive Outbound where
  /-- The first frame can be seen. -/
  | ready
  /-- A panel button was pressed. -/
  | panelButtonClick (id : String)
  deriving DecidableEq

namespace Outbound

def toJson : Outbound → Json.Value
  | ready => .object [("type", .string "ready")]
  | panelButtonClick id =>
    .object [("type", .string "panel_button_click"), ("data", .object [("id", .string id)])]

def text (e : Outbound) : String := Json.render e.toJson

/-- The name of the button that was pressed. Click data is always an object. -/
def clickId? : Json.Document → Option String
  | .object members => do Json.field? "id" Json.text? (← Json.record? ["id"] (.object members))
  | _ => none

/-- The event of a type and its data. -/
def ofParts? (kind : String) (data : Option Json.Document) : Option Outbound :=
  match kind, data with
  | "ready", none | "ready", some .null => some .ready
  | "panel_button_click", some data => (clickId? data).map .panelButtonClick
  | _, _ => none

/-- Whether the data of an object is read before its type is known. Such data is
taken as it comes, so all of it must have a value. -/
def dataComesFirst (fields : List (String × Json.Document)) : Bool :=
  (fields.map (·.1)).head? == some "data"

/-- An event is an object, or an array of its type and its data. Only the array
has to give the data of an event that has none, and only the object may give the
type in the form of an object. -/
def ofJson? : Json.Document → Option Outbound
  | .object members => do
    let fields ← Json.record? ["type", "data"] (.object members)
    let kind ← Json.field? "type" Json.name? fields
    let data := fields.lookup "data"
    if dataComesFirst fields && (data.bind (Json.value? 1)).isNone then none
    else ofParts? kind data
  | .array [kind, data] => do ofParts? (← Json.text? kind) (some data)
  | _ => none

def read? (text : String) : Option Outbound := (Json.read? text).bind ofJson?

end Outbound

end RemoteView
