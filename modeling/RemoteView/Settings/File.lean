/-
Settings as a JSON document and as a file. No file, and a file with nothing but
white space, stand for the defaults. So does every field that a document leaves
out.
-/
import RemoteView.Json.Reader
import RemoteView.Settings.Basic

namespace RemoteView

namespace Text

/-- Whether a character is white space, which is the property `White_Space` of Unicode. -/
def isBlank (c : Char) : Bool :=
  let n := c.toNat
  (0x9 ≤ n && n ≤ 0xD) || n == 0x20 || n == 0x85 || n == 0xA0 || n == 0x1680 ||
    (0x2000 ≤ n && n ≤ 0x200A) || n == 0x2028 || n == 0x2029 || n == 0x202F || n == 0x205F ||
    n == 0x3000

/-- Whether a text shows nothing at all. -/
def isBlankText (s : String) : Bool := s.toList.all isBlank

end Text

/-- What is found where a settings file should be. -/
inductive SettingsSource where
  | missing
  /-- Something that cannot be read as a file. -/
  | directory
  | file (content : ByteArray)

/-- Why no settings came of what was found. -/
inductive SettingsError where
  | unreadable
  | malformed
  | invalid (cause : PositionError)
  deriving DecidableEq

/-- The report on settings that were looked for in the place `path`. -/
def SettingsError.message (path : String) : SettingsError → String
  | unreadable => "read screen settings file " ++ path
  | malformed => "deserialize screen settings file " ++ path
  | invalid cause => "invalid screen settings in " ++ path ++ ": " ++ cause.message

namespace Settings

/-- The names of the fields, in order. -/
def fieldNames : List String :=
  ["window_x", "window_y", "window_width", "window_height", "fullscreen", "orientation", "panel_show",
    "hide_window", "start_fps_counter", "always_on_top", "debug_logging"]

def ofJson? (d : Json.Document) : Option Settings := do
  let fields ← d.record? fieldNames
  let coordinate (name : String) := Json.fieldOr? name none (Json.nullable? Json.int32?) fields
  let dimension (name : String) := Json.fieldOr? name none (Json.nullable? Json.uint16?) fields
  let flag (name : String) := Json.fieldOr? name false Json.bool? fields
  return {
    windowX := ← coordinate "window_x"
    windowY := ← coordinate "window_y"
    windowWidth := ← dimension "window_width"
    windowHeight := ← dimension "window_height"
    fullscreen := ← flag "fullscreen"
    orientation := ← Json.fieldOr? "orientation" {} Orientation.ofJson? fields
    panelShow := ← flag "panel_show"
    hideWindow := ← flag "hide_window"
    startFpsCounter := ← flag "start_fps_counter"
    alwaysOnTop := ← flag "always_on_top"
    debugLogging := ← flag "debug_logging" }

/-- The settings with every field written out. -/
def toJson (s : Settings) : Json.Value :=
  let coordinate := Json.ofOption fun v : Int32 => .ofInt v.toInt
  let dimension := Json.ofOption fun v : UInt16 => .ofInt v.toNat
  .object [
    ("window_x", coordinate s.windowX),
    ("window_y", coordinate s.windowY),
    ("window_width", dimension s.windowWidth),
    ("window_height", dimension s.windowHeight),
    ("fullscreen", .bool s.fullscreen),
    ("orientation", s.orientation.toJson),
    ("panel_show", .bool s.panelShow),
    ("hide_window", .bool s.hideWindow),
    ("start_fps_counter", .bool s.startFpsCounter),
    ("always_on_top", .bool s.alwaysOnTop),
    ("debug_logging", .bool s.debugLogging)]

/-- The settings as text. -/
def text (s : Settings) : String := Json.render s.toJson

/-- The settings that a text holds, once they are checked. -/
def ofText (text : String) : Except SettingsError Settings := do
  if Text.isBlankText text then return {}
  let some s := (Json.read? text).bind ofJson? | throw .malformed
  match s.validate with
  | .ok () => return s
  | .error cause => throw (.invalid cause)

/-- The settings that are found in a place. A file has to be UTF-8 text. -/
def load : SettingsSource → Except SettingsError Settings
  | .missing => .ok {}
  | .directory => .error .unreadable
  | .file content =>
    match String.fromUTF8? content with
    | none => .error .unreadable
    | some text => ofText text

end Settings

end RemoteView
