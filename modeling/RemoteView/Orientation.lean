/-
Orientations: how content is turned on the screen. An orientation is a
clockwise turn by a multiple of a quarter, done after a horizontal flip if it
has one. `transform` takes a point of the content as it is shown and gives the
point of the frame that is seen there, so it undoes the turn and then the flip.
-/
import RemoteView.Geometry
import RemoteView.Text.Quoted

namespace RemoteView

/-- A clockwise turn, in degrees. -/
inductive Turn where
  | deg0
  | deg90
  | deg180
  | deg270
  deriving DecidableEq, Inhabited

namespace Turn

/-- The turns in ascending order. -/
def all : List Turn := [deg0, deg90, deg180, deg270]

def degrees : Turn → Nat
  | deg0 => 0
  | deg90 => 90
  | deg180 => 180
  | deg270 => 270

/-- Whether the turn lays an upright frame on its side. -/
def isSideways : Turn → Bool
  | deg0 | deg180 => false
  | deg90 | deg270 => true

/-- The turn that leads back. -/
def inverse : Turn → Turn
  | deg0 => deg0
  | deg90 => deg270
  | deg180 => deg180
  | deg270 => deg90

end Turn

/-- A turn of the content, with or without a flip before it. -/
structure Orientation where
  flipped : Bool := false
  turn : Turn := .deg0
  deriving DecidableEq, Inhabited

/-- Why a text or a number names no orientation. -/
inductive OrientationError where
  | indexOutOfRange (index : Nat)
  | unknownName (name : String)
  deriving DecidableEq

def OrientationError.message : OrientationError → String
  | indexOutOfRange index => s!"orientation index out of range: {index}"
  | unknownName name => "unknown orientation: " ++ Text.quoted name

namespace Orientation

/-- The plain turns, then the flipped ones. -/
def all : List Orientation := [false, true].flatMap fun flipped => Turn.all.map (Orientation.mk flipped)

/-- The degrees of the turn, marked when there is a flip before it. -/
def name (o : Orientation) : String :=
  (if o.flipped then "flip" else "") ++ toString o.turn.degrees

/-- The place of an orientation in `all`. -/
def index (o : Orientation) : Nat := all.idxOf o

def ofIndex (index : Nat) : Except OrientationError Orientation :=
  match all[index]? with
  | some o => .ok o
  | none => .error (.indexOutOfRange index)

/-- The orientation of that name, which has to match to the letter. -/
def ofName? (name : String) : Option Orientation := all.find? (·.name == name)

def ofName (name : String) : Except OrientationError Orientation :=
  match ofName? name with
  | some o => .ok o
  | none => .error (.unknownName name)

/-- The orientation that a document names. -/
def ofJson? (d : Json.Document) : Option Orientation := d.name?.bind ofName?

def toJson (o : Orientation) : Json.Value := .string o.name

/-- Whether width and height change places between frame and content. -/
def isSwap (o : Orientation) : Bool := o.turn.isSideways

/-- The size of the content that a frame of size `s` makes. Exchanging twice
changes nothing, so the same function leads from content back to frame. -/
def orientedSize (o : Orientation) (s : Size) : Size := if o.isSwap then s.swapped else s

/-- The orientation whose transform undoes this one. A flipped orientation is
its own inverse, whatever its turn. -/
def inverse (o : Orientation) : Orientation := if o.flipped then o else { o with turn := o.turn.inverse }

/-- The frame point that is seen at content point `p`, when the content has size
`content`. An axis that runs backwards is measured from its far edge. -/
def transform (o : Orientation) (p : Point) (content : Size) : Except Fault Point := do
  let w := content.width.toInt32
  let h := content.height.toInt32
  match o.flipped, o.turn with
  | false, .deg0 => return p
  | false, .deg90 => return ⟨p.y, ← Checked.sub w p.x⟩
  | false, .deg180 => return ⟨← Checked.sub w p.x, ← Checked.sub h p.y⟩
  | false, .deg270 => return ⟨← Checked.sub h p.y, p.x⟩
  | true, .deg0 => return ⟨← Checked.sub w p.x, p.y⟩
  | true, .deg90 => return ⟨← Checked.sub h p.y, ← Checked.sub w p.x⟩
  | true, .deg180 => return ⟨p.x, ← Checked.sub h p.y⟩
  | true, .deg270 => return ⟨p.y, p.x⟩

end Orientation

end RemoteView
