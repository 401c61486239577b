/-
Where the panel and its buttons lie, in drawing pixels, and what a point hits.
The panel takes the columns right of the content over the whole height of the
drawing surface; its buttons are stacked from the top of the content.
-/
import RemoteView.Panel.Basic

namespace RemoteView.Panel

/-- The width of a panel in window pixels. -/
def logicalWidth : UInt32 := 50

def buttonHeight : Int32 := 45

/-- The space left and right of a button, and below it. -/
def buttonMargin : Int32 := 10

/-- The space above the first button. -/
def firstButtonOffset : Int32 := 10

structure Layout where
  panel : Rect
  buttons : List Rect
  deriving DecidableEq

/-- What a point lies on: nothing of the panel, the panel between its buttons,
or a button. -/
inductive Hit where
  | outside
  | background
  | button (index : Nat)
  deriving DecidableEq

def Hit.isButton : Hit → Bool
  | button _ => true
  | outside | background => false

namespace Layout

/-- The rectangle of button number `index`, in a column of buttons of width
`width`. -/
def buttonRect (content panel : Rect) (width : Int32) (index : Nat) : Except Fault Rect := do
  let x ← Checked.add panel.x buttonMargin
  let top ← Checked.add content.y firstButtonOffset
  let offset ← Checked.mul (Int32.ofNat index) (buttonHeight + buttonMargin)
  return ⟨x, ← Checked.add top offset, width, buttonHeight⟩

/-- The layout of a panel next to the content. The number of buttons is taken as
a signed word. -/
def forScreen (content : Rect) (panelWidth drawableHeight : Int32) (count : Nat) :
    Except Fault Layout := do
  let panel : Rect := ⟨← content.right, 0, max panelWidth 0, drawableHeight⟩
  let width ← Checked.sub panel.w (2 * buttonMargin)
  let rows := (Int32.ofNat count).toInt.toNat
  return { panel, buttons := ← (List.range rows).mapM (buttonRect content panel width) }

/-- The place in the list of the first rectangle that holds the point. -/
def firstContaining (p : Point) : List Rect → Except Fault (Option Nat)
  | [] => return none
  | rect :: rest => do
    if ← rect.contains p then return some 0
    else return (← firstContaining p rest).map (· + 1)

/-- What a point hits. The panel covers every row, so only its columns count. -/
def hitTest (l : Layout) (p : Point) : Except Fault Hit := do
  if !(← l.panel.containsX p.x) then return .outside
  return ((← firstContaining p l.buttons).map .button).getD .background

end Layout

end RemoteView.Panel
