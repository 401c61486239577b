/-
JSON documents as trees. A tree is generic in what its strings hold. A reader
gives a `Document`, whose strings may be without text: an escape can name one
half of a surrogate pair, and a half stands for no character. A `Value` is a
tree in which every string has its text, as a writer needs it.
-/
namespace RemoteView

/-- A number as it is written. -/
structure Json.Numeral where
  negative : Bool := false
  /-- The digits before the point, without leading zeros. -/
  whole : List Char
  /-- The digits after the point, none if there is no point. -/
  fraction : List Char := []
  /-- The digits of the exponent with its sign, which is `true` for a minus. -/
  exponent : Option (Bool × List Char) := none
  deriving DecidableEq

/-- A JSON tree with strings of type `τ`, its members in document order. -/
inductive Json (τ : Type) where
  | null
  | bool (b : Bool)
  | number (n : Json.Numeral)
  | string (s : τ)
  | array (items : List (Json τ))
  | object (members : List (τ × Json τ))

namespace Json

/-- A tree as it is read; a string may turn out to have no text. -/
abbrev Document := Json (Option String)

/-- A tree whose strings all have their text. -/
abbrev Value := Json String

/-! ## Numbers -/

/-- An integer in its shortest form. -/
def Numeral.ofInt (n : Int) : Numeral := { negative := n < 0, whole := Nat.toDigits 10 n.natAbs }

/-- The integer that a numeral is written as. A point or an exponent makes it no
integer, and neither is zero with a minus sign. -/
def Numeral.toInt? (n : Numeral) : Option Int :=
  let size := Nat.ofDigitChars 10 n.whole 0
  if !n.fraction.isEmpty || n.exponent.isSome || (n.negative && size = 0) then none
  else some (if n.negative then -size else size)

/-- A document that is the integer `n`. -/
def ofInt {τ : Type} (n : Int) : Json τ := .number (.ofInt n)

/-! ## Nesting -/

mutual

/-- How many arrays and objects lie inside each other at most. -/
def depth {τ : Type} : Json τ → Nat
  | null | bool _ | number _ | string _ => 0
  | array items => depthItems items + 1
  | object members => depthMembers members + 1

def depthItems {τ : Type} : List (Json τ) → Nat
  | [] => 0
  | item :: rest => max item.depth (depthItems rest)

def depthMembers {τ : Type} : List (τ × Json τ) → Nat
  | [] => 0
  | (_, item) :: rest => max item.depth (depthMembers rest)

end

end Json

end RemoteView
