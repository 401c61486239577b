/-
The value of a document that is taken as it comes, whatever its shape. Three
things keep a document from having a value: a string without text, a number too
large for a binary64, and too much nesting. Of members with the same key the
first gives the place and the last gives the value.
-/
import RemoteView.Json.Basic

namespace RemoteView.Json

/-! ## The range of numbers -/

/-- Reads digits into a word of 64 bits while they fit. Gives the word and the
digits that were left. -/
def absorb (word : Nat) : List Char → Nat × List Char
  | [] => (word, [])
  | d :: ds =>
    let next := 10 * word + (d.toNat - '0'.toNat)
    if next < UInt64.size then absorb next ds else (word, d :: ds)

/-- The natural number nearest to `n` that has no more than 53 significant
bits; of two, the one with an even last bit. -/
def nearest53 (n : Nat) : Nat :=
  let unit := 1 <<< (n.log2 + 1 - 53)
  let below := n / unit
  let rest := n % unit
  (if unit < 2 * rest || (unit == 2 * rest && below % 2 == 1) then below + 1 else below) * unit

/-- The least number that is nearer to infinity than to a finite binary64. -/
def overflowBound : Nat := 1 <<< 1024 - 1 <<< 970

/-- Whether the numeral is in the range of a binary64. It is taken as a word of
64 bits, made of its leading digits, times a power of ten; both are rounded to
53 bits before they are multiplied. -/
def Numeral.inRange (n : Numeral) : Bool :=
  let (head, wholeLeft) := absorb 0 n.whole
  let (word, fractionLeft) := absorb head n.fraction
  let shift : Int := wholeLeft.length - (n.fraction.length - fractionLeft.length : Nat)
  let exponent : Int := match n.exponent with
    | none => shift
    | some (negative, digits) =>
      if negative then shift - Nat.ofDigitChars 10 digits 0 else shift + Nat.ofDigitChars 10 digits 0
  word == 0 || exponent < 0 ||
    (exponent ≤ 308 && nearest53 word * nearest53 (Nat.pow 10 exponent.toNat) < overflowBound)

/-! ## Values -/

/-- Members with one more. A key that is there already keeps its place and gets
the new value. -/
def putMember (members : List (String × Value)) (key : String) (v : Value) : List (String × Value) :=
  if members.any (·.1 == key) then members.map fun m => if m.1 == key then (key, v) else m
  else members ++ [(key, v)]

mutual

/-- The value of a document, if it has one whatever its nesting. -/
def meaning? : Document → Option Value
  | .null => some .null
  | .bool b => some (.bool b)
  | .number n => if n.inRange then some (.number n) else none
  | .string s => s.map .string
  | .array items => (meaningItems? items).map .array
  | .object members => (meaningMembers? members []).map .object

def meaningItems? : List Document → Option (List Value)
  | [] => some []
  | item :: rest => do return (← meaning? item) :: (← meaningItems? rest)

/-- Adds the values of members to those that came before. -/
def meaningMembers? : List (Option String × Document) → List (String × Value) →
    Option (List (String × Value))
  | [], done => some done
  | (key, item) :: rest, done => do meaningMembers? rest (putMember done (← key) (← meaning? item))

end

/-- How many arrays and objects a document with a value may have inside each
other. -/
def maxDepth : Nat := 127

/-- The value of a document that lies inside `outer` arrays and objects. -/
def value? (outer : Nat) (d : Document) : Option Value :=
  if outer + d.depth ≤ maxDepth then meaning? d else none

end RemoteView.Json
