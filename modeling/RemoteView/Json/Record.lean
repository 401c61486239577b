/-
Records: documents with named fields that the program knows. A record is
written as an object with its fields in any order, or as an array with its
fields in their own order. Members of an object that are no fields are passed
over whatever they hold; a field must not be given twice.
-/
import RemoteView.Json.Basic

namespace RemoteView.Json

/-- The fields that a document gives, of those in `names`. -/
def record? (names : List String) : Document → Option (List (String × Document))
  | .object members => do
    let named ← members.mapM fun (key, item) => key.map (·, item)
    let fields := named.filter (names.contains ·.1)
    if (fields.map (·.1)).Nodup then some fields else none
  | .array items => if items.length ≤ names.length then some (names.zip items) else none
  | _ => none

/-- The field of that name, which has to be given. -/
def field? {α : Type} (name : String) (decode : Document → Option α)
    (fields : List (String × Document)) : Option α :=
  (fields.lookup name).bind decode

/-- The field of that name, or `absent` if it is not given. -/
def fieldOr? {α : Type} (name : String) (absent : α) (decode : Document → Option α)
    (fields : List (String × Document)) : Option α :=
  match fields.lookup name with
  | none => some absent
  | some d => decode d

/-! ## What a field holds -/

def bool? : Document → Option Bool
  | .bool b => some b
  | _ => none

/-- The text of a string, if it has one. -/
def text? : Document → Option String
  | .string s => s
  | _ => none

/-- An integer between `low` and `high`. -/
def intBetween? (low high : Int) : Document → Option Int
  | .number n => n.toInt?.filter fun i => low ≤ i && i ≤ high
  | _ => none

def int32? (d : Document) : Option Int32 :=
  (intBetween? Int32.minValue.toInt Int32.maxValue.toInt d).map Int32.ofInt

def uint32? (d : Document) : Option UInt32 :=
  (intBetween? 0 (UInt32.size - 1) d).map fun i => UInt32.ofNat i.toNat

def uint16? (d : Document) : Option UInt16 :=
  (intBetween? 0 (UInt16.size - 1) d).map fun i => UInt16.ofNat i.toNat

/-- What `decode` gives, or nothing for a null. -/
def nullable? {α : Type} (decode : Document → Option α) : Document → Option (Option α)
  | .null => some none
  | d => (decode d).map some

/-- One of a set of names: the name itself, or an object with the name as its
only key and a null. -/
def name? : Document → Option String
  | .string s => s
  | .object [(key, .null)] => key
  | _ => none

end RemoteView.Json
