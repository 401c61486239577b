/-
Reading a JSON text. The words of the text are taken in one by one by a machine
that keeps the arrays and objects under construction on a stack, so a document
may be nested to any depth. What a document means, and how deep it may go, is
decided by who uses it.
-/
import RemoteView.Json.Token

namespace RemoteView.Json

/-- An array or an object that a value is being read for. What is complete
stands in it with the last item first. -/
inductive Frame where
  | array (items : List Document)
  | object (members : List (Option String × Document)) (key : Option String)

/-- What has been read, named for what may come next. -/
inductive Progress where
  | value (stack : List Frame)
  /-- After an opening bracket: a value, or the end of the array. -/
  | firstItem (stack : List Frame)
  | afterItem (items : List Document) (stack : List Frame)
  /-- After an opening brace: a key, or the end of the object. -/
  | firstKey (stack : List Frame)
  | key (members : List (Option String × Document)) (stack : List Frame)
  | colon (members : List (Option String × Document)) (key : Option String) (stack : List Frame)
  | afterMember (members : List (Option String × Document)) (stack : List Frame)
  | finished (document : Document)

/-- Puts a complete value where it belongs. -/
def deliver (v : Document) : List Frame → Progress
  | [] => .finished v
  | .array items :: stack => .afterItem (v :: items) stack
  | .object members key :: stack => .afterMember ((key, v) :: members) stack

/-- Takes in the first word of a value. -/
def beginValue (stack : List Frame) : Token → Option Progress
  | .null => some (deliver .null stack)
  | .bool b => some (deliver (.bool b) stack)
  | .number n => some (deliver (.number n) stack)
  | .string s => some (deliver (.string s) stack)
  | .leftArray => some (.firstItem stack)
  | .leftObject => some (.firstKey stack)
  | .rightArray | .rightObject | .comma | .colon => none

/-- Takes in one word, if it may come next. -/
def advance : Progress → Token → Option Progress
  | .value stack, t => beginValue stack t
  | .firstItem stack, .rightArray => some (deliver (.array []) stack)
  | .firstItem stack, t => beginValue (.array [] :: stack) t
  | .afterItem items stack, .comma => some (.value (.array items :: stack))
  | .afterItem items stack, .rightArray => some (deliver (.array items.reverse) stack)
  | .firstKey stack, .rightObject => some (deliver (.object []) stack)
  | .firstKey stack, .string k => some (.colon [] k stack)
  | .key members stack, .string k => some (.colon members k stack)
  | .colon members k stack, .colon => some (.value (.object members k :: stack))
  | .afterMember members stack, .comma => some (.key members stack)
  | .afterMember members stack, .rightObject => some (deliver (.object members.reverse) stack)
  | _, _ => none

/-- The document that has been read, if it is complete. -/
def Progress.document? : Progress → Option Document
  | .finished d => some d
  | _ => none

/-- The document that a list of words makes. -/
def ofTokens? (ts : List Token) : Option Document :=
  (ts.foldlM advance (.value [])).bind Progress.document?

/-- The document that a text holds, if it holds one and nothing else. -/
def read? (text : String) : Option Document := (tokens? text.toList).bind ofTokens?

end RemoteView.Json
