/-
Reading undoes writing: the text of a value holds the value again (`read?_render`). The
machine of the reader is followed over the text of a value from any point where a value may
come next, whatever stands on its stack and whatever comes after (`takeIn_write`).
-/
import RemoteView.Json.Reader
import RemoteView.Proofs.Json.Words

namespace RemoteView.Json

/-! ## Values as documents -/

mutual

/-- The value as a reader gives it. -/
def document : Value → Document
  | .null => .null
  | .bool b => .bool b
  | .number n => .number n
  | .string s => .string (some s)
  | .array items => .array (documentItems items)
  | .object members => .object (documentMembers members)

def documentItems : List Value → List Document
  | [] => []
  | item :: rest => document item :: documentItems rest

def documentMembers : List (String × Value) → List (Option String × Document)
  | [] => []
  | (key, item) :: rest => (some key, document item) :: documentMembers rest

end

mutual

/-- Every numeral of the value is as the grammar has it. -/
def Proper : Value → Prop
  | .null | .bool _ | .string _ => True
  | .number n => n.Proper
  | .array items => ProperItems items
  | .object members => ProperMembers members

def ProperItems : List Value → Prop
  | [] => True
  | item :: rest => Proper item ∧ ProperItems rest

def ProperMembers : List (String × Value) → Prop
  | [] => True
  | (_, item) :: rest => Proper item ∧ ProperMembers rest

end

/-! ## The machine on a text -/

/-- Takes in the words of a text. -/
def takeIn (p : Progress) (s : List Char) : Option Progress := (tokens? s).bind (·.foldlM advance p)

theorem read?_eq (text : String) : read? text = (takeIn (.value []) text.toList).bind Progress.document? := by
  rw [read?, takeIn, Option.bind_assoc]
  rfl

theorem isBlank_of_scanToken {c : Char} {s : List Char} {t : Token} {after : List Char}
    (h : scanToken (c :: s) = some (t, after)) : isBlank c = false := by
  rw [← Bool.not_eq_true]
  intro hblank
  have hc : c = ' ' ∨ c = '\t' ∨ c = '\n' ∨ c = '\r' := by
    simpa [isBlank, or_assoc] using hblank
  rcases hc with rfl | rfl | rfl | rfl <;>
    simp [scanToken, scanUnsigned, scanWhole, scanDigits] at h

theorem tokens?_of_scanToken {s : List Char} {t : Token} {after : List Char}
    (h : scanToken s = some (t, after)) : tokens? s = (tokens? after).map (t :: ·) := by
  cases s with
  | nil => simp [scanToken, scanUnsigned, scanWhole, scanDigits] at h
  | cons c s =>
    rw [tokens?, isBlank_of_scanToken h]
    simp only [Bool.false_eq_true, if_false]
    split
    next hnone => cases hnone.symm.trans h
    next t' after' hsome =>
      cases hsome.symm.trans h
      rfl

/-- A word that may come next is taken in before the rest. -/
theorem takeIn_word {p p' : Progress} {s after : List Char} {t : Token} (h : scanToken s = some (t, after))
    (ht : advance p t = some p') : takeIn p s = takeIn p' after := by
  rw [takeIn, takeIn, tokens?_of_scanToken h]
  cases tokens? after with
  | none => rfl
  | some ts => simp [ht]

/-- A value may come next, and then belongs on the stack. -/
def Awaits (p : Progress) (stack : List Frame) : Prop :=
  ∀ t ≠ Token.rightArray, advance p t = beginValue stack t

theorem awaits_value (stack : List Frame) : Awaits (.value stack) stack := fun _ _ => rfl

theorem awaits_firstItem (stack : List Frame) : Awaits (.firstItem stack) (.array [] :: stack) := by
  intro t ht
  cases t with
  | rightArray => exact absurd rfl ht
  | _ => rfl

/-- A key may come next, for one more member of an object. -/
def AwaitsKey (p : Progress) (members : List (Option String × Document)) (stack : List Frame) : Prop :=
  ∀ k, advance p (.string k) = some (.colon members k stack)

theorem awaitsKey_firstKey (stack : List Frame) : AwaitsKey (.firstKey stack) [] stack := fun _ => rfl

theorem awaitsKey_key (members : List (Option String × Document)) (stack : List Frame) :
    AwaitsKey (.key members stack) members stack := fun _ => rfl

theorem takeIn_key {p : Progress} {members : List (Option String × Document)} {stack : List Frame}
    (hp : AwaitsKey p members stack) (key : String) (rest : List Char) :
    takeIn p (writeString key ++ ':' :: rest) = takeIn (.value (.object members (some key) :: stack)) rest := by
  rw [takeIn_word (scanToken_writeString key _) (hp (some key))]
  exact takeIn_word rfl rfl

theorem takeIn_endArray (items : List Document) (stack : List Frame) (rest : List Char) :
    takeIn (.afterItem items stack) (']' :: rest) = takeIn (deliver (.array items.reverse) stack) rest :=
  takeIn_word rfl rfl

theorem takeIn_endObject (members : List (Option String × Document)) (stack : List Frame) (rest : List Char) :
    takeIn (.afterMember members stack) ('}' :: rest) = takeIn (deliver (.object members.reverse) stack) rest :=
  takeIn_word rfl rfl

theorem writeItems_cons (item next : Value) (rest : List Value) :
    writeItems (item :: next :: rest) = write item ++ ',' :: writeItems (next :: rest) := rfl

theorem writeMembers_cons (key : String) (item : Value) (next : String × Value) (rest : List (String × Value)) :
    writeMembers ((key, item) :: next :: rest) =
      writeString key ++ ':' :: write item ++ ',' :: writeMembers (next :: rest) := rfl

mutual

theorem takeIn_write {p : Progress} {stack : List Frame} (hp : Awaits p stack) {rest : List Char}
    (hrest : EndsNumeral rest) :
    ∀ v : Value, v.Proper → takeIn p (write v ++ rest) = takeIn (deliver v.document stack) rest
  | .null, _ => takeIn_word rfl (hp _ nofun)
  | .bool true, _ => takeIn_word rfl (hp _ nofun)
  | .bool false, _ => takeIn_word rfl (hp _ nofun)
  | .number _, hn => takeIn_word (scanToken_writeNumeral hn hrest) (hp _ nofun)
  | .string s, _ => takeIn_word (scanToken_writeString s rest) (hp _ nofun)
  | .array items, hitems => by
    have hopen : takeIn p (write (.array items) ++ rest) =
        takeIn (.firstItem stack) (writeItems items ++ ']' :: rest) := by
      simp only [write, List.cons_append, List.append_assoc]
      exact takeIn_word rfl (hp _ nofun)
    rw [hopen]
    match items with
    | [] => exact takeIn_word rfl rfl
    | item :: items =>
      exact takeIn_writeItems (awaits_firstItem stack) rest (item :: items) nofun hitems
  | .object members, hmembers => by
    have hopen : takeIn p (write (.object members) ++ rest) =
        takeIn (.firstKey stack) (writeMembers members ++ '}' :: rest) := by
      simp only [write, List.cons_append, List.append_assoc]
      exact takeIn_word rfl (hp _ nofun)
    rw [hopen]
    match members with
    | [] => exact takeIn_word rfl rfl
    | member :: members =>
      exact takeIn_writeMembers (awaitsKey_firstKey stack) rest (member :: members) nofun hmembers

theorem takeIn_writeItems {p : Progress} {done : List Document} {stack : List Frame}
    (hp : Awaits p (.array done :: stack)) (rest : List Char) :
    ∀ items : List Value, items ≠ [] → ProperItems items →
      takeIn p (writeItems items ++ ']' :: rest) =
        takeIn (deliver (.array (done.reverse ++ documentItems items)) stack) rest
  | [item], _, hitems => by
    rw [writeItems, takeIn_write hp (endsNumeral_cons (by simp) rest) item hitems.1]
    show takeIn (.afterItem (item.document :: done) stack) (']' :: rest) = _
    rw [takeIn_endArray, List.reverse_cons]
    rfl
  | item :: next :: items, _, hitems => by
    have hcomma : takeIn (deliver item.document (.array done :: stack))
        (',' :: (writeItems (next :: items) ++ ']' :: rest)) =
        takeIn (.value (.array (item.document :: done) :: stack)) (writeItems (next :: items) ++ ']' :: rest) :=
      takeIn_word rfl rfl
    rw [writeItems_cons, List.append_assoc, List.cons_append,
      takeIn_write hp (endsNumeral_cons (by simp) _) item hitems.1, hcomma,
      takeIn_writeItems (awaits_value _) rest (next :: items) nofun hitems.2]
    simp [documentItems]

theorem takeIn_writeMembers {p : Progress} {done : List (Option String × Document)} {stack : List Frame}
    (hp : AwaitsKey p done stack) (rest : List Char) :
    ∀ members : List (String × Value), members ≠ [] → ProperMembers members →
      takeIn p (writeMembers members ++ '}' :: rest) =
        takeIn (deliver (.object (done.reverse ++ documentMembers members)) stack) rest
  | [(key, item)], _, hmembers => by
    rw [writeMembers, List.append_assoc, List.cons_append, takeIn_key hp,
      takeIn_write (awaits_value _) (endsNumeral_cons (by simp) rest) item hmembers.1]
    show takeIn (.afterMember ((some key, item.document) :: done) stack) ('}' :: rest) = _
    rw [takeIn_endObject, List.reverse_cons]
    rfl
  | (key, item) :: next :: members, _, hmembers => by
    have hcomma : takeIn (deliver item.document (.object done (some key) :: stack))
        (',' :: (writeMembers (next :: members) ++ '}' :: rest)) =
        takeIn (.key ((some key, item.document) :: done) stack) (writeMembers (next :: members) ++ '}' :: rest) :=
      takeIn_word rfl rfl
    rw [writeMembers_cons, List.append_assoc, List.cons_append, List.append_assoc, List.cons_append,
      takeIn_key hp, takeIn_write (awaits_value _) (endsNumeral_cons (by simp) _) item hmembers.1, hcomma,
      takeIn_writeMembers (awaitsKey_key _ _) rest (next :: members) nofun hmembers.2]
    simp [documentMembers]

end

/-! ## The whole text -/

/-- **Reading undoes writing.** -/
theorem read?_render {v : Value} (hv : v.Proper) : read? (render v) = some v.document := by
  have htext := takeIn_write (awaits_value []) endsNumeral_nil v hv
  rw [List.append_nil] at htext
  rw [read?_eq, render, String.toList_ofList, htext, takeIn, tokens?]
  rfl

end RemoteView.Json
