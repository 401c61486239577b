/-
Events for the application are read back as they were written, whatever characters the name of a
button has, so an event is known by its text (`read?_spelled`). The two members of the document
may change places, and the data of a click may have more members than the name.
-/
import RemoteView.Outbound
import RemoteView.Proofs.Json.Record

namespace RemoteView.Outbound

variable {id : String} {given : List (String × Json.Document)}

/-! ## The data of a click -/

/-- Members that give the name of the button, with others around it. -/
def ClickData (id : String) (given : List (String × Json.Document)) : Prop :=
  Json.Restates [("id", .string id)] [] given

theorem clickId?_of_clickData (h : ClickData id given) : clickId? (.object (Json.keyed given)) = some id := by
  have hkeys : ["id"].Nodup := by decide
  have hfields : Json.record? ["id"] (.object (Json.keyed given)) = some _ := h.record? hkeys
  have hid : Json.field? "id" Json.text? (Json.fieldsAmong ["id"] given) = some id :=
    h.field? hkeys (fun _ => rfl) "id" List.mem_cons_self
  rw [clickId?, hfields]
  exact hid

/-! ## Documents -/

/-- Documents of an event: its type and its data, in either order. Data that come first are read
before it is known that they belong to a click, so all of them must have a value. -/
inductive Spells : Outbound → List (String × Json.Document) → Prop where
  | ready : Spells .ready [("type", .string (some "ready"))]
  | typeFirst {id : String} {given : List (String × Json.Document)} (h : ClickData id given) :
    Spells (.panelButtonClick id)
      [("type", .string (some "panel_button_click")), ("data", .object (Json.keyed given))]
  | dataFirst {id : String} {given : List (String × Json.Document)} (h : ClickData id given)
    (hvalue : (Json.value? 1 (.object (Json.keyed given))).isSome = true) :
    Spells (.panelButtonClick id)
      [("data", .object (Json.keyed given)), ("type", .string (some "panel_button_click"))]

theorem ofJson?_of_spells {e : Outbound} {members : List (String × Json.Document)} (h : e.Spells members) :
    ofJson? (.object (Json.keyed members)) = some e := by
  cases h with
  | ready => rfl
  | @typeFirst id given h =>
    show (clickId? (.object (Json.keyed given))).map panelButtonClick = _
    rw [clickId?_of_clickData h]
    rfl
  | @dataFirst id given h hvalue =>
    show (if (Json.value? 1 (.object (Json.keyed given))).isNone then none
      else (clickId? (.object (Json.keyed given))).map panelButtonClick) = _
    rw [clickId?_of_clickData h, ← Option.not_isSome, hvalue]
    rfl

/-- The event with its data before its type. -/
def swapped (e : Outbound) : Json.Value := .object e.toJson.members.reverse

theorem clickData_id (id : String) : ClickData id [("id", .string (some id))] := .refl _ _

theorem spells_members (e : Outbound) : e.Spells (e.toJson.members.map Json.readMember) := by
  cases e with
  | ready => exact .ready
  | panelButtonClick id => exact .typeFirst (clickData_id id)

theorem spells_swapped (e : Outbound) : e.Spells (e.toJson.members.reverse.map Json.readMember) := by
  cases e with
  | ready => exact .ready
  | panelButtonClick id => exact .dataFirst (clickData_id id) rfl

theorem read?_of_spells {e : Outbound} {text : String} {members : List (String × Json.Document)}
    (h : e.Spells members) (htext : Json.read? text = some (.object (Json.keyed members))) :
    read? text = some e := by
  rw [read?, htext]
  exact ofJson?_of_spells h

theorem proper_members (e : Outbound) : Json.ProperMembers e.toJson.members := by
  cases e with
  | ready => exact ⟨trivial, trivial⟩
  | panelButtonClick id => exact ⟨trivial, ⟨trivial, trivial⟩, trivial⟩

theorem proper_swapped (e : Outbound) : Json.ProperMembers e.toJson.members.reverse := by
  cases e with
  | ready => exact ⟨trivial, trivial⟩
  | panelButtonClick id => exact ⟨⟨trivial, trivial⟩, trivial, trivial⟩

theorem toJson_eq (e : Outbound) : e.toJson = .object e.toJson.members := by
  cases e <;> rfl

theorem read?_text (e : Outbound) : read? e.text = some e := by
  rw [text, toJson_eq]
  exact read?_of_spells (spells_members e) (Json.read?_render_object (proper_members e))

theorem read?_swapped (e : Outbound) : read? (Json.render e.swapped) = some e :=
  read?_of_spells (spells_swapped e) (Json.read?_render_object (proper_swapped e))

/-- **An event is read back as it was written**, so two events with one text are the same. It is
read from a document with its data before its type as well, and from every document that has other
members in the data of a click. -/
theorem read?_spelled (e : Outbound) :
    read? e.text = some e ∧ read? (Json.render e.swapped) = some e ∧
      (∀ members text, e.Spells members → Json.read? text = some (.object (Json.keyed members)) →
        read? text = some e) ∧
      ∀ e' : Outbound, e'.text = e.text → e' = e := by
  refine ⟨read?_text e, read?_swapped e, fun _ _ => read?_of_spells, fun e' htext => ?_⟩
  have h := read?_text e'
  rw [htext, read?_text e] at h
  exact (Option.some.inj h).symm

/-- The name of a button that needs every kind of escape. -/
def oddName : String := "\"\\\n\x01😀"

/-- A click on that button, with its data first and a member in them that is none of an event. -/
def annotatedClick : List (String × Json.Value) :=
  [("data", .object [("note", .array [.null, .bool true]), ("id", .string oddName)]),
    ("type", .string "panel_button_click")]

theorem read?_spelled_annotated :
    read? (panelButtonClick oddName).text = some (.panelButtonClick oddName) ∧
      read? (Json.render (.object annotatedClick)) = some (.panelButtonClick oddName) := by
  have hdata : ClickData oddName [("note", .array [.null, .bool true]), ("id", .string (some oddName))] := by
    refine ⟨[("id", .string oddName)], [("note", .array [.null, .bool true])], .refl _, ?_, ?_, .swap _ _ _⟩
    · exact fun m hm => .inl hm
    · intro m hm
      obtain rfl := List.mem_singleton.mp hm
      decide
  have hproper : Json.ProperMembers annotatedClick := by
    simp [annotatedClick, Json.ProperMembers, Json.ProperItems, Json.Proper]
  obtain ⟨htext, -, hspelled, -⟩ := read?_spelled (.panelButtonClick oddName)
  exact ⟨htext, hspelled _ _ (.dataFirst hdata rfl) (Json.read?_render_object hproper)⟩

end RemoteView.Outbound
