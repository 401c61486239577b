/-
What a record says to a reader that looks for its fields by name. The order of the members
does not matter, nor do members of other names, nor members that say what is taken for
granted anyway (`Restates`): every field is read as it was written (`Restates.fieldOr?`).
-/
import RemoteView.Json.Record
import RemoteView.Proofs.Json.Written

namespace RemoteView.Json

/-! ## Looking up members -/

theorem lookup_of_mem {α : Type} {members : List (String × α)} (hkeys : (members.map (·.1)).Nodup)
    {key : String} {item : α} (hmem : (key, item) ∈ members) : members.lookup key = some item := by
  induction members with
  | nil => cases hmem
  | cons member rest ih =>
    obtain ⟨k, v⟩ := member
    simp only [List.map_cons, List.nodup_cons, List.mem_map, not_exists, not_and] at hkeys
    rcases List.mem_cons.mp hmem with heq | hrest
    · cases heq
      exact List.lookup_cons_self
    · have hne : (key == k) = false := by
        rw [beq_eq_false_iff_ne]
        exact hkeys.1 (key, item) hrest
      rw [List.lookup_cons, hne]
      exact ih hkeys.2 hrest

theorem mem_of_lookup {α : Type} {members : List (String × α)} {key : String} {item : α}
    (h : members.lookup key = some item) : (key, item) ∈ members := by
  obtain ⟨before, after, rfl, -⟩ := List.lookup_eq_some_iff.mp h
  simp

theorem eq_of_mem_of_mem {α : Type} {members : List (String × α)} (hkeys : (members.map (·.1)).Nodup)
    {key : String} {a b : α} (ha : (key, a) ∈ members) (hb : (key, b) ∈ members) : a = b :=
  Option.some.inj ((lookup_of_mem hkeys ha).symm.trans (lookup_of_mem hkeys hb))

/-! ## Members with texts for keys -/

/-- The members as a document has them. -/
def keyed (members : List (String × Document)) : List (Option String × Document) :=
  members.map fun (key, item) => (some key, item)

theorem mapM_keyed (members : List (String × Document)) :
    (keyed members).mapM (fun (key, item) => key.map (·, item)) = some members := by
  induction members with
  | nil => rfl
  | cons member rest ih =>
    simp only [keyed, List.map_cons, List.mapM_cons] at ih ⊢
    rw [ih]
    rfl

/-- The members among those of a record. -/
def fieldsAmong (names : List String) (members : List (String × Document)) : List (String × Document) :=
  members.filter (names.contains ·.1)

theorem record?_keyed {names : List String} {members : List (String × Document)}
    (h : ((fieldsAmong names members).map (·.1)).Nodup) :
    record? names (.object (keyed members)) = some (fieldsAmong names members) := by
  show ((keyed members).mapM (fun (key, item) => key.map (·, item)) >>= fun named =>
    if ((fieldsAmong names named).map (·.1)).Nodup then some (fieldsAmong names named) else none) = _
  rw [mapM_keyed]
  exact if_pos h

/-! ## Records that say the same -/

/-- The members of an object. -/
def members {τ : Type} : Json τ → List (τ × Json τ)
  | .object members => members
  | _ => []

/-- A member as it is read. -/
def readMember (m : String × Value) : String × Document := (m.1, m.2.document)

theorem documentMembers_eq (members : List (String × Value)) :
    documentMembers members = keyed (members.map readMember) := by
  induction members with
  | nil => rfl
  | cons member rest ih =>
    rw [documentMembers, ih]
    rfl

/-- Reading undoes writing, for an object. -/
theorem read?_render_object {members : List (String × Value)} (h : ProperMembers members) :
    read? (render (.object members)) = some (.object (keyed (members.map readMember))) := by
  have hproper : Proper (.object members) := h
  rw [read?_render hproper, document, documentMembers_eq]

/-- Whether `given` says what the members `whole` say, to a reader who takes what `standard`
says for granted. Some members that say no more than `standard` may be left out, the order may be
another one, and members with names that `whole` does not have may stand among the rest. -/
def Restates (whole standard : List (String × Value)) (given : List (String × Document)) : Prop :=
  ∃ (kept : List (String × Value)) (unknown : List (String × Document)),
    kept.Sublist whole ∧ (∀ m ∈ whole, m ∈ kept ∨ m ∈ standard) ∧
    (∀ m ∈ unknown, m.1 ∉ whole.map (·.1)) ∧ given.Perm (kept.map readMember ++ unknown)

namespace Restates

variable {whole standard : List (String × Value)} {given : List (String × Document)}

theorem refl (whole standard : List (String × Value)) : Restates whole standard (whole.map readMember) :=
  ⟨whole, [], .refl _, fun _ hm => .inl hm, nofun, by rw [List.append_nil]⟩

/-- The fields that are found: some of those of `whole`, and all of them that are not standard. -/
theorem fields (h : Restates whole standard given) : ∃ kept : List (String × Value), kept.Sublist whole ∧
    (∀ m ∈ whole, m ∈ kept ∨ m ∈ standard) ∧
    (fieldsAmong (whole.map (·.1)) given).Perm (kept.map readMember) := by
  obtain ⟨kept, unknown, hkept, hwhole, hunknown, hperm⟩ := h
  have hknown : fieldsAmong (whole.map (·.1)) (kept.map readMember) = kept.map readMember := by
    rw [fieldsAmong, List.filter_eq_self]
    intro m hm
    obtain ⟨m', hm', rfl⟩ := List.mem_map.mp hm
    exact List.contains_iff_mem.mpr (List.mem_map_of_mem (hkept.subset hm'))
  have hnone : fieldsAmong (whole.map (·.1)) unknown = [] := by
    rw [fieldsAmong, List.filter_eq_nil_iff]
    intro m hm
    rw [List.contains_iff_mem]
    exact hunknown m hm
  refine ⟨kept, hkept, hwhole, ?_⟩
  have hfields := hperm.filter (whole.map (·.1) |>.contains ·.1)
  rw [List.filter_append] at hfields
  rw [← hknown, ← List.append_nil (fieldsAmong _ (kept.map readMember)), ← hnone]
  exact hfields

theorem nodup (h : Restates whole standard given) (hkeys : (whole.map (·.1)).Nodup) :
    ((fieldsAmong (whole.map (·.1)) given).map (·.1)).Nodup := by
  obtain ⟨kept, hkept, -, hperm⟩ := h.fields
  rw [(hperm.map (·.1)).nodup_iff, List.map_map]
  exact (hkept.map (·.1)).nodup hkeys

theorem record? (h : Restates whole standard given) (hkeys : (whole.map (·.1)).Nodup) :
    Json.record? (whole.map (·.1)) (.object (keyed given)) = some (fieldsAmong (whole.map (·.1)) given) :=
  record?_keyed (h.nodup hkeys)

/-- A field is found as it was written, or it was left out because it is standard. -/
theorem lookup (h : Restates whole standard given) (hkeys : (whole.map (·.1)).Nodup) {name : String}
    {v : Value} (hmem : (name, v) ∈ whole) :
    (fieldsAmong (whole.map (·.1)) given).lookup name = some v.document ∨
      (fieldsAmong (whole.map (·.1)) given).lookup name = none ∧ (name, v) ∈ standard := by
  obtain ⟨kept, hkept, hwhole, hperm⟩ := h.fields
  cases hlookup : (fieldsAmong (whole.map (·.1)) given).lookup name with
  | some d =>
    obtain ⟨m, hm, heq⟩ := List.mem_map.mp (hperm.mem_iff.mp (mem_of_lookup hlookup))
    cases heq
    obtain rfl : m.2 = v := eq_of_mem_of_mem hkeys (hkept.subset hm) hmem
    exact .inl rfl
  | none =>
    refine .inr ⟨rfl, (hwhole _ hmem).resolve_left fun hm => ?_⟩
    have hfound := hperm.mem_iff.mpr (List.mem_map_of_mem hm)
    cases hlookup.symm.trans (lookup_of_mem (h.nodup hkeys) hfound)

variable {α : Type} {decode : Document → Option α} {encode : α → Value}

/-- The field in the same place of both lists. -/
theorem fieldOr? (h : Restates whole standard given) (hkeys : (whole.map (·.1)).Nodup)
    (hstandard : (standard.map (·.1)).Nodup) (hread : ∀ a, decode (encode a).document = some a)
    {i : Nat} {name : String} {a absent : α} (hwhole : whole[i]? = some (name, encode a))
    (habsent : standard[i]? = some (name, encode absent)) :
    Json.fieldOr? name absent decode (fieldsAmong (whole.map (·.1)) given) = some a := by
  rcases h.lookup hkeys (List.mem_of_getElem? hwhole) with hfound | ⟨hnone, hsame⟩
  · rw [Json.fieldOr?, hfound]
    exact hread a
  · have heq : encode a = encode absent :=
      eq_of_mem_of_mem hstandard hsame (List.mem_of_getElem? habsent)
    rw [Json.fieldOr?, hnone]
    exact (hread absent).symm.trans (heq ▸ hread a)

theorem field? (h : Restates whole [] given) (hkeys : (whole.map (·.1)).Nodup)
    (hread : ∀ a, decode (encode a).document = some a) (name : String) {a : α}
    (hmem : (name, encode a) ∈ whole) :
    Json.field? name decode (fieldsAmong (whole.map (·.1)) given) = some a := by
  rcases h.lookup hkeys hmem with hfound | ⟨-, hstandard⟩
  · rw [Json.field?, hfound]
    exact hread a
  · cases hstandard

end Restates

/-! ## What a field holds -/

theorem intBetween?_ofInt {low high n : Int} (hlow : low ≤ n) (hhigh : n ≤ high) :
    intBetween? low high (ofInt n) = some n := by
  simp [intBetween?, ofInt, toInt?_ofInt, hlow, hhigh]

theorem int32?_ofInt (v : Int32) : int32? (ofInt v.toInt) = some v := by
  rw [int32?, intBetween?_ofInt v.minValue_le_toInt v.toInt_le]
  simp

theorem uint16?_ofInt (v : UInt16) : uint16? (ofInt v.toNat) = some v := by
  have hlt := v.toNat_lt
  rw [uint16?, intBetween?_ofInt (by omega) (by simp only [UInt16.size]; omega)]
  simp

theorem nullable?_document {α : Type} {decode : Document → Option α} {v : Value} (hv : v ≠ .null) :
    nullable? decode v.document = (decode v.document).map some := by
  cases v with
  | null => exact absurd rfl hv
  | _ => rfl

theorem proper_ofInt (n : Int) : Proper (ofInt n) := ofInt_proper n

theorem proper_ofOption {α : Type} {encode : α → Value} (h : ∀ a, (encode a).Proper) (a : Option α) :
    (ofOption encode a).Proper := by
  cases a with
  | none => trivial
  | some a => exact h a

/-- An optional field, with a null for none. -/
theorem nullable?_ofOption {α : Type} {encode : α → Value} {decode : Document → Option α}
    (hread : ∀ a, decode (encode a).document = some a) (hnull : ∀ a, encode a ≠ .null) (a : Option α) :
    nullable? decode (ofOption encode a).document = some a := by
  cases a with
  | none => rfl
  | some a =>
    rw [ofOption, nullable?_document (hnull a), hread a]
    rfl

end RemoteView.Json
