/-
Control messages for the panel: which are accepted, and what they ask for. `WellFormed` and
`Describes` say it of the data of a message, and reading follows them exactly
(`ofMessage_ok_iff`). A message that is not accepted leaves a session as it was
(`panelMessage_accepted`).
-/
import Mathlib.Data.List.Forall2
import RemoteView.Proofs.Json.Written
import RemoteView.Proofs.Screen.Effects.Input

namespace RemoteView.Panel

/-! ## What a message has to say -/

/-- What the `visible` field of the data says: nothing if it is absent or null. -/
inductive SaysVisible : Option Json.Value → Option Bool → Prop where
  | absent : SaysVisible none none
  | null : SaysVisible (some .null) none
  | given (visible : Bool) : SaysVisible (some (.bool visible)) (some visible)

/-- The entries and the visibility that panel data hold, by name or by place. -/
inductive Data.Holds : Json.Value → List Json.Value → Option Bool → Prop where
  | named {fields : List (String × Json.Value)} {entries : List Json.Value} {visible : Option Bool}
    (hentries : fields.lookup "buttons" = some (.array entries))
    (hvisible : SaysVisible (fields.lookup "visible") visible) : Holds (.object fields) entries visible
  | placed {entries rest : List Json.Value} {visible : Option Bool} (hrest : rest.length ≤ 1)
    (hvisible : SaysVisible rest.head? visible) : Holds (.array (.array entries :: rest)) entries visible

/-- The label that the fields of an entry give: `text`, if that is a string, or else the first
string that is not the `id`. -/
inductive Labels : List (String × Json.Value) → String → Prop where
  | text {fields : List (String × Json.Value)} {label : String}
    (h : fields.lookup "text" = some (.string label)) : Labels fields label
  | free {fields before after : List (String × Json.Value)} {key label : String}
    (htext : ∀ s, fields.lookup "text" ≠ some (.string s))
    (hfields : fields = before ++ (key, .string label) :: after) (hkey : key ≠ "id")
    (hbefore : ∀ m ∈ before, m.1 = "id" ∨ ∀ s, m.2 ≠ .string s) : Labels fields label

/-- An entry is an object with a string for an `id` and with a label. -/
def Names (entry : Json.Value) (id label : String) : Prop :=
  ∃ fields, entry = .object fields ∧ fields.lookup "id" = some (.string id) ∧ Labels fields label

/-- Whether `cut` is the longest start of `whole`, in whole characters, of no more than `room`
bytes. -/
structure IsCut (room : Nat) (whole cut : String) : Prop where
  start : cut.toList <+: whole.toList
  fits : cut.utf8ByteSize ≤ room
  longest : ∀ t : String, t.toList <+: whole.toList → t.utf8ByteSize ≤ room → t.toList <+: cut.toList

/-- The lengths a name may have, in bytes. -/
def NameFits (id : String) : Prop := 1 ≤ id.utf8ByteSize ∧ id.utf8ByteSize ≤ 31

/-- Data that are accepted. -/
def WellFormed (data : Json.Value) : Prop :=
  ∃ entries visible, Data.Holds data entries visible ∧ entries.length ≤ 32 ∧
    ∀ entry ∈ entries, ∃ id label, Names entry id label ∧ NameFits id

/-- What an entry makes of a button. -/
def Button.Describes (entry : Json.Value) (button : Button) : Prop :=
  ∃ label, Names entry button.id label ∧ NameFits button.id ∧ IsCut 63 label button.label

/-- The update that data ask for: one button for each entry, in their order. -/
def Update.Describes (data : Json.Value) (update : Update) : Prop :=
  ∃ entries, Data.Holds data entries update.visible ∧ entries.length ≤ 32 ∧
    List.Forall₂ Button.Describes entries update.buttons

/-! ## Labels that are cut -/

theorem utf8ByteSize_ofList_cons (c : Char) (s : List Char) :
    (String.ofList (c :: s)).utf8ByteSize = c.utf8Size + (String.ofList s).utf8ByteSize := by
  rw [String.ofList_cons, String.utf8ByteSize_append, String.utf8ByteSize_singleton]

theorem takeBytes_prefix (room : Nat) (s : List Char) : takeBytes room s <+: s := by
  induction s generalizing room with
  | nil => exact List.prefix_rfl
  | cons c s ih =>
    unfold takeBytes
    split
    · exact List.cons_prefix_cons.mpr ⟨rfl, ih _⟩
    · exact List.nil_prefix

theorem utf8ByteSize_takeBytes (room : Nat) (s : List Char) :
    (String.ofList (takeBytes room s)).utf8ByteSize ≤ room := by
  induction s generalizing room with
  | nil => exact Nat.zero_le _
  | cons c s ih =>
    unfold takeBytes
    split
    next hfits =>
      have hrest := ih (room - c.utf8Size)
      rw [utf8ByteSize_ofList_cons]
      omega
    next => exact Nat.zero_le _

theorem prefix_takeBytes {room : Nat} {s t : List Char} (hstart : t <+: s)
    (hfits : (String.ofList t).utf8ByteSize ≤ room) : t <+: takeBytes room s := by
  induction s generalizing room t with
  | nil => exact hstart
  | cons c s ih =>
    rcases List.prefix_cons_iff.mp hstart with rfl | ⟨t, rfl, hrest⟩
    · exact List.nil_prefix
    · rw [utf8ByteSize_ofList_cons] at hfits
      rw [takeBytes, if_pos (by omega)]
      exact List.cons_prefix_cons.mpr ⟨rfl, ih hrest (by omega)⟩

theorem isCut_takeBytes (room : Nat) (whole : String) :
    IsCut room whole (String.ofList (takeBytes room whole.toList)) where
  start := by
    rw [String.toList_ofList]
    exact takeBytes_prefix room whole.toList
  fits := utf8ByteSize_takeBytes room whole.toList
  longest t hstart hfits := by
    rw [String.toList_ofList]
    exact prefix_takeBytes hstart (by rwa [String.ofList_toList])

theorem IsCut.unique {room : Nat} {whole a b : String} (ha : IsCut room whole a) (hb : IsCut room whole b) :
    a = b := by
  have hab := hb.longest a ha.start ha.fits
  have hba := ha.longest b hb.start hb.fits
  exact String.toList_inj.mp (hab.eq_of_length_le hba.length_le)

theorem isCut_iff {room : Nat} {whole cut : String} :
    IsCut room whole cut ↔ cut = String.ofList (takeBytes room whole.toList) :=
  ⟨fun h => h.unique (isCut_takeBytes room whole), fun h => h ▸ isCut_takeBytes room whole⟩

/-! ## Entries -/

theorem stringValue?_eq_some_iff {v : Json.Value} {s : String} : stringValue? v = some s ↔ v = .string s := by
  cases v <;> simp [stringValue?]

theorem stringValue?_eq_none_iff {v : Json.Value} : stringValue? v = none ↔ ∀ s, v ≠ .string s := by
  cases v <;> simp [stringValue?]

theorem lookup_string_iff {fields : List (String × Json.Value)} {name s : String} :
    (fields.lookup name).bind stringValue? = some s ↔ fields.lookup name = some (.string s) := by
  rw [Option.bind_eq_some_iff]
  constructor
  · rintro ⟨v, hv, hs⟩
    rw [hv, stringValue?_eq_some_iff.mp hs]
  · intro h
    exact ⟨_, h, rfl⟩

theorem freeLabel?_cons (m : String × Json.Value) (fields : List (String × Json.Value)) :
    freeLabel? (m :: fields) =
      if m.1 = "id" then freeLabel? fields else (stringValue? m.2).or (freeLabel? fields) := by
  by_cases hid : m.1 = "id"
  · simp [freeLabel?, hid]
  · cases hs : stringValue? m.2 <;> simp [freeLabel?, hid, hs]

theorem freeLabel?_eq_some_iff {fields : List (String × Json.Value)} {label : String} :
    freeLabel? fields = some label ↔ ∃ before key after, fields = before ++ (key, .string label) :: after ∧
      key ≠ "id" ∧ ∀ m ∈ before, m.1 = "id" ∨ ∀ s, m.2 ≠ .string s := by
  induction fields with
  | nil => simp [freeLabel?]
  | cons m fields ih =>
    rw [freeLabel?_cons]
    constructor
    · intro h
      -- Unless the first field is the label, it stands before it.
      have later (hm : m.1 = "id" ∨ ∀ s, m.2 ≠ .string s) (hrest : freeLabel? fields = some label) :
          ∃ before key after, m :: fields = before ++ (key, .string label) :: after ∧
            key ≠ "id" ∧ ∀ m ∈ before, m.1 = "id" ∨ ∀ s, m.2 ≠ .string s := by
        obtain ⟨before, key, after, rfl, hkey, hbefore⟩ := ih.mp hrest
        exact ⟨m :: before, key, after, rfl, hkey, List.forall_mem_cons.mpr ⟨hm, hbefore⟩⟩
      split at h
      next hid => exact later (.inl hid) h
      next hid =>
        rcases Option.or_eq_some_iff.mp h with hs | ⟨hs, hrest⟩
        · refine ⟨[], m.1, fields, ?_, hid, nofun⟩
          rw [List.nil_append, ← stringValue?_eq_some_iff.mp hs]
        · exact later (.inr (stringValue?_eq_none_iff.mp hs)) hrest
    · rintro ⟨before, key, after, heq, hkey, hbefore⟩
      cases before with
      | nil =>
        cases heq
        rw [if_neg hkey]
        rfl
      | cons m' before =>
        cases heq
        obtain ⟨hm, hrest⟩ := List.forall_mem_cons.mp hbefore
        have hlabel := ih.mpr ⟨before, key, after, rfl, hkey, hrest⟩
        split
        next => exact hlabel
        next hid =>
          rw [stringValue?_eq_none_iff.mpr (hm.resolve_left hid), Option.none_or]
          exact hlabel

theorem label?_eq_some_iff {fields : List (String × Json.Value)} {label : String} :
    label? fields = some label ↔ Labels fields label := by
  constructor
  · intro h
    cases htext : (fields.lookup "text").bind stringValue? with
    | some s =>
      rw [label?, htext] at h
      cases h
      exact .text (lookup_string_iff.mp htext)
    | none =>
      rw [label?, htext] at h
      obtain ⟨before, key, after, hfields, hkey, hbefore⟩ := freeLabel?_eq_some_iff.mp h
      refine .free (fun s hs => ?_) hfields hkey hbefore
      cases htext.symm.trans (lookup_string_iff.mpr hs)
  · intro h
    cases h with
    | text htext =>
      rw [label?, lookup_string_iff.mpr htext]
      rfl
    | free htext hfields hkey hbefore =>
      have hnone : (fields.lookup "text").bind stringValue? = none :=
        Option.eq_none_iff_forall_ne_some.mpr fun s hs => htext s (lookup_string_iff.mp hs)
      rw [label?, hnone]
      exact freeLabel?_eq_some_iff.mpr ⟨_, _, _, hfields, hkey, hbefore⟩

theorem Button.ofValue_ok_iff {index : Nat} {entry : Json.Value} {button : Button} :
    Button.ofValue index entry = .ok button ↔ Names entry button.id button.label := by
  constructor
  · intro h
    unfold Button.ofValue at h
    split at h
    next fields =>
      split at h
      next => cases h
      next id hid =>
        split at h
        next => cases h
        next label hlabel =>
          cases h
          exact ⟨fields, rfl, lookup_string_iff.mp hid, label?_eq_some_iff.mp hlabel⟩
    next => cases h
  · rintro ⟨fields, rfl, hid, hlabel⟩
    simp only [Button.ofValue, lookup_string_iff.mpr hid, label?_eq_some_iff.mpr hlabel]

theorem Button.checked_ok_iff {button checked : Button} {index : Nat} :
    button.checked index = .ok checked ↔
      NameFits button.id ∧ checked.id = button.id ∧ IsCut 63 button.label checked.label := by
  unfold Button.checked NameFits
  simp only [isCut_iff]
  constructor
  · intro h
    split at h
    next => cases h
    next hempty =>
      split at h
      next => cases h
      next hlong =>
        cases h
        simp only [maxIdBytes] at hlong
        exact ⟨⟨by omega, by omega⟩, rfl, rfl⟩
  · rintro ⟨⟨hempty, hlong⟩, hid, hlabel⟩
    rw [if_neg (by omega), if_neg (by simp only [maxIdBytes]; omega)]
    obtain ⟨id, label⟩ := checked
    cases hid
    cases hlabel
    rfl

/-! ## Lists of entries -/

theorem mapM_zipIdx_ok_iff {ε α β : Type} {f : α × Nat → Except ε β} {P : α → β → Prop}
    (h : ∀ a i b, f (a, i) = .ok b ↔ P a b) {l : List α} {k : Nat} {r : List β} :
    (l.zipIdx k).mapM f = .ok r ↔ List.Forall₂ P l r := by
  induction l generalizing k r with
  | nil =>
    rw [List.zipIdx_nil, List.mapM_nil, Except.pure_ok_iff, List.forall₂_nil_left_iff]
    exact eq_comm
  | cons a l ih =>
    rw [List.zipIdx_cons, List.mapM_cons]
    simp only [Except.bind_ok_iff, Except.pure_ok_iff, h, ih]
    rw [List.forall₂_cons_left_iff]
    constructor
    · rintro ⟨b, hb, bs, hbs, rfl⟩
      exact ⟨b, bs, hb, hbs, rfl⟩
    · rintro ⟨b, bs, hb, hbs, rfl⟩
      exact ⟨b, hb, bs, hbs, rfl⟩

theorem forall₂_comp_iff {α β γ : Type} {R : α → β → Prop} {S : β → γ → Prop} {l : List α} {r : List γ} :
    (∃ m, List.Forall₂ R l m ∧ List.Forall₂ S m r) ↔ List.Forall₂ (fun a c => ∃ b, R a b ∧ S b c) l r := by
  constructor
  · rintro ⟨m, hl, hr⟩
    induction hl generalizing r with
    | nil =>
      cases hr
      exact .nil
    | cons hab _ ih =>
      obtain _ | ⟨hbc, hr⟩ := hr
      exact .cons ⟨_, hab, hbc⟩ (ih hr)
  · intro h
    induction h with
    | nil => exact ⟨[], .nil, .nil⟩
    | cons hac _ ih =>
      obtain ⟨b, hab, hbc⟩ := hac
      obtain ⟨m, hl, hr⟩ := ih
      exact ⟨b :: m, .cons hab hl, .cons hbc hr⟩

theorem exists_forall₂_iff {α β : Type} {P : α → β → Prop} {l : List α} :
    (∃ r, List.Forall₂ P l r) ↔ ∀ a ∈ l, ∃ b, P a b := by
  induction l with
  | nil => exact ⟨fun _ => nofun, fun _ => ⟨[], .nil⟩⟩
  | cons a l ih =>
    rw [List.forall_mem_cons, ← ih]
    constructor
    · rintro ⟨_, _ | ⟨hb, hr⟩⟩
      exact ⟨⟨_, hb⟩, _, hr⟩
    · rintro ⟨⟨b, hb⟩, r, hr⟩
      exact ⟨b :: r, .cons hb hr⟩

theorem Update.of_ok_iff {visible : Option Bool} {buttons : List Button} {update : Update} :
    Update.of visible buttons = .ok update ↔ buttons.length ≤ 32 ∧ update.visible = visible ∧
      List.Forall₂ (fun b c => NameFits b.id ∧ c.id = b.id ∧ IsCut 63 b.label c.label)
        buttons update.buttons := by
  have hchecked (r : List Button) := mapM_zipIdx_ok_iff (l := buttons) (k := 0) (r := r)
    (f := fun p => p.1.checked p.2) (P := fun b c => NameFits b.id ∧ c.id = b.id ∧ IsCut 63 b.label c.label)
    fun _ _ _ => Button.checked_ok_iff
  unfold Update.of maxButtons
  split
  next hmany =>
    refine ⟨nofun, ?_⟩
    rintro ⟨hfew, -⟩
    omega
  next hfew =>
    simp only [Except.bind_ok_iff, Except.pure_ok_iff]
    constructor
    · rintro ⟨r, hr, rfl⟩
      exact ⟨by omega, rfl, (hchecked r).mp hr⟩
    · rintro ⟨-, hvisible, hr⟩
      obtain ⟨v, r⟩ := update
      cases hvisible
      exact ⟨r, (hchecked r).mpr hr, rfl⟩

/-! ## Data -/

theorem visible?_eq_some_iff {v : Json.Value} {visible : Option Bool} :
    Data.visible? v = some visible ↔ SaysVisible (some v) visible := by
  constructor
  · intro h
    cases v with
    | null =>
      cases h
      exact .null
    | bool b =>
      cases h
      exact .given b
    | _ => cases h
  · intro h
    cases h <;> rfl

theorem visible?_getD_eq_some_iff {v : Option Json.Value} {visible : Option Bool} :
    Data.visible? (v.getD .null) = some visible ↔ SaysVisible v visible := by
  cases v with
  | none =>
    constructor
    · rintro ⟨⟩
      exact .absent
    · rintro ⟨⟩
      rfl
  | some v => exact visible?_eq_some_iff

theorem ofValue?_eq_some_iff {value : Json.Value} {entries : List Json.Value} {visible : Option Bool} :
    Data.ofValue? value = some ⟨entries, visible⟩ ↔ Data.Holds value entries visible := by
  constructor
  · intro h
    unfold Data.ofValue? at h
    split at h
    next fields =>
      split at h
      next buttons hbuttons =>
        obtain ⟨v, hv, h⟩ := Option.bind_eq_some_iff.mp h
        cases h
        exact .named hbuttons (visible?_getD_eq_some_iff.mp hv)
      next => cases h
    next buttons =>
      cases h
      exact .placed (Nat.zero_le 1) .absent
    next buttons v =>
      obtain ⟨v, hv, h⟩ := Option.bind_eq_some_iff.mp h
      cases h
      exact .placed (Nat.le_refl 1) (visible?_eq_some_iff.mp hv)
    next => cases h
  · intro h
    cases h with
    | named hentries hvisible =>
      simp [Data.ofValue?, hentries, visible?_getD_eq_some_iff.mpr hvisible]
    | @placed entries rest visible hrest hvisible =>
      match rest with
      | [] =>
        cases hvisible
        rfl
      | [v] => simp [Data.ofValue?, visible?_eq_some_iff.mpr hvisible]
      | _ :: _ :: _ =>
        simp only [List.length_cons] at hrest
        omega

/-! ## Messages -/

/-- Reading an entry and then checking its button. -/
theorem describes_iff {entry : Json.Value} {button : Button} :
    button.Describes entry ↔ ∃ b : Button, Names entry b.id b.label ∧
      NameFits b.id ∧ button.id = b.id ∧ IsCut 63 b.label button.label := by
  constructor
  · rintro ⟨label, hnames, hfits, hcut⟩
    exact ⟨⟨button.id, label⟩, hnames, hfits, rfl, hcut⟩
  · rintro ⟨⟨id, label⟩, hnames, hfits, hid, hcut⟩
    cases hid
    exact ⟨label, hnames, hfits, hcut⟩

theorem ofMessage_ok_iff {text : String} {update : Update} :
    Update.ofMessage text = .ok (some update) ↔
      ∃ data, Envelope.read? text = some ⟨"panel", some data⟩ ∧ update.Describes data := by
  have hentries (l : List Json.Value) (r : List Button) := mapM_zipIdx_ok_iff (l := l) (k := 0) (r := r)
    (f := fun p => Button.ofValue p.2 p.1) (P := fun entry b => Names entry b.id b.label)
    fun _ _ _ => Button.ofValue_ok_iff
  constructor
  · intro h
    unfold Update.ofMessage at h
    split at h
    next envelope henvelope =>
      split at h
      next => cases h
      next hkind =>
        split at h
        next value hvalue =>
          split at h
          next data hdata =>
            simp only [Except.bind_ok_iff, Except.pure_ok_iff, Option.some.injEq] at h
            obtain ⟨buttons, hbuttons, update', hof, rfl⟩ := h
            obtain ⟨hfew, hvisible, hchecked⟩ := Update.of_ok_iff.mp hof
            have hread := (hentries _ _).mp hbuttons
            have hcount := hread.length_eq
            obtain rfl : envelope = ⟨"panel", some value⟩ := by
              obtain ⟨kind, carried⟩ := envelope
              simp only [bne_iff_ne, ne_eq, Decidable.not_not] at hkind
              cases hkind
              cases hvalue
              rfl
            refine ⟨value, henvelope, data.buttons, ?_, by omega, ?_⟩
            · rw [hvisible]
              exact ofValue?_eq_some_iff.mp hdata
            · exact (forall₂_comp_iff.mp ⟨buttons, hread, hchecked⟩).imp fun _ _ => describes_iff.mpr
          next => cases h
        next => cases h
    next => cases h
  · rintro ⟨data, henvelope, entries, hholds, hfew, hbuttons⟩
    obtain ⟨buttons, hread, hchecked⟩ := forall₂_comp_iff.mpr (hbuttons.imp fun _ _ => describes_iff.mp)
    have hcount := hread.length_eq
    have hof : Update.of update.visible buttons = .ok update :=
      Update.of_ok_iff.mpr ⟨by omega, rfl, hchecked⟩
    simp only [Update.ofMessage, henvelope, ofValue?_eq_some_iff.mpr hholds]
    rw [if_neg (by decide)]
    exact Except.bind_ok_iff.mpr ⟨buttons, (hentries _ _).mpr hread, Except.bind_ok_iff.mpr ⟨update, hof, rfl⟩⟩

theorem wellFormed_iff {data : Json.Value} : WellFormed data ↔ ∃ update : Update, update.Describes data := by
  constructor
  · rintro ⟨entries, visible, hholds, hfew, hentries⟩
    have hbuttons : ∃ buttons, List.Forall₂ Button.Describes entries buttons := by
      refine exists_forall₂_iff.mpr fun entry hentry => ?_
      obtain ⟨id, label, hnames, hfits⟩ := hentries entry hentry
      exact ⟨⟨id, _⟩, label, hnames, hfits, isCut_takeBytes 63 label⟩
    obtain ⟨buttons, hbuttons⟩ := hbuttons
    exact ⟨⟨visible, buttons⟩, entries, hholds, hfew, hbuttons⟩
  · rintro ⟨update, entries, hholds, hfew, hbuttons⟩
    refine ⟨entries, update.visible, hholds, hfew, fun entry hentry => ?_⟩
    obtain ⟨button, label, hnames, hfits, -⟩ := exists_forall₂_iff.mp ⟨_, hbuttons⟩ entry hentry
    exact ⟨button.id, label, hnames, hfits⟩

theorem ofMessage_of_other {text : String} {envelope : Envelope}
    (henvelope : Envelope.read? text = some envelope) (hkind : envelope.kind ≠ "panel") :
    Update.ofMessage text = .ok none := by
  have hother : (envelope.kind != "panel") = true := bne_iff_ne.mpr hkind
  simp only [Update.ofMessage, henvelope]
  rw [if_pos hother]
  rfl

end RemoteView.Panel

namespace RemoteView.Session

open Panel

variable {σ : Type} {host : Host σ} {s s' : Session σ} {text : String}

theorem updatePanel_without {update : Panel.Update} (hpanel : s.screen.startup.panelShow = false)
    (h : s.updatePanel host update = .ok s') : s' = s := by
  simp only [updatePanel, hpanel] at h
  exact (Except.pure_ok_iff.mp h).symm

theorem panel_updatePanel {update : Panel.Update} (hpanel : s.screen.startup.panelShow = true)
    (h : s.updatePanel host update = .ok s') :
    s'.screen.overlay.panel = s.screen.overlay.panel.apply update := by
  simp only [updatePanel, hpanel] at h
  obtain ⟨-, rect, sent, hrender⟩ := render_effect h
  obtain ⟨-, overlay, hoverlay, hscreen⟩ := applyCursorIfAny_effect
    (s.setOverlay (s.screen.overlay.applyUpdate update).2) host (s.screen.overlay.applyUpdate update).1
  rw [hrender, hscreen]
  exact hoverlay

theorem updatePanelMessage_refused (h : ∀ update, Update.ofMessage text ≠ .ok (some update)) :
    s.updatePanelMessage host text = .ok ((Update.ofMessage text).map Option.isSome, s) := by
  unfold updatePanelMessage
  split
  next heq => rw [heq]; rfl
  next heq => rw [heq]; rfl
  next update heq => exact absurd heq (h update)

theorem updatePanelMessage_accepted {update : Panel.Update} {reply : Except UpdateError Bool}
    (hmessage : Update.ofMessage text = .ok (some update))
    (h : s.updatePanelMessage host text = .ok (reply, s')) :
    reply = .ok true ∧ s.updatePanel host update = .ok s' := by
  simp only [updatePanelMessage, hmessage, Except.bind_ok_iff, Except.pure_ok_iff] at h
  obtain ⟨next, hupdate, heq⟩ := h
  cases heq
  exact ⟨rfl, hupdate⟩

/-- **Which messages are accepted, and what they do.** A message for the panel is accepted exactly
if its data are well formed, and then asks for the very buttons that its data describe. A message
of another type is let pass whatever it carries. Unless a message is accepted it changes nothing at
all; if it is, a view that has a panel shows all of the update. -/
theorem panelMessage_accepted (text : String) :
    (∀ envelope, Envelope.read? text = some envelope → envelope.kind = "panel" →
      ((∃ update, Update.ofMessage text = .ok (some update)) ↔
        ∃ data, envelope.data = some data ∧ WellFormed data) ∧
      ∀ update, Update.ofMessage text = .ok (some update) ↔
        ∃ data, envelope.data = some data ∧ update.Describes data) ∧
    (∀ envelope, Envelope.read? text = some envelope → envelope.kind ≠ "panel" →
      Update.ofMessage text = .ok none) ∧
    ∀ {σ : Type} (host : Host σ) (s : Session σ),
      ((∀ update, Update.ofMessage text ≠ .ok (some update)) →
        s.updatePanelMessage host text = .ok ((Update.ofMessage text).map Option.isSome, s)) ∧
      ∀ update reply s', Update.ofMessage text = .ok (some update) →
        s.updatePanelMessage host text = .ok (reply, s') → reply = .ok true ∧
          (s.screen.startup.panelShow = true →
            s'.screen.overlay.panel.buttons = update.buttons ∧
              s'.screen.overlay.panel.visible = update.visible.getD s.screen.overlay.panel.visible) ∧
          (s.screen.startup.panelShow = false → s' = s) := by
  refine ⟨fun envelope henvelope hkind => ?_, fun _ => ofMessage_of_other, fun host s =>
    ⟨updatePanelMessage_refused, fun update reply s' hmessage h => ?_⟩⟩
  · have hdescribed (update : Panel.Update) : Update.ofMessage text = .ok (some update) ↔
        ∃ data, envelope.data = some data ∧ update.Describes data := by
      obtain ⟨kind, carried⟩ := envelope
      cases hkind
      rw [ofMessage_ok_iff, henvelope]
      simp
    refine ⟨?_, hdescribed⟩
    simp only [hdescribed, wellFormed_iff]
    constructor
    · rintro ⟨update, data, hdata, hdescribes⟩
      exact ⟨data, hdata, update, hdescribes⟩
    · rintro ⟨data, hdata, update, hdescribes⟩
      exact ⟨update, data, hdata, hdescribes⟩
  · obtain ⟨hreply, hupdate⟩ := updatePanelMessage_accepted hmessage h
    refine ⟨hreply, fun hpanel => ?_, fun hpanel => updatePanel_without hpanel hupdate⟩
    rw [panel_updatePanel hpanel hupdate]
    exact ⟨rfl, rfl⟩

/-- An entry with a `text` and another string before it. -/
def homeEntry : Json.Value :=
  .object [("id", .string "home"), ("icon", .string "house"), ("text", .string "Home")]

/-- An entry with a label of another name, which stands before the `id`. -/
def backEntry : Json.Value := .object [("title", .string "Back"), ("id", .string "back")]

def twoEntries : Json.Value := .object [("visible", .null), ("buttons", .array [homeEntry, backEntry])]

theorem panelMessage_accepted_twoEntries :
    Update.ofMessage (Json.render (.object [("type", .string "panel"), ("data", twoEntries)])) =
      .ok (some ⟨none, [⟨"home", "Home"⟩, ⟨"back", "Back"⟩]⟩) := by
  have hproper : Json.Proper (.object [("type", .string "panel"), ("data", twoEntries)]) := by
    simp [twoEntries, homeEntry, backEntry, Json.Proper, Json.ProperMembers, Json.ProperItems]
  have henvelope : Envelope.read? (Json.render (.object [("type", .string "panel"), ("data", twoEntries)])) =
      some ⟨"panel", some twoEntries⟩ := by
    rw [Envelope.read?, Json.read?_render hproper]
    rfl
  have hhome : Button.Describes homeEntry ⟨"home", "Home"⟩ :=
    ⟨"Home", ⟨_, rfl, rfl, .text rfl⟩, ⟨by decide, by decide⟩, isCut_iff.mpr rfl⟩
  have hback : Button.Describes backEntry ⟨"back", "Back"⟩ :=
    ⟨"Back", ⟨_, rfl, rfl, .free nofun (List.nil_append _).symm (by decide) nofun⟩, ⟨by decide, by decide⟩,
      isCut_iff.mpr rfl⟩
  obtain ⟨hpanel, -, -⟩ := panelMessage_accepted
    (Json.render (.object [("type", .string "panel"), ("data", twoEntries)]))
  refine ((hpanel _ henvelope rfl).2 _).mpr ⟨twoEntries, rfl, _, .named rfl .null, by decide, ?_⟩
  exact .cons hhome (.cons hback .nil)

end RemoteView.Session
