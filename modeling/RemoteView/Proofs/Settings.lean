/-
Settings and their file. What is written is read back, if the window can be placed where the
settings say, and is turned down otherwise; a document may leave out what is the default, order
its members as it likes and have others among them. Whatever is loaded can be placed
(`load_written`).
-/
import Mathlib.Algebra.Group.Int.Defs
import RemoteView.Proofs.Except
import RemoteView.Proofs.Json.Record
import RemoteView.Settings.File

namespace RemoteView.Settings

/-- Each coordinate that is given fits a signed 16-bit word. -/
def Placeable (s : Settings) : Prop :=
  ∀ v, s.windowX = some v ∨ s.windowY = some v → -2 ^ 15 ≤ v.toInt ∧ v.toInt < 2 ^ 15

/-- Members of a document that give the settings. -/
def Lists (s : Settings) (members : List (String × Json.Document)) : Prop :=
  Json.Restates s.toJson.members ({} : Settings).toJson.members members

variable {s : Settings} {members : List (String × Json.Document)} {text : String}

/-! ## Checks -/

theorem narrow?_isSome {v : Int32} : (narrow? v).isSome = true ↔ -2 ^ 15 ≤ v.toInt ∧ v.toInt < 2 ^ 15 := by
  have hlow : Int16.minValue.toInt = -2 ^ 15 := rfl
  have hhigh : Int16.maxValue.toInt = 2 ^ 15 - 1 := rfl
  unfold narrow?
  split <;> simp <;> omega

/-- A coordinate that fits is carried over as it is. -/
theorem narrow?_toInt {v : Int32} (h : -2 ^ 15 ≤ v.toInt ∧ v.toInt < 2 ^ 15) :
    (narrow? v).map Int16.toInt = some v.toInt := by
  have hfits : Int16.minValue.toInt ≤ v.toInt ∧ v.toInt ≤ Int16.maxValue.toInt := by
    have hhigh : Int16.maxValue.toInt = 2 ^ 15 - 1 := rfl
    exact ⟨h.1, by omega⟩
  rw [narrow?, if_pos hfits, Option.map_some, Int32.toInt_toInt16,
    Int.bmod_eq_of_le (by omega) (by omega)]

theorem checkCoordinate_ok_iff {field : String} {value : Option Int32} :
    checkCoordinate field value = .ok () ↔ ∀ v, value = some v → -2 ^ 15 ≤ v.toInt ∧ v.toInt < 2 ^ 15 := by
  cases value with
  | none => exact ⟨fun _ => nofun, fun _ => rfl⟩
  | some v =>
    simp only [checkCoordinate, narrow?_isSome, Option.some.injEq, forall_eq']
    split
    next h => exact ⟨fun _ => h, fun _ => rfl⟩
    next h => exact ⟨nofun, fun hfits => absurd hfits h⟩

theorem validate_ok_iff : s.validate = .ok () ↔ s.Placeable := by
  rw [validate, Except.bind_ok_iff]
  constructor
  · rintro ⟨_, hx, hy⟩ v (hv | hv)
    · exact checkCoordinate_ok_iff.mp hx v hv
    · exact checkCoordinate_ok_iff.mp hy v hv
  · intro h
    exact ⟨(), checkCoordinate_ok_iff.mpr fun v hv => h v (.inl hv),
      checkCoordinate_ok_iff.mpr fun v hv => h v (.inr hv)⟩

theorem startup_window (h : s.Placeable) :
    s.startup.window.x.map Int16.toInt = s.windowX.map Int32.toInt ∧
      s.startup.window.y.map Int16.toInt = s.windowY.map Int32.toInt := by
  have hcarried (value : Option Int32) (hvalue : ∀ v, value = some v → -2 ^ 15 ≤ v.toInt ∧ v.toInt < 2 ^ 15) :
      (value.bind narrow?).map Int16.toInt = value.map Int32.toInt := by
    cases value with
    | none => rfl
    | some v => exact narrow?_toInt (hvalue v rfl)
  exact ⟨hcarried _ fun v hv => h v (.inl hv), hcarried _ fun v hv => h v (.inr hv)⟩

/-! ## Documents -/

theorem nodup_fieldNames : fieldNames.Nodup := by decide

theorem coordinate_read (v : Option Int32) :
    Json.nullable? Json.int32? (Json.ofOption (fun v : Int32 => .ofInt v.toInt) v).document = some v := by
  refine Json.nullable?_ofOption Json.int32?_ofInt ?_ v
  intro v
  exact nofun

theorem dimension_read (v : Option UInt16) :
    Json.nullable? Json.uint16? (Json.ofOption (fun v : UInt16 => .ofInt v.toNat) v).document = some v := by
  refine Json.nullable?_ofOption Json.uint16?_ofInt ?_ v
  intro v
  exact nofun

theorem flag_read (b : Bool) : Json.bool? (Json.document (.bool b)) = some b := rfl

theorem orientation_read (o : Orientation) : Orientation.ofJson? o.toJson.document = some o := by
  obtain ⟨flipped, turn⟩ := o
  cases flipped <;> cases turn <;> decide

theorem ofJson?_of_lists (h : s.Lists members) : ofJson? (.object (Json.keyed members)) = some s := by
  have hkeys : (s.toJson.members.map (·.1)).Nodup := nodup_fieldNames
  have hstandard : (({} : Settings).toJson.members.map (·.1)).Nodup := nodup_fieldNames
  have hfields : Json.record? fieldNames (.object (Json.keyed members)) = some _ := h.record? hkeys
  rw [ofJson?, hfields]
  simp only [Option.bind_eq_bind, Option.bind_some]
  rw [h.fieldOr? hkeys hstandard coordinate_read (i := 0) rfl rfl,
    h.fieldOr? hkeys hstandard coordinate_read (i := 1) rfl rfl,
    h.fieldOr? hkeys hstandard dimension_read (i := 2) rfl rfl,
    h.fieldOr? hkeys hstandard dimension_read (i := 3) rfl rfl,
    h.fieldOr? hkeys hstandard flag_read (i := 4) rfl rfl,
    h.fieldOr? hkeys hstandard orientation_read (i := 5) rfl rfl,
    h.fieldOr? hkeys hstandard flag_read (i := 6) rfl rfl,
    h.fieldOr? hkeys hstandard flag_read (i := 7) rfl rfl,
    h.fieldOr? hkeys hstandard flag_read (i := 8) rfl rfl,
    h.fieldOr? hkeys hstandard flag_read (i := 9) rfl rfl,
    h.fieldOr? hkeys hstandard flag_read (i := 10) rfl rfl]
  rfl

/-! ## Texts -/

theorem scanToken_blank {c : Char} (hc : Text.isBlank c = true) (s : List Char) :
    Json.scanToken (c :: s) = none := by
  have hne : ∀ d : Char, Text.isBlank d = false → c ≠ d := fun d hd h => by rw [h, hd] at hc; cases hc
  have hdigit : c.isDigit = false := by
    rw [← Bool.not_eq_true, Char.isDigit_iff_toNat]
    have hzero : '0'.toNat = 48 := rfl
    have hnine : '9'.toNat = 57 := rfl
    simp only [Text.isBlank, Bool.or_eq_true, Bool.and_eq_true, decide_eq_true_eq, beq_iff_eq] at hc
    omega
  rw [Json.scanToken]
  · simp [Json.scanUnsigned, Json.scanWhole, Json.scanDigits, hdigit, hne '0' rfl]
  all_goals exact fun _ h => hne _ (by rfl) (List.cons.inj h).1

theorem tokens?_blank {s : List Char} (h : s.all Text.isBlank = true) :
    Json.tokens? s = none ∨ Json.tokens? s = some [] := by
  induction s with
  | nil => exact .inr (by rw [Json.tokens?])
  | cons c s ih =>
    rw [List.all_cons, Bool.and_eq_true] at h
    rw [Json.tokens?]
    split
    · exact ih h.2
    · split
      next => exact .inl rfl
      next hscan => cases hscan.symm.trans (scanToken_blank h.1 s)

/-- A text without anything to see holds no document. -/
theorem read?_blankText (h : Text.isBlankText text = true) : Json.read? text = none := by
  rcases tokens?_blank h with hnone | hempty
  · rw [Json.read?, hnone]
    rfl
  · rw [Json.read?, hempty]
    rfl

theorem ofText_of_lists (hread : Json.read? text = some (.object (Json.keyed members))) (h : s.Lists members) :
    ofText text = match s.validate with
      | .ok () => .ok s
      | .error cause => .error (.invalid cause) := by
  have hshown : Text.isBlankText text = false := by
    rw [← Bool.not_eq_true]
    intro hblank
    cases hread.symm.trans (read?_blankText hblank)
  have hsettings : (Json.read? text).bind ofJson? = some s := by
    rw [hread]
    exact ofJson?_of_lists h
  rw [ofText, hshown, hsettings]
  rfl

/-! ## Files -/

theorem load_toUTF8 (text : String) : load (.file text.toUTF8) = ofText text := by
  have hutf8 : String.fromUTF8? text.toUTF8 = some text := dif_pos text.isValidUTF8
  rw [load, hutf8]

theorem proper_members (s : Settings) : Json.ProperMembers s.toJson.members := by
  have hcoordinate : ∀ v : Int32, (Json.ofInt v.toInt : Json.Value).Proper := fun v => Json.proper_ofInt _
  have hdimension : ∀ v : UInt16, (Json.ofInt v.toNat : Json.Value).Proper := fun v => Json.proper_ofInt _
  simp [Json.members, toJson, Json.ProperMembers, Json.Proper, Orientation.toJson,
    Json.proper_ofOption hcoordinate, Json.proper_ofOption hdimension]

theorem lists_members (s : Settings) : s.Lists (s.toJson.members.map Json.readMember) := .refl _ _

theorem ofText_text (s : Settings) : ofText s.text = match s.validate with
    | .ok () => .ok s
    | .error cause => .error (.invalid cause) :=
  ofText_of_lists (Json.read?_render_object (proper_members s)) (lists_members s)

theorem placeable_default : ({} : Settings).Placeable := by
  rintro v (hv | hv) <;> cases hv

theorem placeable_of_ofText (h : ofText text = .ok s) : s.Placeable := by
  unfold ofText at h
  split at h
  next =>
    obtain rfl : {} = s := Except.pure_ok_iff.mp h
    exact placeable_default
  next =>
    split at h
    next s' _ =>
      split at h
      next hvalid =>
        obtain rfl : s' = s := Except.pure_ok_iff.mp h
        exact validate_ok_iff.mp hvalid
      next => cases h
    next => cases h

theorem placeable_of_load {source : SettingsSource} (h : load source = .ok s) : s.Placeable := by
  cases source with
  | missing =>
    cases h
    exact placeable_default
  | directory => cases h
  | file content =>
    simp only [load] at h
    split at h
    next => cases h
    next => exact placeable_of_ofText h

/-- **A file gives back the settings that were written to it**, or is turned down if the window
cannot be placed where they say. It makes no difference in what order the members of its document
are, whether others are among them, and whether those are left out that are the default. Settings
that come from any file pass the check, and a view is started at the very position they give. -/
theorem load_written (s : Settings) :
    (s.Placeable → load (.file s.text.toUTF8) = .ok s) ∧
      (¬ s.Placeable → ∃ e, load (.file s.text.toUTF8) = .error e) ∧
      (∀ members text, s.Lists members → Json.read? text = some (.object (Json.keyed members)) →
        load (.file text.toUTF8) = load (.file s.text.toUTF8)) ∧
      ∀ source, load source = .ok s → s.validate = .ok () ∧
        s.startup.window.x.map Int16.toInt = s.windowX.map Int32.toInt ∧
        s.startup.window.y.map Int16.toInt = s.windowY.map Int32.toInt := by
  simp only [load_toUTF8]
  refine ⟨fun hplaceable => ?_, fun hplaceable => ?_, fun members text hlists hread => ?_, fun source h => ?_⟩
  · rw [ofText_text, validate_ok_iff.mpr hplaceable]
  · rw [ofText_text]
    cases hvalid : s.validate with
    | ok _ => exact absurd (validate_ok_iff.mp hvalid) hplaceable
    | error cause => exact ⟨_, rfl⟩
  · rw [ofText_of_lists hread hlists, ofText_text]
  · have hplaceable := placeable_of_load h
    exact ⟨validate_ok_iff.mpr hplaceable, startup_window hplaceable⟩

/-- Settings that differ from the default in three fields. -/
def sideways : Settings := { windowX := some (-100), fullscreen := true, orientation := ⟨true, .deg90⟩ }

/-- Those fields in another order, after a member that is none. -/
def sidewaysMembers : List (String × Json.Value) :=
  [("comment", .array [.null, .ofInt 7]), ("orientation", .string "flip90"), ("fullscreen", .bool true),
    ("window_x", .ofInt (-100))]

theorem lists_sidewaysMembers : sideways.Lists (sidewaysMembers.map Json.readMember) := by
  refine ⟨[("window_x", .ofInt (-100)), ("fullscreen", .bool true), ("orientation", .string "flip90")],
    [("comment", .array [.null, .ofInt 7])], ?_, ?_, ?_, (List.reverse_perm (sidewaysMembers.map Json.readMember)).symm⟩
  · exact .cons_cons _ (.cons _ (.cons _ (.cons _ (.cons_cons _ (.cons_cons _ (List.nil_sublist _))))))
  · have hname : Orientation.name ⟨true, .deg90⟩ = "flip90" := rfl
    simp [sideways, toJson, Json.members, Json.ofOption, Orientation.toJson, hname]
  · intro m hm
    obtain rfl := List.mem_singleton.mp hm
    decide

theorem load_written_sideways : sideways.Placeable ∧
    load (.file (Json.render (.object sidewaysMembers)).toUTF8) = .ok sideways ∧
    sideways.startup.window.x.map Int16.toInt = some (-100) := by
  have hplaceable : sideways.Placeable := validate_ok_iff.mp rfl
  have hproper : Json.ProperMembers sidewaysMembers := by
    simp [sidewaysMembers, Json.ProperMembers, Json.ProperItems, Json.Proper, Json.proper_ofInt]
  obtain ⟨hok, -, hlisted, hloaded⟩ := load_written sideways
  have hfile := (hlisted _ _ lists_sidewaysMembers (Json.read?_render_object hproper)).trans (hok hplaceable)
  exact ⟨hplaceable, hfile, (hloaded _ hfile).2.1⟩

end RemoteView.Settings
