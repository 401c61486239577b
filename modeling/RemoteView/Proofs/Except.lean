/-
Runs of `Except` taken apart: what it says of the steps of a computation that
the whole of it ended well (`Except.bind_ok_iff`), and what a loop keeps. And
runs put together: `Except.Yields` says that a computation ends well, and how, and
`Except.YieldsGiven` says it of one that needs some room to end well.
-/

namespace Except

variable {ε α β : Type}

theorem bind_ok_iff {x : Except ε α} {f : α → Except ε β} {b : β} :
    (x >>= f) = .ok b ↔ ∃ a, x = .ok a ∧ f a = .ok b := by
  cases x with
  | error e => exact ⟨nofun, fun ⟨_, h, _⟩ => nomatch h⟩
  | ok a => exact ⟨fun h => ⟨a, rfl, h⟩, fun ⟨_, h, h'⟩ => by cases h; exact h'⟩

/-- A step that only one branch takes, with the rest of the computation after it. -/
theorem ite_bind_ok_iff {c : Prop} [Decidable c] {x y : Except ε α} {f : α → Except ε β} {b : β} :
    (if c then x >>= f else y >>= f) = .ok b ↔ ∃ a, (if c then x else y) = .ok a ∧ f a = .ok b := by
  split <;> exact bind_ok_iff

theorem pure_ok_iff {a b : α} : (pure a : Except ε α) = .ok b ↔ a = b := by
  simp [pure, Except.pure]

/-- What every step of a loop keeps holds at its end. -/
theorem foldlM_keeps {f : β → α → Except ε β} {P : β → Prop} {l : List α} {b r : β}
    (step : ∀ a ∈ l, ∀ b b', P b → f b a = .ok b' → P b') (hb : P b) (h : l.foldlM f b = .ok r) :
    P r := by
  induction l generalizing b with
  | nil =>
    simp only [List.foldlM_nil, pure_ok_iff] at h
    exact h ▸ hb
  | cons a l ih =>
    simp only [List.foldlM_cons, bind_ok_iff] at h
    obtain ⟨b', h₁, h₂⟩ := h
    exact ih (fun a ha => step a (List.mem_cons_of_mem _ ha)) (step a List.mem_cons_self b b' hb h₁) h₂

theorem length_mapM {f : α → Except ε β} {l : List α} {r : List β} (h : l.mapM f = .ok r) :
    r.length = l.length := by
  induction l generalizing r with
  | nil =>
    rw [List.mapM_nil, pure_ok_iff] at h
    exact h ▸ rfl
  | cons a l ih =>
    simp only [List.mapM_cons, bind_ok_iff, pure_ok_iff] at h
    obtain ⟨b, -, bs, hbs, rfl⟩ := h
    exact congrArg (· + 1) (ih hbs)

theorem getElem_mapM {f : α → Except ε β} {l : List α} {r : List β} (h : l.mapM f = .ok r) (i : Nat)
    (hl : i < l.length) (hr : i < r.length) : f l[i] = .ok r[i] := by
  induction l generalizing r i with
  | nil => cases hl
  | cons a l ih =>
    simp only [List.mapM_cons, bind_ok_iff, pure_ok_iff] at h
    obtain ⟨b, hb, bs, hbs, rfl⟩ := h
    cases i with
    | zero => exact hb
    | succ i => exact ih hbs i _ _

/-- A loop ends well if each of its steps does. -/
theorem exists_mapM_iff {f : α → Except ε β} {l : List α} :
    (∃ r, l.mapM f = .ok r) ↔ ∀ a ∈ l, ∃ b, f a = .ok b := by
  induction l with
  | nil => simp [pure_ok_iff]
  | cons a l ih =>
    simp only [List.mapM_cons, bind_ok_iff, pure_ok_iff, List.forall_mem_cons, ← ih]
    constructor
    · rintro ⟨_, b, hb, bs, hbs, -⟩
      exact ⟨⟨b, hb⟩, bs, hbs⟩
    · rintro ⟨⟨b, hb⟩, bs, hbs⟩
      exact ⟨_, b, hb, bs, hbs, rfl⟩

theorem exists_of_any {x : Except ε α} {p : α → Bool} (h : x.toOption.any p = true) :
    ∃ a, x = .ok a ∧ p a = true := by
  cases x with
  | error e => cases h
  | ok a => exact ⟨a, rfl, h⟩

/-- The computation ends without an error, and its value is as `Q` says. -/
def Yields (x : Except ε α) (Q : α → Prop) : Prop := ∃ a, x = .ok a ∧ Q a

namespace Yields

variable {x : Except ε α} {Q R : α → Prop}

theorem pure {a : α} (h : Q a) : (Pure.pure a : Except ε α).Yields Q := ⟨a, rfl, h⟩

theorem bind {f : α → Except ε β} {S : β → Prop} (hx : x.Yields Q)
    (hf : ∀ a, x = .ok a → Q a → (f a).Yields S) : (x >>= f).Yields S := by
  obtain ⟨a, rfl, ha⟩ := hx
  exact hf a rfl ha

theorem mono (hx : x.Yields Q) (h : ∀ a, Q a → R a) : x.Yields R := by
  obtain ⟨a, hx, ha⟩ := hx
  exact ⟨a, hx, h a ha⟩

/-- What is known of the value of a computation that ends well, if it does. -/
theorem and (hx : x.Yields Q) (h : ∀ a, x = .ok a → R a) : x.Yields fun a => Q a ∧ R a := by
  obtain ⟨a, hx, ha⟩ := hx
  exact ⟨a, hx, ha, h a hx⟩

theorem mapM {f : α → Except ε β} {S : β → Prop} {l : List α} (hf : ∀ a ∈ l, (f a).Yields S) :
    (l.mapM f).Yields fun r => ∀ b ∈ r, S b := by
  induction l with
  | nil => exact ⟨[], List.mapM_nil, nofun⟩
  | cons a l ih =>
    rw [List.mapM_cons]
    refine (hf a List.mem_cons_self).bind ?_
    intro b _ hb
    refine (ih fun a ha => hf a (List.mem_cons_of_mem _ ha)).bind ?_
    intro r _ hr
    exact .pure fun c hc => (List.mem_cons.mp hc).elim (· ▸ hb) (hr c)

end Yields

/-- Given the room it needs, the computation ends without an error. If it does end so,
given or not, its value is as `Q` says. -/
structure YieldsGiven (x : Except ε α) (room : Prop) (Q : α → Prop) : Prop where
  ends : room → ∃ a, x = .ok a
  value : ∀ a, x = .ok a → Q a

namespace YieldsGiven

variable {x : Except ε α} {room : Prop} {Q : α → Prop}

theorem of_ok {a : α} (hx : x = .ok a) (h : Q a) : x.YieldsGiven room Q :=
  ⟨fun _ => ⟨a, hx⟩, fun b hb => by cases hx.symm.trans hb; exact h⟩

theorem bind {f : α → Except ε β} {S : β → Prop} (hx : x.YieldsGiven room Q)
    (hf : ∀ a, x = .ok a → Q a → (f a).YieldsGiven room S) : (x >>= f).YieldsGiven room S := by
  refine ⟨fun hroom => ?_, fun b hb => ?_⟩
  · obtain ⟨a, rfl⟩ := hx.ends hroom
    exact (hf a rfl (hx.value a rfl)).ends hroom
  · obtain ⟨a, rfl, hb⟩ := bind_ok_iff.mp hb
    exact (hf a rfl (hx.value a rfl)).value b hb

/-- A step that only one branch takes, with the rest of the computation after it. -/
theorem ite_bind {c : Prop} [Decidable c] {y : Except ε α} {f : α → Except ε β} {S : β → Prop}
    (hx : (if c then x else y).YieldsGiven room Q)
    (hf : ∀ a, (if c then x else y) = .ok a → Q a → (f a).YieldsGiven room S) :
    (if c then x >>= f else y >>= f).YieldsGiven room S := by
  split at hx
  next hc =>
    simp only [if_pos hc] at hf ⊢
    exact hx.bind hf
  next hc =>
    simp only [if_neg hc] at hf ⊢
    exact hx.bind hf

/-- More room than is needed. -/
theorem roomy {room' : Prop} (hx : x.YieldsGiven room Q) (h : room' → room) : x.YieldsGiven room' Q :=
  ⟨fun hroom => hx.ends (h hroom), hx.value⟩

end YieldsGiven

/-- Every error that the computation can end with is as `P` says. -/
def FailsOnly (x : Except ε α) (P : ε → Prop) : Prop := ∀ e, x = .error e → P e

namespace FailsOnly

variable {x : Except ε α} {P : ε → Prop}

theorem pure {a : α} : (Pure.pure a : Except ε α).FailsOnly P := nofun

theorem bind {f : α → Except ε β} (hx : x.FailsOnly P) (hf : ∀ a, (f a).FailsOnly P) :
    (x >>= f).FailsOnly P := by
  intro e he
  cases x with
  | error e' => exact hx e (Except.error.inj he ▸ rfl)
  | ok a => exact hf a e he

/-- A computation with a value that cannot fail comes after it. -/
theorem map {f : α → β} (hx : x.FailsOnly P) : (x >>= fun a => Pure.pure (f a)).FailsOnly P :=
  hx.bind fun _ => pure

theorem mapM {f : α → Except ε β} {l : List α} (hf : ∀ a, (f a).FailsOnly P) : (l.mapM f).FailsOnly P := by
  induction l with
  | nil => exact pure
  | cons a l ih =>
    rw [List.mapM_cons]
    exact (hf a).bind fun _ => ih.map

end FailsOnly

end Except
