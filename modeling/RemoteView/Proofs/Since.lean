/-
Histories in which something is the case since some moment: an event brought it about, and
nothing that came later ended it (`Since`). Whether it still is the case after one more
event can be told from that event (`since_concat`).
-/
namespace RemoteView

variable {α : Type} {P Q : α → Prop} {history : List α}

/-- One event of the history is as `P` says, and all later ones are as `Q` says. -/
def Since (P Q : α → Prop) (history : List α) : Prop :=
  ∃ earlier a later, history = earlier ++ a :: later ∧ P a ∧ ∀ b ∈ later, Q b

theorem not_since_nil : ¬ Since P Q [] := by
  rintro ⟨earlier, a, later, heq, -⟩
  exact List.append_ne_nil_of_right_ne_nil earlier (List.cons_ne_nil a later) heq.symm

theorem since_concat {a : α} : Since P Q (history ++ [a]) ↔ P a ∨ Q a ∧ Since P Q history := by
  constructor
  · rintro ⟨earlier, b, later, heq, hb, hlater⟩
    -- The event that began it is the last one, or it is among those before.
    rcases List.eq_nil_or_concat later with rfl | ⟨between, c, rfl⟩
    · obtain ⟨-, hlast⟩ := List.append_inj' heq rfl
      exact .inl ((List.cons.inj hlast).1 ▸ hb)
    · rw [List.concat_eq_append] at heq hlater
      rw [← List.cons_append, ← List.append_assoc] at heq
      obtain ⟨rfl, hlast⟩ := List.append_inj' heq rfl
      obtain rfl := (List.cons.inj hlast).1
      refine .inr ⟨hlater a (by simp), earlier, b, between, rfl, hb, fun d hd => ?_⟩
      exact hlater d (List.mem_append_left _ hd)
  · rintro (ha | ⟨ha, earlier, b, later, rfl, hb, hlater⟩)
    · exact ⟨history, a, [], rfl, ha, nofun⟩
    · refine ⟨earlier, b, later ++ [a], by simp, hb, fun d hd => ?_⟩
      rcases List.mem_append.mp hd with hd | hd
      · exact hlater d hd
      · exact List.mem_singleton.mp hd ▸ ha

/-- What neither brought it about nor let it stand divides the history, and only what came after
it matters. -/
theorem Since.later {earlier later : List α} {a : α} (h : Since P Q (earlier ++ a :: later)) (hP : ¬P a)
    (hQ : ¬Q a) : Since P Q later := by
  obtain ⟨before, b, after, heq, hb, hafter⟩ := h
  rcases List.append_eq_append_iff.mp heq with ⟨between, -, hbetween⟩ | ⟨between, -, hbetween⟩
  · cases between with
    | nil => exact absurd ((List.cons.inj hbetween).1 ▸ hb) hP
    | cons c between => exact ⟨between, b, after, (List.cons.inj hbetween).2, hb, hafter⟩
  · cases between with
    | nil => exact absurd ((List.cons.inj hbetween).1 ▸ hb) hP
    | cons c between =>
      obtain rfl := (List.cons.inj hbetween).2
      exact absurd (hafter a (by simp)) hQ

theorem Since.mono {P' Q' : α → Prop} (h : Since P Q history) (hP : ∀ a, P a → P' a) (hQ : ∀ a, Q a → Q' a) :
    Since P' Q' history := by
  obtain ⟨earlier, a, later, heq, ha, hlater⟩ := h
  exact ⟨earlier, a, later, heq, hP a ha, fun b hb => hQ b (hlater b hb)⟩

end RemoteView
