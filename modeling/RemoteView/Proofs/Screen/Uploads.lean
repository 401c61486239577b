/-
Frames go into a texture of their own size. The size of the frame that a view shows is
always the one that it last asked a texture for, so that a frame is uploaded into a
texture of its size if the display granted that (`run_uploads`). A refusal is not
remembered, though: the next frame of the same size is uploaded all the same.
-/
import RemoteView.Proofs.Screen.Invariant

namespace RemoteView

variable {σ : Type}

/-- The size that a texture is asked for in. -/
def Request.textureSize? : Request → Option Size
  | setTextureSize size => some size
  | _ => none

/-- The last texture that was asked for: its size, and what the display answered. -/
def askedTexture (journal : List Entry) : Option (Size × Outcome) :=
  journal.findSome? fun e => e.request.textureSize?.map (·, e.outcome)

/-- The size of the last texture that the display granted. -/
def grantedTexture (journal : List Entry) : Option Size :=
  journal.findSome? fun e => if e.outcome = .ok then e.request.textureSize? else none

/-- What the texture is like when a frame of size `size` is uploaded. -/
inductive TextureFor (size : Size) (earlier : List Entry) : Prop where
  | granted (h : grantedTexture earlier = some size)
  /-- The display was asked for the right texture and did not grant it. -/
  | refused (outcome : Outcome) (hrefused : outcome ≠ .ok) (h : askedTexture earlier = some (size, outcome))
  /-- A frame without pixels, and no texture. -/
  | none (hsize : size = {}) (h : askedTexture earlier = none)

/-- A frame is uploaded into a texture that was asked for in its size. -/
def Entry.FitsTexture (e : Entry) (earlier : List Entry) : Prop :=
  ∀ frame, e.request = .updateTexture frame → TextureFor frame.size earlier

theorem grantedTexture_of_asked {size : Size} {journal : List Entry}
    (h : askedTexture journal = some (size, .ok)) : grantedTexture journal = some size := by
  induction journal with
  | nil => cases h
  | cons e earlier ih =>
    simp only [askedTexture, grantedTexture, List.findSome?_cons] at h ⊢
    cases hsize : e.request.textureSize? with
    | none =>
      rw [hsize] at h
      rw [ite_self]
      exact ih h
    | some asked =>
      rw [hsize] at h
      obtain ⟨rfl, hok⟩ := Prod.mk.inj (Option.some.inj h)
      rw [if_pos hok]

namespace Session

variable {host : Host σ} {s s' : Session σ}

/-- Requests that are not about the texture leave the last one that was asked for. -/
theorem askedTexture_of_asked (h : Asked (·.request.isOfTexture = false) s s') :
    askedTexture s'.journal = askedTexture s.journal := by
  obtain ⟨added, hadded, hother⟩ := h
  have hnone : askedTexture added = none := by
    refine List.findSome?_eq_none_iff.mpr fun e he => ?_
    have hother : e.request.isOfTexture = false := hother e he
    cases hr : e.request with
    | setTextureSize size =>
      rw [hr] at hother
      cases hother
    | _ => rfl
  rw [hadded, askedTexture, List.findSome?_append]
  show (askedTexture added).or (askedTexture s.journal) = askedTexture s.journal
  rw [hnone, Option.none_or]

/-- Frames went into textures of their size, and the last texture that was asked for
has the size of the frame that is shown. -/
structure Textured (s : Session σ) : Prop where
  uploads : Throughout Entry.FitsTexture s.journal
  asked : s.screen.frameSize = ((askedTexture s.journal).map (·.1)).getD {}

namespace Textured

theorem textureFor (h : Textured s) : TextureFor s.screen.frameSize s.journal := by
  have hasked := h.asked
  cases hlast : askedTexture s.journal with
  | none =>
    rw [hlast] at hasked
    exact .none hasked hlast
  | some last =>
    obtain ⟨size, outcome⟩ := last
    rw [hlast] at hasked
    obtain rfl : s.screen.frameSize = size := hasked
    by_cases hok : outcome = .ok
    · exact .granted (grantedTexture_of_asked (hok ▸ hlast))
    · exact .refused outcome hok hlast

theorem uploads_of_asked (h : Textured s) (hasked : Asked (·.request.isOfTexture = false) s s') :
    Throughout Entry.FitsTexture s'.journal :=
  h.uploads.asked hasked fun e hother _ frame hframe => by
    have hother : e.request.isOfTexture = false := hother
    rw [hframe] at hother
    cases hother

/-- A part that has nothing to do with frames. -/
theorem keep (h : Textured s) (hasked : Asked (·.request.isOfTexture = false) s s')
    (hsize : s'.screen.frameSize = s.screen.frameSize) : Textured s' :=
  ⟨h.uploads_of_asked hasked, by rw [hsize, askedTexture_of_asked hasked]; exact h.asked⟩

theorem prepareForFrame {size : Size} {r : Outcome} (h : Textured s)
    (hs : s.prepareForFrame host size = .ok (r, s')) : Textured s' ∧ s'.screen.frameSize = size := by
  rcases prepareForFrame_asked hs with ⟨hsame, -, rfl⟩ | ⟨t, hasked, hr⟩
  · exact ⟨h, hsame⟩
  · have hsize : s'.screen.frameSize = size := by
      rcases (prepareForFrame_effect hs).2 with ⟨hsame, rfl⟩ | ⟨window, rect, hscreen⟩
      · exact hsame
      · rw [hscreen]
    have hbefore := h.uploads_of_asked hasked.untextured
    obtain rfl : (t.request host (.setTextureSize size)).2 = s' := congrArg Prod.snd hr
    exact ⟨⟨hbefore.cons nofun, hsize⟩, hsize⟩

theorem showUploaded (h : Textured s) (hs : s.showUploaded host = .ok s') : Textured s' := by
  obtain ⟨-, window, rect, sent, started, now, rate, -, -, hscreen⟩ := showUploaded_effect hs
  exact h.keep (showUploaded_untextured hs) (by rw [hscreen])

theorem applyFrame {frame : VideoFrame} {r : Except DisplayError Unit} (h : Textured s)
    (hs : s.applyFrame host frame = .ok (r, s')) : Textured s' := by
  obtain ⟨prepared, t, hp, hs⟩ := applyFrame_ok hs
  have ⟨ht, hsize⟩ := h.prepareForFrame hp
  have hu : Textured (t.request host (.updateTexture frame)).2 := by
    refine ⟨ht.uploads.cons fun uploaded huploaded => ?_, ht.asked⟩
    obtain rfl := Request.updateTexture.inj huploaded
    exact hsize ▸ ht.textureFor
  rcases hs with ⟨-, rfl⟩ | ⟨-, ⟨-, rfl⟩ | ⟨-, hs⟩⟩
  · exact ht
  · exact hu
  · exact hu.showUploaded hs

theorem kept (host : Host σ) : Kept host Textured where
  opened _ _ := ⟨.nil, rfl⟩
  still h hjournal hscreen := h.keep (.of_journal hjournal) (by rw [hscreen])
  view h hs hop := by
    obtain ⟨-, _, _, _, _, _, _, -, hscreen⟩ := hs.ofView hop
    exact h.keep (hs.asked hop).untextured (by rw [hscreen])
  initSize h hs := by
    obtain ⟨-, rfl⟩ := initSize_ok hs
    exact ⟨h.uploads.cons nofun, rfl⟩
  prepareForFrame h hs := (h.prepareForFrame hs).1
  applyFrame h hs := h.applyFrame hs

end Textured

/-- **Frames fit their textures.** Whenever a view uploads a frame, the last texture that
the display granted has the size of the frame, unless the display did not grant the
last one, which was asked for in just that size; or the frame has no pixels, and no
texture was ever asked for. -/
theorem run_uploads {startup : Startup} {w : σ} {events : List (Event σ)}
    (hrun : (Session.start host startup w).run host events = .ok s) {e : Entry} {earlier : List Entry}
    (he : e :: earlier <:+ s.journal) {frame : VideoFrame} (hframe : e.request = .updateTexture frame) :
    TextureFor frame.size earlier :=
  ((Textured.kept host).run hrun).uploads e earlier he frame hframe

/-- A stream whose frames change size. -/
def changingRun : List (Event Size) :=
  [.operation (.announce ⟨4, 2⟩), .operation (.push ⟨⟨4, 2⟩, []⟩), .operation .pump,
    .operation (.push ⟨⟨2, 4⟩, []⟩), .operation .pump]

theorem run_uploads_changing : ∃ s e earlier,
    (Session.start cappedHost {} ⟨800, 600⟩).run cappedHost changingRun = .ok s ∧
      e :: earlier <:+ s.journal ∧ e.request = .updateTexture ⟨⟨2, 4⟩, []⟩ ∧ TextureFor ⟨2, 4⟩ earlier := by
  have huploaded : ((Session.start cappedHost {} ⟨800, 600⟩).run cappedHost changingRun).toOption.any
      (decide <| ∃ e ∈ ·.journal, e.request = .updateTexture ⟨⟨2, 4⟩, []⟩) = true := by decide +kernel
  obtain ⟨s, hrun, huploaded⟩ := Except.exists_of_any huploaded
  obtain ⟨e, hmem, hframe⟩ := of_decide_eq_true huploaded
  obtain ⟨later, earlier, hjournal⟩ := List.append_of_mem hmem
  have he : e :: earlier <:+ s.journal := ⟨later, hjournal.symm⟩
  exact ⟨s, e, earlier, hrun, he, hframe, run_uploads hrun he hframe⟩

/-- A display that has a texture of one size only. -/
def fixedTextureHost (granted : Size) : Host Size :=
  { cappedHost with
    perform := fun r w => match r with
      | .setTextureSize size => (if size = granted then .ok else .error, w)
      | _ => cappedHost.perform r w }

/-- A stream that changes the size of its frames and keeps to the new one. -/
def changedRun : List (Event Size) := changingRun ++ [.operation (.push ⟨⟨2, 4⟩, []⟩), .operation .pump]

/-- The exception is real: the first frame of the new size is dropped, and the second
goes into the old texture. -/
theorem uploaded_into_old_texture : ∃ s e earlier,
    (Session.start (fixedTextureHost ⟨4, 2⟩) {} ⟨800, 600⟩).run (fixedTextureHost ⟨4, 2⟩) changedRun = .ok s ∧
      e :: earlier <:+ s.journal ∧ e.request = .updateTexture ⟨⟨2, 4⟩, []⟩ ∧
      grantedTexture earlier = some ⟨4, 2⟩ := by
  have hlast : ((Session.start (fixedTextureHost ⟨4, 2⟩) {} ⟨800, 600⟩).run (fixedTextureHost ⟨4, 2⟩)
      changedRun).toOption.any (fun s => (s.journal.drop 1).head?.any (·.request = .updateTexture ⟨⟨2, 4⟩, []⟩) &&
        grantedTexture (s.journal.drop 1).tail = some ⟨4, 2⟩) = true := by decide +kernel
  obtain ⟨s, hrun, hlast⟩ := Except.exists_of_any hlast
  have hsuffix := List.drop_suffix 1 s.journal
  cases hjournal : s.journal.drop 1 with
  | nil =>
    rw [hjournal] at hlast
    cases hlast
  | cons e earlier =>
    rw [hjournal] at hlast hsuffix
    obtain ⟨hframe, hgranted⟩ := Bool.and_eq_true_iff.mp hlast
    exact ⟨s, e, earlier, hrun, hsuffix, of_decide_eq_true hframe, of_decide_eq_true hgranted⟩

end Session

end RemoteView
