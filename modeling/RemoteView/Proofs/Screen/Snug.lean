/-
Fitting the window to its content. The window shrinks around its centre until content and
panel just fill it (`Session.Snug`). A snug window is laid out without borders, and it stays
as it is when it is fitted again (`Session.resizeToFit_snug`).

There is one window for which the layout is beyond a word. A hidden panel takes no columns,
but its buttons are placed all the same, ten columns to the right of the content; they have
no place if the content ends within the last ten columns that a word can count.
-/
import RemoteView.Proofs.Fitting.Centred
import RemoteView.Proofs.Fitting.Largest
import RemoteView.Proofs.Screen.Effects.Course
import RemoteView.Screen.Surroundings

namespace RemoteView

variable {σ : Type}

/-- A host that draws one pixel for each pixel of the window, and whose window takes every
size and position that it is asked for. -/
structure Host.Obliging (host : Host σ) : Prop where
  drawable : ∀ w, host.drawableSize w = host.windowSize w
  sized : ∀ size w, host.windowSize (host.perform (.setSize size) w).2 = size
  stays : ∀ x y w, host.windowSize (host.perform (.setPosition x y) w).2 = host.windowSize w
  placed : ∀ x y w, host.windowPosition (host.perform (.setPosition (.fixed x) (.fixed y)) w).2 = ⟨x, y⟩

/-- The rectangle fills a window of this size up to the columns of the panel. -/
structure Rect.Borderless (r : Rect) (window : Size) (columns : UInt32) : Prop where
  x : r.x = 0
  y : r.y = 0
  w : r.w.toInt = window.width.toNat - columns.toNat
  h : r.h.toInt = window.height.toNat

/-- Beside content without borders a panel can be laid out exactly if it has no buttons, or if
a word can hold where they begin. -/
theorem Rect.Borderless.layout_ends_iff {r : Rect} {window : Size} {columns : UInt32} {count : Nat}
    (h : r.Borderless window columns) (panelWidth drawableHeight : Int32)
    (hcolumns : columns.toNat < window.width.toNat) (hw : window.width.toNat < 2 ^ 31)
    (hcount : count ≤ Panel.maxButtons) :
    (∃ layout, Panel.Layout.forScreen r panelWidth drawableHeight count = .ok layout) ↔
      count = 0 ∨ window.width.toNat + 10 < 2 ^ 31 + columns.toNat := by
  have hx : r.x.toInt = 0 := by rw [h.x, Int32.toInt_zero]
  have hy : r.y.toInt = 0 := by rw [h.y, Int32.toInt_zero]
  have hwidth := h.w
  have hrows : Panel.Layout.RowsFit r count := Panel.Layout.rowsFit_of_le (by omega) hcount
  unfold Panel.maxButtons at hcount
  rw [Panel.Layout.forScreen_ends_iff_of_right (by omega) (by omega) (by omega), Int32.toInt_ofNat_of_lt (by omega)]
  simp only [hrows, and_true]
  omega

namespace Fitting

/-- A window shrinks to one that keeps one of its sides, and whose centre is less than a pixel
away. Centres are compared in half pixels. -/
structure Shrinks (window : Size) (position : Point) (size : Size) (corner : Point) : Prop where
  width : size.width.toNat ≤ window.width.toNat
  height : size.height.toNat ≤ window.height.toNat
  kept : size.width = window.width ∨ size.height = window.height
  x : ((2 * corner.x.toInt + size.width.toNat) - (2 * position.x.toInt + window.width.toNat)).natAbs < 2
  y : ((2 * corner.y.toInt + size.height.toNat) - (2 * position.y.toInt + window.height.toNat)).natAbs < 2

/-- A window of this size at this place has its centre within a word. -/
structure Near (size : Size) (corner : Point) : Prop where
  x : corner.x.toInt + size.width.toNat / 2 < 2 ^ 31
  y : corner.y.toInt + size.height.toNat / 2 < 2 ^ 31

/-- The window keeps its centre when it shrinks around it. -/
theorem Near.centeredPosition {window size : Size} {position : Point} (h : Near window position)
    (hw : size.width.toNat ≤ window.width.toNat) (hh : size.height.toNat ≤ window.height.toNat)
    (hkept : size.width = window.width ∨ size.height = window.height) :
    (Fitting.centeredPosition position window size).Yields fun corner =>
      Near size corner ∧ Shrinks window position size corner := by
  have hx := h.x
  have hy := h.y
  refine (Fitting.centeredPosition_moves hx hy).mono ?_
  intro corner hcorner
  exact ⟨⟨by omega, by omega⟩, hw, hh, hkept, by omega, by omega⟩

/-- A window that does not shrink does not move. -/
theorem Near.centeredPosition_self {size : Size} {corner : Point} (h : Near size corner) :
    Fitting.centeredPosition corner size size = .ok corner := by
  obtain ⟨p, hp, hpx, hpy⟩ := @Fitting.centeredPosition_moves corner size size h.x h.y
  have hpx : p.x = corner.x := Int32.toInt_inj.mp (by simpa using hpx)
  have hpy : p.y = corner.y := Int32.toInt_inj.mp (by simpa using hpy)
  obtain rfl : p = corner := congr (congrArg Point.mk hpx) hpy
  exact hp

end Fitting

namespace Session

variable {host : Host σ} {s t u : Session σ} {size : Size} {corner : Point}

/-- The size of the content when the borders are cut off. -/
def fittedContent (s : Session σ) (host : Host σ) : Size :=
  Fitting.optimalSize (s.contentWindowSize host) s.screen.contentSize none

/-- Fitting the window asks for this size and this position, and for nothing else. -/
def FitsTo (s : Session σ) (host : Host σ) (size : Size) (corner : Point) (t : Session σ) : Prop :=
  s.resizeToFit host = .ok t ∧
    (t.entriesSince s).map (·.request) = [.setSize size, .setPosition (.fixed corner.x) (.fixed corner.y)]

/-- The window is where and as large as it is said to be, and the content fills it up to the
panel. -/
structure Snug (s : Session σ) (host : Host σ) (size : Size) (corner : Point) : Prop where
  shown : s.screen.hasFrame = true
  free : s.screen.window.isWindowed = true
  content : s.screen.contentSize.isEmpty = false
  window : host.windowSize s.outside = size
  position : host.windowPosition s.outside = corner
  near : Fitting.Near size corner
  pixels : (s.contentWindowSize host).isEmpty = false
  optimal : Fitting.isOptimal (s.contentWindowSize host) s.screen.contentSize = true

/-- Every button has a place beside the content of a window of this size. A panel that is
shown leaves room for its buttons. -/
def ButtonsInReach (s : Session σ) (size : Size) : Prop :=
  s.screen.overlay.visible = false → s.screen.overlay.panel.buttons = [] ∨ size.width.toNat + 10 < 2 ^ 31

/-! ## One fit -/

theorem width_contentWindowSize (s : Session σ) (host : Host σ) :
    (s.contentWindowSize host).width.toNat = (host.windowSize s.outside).width.toNat - s.panelColumns.toNat := by
  have hlt := (host.windowSize s.outside).width.toNat_lt
  exact UInt32.toNat_ofNat_of_lt' (by show _ < 2 ^ 32; omega)

theorem height_contentWindowSize (s : Session σ) (host : Host σ) :
    (s.contentWindowSize host).height = (host.windowSize s.outside).height := rfl

/-- The window has room for content of this size and the panel, and for nothing else. -/
theorem contentWindowSize_eq {content : Size}
    (hwidth : (host.windowSize s.outside).width.toNat = content.width.toNat + s.panelColumns.toNat)
    (hheight : (host.windowSize s.outside).height = content.height) : s.contentWindowSize host = content := by
  have hw : (s.contentWindowSize host).width = content.width := by
    apply UInt32.toNat_inj.mp
    rw [width_contentWindowSize]
    omega
  exact congr (congrArg Size.mk hw) hheight

/-- The session after this size and this position were asked for. -/
def reshaped (s : Session σ) (host : Host σ) (size : Size) (corner : Point) : Session σ :=
  (s.tell host (.setSize size)).tell host (.setPosition (.fixed corner.x) (.fixed corner.y))

@[simp]
theorem panelColumns_reshaped : (s.reshaped host size corner).panelColumns = s.panelColumns := rfl

theorem windowSize_reshaped (hob : host.Obliging) : host.windowSize (s.reshaped host size corner).outside = size :=
  (hob.stays _ _ _).trans (hob.sized size _)

theorem windowPosition_reshaped (hob : host.Obliging) :
    host.windowPosition (s.reshaped host size corner).outside = corner :=
  hob.placed _ _ _

/-- The window gets the size that content and panel need, and moves to where its centre
stays. -/
theorem fitsTo_of_size (hshown : s.screen.hasFrame = true) (hfree : s.screen.window.isWindowed = true)
    (hwidth : size.width.toNat = (s.fittedContent host).width.toNat + s.panelColumns.toNat)
    (hheight : size.height = (s.fittedContent host).height)
    (hcorner : Fitting.centeredPosition (host.windowPosition s.outside) (host.windowSize s.outside) size =
      .ok corner) : s.FitsTo host size corner (s.reshaped host size corner) := by
  have hpanel : s.withPanel (s.fittedContent host) = .ok size := by
    simp only [withPanel, Except.bind_ok_iff, Except.pure_ok_iff]
    exact ⟨size.width, Checked.addU32_eq_ok_iff.mpr hwidth, by rw [← hheight]⟩
  constructor
  · unfold fittedContent at hpanel
    rw [resizeToFit, if_neg (by simp [hshown, hfree])]
    exact Except.bind_ok_iff.mpr ⟨size, hpanel, Except.bind_ok_iff.mpr ⟨corner, hcorner, rfl⟩⟩
  · rw [@entriesSince_of_journal _ s (s.reshaped host size corner) [_, _] rfl]
    rfl

/-- The window without borders is no larger than the one that it is made from, and keeps one of
its sides. -/
theorem exists_fitted_size (hcontent : s.screen.contentSize.isEmpty = false)
    (hcolumns : s.panelColumns < (host.windowSize s.outside).width) :
    ∃ size : Size, size.width.toNat = (s.fittedContent host).width.toNat + s.panelColumns.toNat ∧
      size.height = (s.fittedContent host).height ∧
      size.width.toNat ≤ (host.windowSize s.outside).width.toNat ∧
      size.height.toNat ≤ (host.windowSize s.outside).height.toNat ∧
      (size.width = (host.windowSize s.outside).width ∨ size.height = (host.windowSize s.outside).height) := by
  rw [UInt32.lt_iff_toNat_lt] at hcolumns
  have hwindow := width_contentWindowSize s host
  have hfills : Fitting.Fills (s.fittedContent host) (s.contentWindowSize host) s.screen.contentSize :=
    Fitting.fills_optimalSize hcontent
  have hw := hfills.width
  have hh := hfills.height
  have hacross := hfills.across
  rw [height_contentWindowSize] at hh hacross
  have hbound := (host.windowSize s.outside).width.toNat_lt
  obtain ⟨width, -, hwidth⟩ := Checked.addU32_yields (a := (s.fittedContent host).width) (b := s.panelColumns)
    (by omega)
  have hnarrower : width.toNat ≤ (host.windowSize s.outside).width.toNat := by omega
  refine ⟨⟨width, (s.fittedContent host).height⟩, hwidth, rfl, hnarrower, hh, hacross.imp_left ?_⟩
  intro hwhole
  have hwhole := congrArg UInt32.toNat hwhole
  have hsame : width.toNat = (host.windowSize s.outside).width.toNat := by omega
  exact UInt32.toNat_inj.mp hsame

/-- The window that is asked for is snug. -/
theorem snug_reshaped (hob : host.Obliging) (hshown : s.screen.hasFrame = true)
    (hfree : s.screen.window.isWindowed = true) (hcontent : s.screen.contentSize.isEmpty = false)
    (hfitted : (s.fittedContent host).isEmpty = false) (hnear : Fitting.Near size corner)
    (hwidth : size.width.toNat = (s.fittedContent host).width.toNat + s.panelColumns.toNat)
    (hheight : size.height = (s.fittedContent host).height) :
    (s.reshaped host size corner).Snug host size corner := by
  have hroom : (s.reshaped host size corner).contentWindowSize host = s.fittedContent host := by
    apply contentWindowSize_eq
    · rw [windowSize_reshaped hob, panelColumns_reshaped, hwidth]
    · rw [windowSize_reshaped hob, hheight]
  exact {
    shown := hshown
    free := hfree
    content := hcontent
    window := windowSize_reshaped hob
    position := windowPosition_reshaped hob
    near := hnear
    pixels := by rw [hroom, hfitted]
    optimal := by
      rw [hroom]
      exact Fitting.isOptimal_optimalSize hcontent }

/-! ## Snug windows -/

namespace Snug

theorem columns_lt (h : s.Snug host size corner) : s.panelColumns.toNat < size.width.toNat := by
  have hpos := (Fitting.pos_of_isEmpty h.pixels).1
  rw [width_contentWindowSize, h.window] at hpos
  omega

/-- What is snug already is asked for as it is. -/
theorem fitsTo (h : s.Snug host size corner) : ∃ t, s.FitsTo host size corner t := by
  have hcolumns := h.columns_lt
  have hwidth := width_contentWindowSize s host
  rw [h.window] at hwidth
  have hfitted : s.fittedContent host = s.contentWindowSize host :=
    Fitting.optimalSize_of_isOptimal h.content h.optimal
  refine ⟨_, fitsTo_of_size h.shown h.free ?_ ?_ ?_⟩
  · rw [hfitted]
    omega
  · rw [hfitted, height_contentWindowSize, h.window]
  · rw [h.position, h.window]
    exact h.near.centeredPosition_self

/-- Drawing leaves a window snug as long as it leaves the window where it is. -/
theorem redrawn {rect : Rect} {sent : Bool} (h : s.Snug host size corner)
    (hscreen : t.screen = { s.screen with contentRect := rect, readySent := sent })
    (hsize : host.windowSize t.outside = size) (hposition : host.windowPosition t.outside = corner) :
    t.Snug host size corner := by
  have hroom : t.contentWindowSize host = s.contentWindowSize host := by
    simp only [contentWindowSize, panelColumns, hscreen, hsize, h.window]
  exact {
    shown := by rw [hscreen]; exact h.shown
    free := by rw [hscreen]; exact h.free
    content := by rw [hscreen]; exact h.content
    window := hsize
    position := hposition
    near := h.near
    pixels := by rw [hroom]; exact h.pixels
    optimal := by rw [hroom, hscreen]; exact h.optimal }

/-- Where drawing pixels are window pixels, the panel takes its columns of the window. -/
theorem panelWidth (h : s.Snug host size corner) (hplain : host.drawableSize s.outside = host.windowSize s.outside)
    (hw : size.width.toNat < 2 ^ 31) : (s.panelWidth host).toInt = s.panelColumns.toNat := by
  have hcolumns := h.columns_lt
  rw [Session.panelWidth, hplain, h.window]
  unfold panelColumns at hcolumns ⊢
  by_cases hvisible : s.screen.overlay.visible = true
  · rw [if_pos hvisible] at hcolumns ⊢
    rw [hvisible, Fitting.panelWidthScaled_of_wider (UInt32.lt_iff_toNat_lt.mpr hcolumns) hw]
    rw [Int.mul_ediv_cancel _ (by omega)]
    rfl
  · simp [hvisible, Fitting.panelWidthScaled]

theorem panelShare (h : s.Snug host size corner) (hplain : host.drawableSize s.outside = host.windowSize s.outside)
    (hw : size.width.toNat < 2 ^ 31) : Fitting.panelShare size (s.panelWidth host) = s.panelColumns.toNat := by
  have hcolumns := h.columns_lt
  have hpanel := h.panelWidth hplain hw
  unfold Fitting.panelShare
  omega

/-- What the layout leaves beside the panel is what sizing left beside it. -/
theorem contentArea (h : s.Snug host size corner) (hplain : host.drawableSize s.outside = host.windowSize s.outside)
    (hw : size.width.toNat < 2 ^ 31) : Fitting.contentArea size (s.panelWidth host) = s.contentWindowSize host := by
  have hcolumns := h.columns_lt
  have hwindow := width_contentWindowSize s host
  have hheight := height_contentWindowSize s host
  have harea := Fitting.width_contentArea (s.panelWidth host) hw
  rw [h.window] at hwindow hheight
  rw [h.panelShare hplain hw] at harea
  have hwidth : (Fitting.contentArea size (s.panelWidth host)).width = (s.contentWindowSize host).width :=
    UInt32.toNat_inj.mp (by omega)
  exact congr (congrArg Size.mk hwidth) hheight.symm

/-- The content is laid out without borders. -/
theorem layOut (h : s.Snug host size corner) (hplain : host.drawableSize s.outside = host.windowSize s.outside)
    (hw : size.width.toNat < 2 ^ 31) (hh : size.height.toNat < 2 ^ 31) :
    ∃ rect : Rect, rect.Borderless size s.panelColumns ∧
      s.layOut host = .ok (s.update ({ · with contentRect := rect })) := by
  have hwidth := width_contentWindowSize s host
  have hheight := height_contentWindowSize s host
  have hpos := Fitting.pos_of_isEmpty h.pixels
  obtain ⟨rect, hrect, hr⟩ := Fitting.contentRect_fitted (s.panelWidth host) hw hh h.content
  rw [h.contentArea hplain hw, h.panelShare hplain hw, Fitting.optimalSize_of_isOptimal h.content h.optimal] at hr
  have hx := hr.x
  have hy := hr.y
  have hrw := hr.w
  have hrh := hr.h
  rw [h.window] at hwidth hheight
  rw [hheight] at hy hrh hpos
  refine ⟨rect, ⟨?_, ?_, by omega, by omega⟩, ?_⟩
  · exact Int32.toInt_inj.mp (by rw [Int32.toInt_zero]; omega)
  · exact Int32.toInt_inj.mp (by rw [Int32.toInt_zero]; omega)
  · rw [Session.layOut, if_neg (by simp [h.content]), hplain, h.window]
    exact Except.bind_ok_iff.mpr ⟨rect, hrect, rfl⟩

/-- A panel that is shown takes more columns than the margin of its buttons. -/
theorem buttonsInReach_iff (h : s.Snug host size corner) (hw : size.width.toNat < 2 ^ 31) :
    s.ButtonsInReach size ↔
      s.screen.overlay.panel.buttons.length = 0 ∨ size.width.toNat + 10 < 2 ^ 31 + s.panelColumns.toNat := by
  have hcolumns := h.columns_lt
  unfold ButtonsInReach
  unfold panelColumns at hcolumns ⊢
  rw [List.length_eq_zero_iff]
  cases hvisible : s.screen.overlay.visible with
  | true =>
    have hpanel : Panel.logicalWidth.toNat = 50 := rfl
    rw [if_pos rfl]
    exact ⟨fun _ => .inr (by omega), fun _ => nofun⟩
  | false =>
    have hnone : (0 : UInt32).toNat = 0 := rfl
    rw [if_neg nofun, hnone]
    exact ⟨fun hreach => hreach rfl, fun hreach _ => hreach⟩

/-- The view can be drawn when the size of the window has changed, exactly if every button is
within reach, and then the content has no borders. -/
theorem sizeChanged (h : s.Snug host size corner) (hplain : host.drawableSize s.outside = host.windowSize s.outside)
    (hw : size.width.toNat < 2 ^ 31) (hh : size.height.toNat < 2 ^ 31)
    (hbuttons : s.screen.overlay.panel.buttons.length ≤ Panel.maxButtons) :
    ((∃ u, s.handleWindowEvent host .sizeChanged = .ok u) ↔ s.ButtonsInReach size) ∧
      ∀ u, s.handleWindowEvent host .sizeChanged = .ok u → ∃ rect : Rect, rect.Borderless size s.panelColumns ∧
        u.screen = { s.screen with contentRect := rect, readySent := true } := by
  obtain ⟨rect, hrect, hlaid⟩ := h.layOut hplain hw hh
  generalize ht : s.update ({ · with contentRect := rect }) = t at hlaid
  have hdrawn : s.handleWindowEvent host .sizeChanged = t.present host := by
    rw [handleWindowEvent, if_neg (by simp [h.shown]), render, if_neg (by simp [h.shown]), if_pos rfl, hlaid]
    rfl
  rw [hdrawn]
  constructor
  · rw [h.buttonsInReach_iff hw, ← hrect.layout_ends_iff (s.panelWidth host)
      (host.drawableSize s.outside).height.toInt32 h.columns_lt hw hbuttons]
    constructor
    · rintro ⟨u, hu⟩
      obtain ⟨layout, hlayout, -⟩ := present_ok hu
      rw [← ht] at hlayout
      exact ⟨layout, hlayout⟩
    · rintro ⟨layout, hlayout⟩
      exact ⟨_, Except.bind_ok_iff.mpr ⟨layout, by rw [← ht]; exact hlayout, rfl⟩⟩
  · intro u hu
    refine ⟨rect, hrect, ?_⟩
    rw [(present_effect hu).2, ← ht]
    rfl

end Snug

/-! ## A window that is fitted -/

/-- **The window fits.** The window shrinks around its centre, to a size at which the content
is laid out without borders, and fitting it again asks for the same. When its size has changed
it is drawn so, unless the buttons of a hidden panel are out of reach. -/
theorem resizeToFit_snug (hob : host.Obliging) (hshown : s.screen.hasFrame = true)
    (hfree : s.screen.window.isWindowed = true) (hcontent : s.screen.contentSize.isEmpty = false)
    (hw : (host.windowSize s.outside).width.toNat ≤ 2 ^ 31 - 1)
    (hh : (host.windowSize s.outside).height.toNat ≤ 2 ^ 31 - 1)
    (hnear : Fitting.Near (host.windowSize s.outside) (host.windowPosition s.outside))
    (hcolumns : s.panelColumns < (host.windowSize s.outside).width)
    (hfitted : (s.fittedContent host).isEmpty = false)
    (hbuttons : s.screen.overlay.panel.buttons.length ≤ Panel.maxButtons) :
    ∃ size corner t, s.FitsTo host size corner t ∧
      Fitting.Shrinks (host.windowSize s.outside) (host.windowPosition s.outside) size corner ∧
      (∃ again, t.FitsTo host size corner again) ∧
      (t.layOut host).Yields (·.screen.contentRect.Borderless size s.panelColumns) ∧
      ((∃ drawn, t.handleWindowEvent host .sizeChanged = .ok drawn) ↔ s.ButtonsInReach size) ∧
      ∀ drawn, t.handleWindowEvent host .sizeChanged = .ok drawn →
        drawn.screen.contentRect.Borderless size s.panelColumns ∧
        (host.windowSize drawn.outside = size → host.windowPosition drawn.outside = corner →
          ∃ again, drawn.FitsTo host size corner again) := by
  obtain ⟨size, hwidth, hheight, hnarrower, hlower, hkept⟩ := exists_fitted_size hcontent hcolumns
  obtain ⟨corner, hcorner, hnear', hshrinks⟩ := hnear.centeredPosition hnarrower hlower hkept
  have hfits := fitsTo_of_size hshown hfree hwidth hheight hcorner
  have hsnug := snug_reshaped hob hshown hfree hcontent hfitted hnear' hwidth hheight
  obtain ⟨rect, hrect, hlaid⟩ := hsnug.layOut (hob.drawable _) (by omega) (by omega)
  obtain ⟨hends, hdrawn⟩ := hsnug.sizeChanged (hob.drawable _) (by omega) (by omega) hbuttons
  refine ⟨size, corner, _, hfits, hshrinks, hsnug.fitsTo, ⟨_, hlaid, hrect⟩, hends, ?_⟩
  intro drawn hd
  obtain ⟨rect, hrect, hlater⟩ := hdrawn drawn hd
  constructor
  · rw [hlater]
    exact hrect
  · intro hsize hposition
    exact (hsnug.redrawn hlater hsize hposition).fitsTo

/-- A host for examples: a window that draws one pixel for each of its own. -/
def plainHost : Host Surroundings := { Surroundings.host with drawableSize := Surroundings.size }

theorem plainHost_obliging : plainHost.Obliging where
  drawable _ := rfl
  sized _ _ := rfl
  stays _ _ _ := rfl
  placed _ _ _ := rfl

/-- The window is made wider than its content and the panel. -/
def widenedRun : List (Event Surroundings) :=
  [.operation (.announce ⟨400, 300⟩), .operation (.push ⟨⟨400, 300⟩, []⟩), .operation .pump,
    .outside { size := ⟨1000, 600⟩, position := ⟨100, 50⟩ }]

theorem resizeToFit_snug_widened : ∃ s size corner t drawn,
    (Session.start plainHost { panelShow := true } {}).run plainHost widenedRun = .ok s ∧
      s.FitsTo plainHost size corner t ∧ Fitting.Shrinks ⟨1000, 600⟩ ⟨100, 50⟩ size corner ∧
      t.handleWindowEvent plainHost .sizeChanged = .ok drawn ∧ drawn.screen.contentRect.Borderless size 50 := by
  have hwidened : ((Session.start plainHost { panelShow := true } {}).run plainHost widenedRun).toOption.any
      (fun s => s.screen.hasFrame = true ∧ s.screen.window.isWindowed = true ∧ s.screen.contentSize.isEmpty = false ∧
        plainHost.windowSize s.outside = ⟨1000, 600⟩ ∧ plainHost.windowPosition s.outside = ⟨100, 50⟩ ∧
        s.panelColumns = 50 ∧ (s.fittedContent plainHost).isEmpty = false ∧
        s.screen.overlay.panel.buttons = []) = true := by
    decide +kernel
  obtain ⟨s, hrun, hwidened⟩ := Except.exists_of_any hwidened
  obtain ⟨hshown, hfree, hcontent, hwindow, hposition, hcolumns, hfitted, hbuttons⟩ := of_decide_eq_true hwidened
  obtain ⟨size, corner, t, hfits, hshrinks, -, -, hends, hdrawn⟩ :=
    resizeToFit_snug plainHost_obliging hshown hfree hcontent (by rw [hwindow]; decide) (by rw [hwindow]; decide)
      (by rw [hwindow, hposition]; exact ⟨by decide, by decide⟩) (by rw [hwindow, hcolumns]; decide) hfitted
      (by rw [hbuttons]; decide)
  obtain ⟨drawn, hd⟩ := hends.mpr fun _ => .inl hbuttons
  rw [hwindow, hposition] at hshrinks
  rw [hcolumns] at hdrawn
  exact ⟨s, size, corner, t, drawn, hrun, hfits, hshrinks, hd, (hdrawn drawn hd).1⟩

/-- The panel is hidden with a button on it, and the window is made as wide as a word can count. -/
def stretchedRun : List (Event Surroundings) :=
  [.operation (.updatePanel (some false) [⟨"a", "A"⟩]), .operation (.announce ⟨200, 100⟩),
    .operation (.push ⟨⟨200, 100⟩, []⟩), .operation .pump, .outside { size := ⟨2147483647, 2147483647⟩ }]

/-- The exception is real: the window is fitted, and then the view cannot be drawn. -/
theorem hidden_button_out_of_reach : plainHost.Obliging ∧ ∃ s t,
    (Session.start plainHost { panelShow := true } {}).run plainHost stretchedRun = .ok s ∧
      s.screen.hasFrame = true ∧ s.screen.window.isWindowed = true ∧ s.screen.contentSize = ⟨200, 100⟩ ∧
      s.panelColumns = 0 ∧ s.fittedContent plainHost = ⟨2147483647, 1073741823⟩ ∧
      plainHost.windowSize s.outside = ⟨2147483647, 2147483647⟩ ∧ plainHost.windowPosition s.outside = {} ∧
      Fitting.Near (plainHost.windowSize s.outside) (plainHost.windowPosition s.outside) ∧
      s.FitsTo plainHost ⟨2147483647, 1073741823⟩ ⟨0, 536870912⟩ t ∧
      t.handleWindowEvent plainHost .sizeChanged = .error .addOverflow :=
  ⟨plainHost_obliging, _, _, rfl, rfl, rfl, rfl, rfl, rfl, rfl, rfl, ⟨by decide, by decide⟩, ⟨rfl, rfl⟩, rfl⟩

end Session

end RemoteView
