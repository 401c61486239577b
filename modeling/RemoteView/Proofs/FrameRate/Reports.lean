/-
Each frame that comes while a meter runs is in one report, or is still held. The readings that
are taken in such a time divide into intervals: the first is opened by the start of the meter,
and each further one by frames that come at least a second after the last one began. These
bring the report of it and are counted in the interval that they open (`run_reports`).
-/
import Mathlib.Algebra.GroupWithZero.Nat
import Mathlib.Data.List.Chain
import RemoteView.Proofs.FrameRate

namespace RemoteView

/-- What became of a frame. A meter counts both kinds in the same way. -/
inductive FrameKind where
  | shown
  | skipped

def FrameReport.count (report : FrameReport) : FrameKind → Nat
  | .shown => report.rendered.toNat
  | .skipped => report.skipped.toNat

namespace FrameRate

/-- The frames of one kind that a meter counted in its running interval. -/
def held (r : FrameRate) : FrameKind → Nat
  | .shown => r.rendered.toNat
  | .skipped => r.skipped.toNat

/-- The frames of one kind that a meter counted in all its time. -/
def total (r : FrameRate) : FrameKind → Nat
  | .shown => r.renderedTotal.toNat
  | .skipped => r.skippedTotal.toNat

/-- What a meter can be told. -/
inductive Event where
  | start (now : Instant)
  | rendered (now : Instant)
  | skipped (count : UInt32) (now : Instant)
  | stop

/-- Frames that came at one moment. -/
structure Arrival where
  moment : Instant
  shown : Nat
  skipped : Nat

def Arrival.count (a : Arrival) : FrameKind → Nat
  | .shown => a.shown
  | .skipped => a.skipped

/-- The frames that come with an event, if there are any. -/
def Event.arrival? : Event → Option Arrival
  | .rendered now => some ⟨now, 1, 0⟩
  | .skipped count now => if count = 0 then none else some ⟨now, 0, count.toNat⟩
  | .start _ | .stop => none

def frameCount (kind : FrameKind) (frames : List Arrival) : Nat := (frames.map (·.count kind)).sum

/-- The meter after an event. -/
def tell (r : FrameRate) : Event → Except Fault FrameRate
  | .start now => return r.start now
  | .rendered now => r.addRendered now
  | .skipped count now => r.addSkipped count now
  | .stop => return r.stop

/-- The meter as if it had never reported. -/
def unreported (r : FrameRate) : FrameRate := { r with lastReport := none }

/-- The report that an event brings. It is what the event leaves as the last report if there
was none before. -/
def report? (r : FrameRate) (event : Event) : Except Fault (Option FrameReport) :=
  return (← r.unreported.tell event).lastReport

/-- An event, the report that it brought, and the meter after it. -/
structure Reading where
  event : Event
  report : Option FrameReport
  rate : FrameRate

/-- The meter at the end of a record, which is a new one at first. -/
def current (record : List Reading) : FrameRate := (record.getLast?.map (·.rate)).getD {}

def step (record : List Reading) (event : Event) : Except Fault (List Reading) := do
  let report ← (current record).report? event
  let rate ← (current record).tell event
  return record ++ [⟨event, report, rate⟩]

/-- The readings of a new meter that is told some events. -/
def run (events : List Event) : Except Fault (List Reading) := events.foldlM step []

def arrivals (events : List Event) : List Arrival := events.filterMap (·.arrival?)

/-- What the meter was told while some readings were taken. -/
def told (record : List Reading) : List Event := record.map (·.event)

def reports (record : List Reading) : List FrameReport := record.filterMap (·.report)

variable {r r' : FrameRate} {event : Event} {a : Arrival} {record session : List Reading} {begun : Instant}

@[simp] theorem frameCount_nil (kind : FrameKind) : frameCount kind [] = 0 := rfl

@[simp] theorem frameCount_singleton (kind : FrameKind) (a : Arrival) : frameCount kind [a] = a.count kind := by
  simp [frameCount]

@[simp] theorem frameCount_append (kind : FrameKind) (l l' : List Arrival) :
    frameCount kind (l ++ l') = frameCount kind l + frameCount kind l' := by
  simp [frameCount]

theorem count_report (r : FrameRate) (kind : FrameKind) :
    FrameReport.count ⟨r.rendered, r.skipped⟩ kind = r.held kind := by
  cases kind <;> rfl

theorem total_unreported (r : FrameRate) (kind : FrameKind) : r.unreported.total kind = r.total kind := by
  cases kind <;> rfl

@[simp] theorem current_concat (record : List Reading) (reading : Reading) :
    current (record ++ [reading]) = reading.rate := by
  simp [current]

@[simp] theorem told_concat (record : List Reading) (reading : Reading) :
    told (record ++ [reading]) = told record ++ [reading.event] := by
  simp [told]

theorem current_append (earlier : List Reading) (h : session ≠ []) :
    current (earlier ++ session) = current session := by
  obtain ⟨last, hlast⟩ := Option.ne_none_iff_exists'.mp (mt List.getLast?_eq_none_iff.mp h)
  simp [current, List.getLast?_append, hlast]

theorem arrivals_cons (event : Event) (events : List Event) :
    arrivals (event :: events) = event.arrival?.toList ++ arrivals events := by
  rw [arrivals, List.filterMap_cons]
  cases event.arrival? <;> rfl

theorem arrivals_concat (events : List Event) (event : Event) :
    arrivals (events ++ [event]) = arrivals events ++ event.arrival?.toList := by
  rw [arrivals, List.filterMap_append]
  exact congrArg (arrivals events ++ ·) ((arrivals_cons event []).trans (List.append_nil _))

theorem reports_concat (record : List Reading) (reading : Reading) :
    reports (record ++ [reading]) = reports record ++ reading.report.toList := by
  rw [reports, List.filterMap_append]
  cases hreport : reading.report <;> simp [reports, hreport]

/-! ## One event -/

theorem roll_early {now : Instant} (hbegun : r.intervalStart = some begun) (h : now - begun < interval) :
    r.roll now = r := by
  rw [roll, hbegun]
  exact if_pos h

theorem roll_late {now : Instant} (hbegun : r.intervalStart = some begun) (h : ¬now - begun < interval) :
    r.roll now = { r with
      intervalStart := some now, rendered := 0, skipped := 0, lastReport := some ⟨r.rendered, r.skipped⟩ } := by
  rw [roll, hbegun]
  exact if_neg h

theorem reported_early {now : Instant} (hbegun : r.intervalStart = some begun) (h : now - begun < interval) :
    (r.unreported.roll now).lastReport = none :=
  congrArg lastReport (roll_early (r := r.unreported) hbegun h)

theorem reported_late {now : Instant} (hbegun : r.intervalStart = some begun) (h : ¬now - begun < interval) :
    (r.unreported.roll now).lastReport = some ⟨r.rendered, r.skipped⟩ :=
  congrArg lastReport (roll_late (r := r.unreported) hbegun h)

theorem reported_of_stopped {now : Instant} (h : r.isStarted = false) :
    (r.unreported.roll now).lastReport = none :=
  congrArg lastReport (roll_of_stopped (r := r.unreported) h)

/-- The reading is what a meter gives when it is told the event. -/
structure Answers (r : FrameRate) (reading : Reading) : Prop where
  report : r.report? reading.event = .ok reading.report
  rate : r.tell reading.event = .ok reading.rate

theorem tell_arrival (ha : event.arrival? = some a) (h : r.tell event = .ok r') :
    CountedAt a.moment a.shown a.skipped r r' := by
  cases event with
  | start now | stop => cases ha
  | rendered now =>
    cases ha
    exact addRendered_countedAt h
  | skipped count now =>
    simp only [Event.arrival?] at ha
    split at ha
    next => cases ha
    next hcount =>
      cases ha
      exact addSkipped_countedAt hcount h

theorem CountedAt.total (h : CountedAt a.moment a.shown a.skipped r r') (kind : FrameKind) :
    r'.total kind = r.total kind + a.count kind := by
  cases kind with
  | shown => exact h.renderedTotal
  | skipped => exact h.skippedTotal

theorem CountedAt.held (h : CountedAt a.moment a.shown a.skipped r r') (hstarted : r.isStarted = true)
    (kind : FrameKind) : r'.held kind = (r.roll a.moment).held kind + a.count kind := by
  cases kind with
  | shown => exact h.rendered.trans (by rw [if_pos hstarted]; rfl)
  | skipped => exact h.skipped.trans (by rw [if_pos hstarted]; rfl)

/-- Without frames, only starting and stopping do something. -/
theorem tell_without (ha : event.arrival? = none) (h : r.tell event = .ok r') :
    r' = r ∨ (∃ now, event = .start now ∧ r' = r.start now) ∨ event = .stop ∧ r' = r.stop := by
  cases event with
  | start now => exact .inr (.inl ⟨now, rfl, (Except.pure_ok_iff.mp h).symm⟩)
  | rendered now => cases ha
  | skipped count now =>
    simp only [Event.arrival?] at ha
    split at ha
    next hcount =>
      subst hcount
      exact .inl (addSkipped_none h)
    next => cases ha
  | stop => exact .inr (.inr ⟨rfl, (Except.pure_ok_iff.mp h).symm⟩)

theorem total_start (r : FrameRate) (now : Instant) (kind : FrameKind) :
    (r.start now).total kind = r.total kind := by
  cases kind with
  | shown => exact congrArg UInt64.toNat (renderedTotal_start r now)
  | skipped => exact congrArg UInt64.toNat (skippedTotal_start r now)

theorem total_tell (h : r.tell event = .ok r') (kind : FrameKind) :
    r'.total kind = r.total kind + frameCount kind event.arrival?.toList := by
  cases ha : event.arrival? with
  | none =>
    rcases tell_without ha h with rfl | ⟨now, -, rfl⟩ | ⟨-, rfl⟩
    · rfl
    · exact total_start r now kind
    · rfl
  | some a => simpa using (tell_arrival ha h).total kind

theorem Consistent.tell (hr : r.Consistent) (h : r.tell event = .ok r') : r'.Consistent := by
  cases ha : event.arrival? with
  | none =>
    rcases tell_without ha h with rfl | ⟨now, -, rfl⟩ | ⟨-, rfl⟩
    · exact hr
    · exact hr.start now
    · exact hr.stop
  | some a => exact hr.added (tell_arrival ha h).added

theorem tell_succeeds (hr : r.Consistent)
    (room : ∀ kind, r.total kind + frameCount kind event.arrival?.toList < 2 ^ 32) :
    ∃ r', r.tell event = .ok r' := by
  cases event with
  | start now | stop => exact ⟨_, rfl⟩
  | rendered now =>
    obtain ⟨r', h, -⟩ := addRendered_yields hr now (room .shown)
    exact ⟨r', h⟩
  | skipped count now =>
    by_cases hcount : count = 0
    · subst hcount
      exact ⟨r, rfl⟩
    · have hroom : r.skippedTotal.toNat + count.toNat < 2 ^ 32 := by
        simpa [Event.arrival?, hcount, total, Arrival.count] using room .skipped
      obtain ⟨r', h, -⟩ := addSkipped_yields hr count now hroom
      exact ⟨r', h⟩

theorem lastReport_without (ha : event.arrival? = none) (h : r.tell event = .ok r') :
    r'.lastReport = r.lastReport := by
  rcases tell_without ha h with rfl | ⟨now, -, rfl⟩ | ⟨-, rfl⟩
  · rfl
  · unfold start
    split <;> rfl
  · rfl

/-- What comes now is counted in the running interval. -/
structure GoesOn (begun : Instant) (r : FrameRate) (reading : Reading) : Prop where
  intervalStart : reading.rate.intervalStart = some begun
  unreported : reading.report = none
  timely : ∀ a, reading.event.arrival? = some a → a.moment - begun < interval
  held : ∀ kind, reading.rate.held kind = r.held kind + frameCount kind reading.event.arrival?.toList

/-- What comes now is too late for the running interval. It brings the report of that, and is
counted in the next one. -/
structure Closes (begun : Instant) (a : Arrival) (r : FrameRate) (reading : Reading) : Prop where
  arrival : reading.event.arrival? = some a
  late : interval ≤ a.moment - begun
  intervalStart : reading.rate.intervalStart = some a.moment
  reported : reading.report = some ⟨r.rendered, r.skipped⟩
  held : ∀ kind, reading.rate.held kind = a.count kind

namespace Answers

variable {reading : Reading}

theorem report_arrival (h : Answers r reading) (ha : reading.event.arrival? = some a) :
    reading.report = (r.unreported.roll a.moment).lastReport := by
  obtain ⟨fresh, hfresh, hreport⟩ := Except.bind_ok_iff.mp h.report
  rw [← Except.pure_ok_iff.mp hreport, (tell_arrival ha hfresh).lastReport]

theorem report_without (h : Answers r reading) (ha : reading.event.arrival? = none) : reading.report = none := by
  obtain ⟨fresh, hfresh, hreport⟩ := Except.bind_ok_iff.mp h.report
  rw [← Except.pure_ok_iff.mp hreport, lastReport_without ha hfresh]
  rfl

theorem goesOn_without (h : Answers r reading) (hbegun : r.intervalStart = some begun)
    (hstarted : reading.rate.isStarted = true) (ha : reading.event.arrival? = none) :
    GoesOn begun r reading := by
  have hrunning : r.isStarted = true := by simp [isStarted, hbegun]
  have hsame : reading.rate = r := by
    rcases tell_without ha h.rate with hrate | ⟨now, -, hrate⟩ | ⟨-, hrate⟩
    · exact hrate
    · rw [hrate, start, if_pos hrunning]
    · rw [hrate] at hstarted
      cases hstarted
  exact ⟨hsame ▸ hbegun, h.report_without ha, by simp [ha], fun kind => by simp [hsame, ha]⟩

theorem goesOn_of_early (h : Answers r reading) (hbegun : r.intervalStart = some begun)
    (ha : reading.event.arrival? = some a) (hearly : a.moment - begun < interval) : GoesOn begun r reading := by
  have hrunning : r.isStarted = true := by simp [isStarted, hbegun]
  have hrate := tell_arrival ha h.rate
  have hrolled : r.roll a.moment = r := roll_early hbegun hearly
  refine ⟨?_, (h.report_arrival ha).trans (reported_early hbegun hearly), ?_, ?_⟩
  · rw [hrate.intervalStart, hrolled, hbegun]
  · intro a' ha'
    cases ha.symm.trans ha'
    exact hearly
  · intro kind
    rw [hrate.held hrunning, hrolled, ha, Option.toList_some, frameCount_singleton]

theorem closes_of_late (h : Answers r reading) (hbegun : r.intervalStart = some begun)
    (ha : reading.event.arrival? = some a) (hlate : ¬a.moment - begun < interval) :
    Closes begun a r reading := by
  have hrunning : r.isStarted = true := by simp [isStarted, hbegun]
  have hrate := tell_arrival ha h.rate
  have hrolled := roll_late hbegun hlate
  refine ⟨ha, Rat.not_lt.mp hlate, ?_, (h.report_arrival ha).trans (reported_late hbegun hlate), ?_⟩
  · rw [hrate.intervalStart, hrolled]
  · intro kind
    have hfresh : (r.roll a.moment).held kind = 0 := by
      rw [hrolled]
      cases kind <;> rfl
    rw [hrate.held hrunning, hfresh, Nat.zero_add]

/-- What one event does to a meter that runs and is not stopped. -/
theorem goesOn_or_closes (h : Answers r reading) (hbegun : r.intervalStart = some begun)
    (hstarted : reading.rate.isStarted = true) : GoesOn begun r reading ∨ ∃ a, Closes begun a r reading := by
  cases ha : reading.event.arrival? with
  | none => exact .inl (h.goesOn_without hbegun hstarted ha)
  | some a =>
    by_cases hearly : a.moment - begun < interval
    · exact .inl (h.goesOn_of_early hbegun ha hearly)
    · exact .inr ⟨a, h.closes_of_late hbegun ha hearly⟩

/-- The start of a meter that stood still opens an interval without frames. -/
theorem starts (h : Answers r reading) (hstopped : r.isStarted = false)
    (hstarted : reading.rate.isStarted = true) :
    ∃ now, reading.event = .start now ∧ reading.report = none ∧ reading.rate.intervalStart = some now ∧
      ∀ kind, reading.rate.held kind = 0 := by
  cases ha : reading.event.arrival? with
  | none =>
    rcases tell_without ha h.rate with hrate | ⟨now, hevent, hrate⟩ | ⟨-, hrate⟩
    · rw [hrate, hstopped] at hstarted
      cases hstarted
    · rw [start, if_neg (by simp [hstopped])] at hrate
      exact ⟨now, hevent, h.report_without ha, by rw [hrate], fun kind => by rw [hrate]; cases kind <;> rfl⟩
    · rw [hrate] at hstarted
      cases hstarted
  | some a =>
    rw [(tell_arrival ha h.rate).added.started, hstopped] at hstarted
    cases hstarted

/-- Only a meter that runs reports, and what it reports is the last report from then on. -/
theorem reported (h : Answers r reading) :
    reading.report = none ∧ reading.rate.lastReport = r.lastReport ∨
      ∃ report, reading.report = some report ∧ reading.rate.lastReport = some report ∧
        reading.rate.isStarted = true := by
  cases ha : reading.event.arrival? with
  | none => exact .inl ⟨h.report_without ha, lastReport_without ha h.rate⟩
  | some a =>
    have hrate := tell_arrival ha h.rate
    have hreport := h.report_arrival ha
    cases hbegun : r.intervalStart with
    | none =>
      have hstopped : r.isStarted = false := by simp [isStarted, hbegun]
      exact .inl ⟨hreport.trans (reported_of_stopped hstopped),
        by rw [hrate.lastReport, roll_of_stopped hstopped]⟩
    | some begun =>
      by_cases hearly : a.moment - begun < interval
      · exact .inl ⟨hreport.trans (reported_early hbegun hearly),
          by rw [hrate.lastReport, roll_early hbegun hearly]⟩
      · refine .inr ⟨_, hreport.trans (reported_late hbegun hearly),
          by rw [hrate.lastReport, roll_late hbegun hearly], ?_⟩
        rw [hrate.added.started]
        simp [isStarted, hbegun]

end Answers

/-! ## Intervals -/

/-- Readings in a row, the first of which opened an interval at the moment `begun`. -/
structure Interval where
  begun : Instant
  opening : Reading
  further : List Reading := []

namespace Interval

def readings (i : Interval) : List Reading := i.opening :: i.further

/-- The frames that are counted in the interval. -/
def frames (i : Interval) : List Arrival := arrivals (told i.readings)

/-- No report comes while the interval goes on, and its frames come less than a second after
it began. -/
structure Sound (i : Interval) : Prop where
  unreported : ∀ reading ∈ i.further, reading.report = none
  timely : ∀ a ∈ i.frames, a.moment - i.begun < interval

/-- The interval `j` was opened by frames that came a second or more after `i` began, and that
brought the report of the frames of `i`. -/
structure Precedes (i j : Interval) : Prop where
  opened : ∃ a, j.opening.event.arrival? = some a ∧ a.moment = j.begun
  late : interval ≤ j.begun - i.begun
  reported : ∃ report, j.opening.report = some report ∧ ∀ kind, report.count kind = frameCount kind i.frames

def extend (i : Interval) (reading : Reading) : Interval := { i with further := i.further ++ [reading] }

/-- An interval that has just been opened. -/
theorem frames_opening (begun : Instant) (reading : Reading) :
    frames ⟨begun, reading, []⟩ = reading.event.arrival?.toList :=
  (arrivals_cons reading.event []).trans (List.append_nil _)

theorem readings_extend (i : Interval) (reading : Reading) :
    (i.extend reading).readings = i.readings ++ [reading] := rfl

theorem frames_extend (i : Interval) (reading : Reading) :
    (i.extend reading).frames = i.frames ++ reading.event.arrival?.toList := by
  rw [frames, readings_extend, told_concat, arrivals_concat]
  rfl

end Interval

/-- The readings of a session divide into intervals that follow one another. The last one is
still running, and the meter `r` holds its frames. -/
structure Divided (session : List Reading) (r : FrameRate) (closed : List Interval) (running : Interval) :
    Prop where
  readings : (closed ++ [running]).flatMap Interval.readings = session
  first : ∀ i, (closed ++ [running]).head? = some i →
    i.opening.event = .start i.begun ∧ i.opening.report = none
  sound : ∀ i ∈ closed ++ [running], i.Sound
  follow : (closed ++ [running]).IsChain Interval.Precedes
  begun : r.intervalStart = some running.begun
  held : ∀ kind, r.held kind = frameCount kind running.frames

/-- The frames of a session are those in its reports and those that the meter `r` holds. -/
def Tallied (session : List Reading) (r : FrameRate) : Prop :=
  ∀ kind, ((reports session).map (·.count kind)).sum + r.held kind = frameCount kind (arrivals (told session))

section

variable {reading : Reading} {closed : List Interval} {running : Interval}

theorem Interval.Sound.extend (h : running.Sound) (hs : GoesOn running.begun r reading) :
    (running.extend reading).Sound := by
  refine ⟨fun other hother => ?_, fun a ha => ?_⟩
  · rcases List.mem_append.mp hother with hother | hother
    · exact h.unreported other hother
    · exact List.mem_singleton.mp hother ▸ hs.unreported
  · rw [Interval.frames_extend] at ha
    rcases List.mem_append.mp ha with ha | ha
    · exact h.timely a ha
    · exact hs.timely a (Option.mem_toList.mp ha)

/-- A meter that starts is at the beginning of its first interval. -/
theorem divided_start {now : Instant} (hevent : reading.event = .start now) (hreport : reading.report = none)
    (hbegun : reading.rate.intervalStart = some now) (hheld : ∀ kind, reading.rate.held kind = 0) :
    Divided [reading] reading.rate [] ⟨now, reading, []⟩ := by
  have hframes : Interval.frames ⟨now, reading, []⟩ = [] := by
    rw [Interval.frames_opening, hevent]
    rfl
  refine ⟨rfl, ?_, ?_, List.isChain_singleton _, hbegun, fun kind => by simp [hframes, hheld]⟩
  · intro i hi
    cases hi
    exact ⟨hevent, hreport⟩
  · intro i hi
    cases List.mem_singleton.mp hi
    exact ⟨List.forall_mem_nil _, by simp [hframes]⟩

theorem Divided.goesOn (h : Divided session r closed running) (hs : GoesOn running.begun r reading) :
    Divided (session ++ [reading]) reading.rate closed (running.extend reading) := by
  refine ⟨?_, ?_, ?_, ?_, hs.intervalStart, fun kind => ?_⟩
  · simp [← h.readings, Interval.readings_extend]
  · have hfirst := h.first
    cases closed with
    | nil => simpa [Interval.extend] using hfirst
    | cons i rest => simpa using hfirst
  · intro i hi
    rcases List.mem_append.mp hi with hi | hi
    · exact h.sound i (List.mem_append_left _ hi)
    · rw [List.mem_singleton.mp hi]
      exact (h.sound running (by simp)).extend hs
  · obtain ⟨hclosed, -, hlast⟩ := List.isChain_append.mp h.follow
    refine hclosed.append (List.isChain_singleton _) ?_
    rintro i hi _ ⟨⟩
    have hprecedes := hlast i hi running rfl
    exact ⟨hprecedes.opened, hprecedes.late, hprecedes.reported⟩
  · rw [Interval.frames_extend, frameCount_append, hs.held, h.held]

theorem Divided.closes (h : Divided session r closed running) (hs : Closes running.begun a r reading) :
    Divided (session ++ [reading]) reading.rate (closed ++ [running]) ⟨a.moment, reading, []⟩ := by
  have hframes : Interval.frames ⟨a.moment, reading, []⟩ = [a] := by
    rw [Interval.frames_opening, hs.arrival]
    rfl
  refine ⟨?_, ?_, ?_, ?_, hs.intervalStart, fun kind => by simp [hframes, hs.held]⟩
  · simp [← h.readings, Interval.readings]
  · have hfirst := h.first
    cases closed with
    | nil => simpa using hfirst
    | cons i rest => simpa using hfirst
  · intro i hi
    rcases List.mem_append.mp hi with hi | hi
    · exact h.sound i hi
    · rw [List.mem_singleton.mp hi]
      refine ⟨List.forall_mem_nil _, ?_⟩
      simp only [hframes, List.mem_singleton, forall_eq, Rat.sub_self]
      decide
  · refine h.follow.append (List.isChain_singleton _) ?_
    rintro i hi _ ⟨⟩
    obtain rfl : running = i := by simpa using hi
    exact ⟨⟨a, hs.arrival, rfl⟩, hs.late, _, hs.reported, fun kind => (r.count_report kind).trans (h.held kind)⟩

theorem tallied_start {now : Instant} (hevent : reading.event = .start now) (hreport : reading.report = none)
    (hheld : ∀ kind, reading.rate.held kind = 0) : Tallied [reading] reading.rate := by
  have harrivals : arrivals (told [reading]) = [] := by simp [told, arrivals, hevent, Event.arrival?]
  intro kind
  simp [harrivals, reports, hreport, hheld]

theorem Tallied.goesOn (h : Tallied session r) (hs : GoesOn begun r reading) :
    Tallied (session ++ [reading]) reading.rate := by
  have hreports : reports (session ++ [reading]) = reports session := by simp [reports_concat, hs.unreported]
  intro kind
  rw [hreports, told_concat, arrivals_concat, frameCount_append, ← h kind, hs.held, Nat.add_assoc]

theorem Tallied.closes (h : Tallied session r) (hs : Closes begun a r reading) :
    Tallied (session ++ [reading]) reading.rate := by
  have hreports : reports (session ++ [reading]) = reports session ++ [⟨r.rendered, r.skipped⟩] := by
    simp [reports_concat, hs.reported]
  intro kind
  rw [hreports, told_concat, arrivals_concat, frameCount_append, ← h kind, hs.held, hs.arrival]
  simp [r.count_report kind]

/-- Each frame of a session is counted once. -/
def Partitioned (session : List Reading) : Prop :=
  ∃ last closed running, session.getLast? = some last ∧ Divided session last.rate closed running ∧
    Tallied session last.rate

theorem Partitioned.concat (h : Partitioned session) (hs : Answers (current session) reading)
    (hstarted : reading.rate.isStarted = true) : Partitioned (session ++ [reading]) := by
  obtain ⟨last, closed, running, hlast, hdivided, htallied⟩ := h
  have hcurrent : current session = last.rate := by simp [current, hlast]
  rw [hcurrent] at hs
  rcases hs.goesOn_or_closes hdivided.begun hstarted with hgoes | ⟨a, hcloses⟩
  · exact ⟨reading, _, _, by simp, hdivided.goesOn hgoes, htallied.goesOn hgoes⟩
  · exact ⟨reading, _, _, by simp, hdivided.closes hcloses, htallied.closes hcloses⟩

theorem partitioned_singleton (hs : Answers r reading) (hstopped : r.isStarted = false)
    (hstarted : reading.rate.isStarted = true) : Partitioned [reading] := by
  obtain ⟨now, hevent, hreport, hbegun, hheld⟩ := hs.starts hstopped hstarted
  exact ⟨reading, _, _, rfl, divided_start hevent hreport hbegun hheld, tallied_start hevent hreport hheld⟩

end

/-! ## Every run -/

/-- A longest part of a record in which the meter runs. -/
structure IsSession (earlier session later : List Reading) : Prop where
  nonempty : session ≠ []
  before : (current earlier).isStarted = false
  runs : ∀ reading ∈ session, reading.rate.isStarted = true
  after : ∀ reading, later.head? = some reading → reading.rate.isStarted = false

/-- The last reading of a record comes after a part of it, or is the end of that part. -/
theorem split_concat {reading : Reading} {earlier later : List Reading}
    (h : record ++ [reading] = earlier ++ session ++ later) (hsession : session ≠ []) :
    (∃ between, record = earlier ++ session ++ between) ∨
      ∃ before, session = before ++ [reading] ∧ record = earlier ++ before := by
  rcases List.eq_nil_or_concat later with rfl | ⟨between, last, rfl⟩
  · obtain ⟨before, last, rfl⟩ := (List.eq_nil_or_concat session).resolve_left hsession
    rw [List.append_nil, List.concat_eq_append, ← List.append_assoc] at h
    obtain ⟨rfl, hlast⟩ := List.append_inj' h rfl
    obtain rfl := (List.cons.inj hlast).1
    exact .inr ⟨before, List.concat_eq_append, rfl⟩
  · rw [List.concat_eq_append, ← List.append_assoc] at h
    exact .inl ⟨between, (List.append_inj' h rfl).1⟩

/-- All that was counted while the record was taken is in the totals, and what was counted in
a session is in its intervals. -/
structure Accounted (record : List Reading) : Prop where
  consistent : (current record).Consistent
  total : ∀ kind, (current record).total kind = frameCount kind (arrivals (told record))
  lastReport : (current record).lastReport = (reports record).getLast?
  idle : ∀ reading ∈ record, reading.rate.isStarted = false → reading.report = none
  sessions : ∀ earlier session later, record = earlier ++ session ++ later → session ≠ [] →
    (current earlier).isStarted = false → (∀ reading ∈ session, reading.rate.isStarted = true) →
      Partitioned session

namespace Accounted

theorem nil : Accounted [] where
  consistent := ⟨Nat.le_refl _, Nat.le_refl _⟩
  total := by
    intro kind
    cases kind <;> rfl
  lastReport := rfl
  idle := List.forall_mem_nil _
  sessions := by
    intro earlier session later hsplit hnonempty
    have hnil : session = [] := by simp_all
    exact absurd hnil hnonempty

variable {reading : Reading}

theorem concat (h : Accounted record) (hs : Answers (current record) reading) :
    Accounted (record ++ [reading]) := by
  refine ⟨?_, fun kind => ?_, ?_, ?_, ?_⟩
  · rw [current_concat]
    exact h.consistent.tell hs.rate
  · rw [current_concat, told_concat, arrivals_concat, frameCount_append, total_tell hs.rate, h.total]
  · rw [current_concat, reports_concat]
    rcases hs.reported with ⟨hreport, hlast⟩ | ⟨report, hreport, hlast, -⟩
    · simp [hreport, hlast, h.lastReport]
    · simp [hreport, hlast]
  · intro other hother hstopped
    rcases List.mem_append.mp hother with hother | hother
    · exact h.idle other hother hstopped
    · obtain rfl := List.mem_singleton.mp hother
      rcases hs.reported with ⟨hreport, -⟩ | ⟨-, -, -, hstarted⟩
      · exact hreport
      · exact absurd hstarted (by simp [hstopped])
  · intro earlier session later hsplit hnonempty hbefore hruns
    rcases split_concat hsplit hnonempty with ⟨later, hrecord⟩ | ⟨session, rfl, hrecord⟩
    · exact h.sessions earlier session later hrecord hnonempty hbefore hruns
    -- The session is still open. It begins with the new reading, or that goes on with it.
    · have hstarted : reading.rate.isStarted = true := hruns reading (by simp)
      by_cases hempty : session = []
      · subst hempty
        rw [hrecord, List.append_nil] at hs
        exact partitioned_singleton hs hbefore hstarted
      · rw [hrecord, current_append earlier hempty] at hs
        have hsession := h.sessions earlier session [] (by simp [hrecord]) hempty hbefore
          fun other hother => hruns other (List.mem_append_left _ hother)
        exact hsession.concat hs hstarted

/-- As long as the totals fit a word of 32 bits, a meter takes every event. -/
theorem step_succeeds (h : Accounted record) (event : Event)
    (room : ∀ kind, frameCount kind (arrivals (told record)) + frameCount kind event.arrival?.toList < 2 ^ 32) :
    ∃ reading, step record event = .ok (record ++ [reading]) ∧ Answers (current record) reading ∧
      reading.event = event := by
  have hroom : ∀ kind, (current record).total kind + frameCount kind event.arrival?.toList < 2 ^ 32 := by
    intro kind
    rw [h.total]
    exact room kind
  obtain ⟨rate, hrate⟩ := tell_succeeds h.consistent hroom
  have hconsistent : (current record).unreported.Consistent := ⟨h.consistent.rendered, h.consistent.skipped⟩
  obtain ⟨fresh, hfresh⟩ := tell_succeeds hconsistent fun kind => (total_unreported _ kind) ▸ hroom kind
  have hreport : (current record).report? event = .ok fresh.lastReport :=
    Except.bind_ok_iff.mpr ⟨fresh, hfresh, rfl⟩
  refine ⟨⟨event, fresh.lastReport, rate⟩, ?_, ⟨hreport, hrate⟩, rfl⟩
  exact Except.bind_ok_iff.mpr ⟨_, hreport, Except.bind_ok_iff.mpr ⟨_, hrate, rfl⟩⟩

theorem run (h : Accounted record) {events : List Event}
    (room : ∀ kind, frameCount kind (arrivals (told record)) + frameCount kind (arrivals events) < 2 ^ 32) :
    (events.foldlM step record).Yields fun record' => Accounted record' ∧ told record' = told record ++ events := by
  induction events generalizing record with
  | nil => exact .pure ⟨h, (List.append_nil _).symm⟩
  | cons event events ih =>
    have room : ∀ kind, frameCount kind (arrivals (told record)) +
        (frameCount kind event.arrival?.toList + frameCount kind (arrivals events)) < 2 ^ 32 := by
      intro kind
      have hkind := room kind
      rwa [arrivals_cons, frameCount_append] at hkind
    obtain ⟨reading, hstep, hs, hevent⟩ := h.step_succeeds event fun kind => by
      have hkind := room kind
      omega
    have htold : arrivals (told (record ++ [reading])) = arrivals (told record) ++ event.arrival?.toList := by
      rw [told_concat, arrivals_concat, hevent]
    rw [List.foldlM_cons, hstep]
    refine (ih (h.concat hs) fun kind => ?_).mono ?_
    · rw [htold, frameCount_append, Nat.add_assoc]
      exact room kind
    · rintro record' ⟨haccounted, hrest⟩
      refine ⟨haccounted, ?_⟩
      rw [hrest, told_concat, hevent, List.append_assoc]
      rfl

end Accounted

/-- **Each frame is counted once.** A new meter takes any events that bring fewer than 2 ^ 32
frames of each kind. Its totals are all of these. In a time in which it runs, from one start to the stop
after it, each frame belongs to one interval; all intervals but the last were reported, and
the meter holds the count of that. Nothing is reported while it stands still. -/
theorem run_reports {events : List Event} (room : ∀ kind, frameCount kind (arrivals events) < 2 ^ 32) :
    (FrameRate.run events).Yields fun record =>
      told record = events ∧
      (∀ kind, (current record).total kind = frameCount kind (arrivals events)) ∧
      (current record).lastReport = (reports record).getLast? ∧
      (∀ reading ∈ record, reading.rate.isStarted = false → reading.report = none) ∧
      ∀ earlier session later, record = earlier ++ session ++ later → IsSession earlier session later →
        Partitioned session := by
  have hroom : ∀ kind, frameCount kind (arrivals (told [])) + frameCount kind (arrivals events) < 2 ^ 32 := by
    intro kind
    exact (Nat.zero_add _).symm ▸ room kind
  refine (Accounted.nil.run hroom).mono ?_
  rintro record ⟨h, rfl⟩
  refine ⟨rfl, h.total, h.lastReport, h.idle, ?_⟩
  intro earlier session later hsplit hsession
  exact h.sessions earlier session later hsplit hsession.nonempty hsession.before hsession.runs

/-- A frame that closes an interval, one that comes on a clock that went back, and one after the stop. -/
def interrupted : List Event :=
  [.start 0, .rendered 400000, .skipped 2 900000, .rendered 1000000, .rendered 300000, .stop, .rendered 2000000]

theorem run_reports_interrupted : ∃ record, FrameRate.run interrupted = .ok record ∧
    (current record).total .shown = 4 ∧ (current record).total .skipped = 2 ∧
    reports record = [⟨1, 2⟩] ∧ Partitioned (record.take 5) := by
  obtain ⟨record, hrun, htold, htotal, -, -, hsessions⟩ := @run_reports interrupted fun kind => by
    cases kind <;> decide
  obtain ⟨record', hrun', hchecked⟩ :=
    @Except.exists_of_any _ _ (FrameRate.run interrupted)
      (fun record => reports record = [⟨1, 2⟩] && (record.take 5).all (·.rate.isStarted) &&
        (record.drop 5).all (!·.rate.isStarted)) (by decide +kernel)
  cases hrun.symm.trans hrun'
  simp only [Bool.and_eq_true, decide_eq_true_eq, List.all_eq_true, Bool.not_eq_true'] at hchecked
  obtain ⟨⟨hreports, hruns⟩, hstopped⟩ := hchecked
  have hlength : record.length = 7 := by
    rw [← List.length_map (·.event), show record.map (·.event) = interrupted from htold]
    rfl
  have hsession : IsSession [] (record.take 5) (record.drop 5) := by
    refine ⟨List.ne_nil_of_length_pos (by simp [hlength]), rfl, hruns, fun reading hreading => ?_⟩
    exact hstopped reading (List.mem_of_mem_head? hreading)
  exact ⟨record, hrun, htotal .shown, htotal .skipped, hreports, hsessions _ _ _ (by simp) hsession⟩

end FrameRate

end RemoteView
