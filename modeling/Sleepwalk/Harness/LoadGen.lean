import Mathlib.Data.List.Basic
import Mathlib.Logic.Function.Basic
import Sleepwalk.Lib.Runs
import Sleepwalk.Proto.Messages

/-!
# The open-loop load generator

`run_load` of `loadgen.rs` with the `LatencyRecorder` of `recorder.rs`. Every scheduled turn is a
task of its own that sleeps until its intended time, runs, reads the clock and records its latency;
the tasks take turns in any order. The driver of the turns is a machine that is left open, and so is
the histogram, which comes from the `hdrhistogram` crate.

Time is what passes between two steps. A task that may go on can be kept waiting by the scheduler
for any time, but not between reading the clock and recording, which are one event here.

A call of `run_turn` returns or never does. One that panics ends its task without a sample, and
`run_load` drops the `JoinError`: the driver must not do that.
-/

namespace Sleepwalk.Harness

open Proto

/-- A precomputed sequence of intended send times, each an offset from the start. -/
structure Schedule where
  /-- The intended send times. -/
  times : List Duration
  /-- The length of a vector is a `usize`. -/
  length_lt : times.length < 2 ^ 64

/-! ## The recorder -/

/-- The quantiles of a summary. -/
inductive Quantile where
  | p50
  | p90
  | p99
  | p99_9
deriving DecidableEq, Repr

/-- What the recorder uses of a histogram. -/
structure Histogram (H : Type) where
  /-- An empty histogram. -/
  new : H
  /-- Record a value, unless it is out of range. -/
  record : H → UInt64 → Option H
  /-- The number of recorded values. -/
  len : H → ℕ
  /-- The value at a quantile. -/
  valueAtQuantile : H → Quantile → UInt64
  /-- The highest recorded value. -/
  max : H → UInt64

/-- A failure recording one latency sample. -/
inductive RecordError where
  /-- The completion time was before the intended send time. -/
  | completedBeforeIntended (intended completed : Duration)
  /-- The latency was outside the histogram's representable range. -/
  | outOfRange (latency : Duration)
deriving DecidableEq, Repr

/-- Accumulates request latencies. -/
structure LatencyRecorder (H : Type) where
  hist : H

/-- A summary of recorded latencies. -/
structure LatencyStats where
  /-- The number of samples. -/
  count : ℕ
  p50 : Duration
  p90 : Duration
  p99 : Duration
  p99_9 : Duration
  /-- The maximum observed. -/
  max : Duration
deriving DecidableEq, Repr

/-- A span of whole microseconds. -/
def fromMicros (micros : UInt64) : Duration := ⟨micros.toNat * 1000⟩

/-- The whole microseconds of a span, as far as they fit. -/
def micros (d : Duration) : UInt64 := .ofNat (min (d.nanos / 1000) (2 ^ 64 - 1))

namespace LatencyRecorder

variable {H : Type} (h : Histogram H)

/-- An empty recorder. -/
def new : LatencyRecorder H := ⟨h.new⟩

/-- Record a latency directly. -/
def recordLatency (r : LatencyRecorder H) (latency : Duration) :
    Except RecordError (LatencyRecorder H) :=
  match h.record r.hist (micros latency) with
  | some hist => .ok ⟨hist⟩
  | none => .error (.outOfRange latency)

/-- Record a request from its intended send time and completion time. -/
def record (r : LatencyRecorder H) (intended completed : Duration) :
    Except RecordError (LatencyRecorder H) :=
  if intended.nanos ≤ completed.nanos then
    recordLatency h r ⟨completed.nanos - intended.nanos⟩
  else .error (.completedBeforeIntended intended completed)

/-- A snapshot of the latency distribution. -/
def summary (r : LatencyRecorder H) : LatencyStats where
  count := h.len r.hist
  p50 := fromMicros (h.valueAtQuantile r.hist .p50)
  p90 := fromMicros (h.valueAtQuantile r.hist .p90)
  p99 := fromMicros (h.valueAtQuantile r.hist .p99)
  p99_9 := fromMicros (h.valueAtQuantile r.hist .p99_9)
  max := fromMicros (h.max r.hist)

end LatencyRecorder

/-! ## The load -/

/-- A driver of turns: what happens at it, and when the call of a turn has returned. A call that
never returns is one that no event makes return. -/
structure TurnDriver (D E : Type) where
  /-- The driver before the load. -/
  start : D
  /-- What happens at the driver, where it can. -/
  step : D → E → Option D
  /-- `run_turn` is called for a turn. -/
  runTurn : UInt64 → E
  /-- What happens is a call of `run_turn`. -/
  isRunTurn : E → Bool
  /-- The call of a turn has returned. -/
  returned : D → UInt64 → Bool

/-- How far the task of a turn got. -/
inductive Task where
  /-- In `sleep_until`. -/
  | sleeping
  /-- In `run_turn`. -/
  | running
  /-- Its latency is recorded. -/
  | recorded
deriving DecidableEq, Repr

/-- A load under way. -/
structure Load (D H : Type) where
  /-- The time since the start. -/
  now : Duration
  driver : D
  /-- The tasks, by their turns. -/
  task : ℕ → Task
  recorder : LatencyRecorder H

/-- What happens in a load. -/
inductive LoadEvent (E : Type) where
  /-- Time passes. -/
  | passed (time : Duration)
  /-- The task of a turn wakes up and calls `run_turn`. -/
  | fired (turn : ℕ)
  /-- Something else happens at the driver. -/
  | driven (event : E)
  /-- The task of a turn reads the clock and records its latency. -/
  | completed (turn : ℕ)

section RunLoad

variable {D E H : Type} (h : Histogram H) (driver : TurnDriver D E) (schedule : Schedule)

/-- The load at its start. -/
def Load.init : Load D H :=
  { now := ⟨0⟩, driver := driver.start, task := fun _ => .sleeping, recorder := .new h }

/-- Record the latency of a turn from its intended time. That it may fail is ignored. -/
def Load.record (s : Load D H) (intended : Duration) : LatencyRecorder H :=
  match s.recorder.record h intended s.now with
  | .ok recorder => recorder
  | .error _ => s.recorder

/-- What happens next, where it can. -/
def Load.step (s : Load D H) : LoadEvent E → Option (Load D H)
  | .passed time => some { s with now := ⟨s.now.nanos + time.nanos⟩ }
  | .fired turn =>
    match schedule.times[turn]? with
    | some offset =>
      if s.task turn = .sleeping ∧ offset.nanos ≤ s.now.nanos then
        (driver.step s.driver (driver.runTurn (.ofNat turn))).map fun d =>
          { s with driver := d, task := Function.update s.task turn .running }
      else none
    | none => none
  | .driven event =>
    if driver.isRunTurn event then none
    else (driver.step s.driver event).map fun d => { s with driver := d }
  | .completed turn =>
    match schedule.times[turn]? with
    | some offset =>
      if s.task turn = .running ∧ driver.returned s.driver (.ofNat turn) then
        some { s with
          task := Function.update s.task turn .recorded
          recorder := s.record h offset }
      else none
    | none => none

/-- The load after some events, if they can happen. -/
def Load.run (events : List (LoadEvent E)) : Option (Load D H) :=
  Runs.run (Load.step h driver schedule) (Load.init h driver) events

/-- Every task has ended, and `run_load` returns the summary. -/
def Load.Joined (s : Load D H) : Prop := ∀ turn < schedule.times.length, s.task turn = .recorded

instance (s : Load D H) : Decidable (s.Joined schedule) :=
  inferInstanceAs (Decidable (∀ turn < schedule.times.length, s.task turn = .recorded))

/-- The histogram of some latencies, recorded one after the other. One that is out of range leaves
it as it is. -/
def Histogram.ofSamples (h : Histogram H) (samples : List UInt64) : H :=
  samples.foldl (fun hist v => (h.record hist v).getD hist) h.new

/-- The latency that is recorded at the end of a turn: what has passed since its intended time. -/
def LatencyAt (events : List (LoadEvent E)) (turn : ℕ) (latency : UInt64) : Prop :=
  ∃ offset before after s, schedule.times[turn]? = some offset ∧
    events = before ++ .completed turn :: after ∧ Load.run h driver schedule before = some s ∧
    offset.nanos ≤ s.now.nanos ∧ latency = micros ⟨s.now.nanos - offset.nanos⟩

/-- The recorder holds one latency of each turn that has been recorded, and nothing else. -/
structure Measured (events : List (LoadEvent E)) (s : Load D H) (samples : List (ℕ × UInt64)) :
    Prop where
  nodup : (samples.map Prod.fst).Nodup
  recorded_iff : ∀ turn, turn ∈ samples.map Prod.fst ↔ s.task turn = .recorded
  hist : s.recorder.hist = h.ofSamples (samples.map Prod.snd)
  latency : ∀ p ∈ samples, LatencyAt h driver schedule events p.1 p.2

/-- No task has woken up before its intended time. -/
def Punctual (s : Load D H) : Prop :=
  ∀ turn, s.task turn ≠ .sleeping → ∃ offset, schedule.times[turn]? = some offset ∧
    offset.nanos ≤ s.now.nanos

variable {h driver schedule} {events : List (LoadEvent E)} {e : LoadEvent E} {s s' : Load D H}

theorem LatencyAt.concat {turn : ℕ} {latency : UInt64}
    (hl : LatencyAt h driver schedule events turn latency) :
    LatencyAt h driver schedule (events ++ [e]) turn latency := by
  obtain ⟨offset, before, after, s, hoffset, rfl, hrest⟩ := hl
  exact ⟨offset, before, after ++ [e], s, hoffset, by simp, hrest⟩

/-- An event that records nothing and no task's end leaves the samples as they are. -/
theorem Measured.frame {samples : List (ℕ × UInt64)}
    (hm : Measured h driver schedule events s samples) (hrecorder : s'.recorder = s.recorder)
    (htask : ∀ turn, s'.task turn = .recorded ↔ s.task turn = .recorded) :
    Measured h driver schedule (events ++ [e]) s' samples where
  nodup := hm.nodup
  recorded_iff turn := (hm.recorded_iff turn).trans (htask turn).symm
  hist := hrecorder ▸ hm.hist
  latency p hp := (hm.latency p hp).concat

variable (h driver schedule) in
/-- What an event needs and does. -/
inductive Stepped (s : Load D H) : LoadEvent E → Load D H → Prop where
  | passed (time : Duration) :
    Stepped s (.passed time) { s with now := ⟨s.now.nanos + time.nanos⟩ }
  | fired {turn : ℕ} {offset : Duration} {d : D} (hoffset : schedule.times[turn]? = some offset)
    (htask : s.task turn = .sleeping) (htime : offset.nanos ≤ s.now.nanos)
    (hdriver : driver.step s.driver (driver.runTurn (.ofNat turn)) = some d) :
    Stepped s (.fired turn)
      { s with driver := d, task := Function.update s.task turn .running }
  | driven {event : E} {d : D} (hevent : driver.isRunTurn event = false)
    (hdriver : driver.step s.driver event = some d) :
    Stepped s (.driven event) { s with driver := d }
  | completed {turn : ℕ} {offset : Duration} (hoffset : schedule.times[turn]? = some offset)
    (htask : s.task turn = .running) (hreturned : driver.returned s.driver (.ofNat turn) = true) :
    Stepped s (.completed turn)
      { s with task := Function.update s.task turn .recorded, recorder := s.record h offset }

theorem stepped_of_step (hstep : s.step h driver schedule e = some s') :
    Stepped h driver schedule s e s' := by
  cases e with
  | passed time =>
    cases hstep
    exact .passed time
  | fired turn =>
    rw [Load.step] at hstep
    split at hstep
    · rename_i offset hoffset
      split at hstep
      · rename_i hready
        obtain ⟨d, hd, rfl⟩ := Option.map_eq_some_iff.mp hstep
        exact .fired hoffset hready.1 hready.2 hd
      · cases hstep
    · cases hstep
  | driven event =>
    rw [Load.step] at hstep
    split at hstep
    · cases hstep
    · rename_i hevent
      obtain ⟨d, hd, rfl⟩ := Option.map_eq_some_iff.mp hstep
      exact .driven (by simpa using hevent) hd
  | completed turn =>
    rw [Load.step] at hstep
    split at hstep
    · rename_i offset hoffset
      split at hstep
      · rename_i hready
        cases hstep
        exact .completed hoffset hready.1 hready.2
      · cases hstep
    · cases hstep

theorem Punctual.step (hp : Punctual schedule s) (hstep : Stepped h driver schedule s e s') :
    Punctual schedule s' := by
  intro turn hturn
  cases hstep with
  | passed time =>
    obtain ⟨offset, hoffset, htime⟩ := hp turn hturn
    exact ⟨offset, hoffset, Nat.le_add_right_of_le htime⟩
  | @fired turn' offset d hoffset htask htime hdriver =>
    by_cases heq : turn = turn'
    · exact ⟨offset, heq ▸ hoffset, htime⟩
    · exact hp turn (by simpa [heq] using hturn)
  | driven => exact hp turn hturn
  | @completed turn' offset hoffset htask hreturned =>
    by_cases heq : turn = turn'
    · exact hp turn (by rw [heq, htask]; decide)
    · exact hp turn (by simpa [heq] using hturn)

/-- What a lawful record of a latency leaves behind. A task that has woken up ends no earlier than
it was meant to start, so only a histogram that is out of range refuses its latency. -/
theorem Load.hist_record (s : Load D H) {offset : Duration} (hle : offset.nanos ≤ s.now.nanos) :
    (s.record h offset).hist =
      (h.record s.recorder.hist (micros ⟨s.now.nanos - offset.nanos⟩)).getD s.recorder.hist := by
  rw [Load.record, LatencyRecorder.record, if_pos hle, LatencyRecorder.recordLatency]
  cases h.record s.recorder.hist (micros ⟨s.now.nanos - offset.nanos⟩) with
  | none => rfl
  | some hist => rfl

/-- The samples grow by the latency of a turn that ends, and by nothing else. -/
theorem Measured.step {samples : List (ℕ × UInt64)} (hp : Punctual schedule s)
    (hrun : Load.run h driver schedule events = some s)
    (hm : Measured h driver schedule events s samples)
    (hstep : Stepped h driver schedule s e s') :
    ∃ samples', Measured h driver schedule (events ++ [e]) s' samples' := by
  cases hstep with
  | passed time => exact ⟨samples, hm.frame rfl fun _ => .rfl⟩
  | driven => exact ⟨samples, hm.frame rfl fun _ => .rfl⟩
  | @fired turn offset d hoffset htask htime hdriver =>
    refine ⟨samples, hm.frame rfl fun turn' => ?_⟩
    by_cases heq : turn' = turn
    · simp [heq, htask]
    · simp [heq]
  | @completed turn offset hoffset htask hreturned =>
    obtain ⟨offset', hoffset', hle⟩ := hp turn (by rw [htask]; decide)
    obtain rfl := Option.some.inj (hoffset.symm.trans hoffset')
    have hnew : turn ∉ samples.map Prod.fst := by
      rw [hm.recorded_iff, htask]
      decide
    refine ⟨samples ++ [(turn, micros ⟨s.now.nanos - offset.nanos⟩)], ?_, ?_, ?_, ?_⟩
    · rw [List.map_append, List.nodup_append]
      refine ⟨hm.nodup, by simp, fun a ha b hb hab => ?_⟩
      obtain rfl : b = turn := by simpa using hb
      exact hnew (hab ▸ ha)
    · intro turn'
      rw [List.map_append, List.mem_append, hm.recorded_iff]
      by_cases heq : turn' = turn
      · simp [heq]
      · simp [heq]
    · rw [Load.hist_record s hle, hm.hist, Histogram.ofSamples, Histogram.ofSamples,
        List.map_append, List.foldl_append]
      rfl
    · intro p hp
      rcases List.mem_append.mp hp with hp | hp
      · exact (hm.latency p hp).concat
      · obtain rfl := List.mem_singleton.mp hp
        exact ⟨offset, events, [], s, hoffset, rfl, hrun, hle, rfl⟩

/-- At every point of a load, the recorder holds one latency for each turn that has been recorded,
from its intended time to the moment its task read the clock, and nothing else. -/
theorem exists_measured (hrun : Load.run h driver schedule events = some s) :
    Punctual schedule s ∧ ∃ samples, Measured h driver schedule events s samples := by
  refine Runs.run_invariant (motive := fun events s => Punctual schedule s ∧
    ∃ samples, Measured h driver schedule events s samples) ?_ ?_ hrun
  · exact ⟨fun turn hturn => absurd rfl hturn, [], by simp, by simp [Load.init], rfl, by simp⟩
  · rintro events s e s' hrun ⟨hp, samples, hm⟩ hstep
    have hstepped := stepped_of_step hstep
    exact ⟨hp.step hstepped, hm.step hp hrun hstepped⟩

/-- Once all tasks have ended, it is one latency for each scheduled turn. -/
theorem Measured.perm_range {samples : List (ℕ × UInt64)} (hp : Punctual schedule s)
    (hm : Measured h driver schedule events s samples) (hjoined : s.Joined schedule) :
    (samples.map Prod.fst).Perm (List.range schedule.times.length) := by
  refine (List.perm_ext_iff_of_nodup hm.nodup List.nodup_range).mpr fun turn => ?_
  rw [hm.recorded_iff, List.mem_range]
  refine ⟨fun htask => ?_, hjoined turn⟩
  obtain ⟨offset, hoffset, -⟩ := hp turn (by rw [htask]; decide)
  exact (List.getElem?_eq_some_iff.mp hoffset).1

/-! ## What the driver sees -/

/-- What happens at the driver, of what happens in a load. -/
def TurnDriver.seen (driver : TurnDriver D E) : List (LoadEvent E) → List E :=
  List.filterMap fun
    | .fired turn => some (driver.runTurn (.ofNat turn))
    | .driven event => some event
    | .passed _ | .completed _ => none

theorem TurnDriver.seen_concat (e : LoadEvent E) :
    driver.seen (events ++ [e]) = driver.seen events ++ driver.seen [e] :=
  List.filterMap_append

/-- The driver goes its own way through a load. -/
theorem run_seen (hrun : Load.run h driver schedule events = some s) :
    Runs.run driver.step driver.start (driver.seen events) = some s.driver := by
  refine Runs.run_invariant (motive := fun events s =>
    Runs.run driver.step driver.start (driver.seen events) = some s.driver) rfl ?_ hrun
  intro events s e s' _ ih hstep
  rw [TurnDriver.seen_concat]
  cases stepped_of_step hstep with
  | passed => simpa [TurnDriver.seen] using ih
  | fired _ _ _ hdriver => exact Runs.run_concat_eq_some_iff.mpr ⟨s.driver, ih, hdriver⟩
  | driven _ hdriver => exact Runs.run_concat_eq_some_iff.mpr ⟨s.driver, ih, hdriver⟩
  | completed => simpa [TurnDriver.seen] using ih

/-- A task calls `run_turn` for its own turn, and nothing else calls it. -/
theorem exists_turn_of_mem_seen (hrun : Load.run h driver schedule events = some s) {event : E}
    (hmem : event ∈ driver.seen events) (hcall : driver.isRunTurn event = true) :
    ∃ turn < schedule.times.length, event = driver.runTurn (.ofNat turn) := by
  revert hmem
  refine Runs.run_invariant (motive := fun events _ => event ∈ driver.seen events →
    ∃ turn < schedule.times.length, event = driver.runTurn (.ofNat turn)) ?_ ?_ hrun
  · simp [TurnDriver.seen]
  · intro events s e s' _ ih hstep hmem
    rw [TurnDriver.seen_concat, List.mem_append] at hmem
    rcases hmem with hmem | hmem
    · exact ih hmem
    · cases stepped_of_step hstep with
      | passed | completed => simp [TurnDriver.seen] at hmem
      | @fired turn offset d hoffset =>
        exact ⟨turn, (List.getElem?_eq_some_iff.mp hoffset).1, List.mem_singleton.mp hmem⟩
      | driven hother =>
        obtain rfl := List.mem_singleton.mp hmem
        exact absurd (hcall.symm.trans hother) (by decide)

/-- The call of a recorded turn has returned, if a call that returned stays so. -/
theorem returned_of_recorded
    (hstays : ∀ d e d' turn, driver.step d e = some d' → driver.returned d turn = true →
      driver.returned d' turn = true)
    (hrun : Load.run h driver schedule events = some s) {turn : ℕ}
    (htask : s.task turn = .recorded) :
    driver.returned s.driver (.ofNat turn) = true := by
  revert htask
  refine Runs.run_invariant (motive := fun _ s => s.task turn = .recorded →
    driver.returned s.driver (.ofNat turn) = true) (fun htask => by cases htask) ?_ hrun
  intro events s e s' _ ih hstep htask
  cases stepped_of_step hstep with
  | passed => exact ih htask
  | @fired turn' offset d hoffset hsleeping _ hdriver =>
    have hne : turn ≠ turn' := by
      rintro rfl
      simp at htask
    exact hstays _ _ _ _ hdriver (ih (by simpa [hne] using htask))
  | driven _ hdriver => exact hstays _ _ _ _ hdriver (ih htask)
  | @completed turn' offset hoffset hrunning hreturned =>
    by_cases heq : turn = turn'
    · exact heq ▸ hreturned
    · exact ih (by simpa [heq] using htask)

/-! ## The summary -/

/-- What the documentation of the histogram promises of one that resizes itself. -/
structure Histogram.Lawful (h : Histogram H) : Prop where
  /-- No value is out of range. -/
  record_isSome : ∀ hist v, (h.record hist v).isSome
  len_new : h.len h.new = 0
  len_record : ∀ hist v hist', h.record hist v = some hist' → h.len hist' = h.len hist + 1
  /-- The maximum is no less than any value that is recorded. -/
  le_max : ∀ hist v hist', h.record hist v = some hist' → v ≤ h.max hist' ∧ h.max hist ≤ h.max hist'

/-- A lawful histogram counts all samples, and its maximum hides none. -/
theorem Histogram.Lawful.ofSamples (hlaw : h.Lawful) (samples : List UInt64) :
    h.len (h.ofSamples samples) = samples.length ∧
      ∀ v ∈ samples, v ≤ h.max (h.ofSamples samples) := by
  induction samples using List.reverseRecOn with
  | nil => exact ⟨hlaw.len_new, by simp⟩
  | append_singleton samples v ih =>
    obtain ⟨hist, hhist⟩ := Option.isSome_iff_exists.mp (hlaw.record_isSome (h.ofSamples samples) v)
    have hof : h.ofSamples (samples ++ [v]) = hist := by
      rw [Histogram.ofSamples, List.foldl_append]
      show (h.record (h.ofSamples samples) v).getD _ = hist
      rw [hhist, Option.getD_some]
    obtain ⟨hv, hmax⟩ := hlaw.le_max _ _ _ hhist
    rw [hof, hlaw.len_record _ _ _ hhist, ih.1]
    refine ⟨by simp, fun u hu => ?_⟩
    rcases List.mem_append.mp hu with hu | hu
    · exact UInt64.le_trans (ih.2 u hu) hmax
    · exact List.mem_singleton.mp hu ▸ hv

/-- When `run_load` returns, its summary is of exactly one latency for each scheduled turn, from the
intended time of the turn to its completion, in whichever order the tasks went on and however late;
all of them are counted, and none exceeds the maximum. -/
theorem run_load_summary (hlaw : h.Lawful) (hrun : Load.run h driver schedule events = some s)
    (hjoined : s.Joined schedule) :
    ∃ samples : List (ℕ × UInt64),
      (samples.map Prod.fst).Perm (List.range schedule.times.length) ∧
      (∀ p ∈ samples, LatencyAt h driver schedule events p.1 p.2) ∧
      s.recorder.hist = h.ofSamples (samples.map Prod.snd) ∧
      (s.recorder.summary h).count = schedule.times.length ∧
      ∀ p ∈ samples, (fromMicros p.2).nanos ≤ (s.recorder.summary h).max.nanos := by
  obtain ⟨hp, samples, hm⟩ := exists_measured hrun
  have hperm := hm.perm_range hp hjoined
  obtain ⟨hlen, hmax⟩ := hlaw.ofSamples (samples.map Prod.snd)
  rw [← hm.hist] at hlen hmax
  refine ⟨samples, hperm, hm.latency, hm.hist, ?_, fun p hpmem => ?_⟩
  · have hlength := hperm.length_eq
    rw [List.length_map, List.length_range] at hlength
    rw [LatencyRecorder.summary, hlen, List.length_map, hlength]
  · have hle := UInt64.le_iff_toNat_le.mp (hmax p.2 (List.mem_map_of_mem hpmem))
    exact Nat.mul_le_mul_right 1000 hle

end RunLoad

/-! ## A load with a stall -/

/-- A histogram that keeps what it is given. -/
def keeping : Histogram (List UInt64) where
  new := []
  record hist v := some (v :: hist)
  len := List.length
  valueAtQuantile hist _ := hist.foldl max 0
  max hist := hist.foldr max 0

theorem lawful_keeping : keeping.Lawful where
  record_isSome _ _ := rfl
  len_new := rfl
  len_record hist v hist' h := by
    cases h
    rfl
  le_max hist v hist' h := by
    cases h
    have hmax : ∀ a b : UInt64, a ≤ max a b ∧ b ≤ max a b := by
      intro a b
      show a ≤ (if a ≤ b then b else a) ∧ b ≤ (if a ≤ b then b else a)
      split
      · exact ⟨‹_›, UInt64.le_refl b⟩
      · exact ⟨UInt64.le_refl a, UInt64.le_of_lt (UInt64.not_le.mp ‹_›)⟩
    exact hmax v (hist.foldr max 0)

/-- A driver whose turns return at once. -/
def prompt : TurnDriver (UInt64 → Bool) UInt64 where
  start := fun _ => false
  step called turn := some (Function.update called turn true)
  runTurn turn := turn
  isRunTurn _ := true
  returned called turn := called turn

/-- Two turns, a tenth of a second apart. -/
def twoTurns : Schedule := ⟨[⟨0⟩, ⟨100000000⟩], by decide⟩

/-- The first task is kept waiting for a second, and its latency shows it. -/
theorem stall_not_hidden : ∃ s : Load (UInt64 → Bool) (List UInt64),
    Load.run keeping prompt twoTurns
        [.passed ⟨100000000⟩, .fired 1, .completed 1, .passed ⟨900000000⟩, .fired 0, .completed 0] =
      some s ∧
    (s.recorder.summary keeping).count = 2 ∧ (s.recorder.summary keeping).max = ⟨1000000000⟩ := by
  have hrun : Load.run keeping prompt twoTurns
      [.passed ⟨100000000⟩, .fired 1, .completed 1, .passed ⟨900000000⟩, .fired 0, .completed 0] =
      some _ := rfl
  obtain ⟨-, -, -, -, hcount, -⟩ := run_load_summary lawful_keeping hrun (by decide)
  exact ⟨_, hrun, hcount, by decide⟩

end Sleepwalk.Harness
