import Mathlib.Data.Prod.Lex
import Sleepwalk.Guestd.Guest
import Sleepwalk.Lib.Timeline
import Sleepwalk.Proto.Compat

/-!
# The turn-vs-drain chaos harness

`chaos.rs` and the generator of `schedule.rs`: one run drops a single drain request into a stream of
turns that the seed determines, drives a `Guest` through the events in the order of a fake clock,
and then resumes it and replays its backlog.

`Turns` is what the generator guarantees of its turns. Their events are in order as they are listed,
so sorting only finds the place of the drain (`exists_events`).
-/

namespace Sleepwalk.Harness

open Proto Guestd

/-! ## The generator -/

/-- A tiny seeded generator. -/
structure SplitMix64 where
  state : UInt64

namespace SplitMix64

/-- The generator for a seed. -/
def new (seed : UInt64) : SplitMix64 := ⟨seed⟩

/-- The next value, and the generator after it. -/
def nextU64 (rng : SplitMix64) : UInt64 × SplitMix64 :=
  let state := rng.state + 0x9E3779B97F4A7C15
  let z := (state ^^^ (state >>> 30)) * 0xBF58476D1CE4E5B9
  let z := (z ^^^ (z >>> 27)) * 0x94D049BB133111EB
  (z ^^^ (z >>> 31), ⟨state⟩)

example : (new 0).nextU64.1 = 0xE220A8397B1DCDAF := by decide +kernel

end SplitMix64

/-- A turn's place on the fake clock. -/
structure Turn where
  start : UInt64
  stop : UInt64

/-- Generate `k` turns from tick `cursor` on, and the tick after the last. -/
def generateTurns : (k : ℕ) → (cursor : UInt64) → SplitMix64 → List Turn × UInt64 × SplitMix64
  | 0, cursor, rng => ([], cursor, rng)
  | k + 1, cursor, rng =>
    let gap := rng.nextU64.1 % 120 -- idle before this turn
    let rng := rng.nextU64.2
    let dur := 20 + rng.nextU64.1 % 150
    let rng := rng.nextU64.2
    let start := cursor + gap
    let stop := start + dur
    let rest := generateTurns k stop rng
    (⟨start, stop⟩ :: rest.1, rest.2)

/-- Generate `k` sequential turns and a drain offset within their span. -/
def generateSpan (k : ℕ) (rng : SplitMix64) : List Turn × UInt64 :=
  let rest := generateTurns k 0 rng
  let span := max rest.2.1 1
  (rest.1, rest.2.2.nextU64.1 % span)

/-- Generate three to eight turns and a drain offset. -/
def generate (rng : SplitMix64) : List Turn × UInt64 :=
  generateSpan (3 + (rng.nextU64.1 % 6).toNat) rng.nextU64.2

/-- Turns from tick `cursor` on: none is empty, and each ends before the next starts. -/
structure Turns (cursor : UInt64) (turns : List Turn) : Prop where
  later : ∀ t ∈ turns, cursor ≤ t.start
  nonempty : ∀ t ∈ turns, t.start < t.stop
  apart : turns.Pairwise fun t u => t.stop ≤ u.start

/-- A sum that does not overflow. -/
theorem toNat_add_of_lt {a b : UInt64} (h : a.toNat + b.toNat < 2 ^ 64) :
    (a + b).toNat = a.toNat + b.toNat := by
  rw [UInt64.toNat_add, Nat.mod_eq_of_lt h]

/-- The first turn that is generated, and those after it. -/
theorem generateTurns_succ (k : ℕ) (cursor : UInt64) (rng : SplitMix64) :
    ∃ gap dur rng', gap.toNat < 120 ∧ 0 < dur.toNat ∧ dur.toNat < 170 ∧
      (generateTurns (k + 1) cursor rng).1 =
        ⟨cursor + gap, cursor + gap + dur⟩ :: (generateTurns k (cursor + gap + dur) rng').1 := by
  have hbelow : ∀ r m : UInt64, 0 < m.toNat → (r % m).toNat < m.toNat := by
    intro r m hm
    rw [UInt64.toNat_mod]
    exact Nat.mod_lt _ hm
  have hgap : (rng.nextU64.1 % 120).toNat < 120 := hbelow _ 120 (by decide)
  have hrest : (rng.nextU64.2.nextU64.1 % 150).toNat < 150 := hbelow _ 150 (by decide)
  have htwenty : (20 : UInt64).toNat = 20 := rfl
  have hdur : (20 + rng.nextU64.2.nextU64.1 % 150).toNat =
      20 + (rng.nextU64.2.nextU64.1 % 150).toNat := by
    rw [toNat_add_of_lt (by omega), htwenty]
  exact ⟨_, _, _, hgap, by omega, by omega, rfl⟩

/-- The clock does not overflow, and runs forward. -/
theorem turns_generateTurns {k : ℕ} {cursor : UInt64} {rng : SplitMix64}
    (hroom : cursor.toNat + 289 * k < 2 ^ 64) : Turns cursor (generateTurns k cursor rng).1 := by
  induction k generalizing cursor rng with
  | zero => exact ⟨by simp [generateTurns], by simp [generateTurns], .nil⟩
  | succ k ih =>
    obtain ⟨gap, dur, rng', hgap, hpos, hdur, hturns⟩ := generateTurns_succ k cursor rng
    have hstart : (cursor + gap).toNat = cursor.toNat + gap.toNat := toNat_add_of_lt (by omega)
    have hstop : (cursor + gap + dur).toNat = (cursor + gap).toNat + dur.toNat :=
      toNat_add_of_lt (by omega)
    -- A turn and the gap before it take at most 119 + 169 ticks, so there is room for the rest.
    have htail : Turns (cursor + gap + dur) (generateTurns k (cursor + gap + dur) rng').1 :=
      ih (by omega)
    have hfirst : cursor ≤ cursor + gap := by
      rw [UInt64.le_iff_toNat_le]
      omega
    have hlonger : cursor + gap < cursor + gap + dur := by
      rw [UInt64.lt_iff_toNat_lt]
      omega
    rw [hturns]
    refine ⟨?_, ?_, List.pairwise_cons.mpr ⟨htail.later, htail.apart⟩⟩
    · intro t ht
      rcases List.mem_cons.mp ht with rfl | ht
      · exact hfirst
      · exact UInt64.le_trans hfirst (UInt64.le_trans (UInt64.le_of_lt hlonger) (htail.later t ht))
    · intro t ht
      rcases List.mem_cons.mp ht with rfl | ht
      · exact hlonger
      · exact htail.nonempty t ht

theorem length_generateTurns {k : ℕ} {cursor : UInt64} {rng : SplitMix64} :
    (generateTurns k cursor rng).1.length = k := by
  induction k generalizing cursor rng with
  | zero => rfl
  | succ k ih =>
    obtain ⟨gap, dur, rng', -, -, -, hturns⟩ := generateTurns_succ k cursor rng
    rw [hturns, List.length_cons, ih]

theorem turns_generateSpan {k : ℕ} (hk : k ≤ 8) (rng : SplitMix64) :
    Turns 0 (generateSpan k rng).1 ∧ (generateSpan k rng).1.length = k := by
  have hzero : (0 : UInt64).toNat = 0 := rfl
  exact ⟨turns_generateTurns (by omega), length_generateTurns⟩

/-- Three to eight turns are generated. -/
theorem exists_generate (rng : SplitMix64) :
    ∃ turns drainAt, generate rng = (turns, drainAt) ∧ Turns 0 turns ∧ 3 ≤ turns.length ∧
      turns.length ≤ 8 := by
  have hk : (rng.nextU64.1 % 6).toNat < 6 := by
    rw [UInt64.toNat_mod]
    exact Nat.mod_lt _ (by decide)
  obtain ⟨hturns, hlength⟩ :=
    turns_generateSpan (k := 3 + (rng.nextU64.1 % 6).toNat) (by omega) rng.nextU64.2
  refine ⟨_, _, (Prod.mk.eta (p := generateSpan _ _)).symm, hturns, ?_, ?_⟩
  · rw [hlength]
    omega
  · rw [hlength]
    omega

/-! ## The events -/

/-- Event kinds. On one tick a turn that ends frees the slot for the next one, and a turn that
starts counts as in flight when the drain lands. -/
inductive Kind where
  | stop
  | start
  | drain
deriving DecidableEq, Repr

/-- The place of a kind among events of one tick. -/
def Kind.rank : Kind → ℕ
  | .stop => 0
  | .start => 1
  | .drain => 2

/-- One event of the timeline, of the turn with index `i`. -/
structure Event where
  tick : UInt64
  kind : Kind
  i : ℕ
deriving DecidableEq, Repr

/-- The index that stands for no turn. -/
def USIZE_MAX : ℕ := 2 ^ 64 - 1

/-- What events are sorted by. -/
def Event.key (e : Event) : ℕ ×ₗ ℕ ×ₗ ℕ := toLex (e.tick.toNat, toLex (e.kind.rank, e.i))

/-- The events of the turns from index `i` on. -/
def turnEvents : (i : ℕ) → List Turn → List Event
  | _, [] => []
  | i, t :: turns => ⟨t.start, .start, i⟩ :: ⟨t.stop, .stop, i⟩ :: turnEvents (i + 1) turns

/-- The events of a run in order of time. -/
def events (turns : List Turn) (drainAt : UInt64) : List Event :=
  (turnEvents 0 turns ++ [(⟨drainAt, .drain, USIZE_MAX⟩ : Event)]).mergeSort
    fun a b => a.key ≤ b.key

theorem Event.key_lt_of_tick {a b : Event} (h : a.tick < b.tick) : a.key < b.key :=
  Prod.Lex.toLex_lt_toLex.mpr (Or.inl (UInt64.lt_iff_toNat_lt.mp h))

/-- On one tick the kind decides. -/
theorem Event.key_lt_of_rank {a b : Event} (h : a.tick ≤ b.tick)
    (hrank : a.kind.rank < b.kind.rank) : a.key < b.key := by
  rcases (UInt64.le_iff_toNat_le.mp h).lt_or_eq with hlt | heq
  · exact Event.key_lt_of_tick (UInt64.lt_iff_toNat_lt.mpr hlt)
  · exact Prod.Lex.toLex_lt_toLex.mpr
      (Or.inr ⟨heq, Prod.Lex.toLex_lt_toLex.mpr (Or.inl hrank)⟩)

/-- The turns after the first. -/
theorem Turns.tail {cursor : UInt64} {t : Turn} {turns : List Turn}
    (h : Turns cursor (t :: turns)) : Turns t.stop turns where
  later := (List.pairwise_cons.mp h.apart).1
  nonempty := fun u hu => h.nonempty u (List.mem_cons_of_mem t hu)
  apart := (List.pairwise_cons.mp h.apart).2

/-- The end of a turn comes before all events of the turns after it, also of one that starts on the
same tick. -/
theorem key_lt_turnEvents {turns : List Turn} {cursor : UInt64} {i j : ℕ}
    (hturns : Turns cursor turns) :
    ∀ e ∈ turnEvents j turns, (Event.mk cursor .stop i).key < e.key := by
  induction turns generalizing cursor i j with
  | nil => simp [turnEvents]
  | cons t turns ih =>
    have hlater : cursor ≤ t.start := hturns.later t List.mem_cons_self
    have hlonger : t.start < t.stop := hturns.nonempty t List.mem_cons_self
    have hstart : (Event.mk cursor .stop i).key < (Event.mk t.start .start j).key :=
      Event.key_lt_of_rank hlater Nat.zero_lt_one
    have hstop : (Event.mk cursor .stop i).key < (Event.mk t.stop .stop j).key :=
      hstart.trans (Event.key_lt_of_tick hlonger)
    intro e he
    rw [turnEvents, List.mem_cons, List.mem_cons] at he
    rcases he with rfl | rfl | he
    · exact hstart
    · exact hstop
    · exact hstop.trans (ih hturns.tail e he)

theorem pairwise_turnEvents {turns : List Turn} {cursor : UInt64} {i : ℕ}
    (hturns : Turns cursor turns) : (turnEvents i turns).Pairwise fun a b => a.key < b.key := by
  induction turns generalizing cursor i with
  | nil => exact .nil
  | cons t turns ih =>
    have hlonger : (Event.mk t.start .start i).key < (Event.mk t.stop .stop i).key :=
      Event.key_lt_of_tick (hturns.nonempty t List.mem_cons_self)
    have hafter : ∀ e ∈ turnEvents (i + 1) turns, (Event.mk t.stop .stop i).key < e.key :=
      key_lt_turnEvents hturns.tail
    refine List.pairwise_cons.mpr ⟨?_, List.pairwise_cons.mpr ⟨hafter, ih hturns.tail⟩⟩
    intro e he
    rcases List.mem_cons.mp he with rfl | he
    · exact hlonger
    · exact hlonger.trans (hafter e he)

/-- The events are those of the turns with the drain among them. -/
theorem exists_events {turns : List Turn} (hturns : Turns 0 turns) (drainAt : UInt64) :
    ∃ pre post, turnEvents 0 turns = pre ++ post ∧
      events turns drainAt = pre ++ ⟨drainAt, .drain, USIZE_MAX⟩ :: post := by
  have hsorted : (turnEvents 0 turns).Pairwise fun a b => decide (a.key ≤ b.key) :=
    (pairwise_turnEvents hturns).imp fun h => decide_eq_true h.le
  refine Timeline.mergeSort_concat ?_ ?_ hsorted _
  · intro a b c hab hbc
    rw [decide_eq_true_iff] at hab hbc ⊢
    exact hab.trans hbc
  · intro a b
    rw [Bool.or_eq_true, decide_eq_true_iff, decide_eq_true_iff]
    exact le_total a.key b.key

/-! ## The guest over its recorder -/

section Recorder

variable {g g' : Guest PseudoChannel} (now : Timestamp)

/-- The guest after one more message. -/
def recorded (g : Guest PseudoChannel) (msg : GuestToHost) : Guest PseudoChannel :=
  { g with chan := { g.chan with sent := g.chan.sent ++ [msg] } }

/-- The guest after it has begun a turn. -/
def begun (g : Guest PseudoChannel) (now : Timestamp) : Guest PseudoChannel :=
  recorded { g with nextTurn := g.nextTurn.next, inFlight := some g.nextTurn }
    (.turnStarted g.nextTurn now)

theorem exec_send (msg : GuestToHost) :
    Guest.exec (Guest.send msg) g = (.ok (), recorded g msg) := by
  rw [Guest.exec_send]
  rfl

theorem exec_beginTurn : Guest.exec (Guest.beginTurn now) g = (.ok g.nextTurn, begun g now) := by
  simp only [Guest.beginTurn, Guest.exec_bind, Guest.exec_get, Guest.exec_modify, exec_send,
    Guest.exec_pure, begun]

theorem exec_startTurn (hidle : g.inFlight = none) (hgate : g.gated = false) :
    Guest.exec (Guest.startTurn now) g = (.ok (.started g.nextTurn), begun g now) := by
  rw [Guest.startTurn, Guest.exec_refuseInFlight_idle hidle]
  simp [hgate, exec_beginTurn]

theorem exec_startTurn_gated (hidle : g.inFlight = none) (hgate : g.gated = true) :
    Guest.exec (Guest.startTurn now) g = (.ok .queued, { g with queued := g.queued + 1 }) := by
  rw [Guest.startTurn, Guest.exec_refuseInFlight_idle hidle]
  simp [hgate]

theorem exec_endTurn {t : TurnId} (hbusy : g.inFlight = some t) :
    Guest.exec (Guest.endTurn now) g =
      (.ok (), { recorded g (.turnEnded t now) with inFlight := none }) := by
  simp [Guest.endTurn, hbusy, exec_send]

theorem exec_drainRequest (deadline : Duration) :
    Guest.exec (Guest.handle (.drainRequest deadline) now) g =
      (.ok (), recorded { g with gated := true } (.drainAck g.inFlight)) := by
  simp [Guest.handle, exec_send]

theorem exec_resume :
    Guest.exec (Guest.resume now) g =
      (.ok (), { recorded g (.resumed now) with gated := false }) := by
  simp [Guest.resume, exec_send]

theorem exec_replayNext_empty (hidle : g.inFlight = none) (hgate : g.gated = false)
    (hqueued : g.queued = 0) : Guest.exec (Guest.replayNext now) g = (.ok none, g) := by
  rw [Guest.replayNext, Guest.exec_refuseInFlight_idle hidle]
  simp [hgate, hqueued]

theorem exec_replayNext (hidle : g.inFlight = none) (hgate : g.gated = false)
    (hqueued : g.queued ≠ 0) :
    Guest.exec (Guest.replayNext now) g =
      (.ok (some g.nextTurn), begun { g with queued := g.queued - 1 } now) := by
  rw [Guest.replayNext, Guest.exec_refuseInFlight_idle hidle]
  simp [hgate, hqueued, exec_beginTurn]

theorem toNat_sub_one {n : UInt32} (h : n ≠ 0) : (n - 1).toNat + 1 = n.toNat := by
  have hpos : 1 ≤ n.toNat := by
    rw [Nat.one_le_iff_ne_zero]
    exact fun hzero => h (UInt32.toNat_inj.mp hzero)
  have hle : (1 : UInt32) ≤ n := UInt32.le_iff_toNat_le.mpr hpos
  rw [UInt32.toNat_sub_of_le n 1 hle]
  have hone : (1 : UInt32).toNat = 1 := rfl
  omega

variable {now}

/-- A replayed turn is one less in the backlog. -/
theorem queued_replayNext {t : TurnId}
    (h : Guest.exec (Guest.replayNext now) g = (.ok (some t), g')) :
    g'.queued.toNat < g.queued.toNat := by
  rcases hbusy : g.inFlight with - | t'
  · rcases hgate : g.gated with - | -
    · by_cases hqueued : g.queued = 0
      · simp [exec_replayNext_empty now hbusy hgate hqueued] at h
      · rw [exec_replayNext now hbusy hgate hqueued] at h
        obtain ⟨-, rfl⟩ := Prod.mk.inj h
        have hless := toNat_sub_one hqueued
        simp only [begun, recorded]
        omega
    · simp [Guest.replayNext, Guest.refuseInFlight, hbusy, hgate] at h
  · rw [Guest.replayNext, Guest.exec_refuseInFlight_busy hbusy] at h
    cases h

theorem queued_endTurn (h : Guest.exec (Guest.endTurn now) g = (.ok (), g')) :
    g'.queued = g.queued := by
  rcases hbusy : g.inFlight with - | t
  · simp [Guest.endTurn, hbusy] at h
  · rw [exec_endTurn now hbusy] at h
    obtain ⟨-, rfl⟩ := Prod.mk.inj h
    rfl

end Recorder

/-! ## Driving the guest -/

/-- One tick of the fake clock, in nanoseconds. -/
def TICK_NS : UInt64 := 1000000

/-- The instant of a tick. -/
def instant (tick : UInt64) : Timestamp := ⟨saturatingMul tick TICK_NS⟩

/-- Why a run stops early. -/
inductive ChaosError where
  /-- The supervisor refused a call. -/
  | guest (e : GuestError)
  /-- There is no turn of that index. -/
  | outOfBounds
deriving DecidableEq, Repr

/-- The state of a run. -/
structure Sim where
  g : Guest PseudoChannel
  /-- The id of each turn that has been started. -/
  started : List (Option TurnId)
  drained : Bool
  completed : UInt32
  startedWhileGated : UInt32

/-- Make one call of the guest. -/
def Sim.call {α : Type} (s : Sim) (m : GuestM PseudoChannel α) : Except ChaosError (α × Sim) :=
  match Guest.exec m s.g with
  | (.ok a, g) => .ok (a, { s with g })
  | (.error e, _) => .error (.guest e)

/-- Take one event. -/
def Sim.step (s : Sim) (e : Event) : Except ChaosError Sim := do
  let now := instant e.tick
  match e.kind with
  | .start =>
    match ← s.call (Guest.startTurn now) with
    | (.started id, s) =>
      let s := if s.drained then { s with startedWhileGated := s.startedWhileGated + 1 } else s
      if e.i < s.started.length then
        return { s with started := s.started.set e.i (some id) }
      else
        throw .outOfBounds
    | (.queued, s) => return s
  | .stop =>
    match s.started[e.i]? with
    | none => throw .outOfBounds
    | some none => return s
    | some (some id) =>
      if s.g.inFlight = some id then
        let (_, s) ← s.call (Guest.endTurn now)
        return { s with completed := s.completed + 1 }
      else
        return s
  | .drain =>
    -- The deadline is that of the request; the guest does not look at it.
    let (_, s) ← s.call (Guest.handle (.drainRequest ⟨500000000⟩) now)
    return { s with drained := true }

/-- Take events one after another. -/
def Sim.run (s : Sim) (es : List Event) : Except ChaosError Sim := es.foldlM Sim.step s

/-- Replay the backlog after tick `t`, each turn a tick long. -/
def Sim.replay (s : Sim) (t : UInt64) : Except ChaosError Sim :=
  match _hreplay : Guest.exec (Guest.replayNext (instant (t + 1))) s.g with
  | (.error e, _) => .error (.guest e)
  | (.ok none, g) => .ok { s with g }
  | (.ok (some _), g) =>
    match _hend : Guest.exec (Guest.endTurn (instant (t + 2))) g with
    | (.error e, _) => .error (.guest e)
    | (.ok (), g') => Sim.replay { s with g := g', completed := s.completed + 1 } (t + 2)
termination_by s.g.queued.toNat
decreasing_by
  rw [queued_endTurn _hend]
  exact queued_replayNext _hreplay

theorem replay_of_empty {s : Sim} {t : UInt64} {g : Guest PseudoChannel}
    (hreplay : Guest.exec (Guest.replayNext (instant (t + 1))) s.g = (.ok none, g)) :
    s.replay t = .ok { s with g } := by
  rw [Sim.replay]
  split <;> simp_all

theorem replay_of_some {s : Sim} {t : UInt64} {g g' : Guest PseudoChannel} {id : TurnId}
    (hreplay : Guest.exec (Guest.replayNext (instant (t + 1))) s.g = (.ok (some id), g))
    (hend : Guest.exec (Guest.endTurn (instant (t + 2))) g = (.ok (), g')) :
    s.replay t = { s with g := g', completed := s.completed + 1 }.replay (t + 2) := by
  rw [Sim.replay]
  split
  case h_1 hexec => simp [hreplay] at hexec
  case h_2 hexec => simp [hreplay] at hexec
  case h_3 g₁ hexec =>
    obtain ⟨-, rfl⟩ : id = _ ∧ g = g₁ := by simpa [hreplay] using hexec
    split
    case h_1 hexec' => simp [hend] at hexec'
    case h_2 g₂ hexec' =>
      obtain rfl : g' = g₂ := by simpa [hend] using hexec'
      rfl

/-- What the ack reports as in flight, and what was in flight on the transcript before it, given
what was before the transcript. -/
def readAckFrom (inFlight : Option TurnId) : List GuestToHost → Option TurnId × Option TurnId
  | [] => (none, inFlight)
  | .turnStarted turnId _ :: sent => readAckFrom (some turnId) sent
  | .turnEnded _ _ :: sent => readAckFrom none sent
  | .drainAck acked :: _ => (acked, inFlight)
  | _ :: sent => readAckFrom inFlight sent

/-- What the ack reports as in flight, and what the transcript shows to be. -/
def readAck (sent : List GuestToHost) : Option TurnId × Option TurnId := readAckFrom none sent

/-- The observable facts of one run. -/
structure RaceReport where
  /-- Turns the workload tried to start. -/
  attempted : UInt32
  /-- Turns that ran to completion, the replayed ones included. -/
  completed : UInt32
  /-- What the ack reported as in flight. -/
  ackInFlight : Option TurnId
  /-- What was in flight, from the transcript. -/
  wireInFlight : Option TurnId
  /-- How many turns started after the gate closed. -/
  startedWhileGated : UInt32
deriving DecidableEq, Repr

/-- The run upheld the race rule on all counts. -/
def RaceReport.raceRuleHolds (r : RaceReport) : Bool :=
  r.completed = r.attempted && r.ackInFlight = r.wireInFlight && r.startedWhileGated = 0

/-- A run before its first event. -/
def Sim.init (vmId : VmId) (turns : List Turn) : Sim where
  g := .new vmId ⟨"0.1.0"⟩ ⟨[], []⟩
  started := .replicate turns.length none
  drained := false
  completed := 0
  startedWhileGated := 0

/-- Drive the guest through the events, then resume it and replay its backlog. -/
def simulateTurns (vmId : VmId) (turns : List Turn) (drainAt : UInt64) :
    Except ChaosError Sim := do
  let s ← (Sim.init vmId turns).run (events turns drainAt)
  -- The clock of the target goes on from after the last event.
  let t := max drainAt ((turns.getLast?.map Turn.stop).getD 0) + 1
  let (_, s) ← s.call (Guest.resume (instant t))
  s.replay t

/-- The report on a run that is over. -/
def Sim.report (s : Sim) (turns : List Turn) : RaceReport where
  attempted := .ofNat turns.length
  completed := s.completed
  ackInFlight := (readAck s.g.chan.sent).1
  wireInFlight := (readAck s.g.chan.sent).2
  startedWhileGated := s.startedWhileGated

/-- Run one chaos iteration for a seed. -/
def simulate (vmId : VmId) (seed : UInt64) : Except ChaosError RaceReport := do
  let (turns, drainAt) := generate (.new seed)
  let s ← simulateTurns vmId turns drainAt
  return s.report turns

end Sleepwalk.Harness
