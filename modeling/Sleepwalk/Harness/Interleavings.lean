import Sleepwalk.Guestd.RaceRule
import Sleepwalk.Harness.Chaos

/-!
# Chaos runs uphold the race rule

The events of a run are the starts and ends of the turns in alternation, with the drain anywhere
among them (`Interleaving`). `Inv` holds between any two of them: of the turns begun so far each is
completed, queued or the one in flight, and the transcript says so (`Transcript`). Replaying the
backlog moves what is queued to what is completed.
-/

namespace Sleepwalk.Harness

open Proto Guestd Bracket

/-! ## Interleavings -/

/-- The events left of a run over `k` turns, from before turn `i` on or, if `inside`, from its end
on. -/
inductive Interleaving (k : ℕ) : (i : ℕ) → (inside : Bool) → List Event → Prop where
  | done : Interleaving k k false []
  | start {i : ℕ} {es : List Event} (tick : UInt64) (hi : i < k)
      (hrest : Interleaving k i true es) : Interleaving k i false (⟨tick, .start, i⟩ :: es)
  | stop {i : ℕ} {es : List Event} (tick : UInt64) (hi : i < k)
      (hrest : Interleaving k (i + 1) false es) : Interleaving k i true (⟨tick, .stop, i⟩ :: es)
  | drain {i : ℕ} {inside : Bool} {es : List Event} (tick : UInt64) (j : ℕ)
      (hrest : Interleaving k i inside es) : Interleaving k i inside (⟨tick, .drain, j⟩ :: es)

theorem interleaving_turnEvents (turns : List Turn) (i : ℕ) :
    Interleaving (i + turns.length) i false (turnEvents i turns) := by
  induction turns generalizing i with
  | nil => exact .done
  | cons t turns ih =>
    have hlength : i + (t :: turns).length = i + 1 + turns.length := by
      rw [List.length_cons]
      omega
    have hi : i < i + 1 + turns.length := by omega
    rw [hlength]
    exact .start t.start hi (.stop t.stop hi (ih (i + 1)))

/-- A drain may come anywhere. -/
theorem Interleaving.insert {k i : ℕ} {inside : Bool} {pre post : List Event} (tick : UInt64)
    (j : ℕ) (h : Interleaving k i inside (pre ++ post)) :
    Interleaving k i inside (pre ++ ⟨tick, .drain, j⟩ :: post) := by
  induction pre generalizing i inside with
  | nil => exact .drain tick j h
  | cons e pre ih =>
    cases h with
    | start tick' hi hrest => exact .start tick' hi (ih hrest)
    | stop tick' hi hrest => exact .stop tick' hi (ih hrest)
    | drain tick' j' hrest => exact .drain tick' j' (ih hrest)

theorem interleaving_events {turns : List Turn} (hturns : Turns 0 turns) (drainAt : UInt64) :
    Interleaving turns.length 0 false (events turns drainAt) := by
  obtain ⟨pre, post, hsplit, hevents⟩ := exists_events hturns drainAt
  have hall : Interleaving turns.length 0 false (pre ++ post) := by
    rw [← hsplit]
    simpa using interleaving_turnEvents turns 0
  rw [hevents]
  exact hall.insert drainAt USIZE_MAX

/-! ## The transcript -/

/-- What a transcript shows: the turns alternate, with one in flight if there is, `n` of them have
been completed, and the ack, once there is one, names the turn that was open before it. -/
structure Transcript (sent : List GuestToHost) (inFlight : Option TurnId) (drained : Bool)
    (n : ℕ) : Prop where
  alternates : track (marks sent) = some inFlight
  closed : ∃ done, (marks sent).foldl closeStep (none, []) = (inFlight, done) ∧ done.length = n
  unacked : drained = false → ∀ rest, readAck (sent ++ rest) = readAckFrom inFlight rest
  acked : drained = true →
    ∃ o, .drainAck o ∈ sent ∧ ∀ rest, readAck (sent ++ rest) = (o, o)

namespace Transcript

variable {sent : List GuestToHost} {o : Option TurnId} {t : TurnId} {drained : Bool} {n : ℕ}

theorem nil : Transcript [] none false 0 where
  alternates := rfl
  closed := ⟨[], rfl, rfl⟩
  unacked := fun _ _ => rfl
  acked := nofun

theorem marks_append_unmarked {msg : GuestToHost} (hmsg : turnMark msg = none) :
    marks (sent ++ [msg]) = marks sent := by
  have hnone : marks [msg] = [] := List.filterMap_cons_none hmsg
  rw [marks_append, hnone, List.append_nil]

/-- An ack stays the first one, whatever is sent after it. -/
theorem acked_append (h : Transcript sent o drained n) (msg : GuestToHost)
    (hdrained : drained = true) :
    ∃ o, .drainAck o ∈ sent ++ [msg] ∧ ∀ rest, readAck (sent ++ [msg] ++ rest) = (o, o) := by
  obtain ⟨acked, hmem, hread⟩ := h.acked hdrained
  refine ⟨acked, List.mem_append_left _ hmem, fun rest => ?_⟩
  rw [List.append_assoc]
  exact hread _

theorem started (h : Transcript sent none drained n) (now : Timestamp) :
    Transcript (sent ++ [.turnStarted t now]) (some t) drained n where
  alternates := by
    rw [marks_append]
    exact track_append_start h.alternates t
  closed := by
    obtain ⟨done, hdone, hlength⟩ := h.closed
    refine ⟨done, ?_, hlength⟩
    rw [marks_append, List.foldl_append, hdone]
    rfl
  unacked := by
    intro hdrained rest
    rw [List.append_assoc, h.unacked hdrained]
    rfl
  acked := h.acked_append _

theorem ended (h : Transcript sent (some t) drained n) (now : Timestamp) :
    Transcript (sent ++ [.turnEnded t now]) none drained (n + 1) where
  alternates := by
    rw [marks_append]
    exact track_append_stop h.alternates
  closed := by
    obtain ⟨done, hdone, hlength⟩ := h.closed
    have hclose : closeStep (some t, done) (.stop t) = (none, done ++ [t]) := if_pos rfl
    refine ⟨done ++ [t], ?_, by simp [hlength]⟩
    rw [marks_append, List.foldl_append, hdone]
    exact hclose
  unacked := by
    intro hdrained rest
    rw [List.append_assoc, h.unacked hdrained]
    rfl
  acked := h.acked_append _

/-- The ack names the turn in flight, which is the one the transcript shows. -/
theorem drainAck (h : Transcript sent o drained n) :
    Transcript (sent ++ [.drainAck o]) o true n where
  alternates := by
    rw [marks_append_unmarked rfl]
    exact h.alternates
  closed := by
    rw [marks_append_unmarked rfl]
    exact h.closed
  unacked := nofun
  acked := by
    intro _
    rcases hdrained : drained with - | -
    · refine ⟨o, by simp, fun rest => ?_⟩
      rw [List.append_assoc, h.unacked hdrained]
      rfl
    · exact h.acked_append _ hdrained

theorem resumed (h : Transcript sent o drained n) (now : Timestamp) :
    Transcript (sent ++ [.resumed now]) o drained n where
  alternates := by
    rw [marks_append_unmarked rfl]
    exact h.alternates
  closed := by
    rw [marks_append_unmarked rfl]
    exact h.closed
  unacked := by
    intro hdrained rest
    rw [List.append_assoc, h.unacked hdrained]
    rfl
  acked := h.acked_append _

end Transcript

/-! ## One event -/

/-- The run is over `k` turns and has come to turn `i`: each turn before it, and itself if its start
is past, has been completed, is queued, or is in flight. -/
structure Inv (k i : ℕ) (inside : Bool) (s : Sim) : Prop where
  size : s.started.length = k
  current : ∀ j, i ≤ j → j < k → s.started[j]? = some (if j = i then s.g.inFlight else none)
  idle : inside = false → s.g.inFlight = none
  gate : s.g.gated = s.drained
  backlog : s.drained = false → s.g.queued = 0
  count : s.completed.toNat + s.g.queued.toNat + (if s.g.inFlight.isSome then 1 else 0) =
    i + inside.toNat
  quiet : s.startedWhileGated = 0
  transcript : Transcript s.g.chan.sent s.g.inFlight s.drained s.completed.toNat

section Step

variable {k i : ℕ} {inside : Bool} {s : Sim}

theorem call_of_exec {α : Type} {m : GuestM PseudoChannel α} {a : α} {g : Guest PseudoChannel}
    (h : Guest.exec m s.g = (.ok a, g)) : s.call m = .ok (a, { s with g }) := by
  rw [Sim.call, h]

theorem ok_bind {α β : Type} (a : α) (f : α → Except ChaosError β) : Except.ok a >>= f = f a := rfl

theorem toNat_add_one {n : UInt32} (h : n.toNat < 2 ^ 31) : (n + 1).toNat = n.toNat + 1 := by
  have hone : (1 : UInt32).toNat = 1 := rfl
  rw [UInt32.toNat_add, hone, Nat.mod_eq_of_lt (by omega)]

/-- A turn that starts with the gate open is in flight. -/
theorem step_started (hidle : s.g.inFlight = none) (hgate : s.g.gated = false)
    (hopen : s.drained = false) (hi : i < s.started.length) (tick : UInt64) :
    s.step ⟨tick, .start, i⟩ = .ok { s with
      g := begun s.g (instant tick)
      started := s.started.set i (some s.g.nextTurn) } := by
  have hexec := exec_startTurn (instant tick) hidle hgate
  simp only [Sim.step, call_of_exec hexec, ok_bind, hopen, Bool.false_eq_true, if_false, if_pos hi]
  rfl

/-- A turn that starts with the gate closed is queued. -/
theorem step_queued (hidle : s.g.inFlight = none) (hgate : s.g.gated = true) (tick : UInt64) :
    s.step ⟨tick, .start, i⟩ = .ok { s with g := { s.g with queued := s.g.queued + 1 } } := by
  have hexec := exec_startTurn_gated (instant tick) hidle hgate
  simp only [Sim.step, call_of_exec hexec, ok_bind]
  rfl

theorem step_ended {t : TurnId} (hbusy : s.g.inFlight = some t)
    (hstarted : s.started[i]? = some (some t)) (tick : UInt64) :
    s.step ⟨tick, .stop, i⟩ = .ok { s with
      g := { recorded s.g (.turnEnded t (instant tick)) with inFlight := none }
      completed := s.completed + 1 } := by
  have hexec := exec_endTurn (instant tick) hbusy
  simp only [Sim.step, hstarted, hbusy, if_true, call_of_exec hexec, ok_bind]
  rfl

/-- The end of a turn that was queued is not its end. -/
theorem step_skipped (hstarted : s.started[i]? = some none) (tick : UInt64) :
    s.step ⟨tick, .stop, i⟩ = .ok s := by
  simp only [Sim.step, hstarted]
  rfl

theorem step_drained (tick : UInt64) (j : ℕ) :
    s.step ⟨tick, .drain, j⟩ = .ok { s with
      g := recorded { s.g with gated := true } (.drainAck s.g.inFlight)
      drained := true } := by
  have hexec := exec_drainRequest (g := s.g) (instant tick) ⟨500000000⟩
  simp only [Sim.step, call_of_exec hexec, ok_bind]
  rfl

/-- What a start does: the turn is in flight before the drain, and queued after it. -/
theorem inv_start (h : Inv k i false s) (hk : k < 2 ^ 31) (hi : i < k) (tick : UInt64) :
    ∃ s', s.step ⟨tick, .start, i⟩ = .ok s' ∧ Inv k i true s' ∧ s'.drained = s.drained := by
  have hidle := h.idle rfl
  have hcount := h.count
  simp only [hidle, Option.isSome_none, Bool.false_eq_true, if_false, Bool.toNat_false] at hcount
  rcases hdrained : s.drained with - | -
  · -- The gate is open: the turn runs, under the id the script knows it by from now on.
    have hlength : i < s.started.length := by rwa [h.size]
    refine ⟨_, step_started hidle (h.gate.trans hdrained) hdrained hlength tick, ?_, hdrained⟩
    exact {
      size := by simpa using h.size
      current := by
        intro j hj hjk
        by_cases hji : j = i
        · subst hji
          simp [hlength, begun, recorded]
        · have hcurrent := h.current j hj hjk
          rw [if_neg hji] at hcurrent ⊢
          simpa [List.getElem?_set_ne (Ne.symm hji)] using hcurrent
      idle := nofun
      gate := h.gate
      backlog := h.backlog
      count := by
        simp only [begun, recorded, Option.isSome_some, if_true, Bool.toNat_true]
        omega
      quiet := h.quiet
      transcript := by
        have htranscript := h.transcript
        rw [hidle] at htranscript
        exact htranscript.started _ }
  · -- The gate is shut: the turn waits in the backlog, which grows by one.
    refine ⟨_, step_queued hidle (h.gate.trans hdrained) tick, ?_, hdrained⟩
    exact {
      size := h.size
      current := h.current
      idle := nofun
      gate := h.gate
      backlog := by
        intro hopen
        cases hopen.symm.trans hdrained
      count := by
        simp only [hidle, Option.isSome_none, Bool.false_eq_true, if_false, Bool.toNat_true]
        rw [toNat_add_one (by omega)]
        omega
      quiet := h.quiet
      transcript := h.transcript }

/-- What an end does: the turn in flight is completed, and a queued one stays so. -/
theorem inv_stop (h : Inv k i true s) (hk : k < 2 ^ 31) (hi : i < k) (tick : UInt64) :
    ∃ s', s.step ⟨tick, .stop, i⟩ = .ok s' ∧ Inv k (i + 1) false s' ∧
      s'.drained = s.drained := by
  have hcount := h.count
  have hcurrent := h.current i le_rfl hi
  rw [if_pos rfl] at hcurrent
  rcases hbusy : s.g.inFlight with - | t
  · -- It was queued when it began, so its end finds nothing of it.
    rw [hbusy] at hcurrent
    simp only [hbusy, Option.isSome_none, Bool.false_eq_true, if_false, Bool.toNat_true] at hcount
    refine ⟨s, step_skipped hcurrent tick, ?_, rfl⟩
    exact {
      size := h.size
      current := by
        intro j hj hjk
        have hlater := h.current j (by omega) hjk
        rwa [hbusy, ite_self] at hlater ⊢
      idle := fun _ => hbusy
      gate := h.gate
      backlog := h.backlog
      count := by
        simp only [hbusy, Option.isSome_none, Bool.false_eq_true, if_false, Bool.toNat_false]
        omega
      quiet := h.quiet
      transcript := h.transcript }
  · -- It runs, also where a drain came meanwhile, and ends.
    rw [hbusy] at hcurrent
    simp only [hbusy, Option.isSome_some, if_true, Bool.toNat_true] at hcount
    refine ⟨_, step_ended hbusy hcurrent tick, ?_, rfl⟩
    exact {
      size := h.size
      current := by
        intro j hj hjk
        have hlater := h.current j (by omega) hjk
        have hne : j ≠ i := by omega
        rw [if_neg hne] at hlater
        rwa [ite_self]
      idle := fun _ => rfl
      gate := h.gate
      backlog := h.backlog
      count := by
        simp only [recorded, Option.isSome_none, Bool.false_eq_true, if_false, Bool.toNat_false]
        rw [toNat_add_one (by omega)]
        omega
      quiet := h.quiet
      transcript := by
        have htranscript := h.transcript
        rw [hbusy] at htranscript
        rw [toNat_add_one (by omega)]
        exact htranscript.ended _ }

/-- A drain closes the gate, whichever turn is in flight. -/
theorem inv_drain (h : Inv k i inside s) (tick : UInt64) (j : ℕ) :
    ∃ s', s.step ⟨tick, .drain, j⟩ = .ok s' ∧ Inv k i inside s' ∧ s'.drained = true := by
  refine ⟨_, step_drained tick j, ?_, rfl⟩
  exact {
    size := h.size
    current := h.current
    idle := h.idle
    gate := rfl
    backlog := nofun
    count := h.count
    quiet := h.quiet
    transcript := h.transcript.drainAck }

/-- After some of the events the invariant holds where the others go on. -/
theorem run_inv {pre post : List Event} (hes : Interleaving k i inside (pre ++ post))
    (h : Inv k i inside s) (hk : k < 2 ^ 31) :
    ∃ i' inside' s', s.run pre = .ok s' ∧ Inv k i' inside' s' ∧
      Interleaving k i' inside' post ∧
      s'.drained = (s.drained || pre.any fun e => e.kind = .drain) := by
  -- The shape of an interleaving says which step lemma the next event needs.
  induction pre generalizing i inside s with
  | nil => exact ⟨i, inside, s, rfl, h, hes, (Bool.or_false _).symm⟩
  | cons e pre ih =>
    have hcons : ∀ {s₁ : Sim}, s.step e = .ok s₁ → s.run (e :: pre) = s₁.run pre := by
      intro s₁ hstep
      rw [Sim.run, List.foldlM_cons, hstep]
      rfl
    cases hes with
    | start tick hi hrest =>
      obtain ⟨s₁, hstep, h₁, hdrained⟩ := inv_start h hk hi tick
      obtain ⟨i', inside', s', hrun, h', hpost, hdrained'⟩ := ih hrest h₁
      refine ⟨i', inside', s', (hcons hstep).trans hrun, h', hpost, ?_⟩
      simp [hdrained', hdrained]
    | stop tick hi hrest =>
      obtain ⟨s₁, hstep, h₁, hdrained⟩ := inv_stop h hk hi tick
      obtain ⟨i', inside', s', hrun, h', hpost, hdrained'⟩ := ih hrest h₁
      refine ⟨i', inside', s', (hcons hstep).trans hrun, h', hpost, ?_⟩
      simp [hdrained', hdrained]
    | drain tick j hrest =>
      obtain ⟨s₁, hstep, h₁, hdrained⟩ := inv_drain h tick j
      obtain ⟨i', inside', s', hrun, h', hpost, hdrained'⟩ := ih hrest h₁
      refine ⟨i', inside', s', (hcons hstep).trans hrun, h', hpost, ?_⟩
      simp [hdrained', hdrained]

end Step

/-! ## The backlog -/

/-- After the resume: every turn of the run is completed or queued. -/
structure Replaying (k : ℕ) (s : Sim) : Prop where
  idle : s.g.inFlight = none
  ungated : s.g.gated = false
  count : s.completed.toNat + s.g.queued.toNat = k
  quiet : s.startedWhileGated = 0
  transcript : Transcript s.g.chan.sent none s.drained s.completed.toNat

/-- Replaying ends with the backlog empty, and completes what was in it. -/
theorem exists_replay {k : ℕ} {s : Sim} (h : Replaying k s) (hk : k < 2 ^ 31) (t : UInt64) :
    ∃ s', s.replay t = .ok s' ∧ Replaying k s' ∧ s'.g.queued = 0 ∧ s'.drained = s.drained := by
  induction hn : s.g.queued.toNat generalizing s t with
  | zero =>
    have hqueued : s.g.queued = 0 := UInt32.toNat_inj.mp hn
    exact ⟨s, replay_of_empty (exec_replayNext_empty _ h.idle h.ungated hqueued), h, hqueued, rfl⟩
  | succ n ih =>
    have hqueued : s.g.queued ≠ 0 := by
      intro hzero
      rw [hzero] at hn
      exact Nat.succ_ne_zero n hn.symm
    have hless := toNat_sub_one hqueued
    have hcount := h.count
    have hbegun := exec_replayNext (instant (t + 1)) h.idle h.ungated hqueued
    have hended := exec_endTurn (instant (t + 2)) (t := s.g.nextTurn)
      (g := begun { s.g with queued := s.g.queued - 1 } (instant (t + 1))) rfl
    rw [replay_of_some hbegun hended]
    -- One turn has gone over from the backlog to the completed ones.
    refine ih ?_ (t + 2) ?_
    · exact {
        idle := rfl
        ungated := h.ungated
        count := by
          simp only [begun, recorded]
          rw [toNat_add_one (by omega)]
          omega
        quiet := h.quiet
        transcript := by
          rw [toNat_add_one (by omega)]
          exact (h.transcript.started _).ended _ }
    · simp only [begun, recorded]
      omega

theorem inv_init (vmId : VmId) (turns : List Turn) :
    Inv turns.length 0 false (Sim.init vmId turns) where
  size := List.length_replicate
  current := by
    intro j _ hj
    simp [Sim.init, Guest.new, hj]
  idle := fun _ => rfl
  gate := rfl
  backlog := fun _ => rfl
  count := rfl
  quiet := rfl
  transcript := .nil

/-- A run over turns that do not overlap ends with all of them completed. -/
theorem exists_simulateTurns (vmId : VmId) {turns : List Turn} (hturns : Turns 0 turns)
    (hk : turns.length < 2 ^ 31) (drainAt : UInt64) :
    ∃ s, simulateTurns vmId turns drainAt = .ok s ∧ Replaying turns.length s ∧ s.g.queued = 0 ∧
      s.drained = true := by
  have hes : Interleaving turns.length 0 false (events turns drainAt ++ []) := by
    rw [List.append_nil]
    exact interleaving_events hturns drainAt
  obtain ⟨i, inside, s, hrun, h, hend, hdrained⟩ := run_inv hes (inv_init vmId turns) hk
  -- The events are over, so every turn has begun, and the drain was among them.
  obtain ⟨rfl, rfl⟩ : i = turns.length ∧ inside = false := by
    cases hend
    exact ⟨rfl, rfl⟩
  have hdrain : s.drained = true := by
    obtain ⟨pre, post, -, hevents⟩ := exists_events hturns drainAt
    rw [hdrained, hevents]
    simp
  have hidle := h.idle rfl
  have hcount := h.count
  simp only [hidle, Option.isSome_none, Bool.false_eq_true, if_false, Bool.toNat_false] at hcount
  -- The resume reopens the gate; what is queued is replayed.
  let t := max drainAt ((turns.getLast?.map Turn.stop).getD 0) + 1
  have hresume := exec_resume (g := s.g) (instant t)
  have hreplaying : Replaying turns.length
      { s with g := { recorded s.g (.resumed (instant t)) with gated := false } } := {
    idle := hidle
    ungated := rfl
    count := by simpa [recorded] using hcount
    quiet := h.quiet
    transcript := by
      have htranscript := h.transcript
      rw [hidle] at htranscript
      exact htranscript.resumed _ }
  obtain ⟨s', hreplay, h', hqueued, hkept⟩ := exists_replay hreplaying hk t
  refine ⟨s', ?_, h', hqueued, hkept.trans hdrain⟩
  simp only [simulateTurns, hrun, ok_bind]
  exact hreplay

theorem simulate_of_generate {vmId : VmId} {seed : UInt64} {turns : List Turn} {drainAt : UInt64}
    {s : Sim} (hgenerate : generate (.new seed) = (turns, drainAt))
    (hrun : simulateTurns vmId turns drainAt = .ok s) :
    simulate vmId seed = .ok (s.report turns) := by
  rw [simulate, hgenerate]
  simp only [hrun, ok_bind]
  rfl

/-- For every seed: there are three to eight turns, which are not empty and do not overlap, none is
started while another is in flight, and the run ends without an error, its report in order. On the
transcript every turn has been started and ended, and the ack is there. -/
theorem chaos_upholds_race_rule (vmId : VmId) (seed : UInt64) :
    ∃ turns drainAt, generate (.new seed) = (turns, drainAt) ∧
      3 ≤ turns.length ∧ turns.length ≤ 8 ∧
      (∀ t ∈ turns, t.start < t.stop) ∧ (turns.Pairwise fun t u => t.stop ≤ u.start) ∧
      (∀ pre e post, events turns drainAt = pre ++ e :: post → e.kind = .start →
        ∃ s, (Sim.init vmId turns).run pre = .ok s ∧ s.g.inFlight = none) ∧
      ∃ s, simulateTurns vmId turns drainAt = .ok s ∧
        simulate vmId seed = .ok (s.report turns) ∧ (s.report turns).raceRuleHolds = true ∧
        .drainAck (s.report turns).ackInFlight ∈ s.g.chan.sent ∧
        s.g.inFlight = none ∧ s.g.queued = 0 ∧ track (marks s.g.chan.sent) = some none ∧
        (completed (marks s.g.chan.sent)).length = turns.length := by
  obtain ⟨turns, drainAt, hgenerate, hturns, hsome, hshort⟩ := exists_generate (.new seed)
  have hk : turns.length < 2 ^ 31 := by omega
  refine ⟨turns, drainAt, hgenerate, hsome, hshort, hturns.nonempty, hturns.apart, ?_, ?_⟩
  · intro pre e post hsplit hstart
    have hes : Interleaving turns.length 0 false (pre ++ e :: post) := by
      rw [← hsplit]
      exact interleaving_events hturns drainAt
    obtain ⟨i, inside, s, hrun, h, hpost, -⟩ := run_inv hes (inv_init vmId turns) hk
    -- Only between two turns does one start.
    cases hpost with
    | start => exact ⟨s, hrun, h.idle rfl⟩
    | stop => cases hstart
    | drain => cases hstart
  · obtain ⟨s, hrun, h, hqueued, hdrained⟩ := exists_simulateTurns vmId hturns hk drainAt
    obtain ⟨o, hack, hread⟩ := h.transcript.acked hdrained
    obtain ⟨done, hdone, hlength⟩ := h.transcript.closed
    have hread' : readAck s.g.chan.sent = (o, o) := by simpa using hread []
    have hcompleted : s.completed.toNat = turns.length := by
      have hcount := h.count
      rwa [hqueued] at hcount
    refine ⟨s, hrun, simulate_of_generate hgenerate hrun, ?_, ?_, h.idle, hqueued,
      h.transcript.alternates, ?_⟩
    · have hsame : s.completed = UInt32.ofNat turns.length := by
        rw [← hcompleted, UInt32.ofNat_toNat]
      simp [RaceReport.raceRuleHolds, Sim.report, hread', hsame, h.quiet]
    · rw [Sim.report, hread']
      exact hack
    · rw [completed, hdone, hlength, hcompleted]

end Sleepwalk.Harness
