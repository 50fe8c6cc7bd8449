import Sleepwalk.Guestd.RaceRule

/-!
# Zero dropped turns

Every accepted turn is completed, in flight or queued, whatever becomes of the sends
(`turns_conserved`), and once the channel works again the recovery sequence of the chaos harness
brings every one of them to its end (`recovery_completes`).

The backlog is counted twice: by the guest's `u32`, which wraps, and by the ledger, which does
not. The two agree modulo `2 ^ 32`, so they are equal as long as fewer than `2 ^ 32` turns wait.
-/

namespace Sleepwalk.Guestd

open Proto

namespace Ledger

/-- Turns put into the backlog and not taken out of it. -/
def backlog (l : Ledger) : ℕ := l.enqueued - l.dequeued

@[simp]
theorem add_zero (l : Ledger) : l.add zero = l := rfl

theorem zero_add (l : Ledger) : zero.add l = l := by
  ext <;> simp [add, zero]

theorem add_assoc (a b c : Ledger) : (a.add b).add c = a.add (b.add c) := by
  ext <;> simp [add, Nat.add_assoc]

end Ledger

namespace Guest

/-- The ledger of a run. -/
def ledger (g : Guest FatedChannel) : List GuestOp → Ledger
  | [] => .zero
  | op :: ops => (Ledger.entry op.core (g.result op.core)).add ((g.after op).ledger ops)

/-- The ledger of two runs in a row is the sum of theirs. -/
theorem ledger_append (g : Guest FatedChannel) (ops₁ ops₂ : List GuestOp) :
    g.ledger (ops₁ ++ ops₂) = (g.ledger ops₁).add ((g.run ops₁).ledger ops₂) := by
  induction ops₁ generalizing g with
  | nil => exact (Ledger.zero_add _).symm
  | cons op ops₁ ih =>
    rw [List.cons_append, ledger, ih, ledger, Ledger.add_assoc, run_cons]

/-- One turn while a turn is in flight, none otherwise. -/
def inFlightCount {C : Type} (g : Guest C) : ℕ := if g.inFlight.isSome then 1 else 0

@[simp]
theorem inFlightCount_of_none {C : Type} {g : Guest C} (h : g.inFlight = none) :
    g.inFlightCount = 0 := by
  simp [inFlightCount, h]

@[simp]
theorem inFlightCount_of_some {C : Type} {g : Guest C} {t : TurnId} (h : g.inFlight = some t) :
    g.inFlightCount = 1 := by
  simp [inFlightCount, h]

end Guest

/-! ## The balance -/

/-- The books of a guest are balanced: turns in, turns out, and the backlog up to wrapping. -/
structure Balanced (g : Guest FatedChannel) (l : Ledger) : Prop where
  /-- Accepted turns are completed, waiting or in flight. -/
  turns : l.accepted + l.dequeued = l.completed + l.enqueued + g.inFlightCount
  /-- Only queued turns are taken out of the backlog. -/
  dequeued_le : l.dequeued ≤ l.enqueued
  /-- The counter is the backlog modulo `2 ^ 32`. -/
  counter : g.queued.toNat = l.backlog % 2 ^ 32

variable {g g' : Guest FatedChannel} {op : GuestOp} {r : Except GuestError Reply} {l : Ledger}

/-- A guest with nothing in flight and nothing queued starts balanced books. -/
theorem balanced_zero (hidle : g.inFlight = none) (hqueued : g.queued = 0) :
    Balanced g .zero where
  turns := by simp [Ledger.zero, hidle]
  dequeued_le := Nat.le_refl _
  counter := by simp [Ledger.zero, Ledger.backlog, hqueued]

/-- A call that queues nothing and replays nothing keeps the books balanced if it moves turns
between accepted, completed and in flight. -/
theorem Balanced.move (h : Balanced g l) {e : Ledger} (hqueued : g'.queued = g.queued)
    (henq : e.enqueued = 0) (hdeq : e.dequeued = 0)
    (hturns : e.accepted + g.inFlightCount = e.completed + g'.inFlightCount) :
    Balanced g' (l.add e) := by
  have hsame : (l.add e).backlog = l.backlog := by simp [Ledger.backlog, Ledger.add, henq, hdeq]
  refine ⟨?_, ?_, ?_⟩
  · have := h.turns
    simp only [Ledger.add, henq, hdeq]
    omega
  · simpa [Ledger.add, henq, hdeq] using h.dequeued_le
  · rw [hqueued, hsame]
    exact h.counter

/-- Queueing a turn keeps the books balanced. -/
theorem Balanced.enqueue (h : Balanced g l) (hqueued : g'.queued = g.queued + 1)
    (hbusy : g'.inFlight = g.inFlight) : Balanced g' (l.add ⟨1, 0, 1, 0⟩) := by
  have hcount : g'.inFlightCount = g.inFlightCount := by simp [Guest.inFlightCount, hbusy]
  have hturns := h.turns
  have hle := h.dequeued_le
  have hcounter := h.counter
  simp only [Ledger.backlog] at hcounter
  refine ⟨?_, ?_, ?_⟩
  · simp only [Ledger.add, hcount]
    omega
  · simp only [Ledger.add]
    omega
  -- The counter wraps where the backlog does not, so they agree modulo `2 ^ 32` only.
  · rw [hqueued, UInt32.toNat_add]
    simp only [Ledger.backlog, Ledger.add, UInt32.toNat_one]
    omega

/-- Taking one out of a nonempty counter takes one off its value. -/
theorem toNat_sub_one_add_one {n : UInt32} (h : n ≠ 0) : (n - 1).toNat + 1 = n.toNat := by
  have hpos : 1 ≤ n.toNat := by
    have hne : n.toNat ≠ 0 := fun h0 => h (UInt32.toNat_inj.mp h0)
    omega
  rw [UInt32.toNat_sub_of_le _ _ (UInt32.le_iff_toNat_le.mpr (by simpa using hpos)),
    UInt32.toNat_one]
  omega

/-- Taking a queued turn into flight keeps the books balanced. -/
theorem Balanced.dequeue (h : Balanced g l) (hnonempty : g.queued ≠ 0)
    (hqueued : g'.queued = g.queued - 1) (hidle : g.inFlight = none)
    (hbusy : g'.inFlight.isSome) : Balanced g' (l.add ⟨0, 0, 0, 1⟩) := by
  have hcount : g'.inFlightCount = 1 := by simp [Guest.inFlightCount, hbusy]
  have hcount' := g.inFlightCount_of_none hidle
  have hturns := h.turns
  have hcounter := h.counter
  have hless := toNat_sub_one_add_one hnonempty
  simp only [Ledger.backlog] at hcounter
  refine ⟨?_, ?_, ?_⟩
  · simp only [Ledger.add, hcount]
    omega
  · simp only [Ledger.add]
    omega
  · rw [hqueued]
    simp only [Ledger.backlog, Ledger.add]
    omega

/-- Every call keeps the books balanced. -/
theorem Effect.balanced (h : Effect op r g g') (hbal : Balanced g l) :
    Balanced g' (l.add (Ledger.entry op r)) := by
  -- Only a queued and a replayed turn change the backlog; the rest moves turns at most between
  -- accepted, in flight and completed.
  cases h with
  | idle chan secrets sent hfates hlog hsent hentry =>
    rw [hentry]
    exact hbal.move rfl rfl rfl rfl
  | closeGate d now => exact hbal.move rfl rfl rfl rfl
  | cancel now => exact hbal.move rfl rfl rfl rfl
  | resumed now => exact hbal.move rfl rfl rfl rfl
  | queue hidle hgate hentry =>
    rw [hentry]
    exact hbal.enqueue rfl rfl
  | start now hidle hop hentry =>
    rw [hentry]
    exact hbal.move rfl rfl rfl (by rw [Guest.inFlightCount_of_none hidle]; rfl)
  | replay now hidle hgate hqueued hentry =>
    rw [hentry]
    exact hbal.dequeue hqueued rfl hidle rfl
  | startFailed t now hidle hgate hfate =>
    exact hbal.move rfl rfl rfl (by rw [Guest.inFlightCount_of_none hidle]; rfl)
  | finishFailed t now hidle hgate hfate hfate' =>
    exact hbal.move rfl rfl rfl (by rw [Guest.inFlightCount_of_none hidle]; rfl)
  | ran t now hidle hgate hfate hfate' => exact hbal.move rfl rfl rfl rfl
  | ended t now hbusy hfate =>
    exact hbal.move rfl rfl rfl (by rw [Guest.inFlightCount_of_some hbusy]; rfl)
  | endFailed t now hbusy hfate => exact hbal.move rfl rfl rfl rfl

/-- Every run keeps the books balanced. -/
theorem balanced_run (hbal : Balanced g l) (ops : List GuestOp) :
    Balanced (g.run ops) (l.add (g.ledger ops)) := by
  induction ops generalizing g l with
  | nil => exact hbal
  | cons op ops ih =>
    have hstep := (call_effect_after (g := g) op).balanced hbal
    rw [Guest.ledger, ← Ledger.add_assoc]
    exact ih hstep

/-- While fewer than `2 ^ 32` turns wait, every accepted turn is completed, queued or in flight. -/
theorem Balanced.conserved (h : Balanced g l) (hsmall : l.backlog < 2 ^ 32) :
    l.accepted = l.completed + g.queued.toNat + g.inFlightCount := by
  have hcounter := h.counter
  rw [Nat.mod_eq_of_lt hsmall] at hcounter
  have hturns := h.turns
  have hle := h.dequeued_le
  simp only [Ledger.backlog] at hcounter
  omega

/-! ## Recovery -/

section Recovery

/-- The fates of a channel never change. -/
theorem Effect.fates (h : Effect op r g g') : g'.chan.fates = g.chan.fates := by
  cases h <;> first | assumption | rfl

/-- A channel that works keeps working through every call. -/
theorem worksFromNow_after (h : g.chan.WorksFromNow) (op : GuestOp) :
    (g.after op).chan.WorksFromNow := by
  intro n hn
  rw [(call_effect_after (g := g) op).fates]
  apply h
  rw [after_log, List.length_append] at hn
  omega

/-- A channel that works keeps working through every run. -/
theorem worksFromNow_run (h : g.chan.WorksFromNow) (ops : List GuestOp) :
    (g.run ops).chan.WorksFromNow :=
  Guest.run_induction (P := fun g : Guest FatedChannel => g.chan.WorksFromNow)
    (fun _ op h => worksFromNow_after h op) h ops

namespace Guest

/-- The calls of the loop `replay_next; end_turn`, which goes on until `replay_next` returns
`None` and stops at the first error. `clock n` is the time of the `n`-th call, and `fuel` bounds
the number of replays attempted. -/
def replayCalls (clock : ℕ → Timestamp) : ℕ → ℕ → Guest FatedChannel → List GuestOp
  | 0, _, _ => []
  | fuel + 1, n, g =>
    let replay := .replayNext (clock n)
    let finish := .endTurn (clock (n + 1))
    match g.result replay with
    | .ok (.replayed (some _)) =>
      match (g.after replay).result finish with
      | .ok _ => replay :: finish ::
          replayCalls clock fuel (n + 2) ((g.after replay).after finish)
      | .error _ => [replay, finish]
    | _ => [replay]

/-- The call that ends the turn in flight, if there is one. -/
def finishCalls (clock : ℕ → Timestamp) (g : Guest FatedChannel) : List GuestOp :=
  if g.inFlight.isSome then [.endTurn (clock 0)] else []

/-- The calls of the whole recovery: end the turn in flight, resume, replay the backlog. -/
def recoveryCalls (clock : ℕ → Timestamp) (fuel : ℕ) (g : Guest FatedChannel) : List GuestOp :=
  let opening := g.finishCalls clock ++ [.resume (clock 1)]
  opening ++ replayCalls clock fuel 2 (g.run opening)

/-- Every call of a run succeeds. -/
def AllSucceed : Guest FatedChannel → List GuestOp → Prop
  | _, [] => True
  | g, op :: ops => (∃ r, g.result op = .ok r) ∧ AllSucceed (g.after op) ops

/-- A run ends with a replay that found the backlog empty. -/
def EndsEmpty (g : Guest FatedChannel) (ops : List GuestOp) : Prop :=
  ∃ before now, ops = before ++ [.replayNext now] ∧
    (g.run before).result (.replayNext now) = .ok (.replayed none)

end Guest

/-- A guest that can replay its backlog: its channel works, nothing is in flight and the gate is
open. -/
structure Ready (g : Guest FatedChannel) : Prop where
  /-- Every send from now on succeeds. -/
  works : g.chan.WorksFromNow
  /-- No turn is in flight. -/
  idle : g.inFlight = none
  /-- The gate is open. -/
  isOpen : g.gated = false

/-- On a ready guest with an empty backlog a replay says so and changes nothing. -/
theorem Ready.replay_empty (h : Ready g) (hqueued : g.queued = 0) (now : Timestamp) :
    g.result (.replayNext now) = .ok (.replayed none) ∧ g.after (.replayNext now) = g := by
  have hcall := Guest.call_replayNext_empty h.idle h.isOpen hqueued now
  unfold Guest.result Guest.after
  rw [hcall]
  exact ⟨rfl, rfl⟩

/-- On a ready guest with a backlog a replay begins a turn, which can be ended, and the guest is
ready again with one turn less queued. -/
theorem Ready.replay_round (h : Ready g) (hqueued : g.queued ≠ 0) (now done : Timestamp) :
    let begun := g.after (.replayNext now)
    let ended := begun.after (.endTurn done)
    (∃ t, g.result (.replayNext now) = .ok (.replayed (some t))) ∧
      begun.result (.endTurn done) = .ok .unit ∧ Ready ended ∧ ended.queued = g.queued - 1 := by
  intro begun ended
  have hcall := Guest.call_replayNext_begun h.idle h.isOpen hqueued now
  have hbegin := Guest.exec_beginTurn_delivered (g := { g with queued := g.queued - 1 }) now
    h.works.nextFate
  rw [hbegin] at hcall
  have hbegun : begun = { g with queued := g.queued - 1 }.begun now := congrArg Prod.snd hcall
  -- The start marker goes through, and so does the end marker after it.
  have hworks : begun.chan.WorksFromNow := worksFromNow_after h.works _
  have hbusy : begun.inFlight = some g.nextTurn := by rw [hbegun]; rfl
  have hend := Guest.call_endTurn_ended hbusy hworks.nextFate done
  have hended : ended = { begun.pushed (.turnEnded g.nextTurn done) with inFlight := none } :=
    congrArg Prod.snd hend
  refine ⟨⟨g.nextTurn, congrArg Prod.fst hcall⟩, congrArg Prod.fst hend, ⟨?_, ?_, ?_⟩, ?_⟩
  · exact worksFromNow_after hworks _
  · rw [hended]
  · rw [hended, hbegun]
    exact h.isOpen
  · rw [hended, hbegun]
    rfl

/-- On a ready guest, with fuel for the whole backlog, the replay loop succeeds throughout, takes
out exactly the queued turns and ends with an empty backlog. -/
theorem Ready.replay_all (h : Ready g) (clock : ℕ → Timestamp) {fuel : ℕ}
    (hfuel : g.queued.toNat < fuel) (n : ℕ) :
    let calls := g.replayCalls clock fuel n
    g.AllSucceed calls ∧ g.EndsEmpty calls ∧
      ((g.ledger calls).enqueued = 0 ∧ (g.ledger calls).dequeued = g.queued.toNat) ∧
      (g.run calls).queued = 0 ∧ Ready (g.run calls) := by
  induction fuel generalizing g n with
  | zero => omega
  | succ fuel ih =>
    -- An empty backlog ends the loop; otherwise one round leaves one turn less for the rest.
    by_cases hqueued : g.queued = 0
    · obtain ⟨hresult, hafter⟩ := h.replay_empty hqueued (clock n)
      have hcalls : g.replayCalls clock (fuel + 1) n = [.replayNext (clock n)] := by
        simp [Guest.replayCalls, hresult]
      simp only [hcalls]
      refine ⟨⟨⟨_, hresult⟩, trivial⟩, ⟨[], clock n, rfl, hresult⟩, ?_, ?_, ?_⟩
      · simp [Guest.ledger, GuestOp.core, hresult, Ledger.entry, Ledger.add, Ledger.zero, hqueued]
      · rw [Guest.run_cons, hafter]
        exact hqueued
      · rw [Guest.run_cons, hafter]
        exact h
    · obtain ⟨⟨t, hreplay⟩, hend, hready, hless⟩ :=
        h.replay_round hqueued (clock n) (clock (n + 1))
      have hcount : ((g.after (.replayNext (clock n))).after
          (.endTurn (clock (n + 1)))).queued.toNat + 1 = g.queued.toNat := by
        rw [hless]
        exact toNat_sub_one_add_one hqueued
      obtain ⟨hsucceed, ⟨before, now, hlast, hempty⟩, ⟨henq, hdeq⟩, hdrained, hready'⟩ :=
        ih hready (by omega) (n + 2)
      have hcalls : g.replayCalls clock (fuel + 1) n =
          .replayNext (clock n) :: .endTurn (clock (n + 1)) ::
            ((g.after (.replayNext (clock n))).after
              (.endTurn (clock (n + 1)))).replayCalls clock fuel (n + 2) := by
        simp [Guest.replayCalls, hreplay, hend]
      simp only [hcalls]
      refine ⟨⟨⟨_, hreplay⟩, ⟨_, hend⟩, hsucceed⟩, ?_, ?_, hdrained, hready'⟩
      · exact ⟨.replayNext (clock n) :: .endTurn (clock (n + 1)) :: before, now,
          by rw [hlast]; rfl, hempty⟩
      · simp only [Guest.ledger, GuestOp.core, hreplay, hend, Ledger.entry, Ledger.add]
        constructor <;> omega

/-- A run over a concatenation succeeds throughout if both parts do. -/
theorem allSucceed_append {ops₁ ops₂ : List GuestOp} (h₁ : g.AllSucceed ops₁)
    (h₂ : (g.run ops₁).AllSucceed ops₂) : g.AllSucceed (ops₁ ++ ops₂) := by
  induction ops₁ generalizing g with
  | nil => exact h₂
  | cons op ops₁ ih => exact ⟨h₁.1, ih h₁.2 h₂⟩

/-- Ending the turn in flight succeeds over a working channel and leaves none in flight. -/
theorem finishCalls_spec (hworks : g.chan.WorksFromNow) (clock : ℕ → Timestamp) :
    let calls := g.finishCalls clock
    g.AllSucceed calls ∧
      ((g.ledger calls).enqueued = 0 ∧ (g.ledger calls).dequeued = 0) ∧
      (g.run calls).chan.WorksFromNow ∧ (g.run calls).inFlight = none ∧
      (g.run calls).queued = g.queued := by
  cases hbusy : g.inFlight with
  | none =>
    have hcalls : g.finishCalls clock = [] := by simp [Guest.finishCalls, hbusy]
    simp only [hcalls]
    exact ⟨trivial, ⟨rfl, rfl⟩, hworks, hbusy, rfl⟩
  | some t =>
    have hcalls : g.finishCalls clock = [.endTurn (clock 0)] := by
      simp [Guest.finishCalls, hbusy]
    have hend := Guest.call_endTurn_ended hbusy hworks.nextFate (clock 0)
    have hresult : g.result (.endTurn (clock 0)) = .ok .unit := congrArg Prod.fst hend
    have hafter : g.after (.endTurn (clock 0)) = _ := congrArg Prod.snd hend
    simp only [hcalls]
    refine ⟨⟨⟨_, hresult⟩, trivial⟩, ?_, worksFromNow_after hworks _, ?_, ?_⟩
    · simp [Guest.ledger, GuestOp.core, hresult, Ledger.entry]
    · rw [Guest.run_cons, hafter]
      rfl
    · rw [Guest.run_cons, hafter]
      rfl

/-- With nothing in flight a `resume` over a working channel makes the guest ready. -/
theorem ready_after_resume (hworks : g.chan.WorksFromNow) (hidle : g.inFlight = none)
    (now : Timestamp) :
    g.result (.resume now) = .ok .unit ∧ Ready (g.after (.resume now)) ∧
      (g.after (.resume now)).queued = g.queued := by
  have hcall := Guest.call_resume_resumed hworks.nextFate now
  have hafter : g.after (.resume now) = _ := congrArg Prod.snd hcall
  refine ⟨congrArg Prod.fst hcall, ⟨worksFromNow_after hworks _, ?_, ?_⟩, ?_⟩
  · rw [hafter]
    exact hidle
  · rw [hafter]
  · rw [hafter]
    rfl

/-- From any guest with a working channel the recovery succeeds throughout, replays exactly the
queued turns, ends with a replay that finds the backlog empty, and leaves the guest ready. -/
theorem recovery_spec (hworks : g.chan.WorksFromNow) (clock : ℕ → Timestamp) {fuel : ℕ}
    (hfuel : g.queued.toNat < fuel) :
    let calls := g.recoveryCalls clock fuel
    g.AllSucceed calls ∧ g.EndsEmpty calls ∧
      ((g.ledger calls).enqueued = 0 ∧ (g.ledger calls).dequeued = g.queued.toNat) ∧
      (g.run calls).queued = 0 ∧ Ready (g.run calls) := by
  obtain ⟨hfinish, ⟨henq, hdeq⟩, hworks', hidle, hqueued⟩ := finishCalls_spec hworks clock
  obtain ⟨hresume, hready, hqueued'⟩ := ready_after_resume hworks' hidle (clock 1)
  -- Up to the first replay the turn in flight is ended and the gate opened; the backlog stays.
  have hopening : g.run (g.finishCalls clock ++ [.resume (clock 1)])
      = (g.run (g.finishCalls clock)).after (.resume (clock 1)) := by
    rw [Guest.run_append]
    rfl
  have hsame : ((g.run (g.finishCalls clock)).after (.resume (clock 1))).queued = g.queued :=
    hqueued'.trans hqueued
  obtain ⟨hreplay, ⟨before, now, hlast, hempty⟩, ⟨henq', hdeq'⟩, hdrained, hready'⟩ :=
    hready.replay_all clock (by rw [hsame]; exact hfuel) 2
  simp only [Guest.recoveryCalls, hopening]
  refine ⟨?_, ?_, ?_, ?_, ?_⟩
  · refine allSucceed_append (allSucceed_append hfinish ⟨⟨_, hresume⟩, trivial⟩) ?_
    rw [hopening]
    exact hreplay
  · refine ⟨(g.finishCalls clock ++ [.resume (clock 1)]) ++ before, now, ?_, ?_⟩
    · rw [hlast]
      simp
    · rw [Guest.run_append, hopening]
      exact hempty
  · rw [Guest.ledger_append, Guest.ledger_append, hopening]
    simp only [Guest.ledger, GuestOp.core, hresume, Ledger.entry, Ledger.add, Ledger.zero]
    rw [henq, henq', hdeq, hdeq', hsame]
    constructor <;> omega
  · rw [Guest.run_append, hopening]
    exact hdrained
  · rw [Guest.run_append, hopening]
    exact hready'

end Recovery

/-! ## Conservation -/

/-- No turn is lost: for every run of a fresh guest after which fewer than `2 ^ 32` turns wait,
accepted turns are completed, queued or in flight; and over a channel that works from then on the
recovery performs exactly `queued` replays without an error and completes every accepted turn. -/
theorem turns_conserved (vmId : VmId) (version : GuestdVersion)
    (inbox : List (Except ChannelError HostToGuest)) (fates : ℕ → Fate) (ops : List GuestOp)
    (hsmall : ((Guest.new vmId version (.fresh inbox fates)).ledger ops).backlog < 2 ^ 32) :
    let start := Guest.new vmId version (.fresh inbox fates)
    let books := start.ledger ops
    let g := start.run ops
    books.accepted = books.completed + g.queued.toNat + g.inFlightCount ∧
    (g.chan.WorksFromNow → ∀ (clock : ℕ → Timestamp) (fuel : ℕ), g.queued.toNat < fuel →
      let calls := g.recoveryCalls clock fuel
      let books' := start.ledger (ops ++ calls)
      let done := start.run (ops ++ calls)
      g.AllSucceed calls ∧ g.EndsEmpty calls ∧ (g.ledger calls).dequeued = g.queued.toNat ∧
        books'.accepted = books'.completed ∧ done.queued = 0 ∧ done.inFlight = none ∧
        done.gated = false) := by
  intro start books g
  have hbal : Balanced g books := by
    have hrun := balanced_run (balanced_zero (g := start) rfl rfl) ops
    rwa [Ledger.zero_add] at hrun
  refine ⟨hbal.conserved hsmall, ?_⟩
  -- After the recovery nothing is queued or in flight, so the same balance has only two terms.
  intro hworks clock fuel hfuel calls books' done
  obtain ⟨hsucceed, hempty, ⟨henq, hdeq⟩, hdrained, hready⟩ := recovery_spec hworks clock hfuel
  have hdone : done = g.run calls := Guest.run_append start ops calls
  have hbooks : books' = books.add (g.ledger calls) := Guest.ledger_append start ops calls
  have hbal' : Balanced done books' := by
    rw [hdone, hbooks]
    exact balanced_run hbal calls
  have hqueued : done.queued = 0 := by
    rw [hdone]
    exact hdrained
  have hidle : done.inFlight = none := by
    rw [hdone]
    exact hready.idle
  -- The recovery queues nothing, so the backlog is still small after it.
  have hsmall' : books'.backlog < 2 ^ 32 := by
    have hnone : (g.ledger calls).enqueued = 0 := henq
    have hless : books'.backlog ≤ books.backlog := by
      simp only [hbooks, Ledger.backlog, Ledger.add, hnone]
      omega
    exact Nat.lt_of_le_of_lt hless hsmall
  have hall := hbal'.conserved hsmall'
  rw [hqueued, Guest.inFlightCount_of_none hidle] at hall
  refine ⟨hsucceed, hempty, hdeq, by simpa using hall, hqueued, hidle, ?_⟩
  rw [hdone]
  exact hready.isOpen

/-- A drain whose ack is lost on the way, and two turns that arrive behind the closed gate: the
recovery replays both. -/
theorem turns_conserved_two_queued :
    let start := Guest.new ⟨0⟩ ⟨"0.1.0"⟩
      (.fresh [] fun n => if n = 0 then .lost else .delivered)
    let g := start.run [.handle (.drainRequest ⟨500⟩) ⟨1⟩, .startTurn ⟨2⟩, .startTurn ⟨3⟩]
    g.queued = 2 ∧ g.AllSucceed (g.recoveryCalls (fun n => ⟨UInt64.ofNat n⟩) 3) ∧
      (g.ledger (g.recoveryCalls (fun n => ⟨UInt64.ofNat n⟩) 3)).dequeued = 2 := by
  intro start g
  have hworks : g.chan.WorksFromNow := by
    intro n hn
    have hlog : g.chan.log.length = 1 := by decide
    have hne : n ≠ 0 := by omega
    show (if n = 0 then Fate.lost else Fate.delivered) = .delivered
    rw [if_neg hne]
  obtain ⟨-, hrecovery⟩ := turns_conserved ⟨0⟩ ⟨"0.1.0"⟩ []
    (fun n => if n = 0 then .lost else .delivered)
    [.handle (.drainRequest ⟨500⟩) ⟨1⟩, .startTurn ⟨2⟩, .startTurn ⟨3⟩] (by decide)
  obtain ⟨hsucceed, -, hdeq, -⟩ := hrecovery hworks (fun n => ⟨UInt64.ofNat n⟩) 3 (by decide)
  exact ⟨by decide, hsucceed, hdeq⟩

end Sleepwalk.Guestd
