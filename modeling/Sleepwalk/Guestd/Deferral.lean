import Sleepwalk.Guestd.Calls

/-!
# Turns that arrive during a drain

What a turn meets that arrives behind a closed gate, by `start_turn` or by `run_turn`. Both look at
the turn in flight before they look at the gate: with no turn in flight the new one is queued
without a word on the wire, and with one in flight it is refused, closed gate or not.
-/

namespace Sleepwalk.Guestd

open Proto

/-- A call by which a new turn arrives. -/
inductive Arrives : GuestOp → Prop
  /-- The workload starts a turn by itself. -/
  | startTurn (now : Timestamp) : Arrives (.startTurn now)
  /-- The host commands a turn. -/
  | runTurn (turnId : TurnId) (now : Timestamp) : Arrives (.runTurn turnId now)

/-- An arriving turn is deferred: it counts as queued, and nothing else happens. -/
structure Deferred (g : Guest FatedChannel) (op : GuestOp) : Prop where
  /-- The caller learns that the turn waits. -/
  answer : g.result op = .ok (.outcome .queued)
  /-- The backlog grows by this one turn. -/
  backlog : (g.after op).queued.toNat = g.queued.toNat + 1
  /-- Nothing is sent. -/
  silent : (g.after op).chan = g.chan
  /-- The turn in flight, if any, is left alone. -/
  turn : (g.after op).inFlight = g.inFlight

section Closed

variable {g : Guest FatedChannel} {op : GuestOp}

/-- An idle guest with a closed gate queues the turn. -/
theorem call_arrives_idle (hop : Arrives op) (hidle : g.inFlight = none) (hgate : g.gated = true) :
    Guest.exec (Guest.call op) g =
      (.ok (.outcome .queued), { g with queued := g.queued + 1 }) := by
  cases hop with
  | startTurn now => exact Guest.call_startTurn_queued hidle hgate now
  | runTurn turnId now => exact Guest.call_runTurn_queued hidle hgate turnId now

/-- A guest with a turn in flight refuses the next one. -/
theorem call_arrives_busy (hop : Arrives op) {t : TurnId} (hbusy : g.inFlight = some t) :
    Guest.exec (Guest.call op) g = (.error (.turnInProgress t), g) := by
  apply Guest.call_busy hbusy
  cases hop with
  | startTurn now => exact Or.inl ⟨now, rfl⟩
  | runTurn turnId now => exact Or.inr (Or.inl ⟨turnId, now, rfl⟩)

/-- The backlog is a `u32`: it counts one more turn unless it is at its maximum. -/
theorem toNat_queued_add_one_iff (queued : UInt32) :
    (queued + 1).toNat = queued.toNat + 1 ↔ queued.toNat + 1 < 2 ^ 32 := by
  have hlt := queued.toNat_lt
  rw [UInt32.toNat_add, UInt32.toNat_one]
  omega

/-- Behind a closed gate a turn is deferred exactly when none is in flight and the backlog has
room. -/
theorem deferred_iff (hop : Arrives op) (hgate : g.gated = true) :
    Deferred g op ↔ g.inFlight = none ∧ g.queued.toNat + 1 < 2 ^ 32 := by
  cases hturn : g.inFlight with
  | none =>
    have hcall := call_arrives_idle hop hturn hgate
    have hafter : g.after op = { g with queued := g.queued + 1 } := congrArg Prod.snd hcall
    rw [← toNat_queued_add_one_iff]
    constructor
    · intro h
      have hbacklog := h.backlog
      rw [hafter] at hbacklog
      exact ⟨rfl, hbacklog⟩
    · rintro ⟨-, hroom⟩
      refine ⟨congrArg Prod.fst hcall, ?_, ?_, ?_⟩
      · rw [hafter]
        exact hroom
      · rw [hafter]
      · rw [hafter]
  | some t =>
    -- The turn in flight is looked at first, so the gate is never reached.
    have hcall := call_arrives_busy hop hturn
    have hanswer : g.result op = .error (.turnInProgress t) := congrArg Prod.fst hcall
    refine iff_of_false ?_ (by simp)
    intro h
    rw [h.answer] at hanswer
    simp at hanswer

end Closed

/-- In every reachable state with the gate closed, a turn that arrives is deferred exactly when no
turn is in flight and the backlog has room for it. -/
theorem arriving_turn_deferred_iff (vmId : VmId) (version : GuestdVersion)
    (inbox : List (Except ChannelError HostToGuest)) (fates : ℕ → Fate) (ops : List GuestOp) :
    let g := (Guest.new vmId version (.fresh inbox fates)).run ops
    g.gated = true → ∀ op, Arrives op →
      (Deferred g op ↔ g.inFlight = none ∧ g.queued.toNat + 1 < 2 ^ 32) := by
  intro g hgate op hop
  exact deferred_iff hop hgate

/-- Turn 42 is over when turn 43 arrives. -/
theorem arriving_turn_deferred_iff_idle :
    let g := (Guest.new ⟨0⟩ ⟨"0.1.0"⟩ (.fresh [] fun _ => .delivered)).run
      [.startTurn ⟨1⟩, .handle (.drainRequest ⟨500⟩) ⟨2⟩, .endTurn ⟨3⟩]
    Deferred g (.startTurn ⟨4⟩) ↔ g.inFlight = none ∧ g.queued.toNat + 1 < 2 ^ 32 :=
  arriving_turn_deferred_iff ⟨0⟩ ⟨"0.1.0"⟩ [] (fun _ => .delivered)
    [.startTurn ⟨1⟩, .handle (.drainRequest ⟨500⟩) ⟨2⟩, .endTurn ⟨3⟩] rfl _ (.startTurn ⟨4⟩)

/-- A turn is in flight when the gate closes, and the next one arrives before it ends. It is
refused. -/
theorem arriving_turn_refused :
    ¬ ∀ (ops : List GuestOp) (op : GuestOp),
      let g := (Guest.new ⟨0⟩ ⟨"0.1.0"⟩ (FatedChannel.fresh [] fun _ => .delivered)).run ops
      g.gated = true → Arrives op → Deferred g op := by
  intro hclaim
  have hdeferred := hclaim [.startTurn ⟨1⟩, .handle (.drainRequest ⟨500⟩) ⟨2⟩] (.startTurn ⟨3⟩)
    rfl (.startTurn ⟨3⟩)
  exact absurd hdeferred.answer (by decide)

end Sleepwalk.Guestd
