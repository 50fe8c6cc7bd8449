import Sleepwalk.Guestd.Guest

/-!
# What one call can do

Every public operation of `Guest` as one `GuestOp`, and `Effect`, the list of everything one call
over a `FatedChannel` can do to the guest. `call_effect` shows the list complete; every invariant
of the supervisor is proved from it by one case per effect, without unfolding an operation again.
-/

namespace Sleepwalk.Guestd

open Proto

/-- One call of a public operation of `Guest`. -/
inductive GuestOp where
  /-- The boot handshake. -/
  | handshake
  /-- `start_turn`. -/
  | startTurn (now : Timestamp)
  /-- `run_turn`. -/
  | runTurn (turnId : TurnId) (now : Timestamp)
  /-- `begin_observed_turn`. -/
  | beginObservedTurn (now : Timestamp)
  /-- `end_turn`. -/
  | endTurn (now : Timestamp)
  /-- `replay_next`. -/
  | replayNext (now : Timestamp)
  /-- `resume`. -/
  | resume (now : Timestamp)
  /-- `handle` of one host message. -/
  | handle (msg : HostToGuest) (now : Timestamp)
deriving DecidableEq, Repr

/-- What a call returns when it succeeds. -/
inductive Reply where
  /-- Nothing. -/
  | unit
  /-- The outcome of `start_turn` or `run_turn`. -/
  | outcome (o : StartOutcome)
  /-- The id `begin_observed_turn` assigned. -/
  | turn (turnId : TurnId)
  /-- The id `replay_next` assigned, or `none` from an empty backlog. -/
  | replayed (turnId : Option TurnId)
deriving DecidableEq, Repr

namespace Guest

variable {C : Type} [GuestChannel C]

/-- Make one call. -/
def call : GuestOp → GuestM C Reply
  | .handshake => (fun _ => .unit) <$> handshake
  | .startTurn now => .outcome <$> startTurn now
  | .runTurn turnId now => .outcome <$> runTurn turnId now
  | .beginObservedTurn now => .turn <$> beginObservedTurn now
  | .endTurn now => (fun _ => .unit) <$> endTurn now
  | .replayNext now => .replayed <$> replayNext now
  | .resume now => (fun _ => .unit) <$> resume now
  | .handle msg now => (fun _ => .unit) <$> handle msg now

/-- What a call returns. -/
def result (g : Guest C) (op : GuestOp) : Except GuestError Reply := (exec (call op) g).1

/-- The guest a call leaves behind. -/
def after (g : Guest C) (op : GuestOp) : Guest C := (exec (call op) g).2

/-- The guest a list of calls leaves behind. -/
def run (g : Guest C) (ops : List GuestOp) : Guest C := ops.foldl after g

@[simp]
theorem run_nil (g : Guest C) : g.run [] = g := rfl

@[simp]
theorem run_cons (g : Guest C) (op : GuestOp) (ops : List GuestOp) :
    g.run (op :: ops) = (g.after op).run ops := rfl

theorem run_append (g : Guest C) (ops₁ ops₂ : List GuestOp) :
    g.run (ops₁ ++ ops₂) = (g.run ops₁).run ops₂ := List.foldl_append

/-- What every call preserves, every run preserves. -/
theorem run_induction {P : Guest C → Prop} (hstep : ∀ g op, P g → P (g.after op)) {g : Guest C}
    (h : P g) (ops : List GuestOp) : P (g.run ops) := by
  induction ops generalizing g with
  | nil => exact h
  | cons op ops ih => exact ih (hstep g op h)

end Guest

/-- The call whose turn accounting `op` stands for: handling a `RunTurn` is a `run_turn`. -/
def GuestOp.core : GuestOp → GuestOp
  | .handle (.runTurn turnId) now => .runTurn turnId now
  | op => op

/-- Only the handling of a `RunTurn` stands for another call. -/
theorem GuestOp.core_eq_self (op : GuestOp) (h : ∀ t now, op.core ≠ .runTurn t now) :
    op.core = op := by
  unfold core at h ⊢
  split at h
  · exact absurd rfl (h _ _)
  · rfl

/-- Handling a `RunTurn` leaves the guest as `run_turn` does. -/
theorem Guest.after_core {C : Type} [GuestChannel C] (g : Guest C) (op : GuestOp) :
    g.after op.core = g.after op := by
  unfold GuestOp.core
  split
  · simp [after, call, handle]
  · rfl

/-! ## Sends over a fated channel -/

/-- The error a failed send surfaces as. -/
def brokenPipe : GuestError := .channel (.io "broken pipe")

namespace Guest

/-- The guest after one attempted send. -/
def pushed (g : Guest FatedChannel) (msg : GuestToHost) : Guest FatedChannel :=
  { g with chan := g.chan.push msg }

/-- The guest after `begin_turn` assigned an id and attempted its one send. -/
def begun (g : Guest FatedChannel) (now : Timestamp) : Guest FatedChannel :=
  { g.pushed (.turnStarted g.nextTurn now) with
    nextTurn := g.nextTurn.next
    inFlight := some g.nextTurn }

variable {g : Guest FatedChannel} (now : Timestamp)

theorem exec_send_delivered (h : g.chan.nextFate = .delivered) (msg : GuestToHost) :
    exec (send msg) g = (.ok (), g.pushed msg) := by
  rw [exec_send, FatedChannel.send_eq, h]
  rfl

theorem exec_send_failed (h : g.chan.nextFate ≠ .delivered) (msg : GuestToHost) :
    exec (send msg) g = (.error brokenPipe, g.pushed msg) := by
  rw [exec_send, FatedChannel.send_eq]
  cases hf : g.chan.nextFate with
  | delivered => exact absurd hf h
  | lost => rfl
  | ghost => rfl

theorem exec_beginTurn_delivered (h : g.chan.nextFate = .delivered) :
    exec (beginTurn now) g = (.ok g.nextTurn, g.begun now) := by
  simp [beginTurn, exec_send_delivered, h, begun, pushed]

theorem exec_beginTurn_failed (h : g.chan.nextFate ≠ .delivered) :
    exec (beginTurn now) g = (.error brokenPipe, g.begun now) := by
  simp [beginTurn, exec_send_failed, h, begun, pushed]

/-- What `begin_turn` returns is decided by its one send, what it leaves behind is not. -/
theorem exec_beginTurn : ∃ r : Except GuestError TurnId, exec (beginTurn now) g = (r, g.begun now) ∧
    (r = .ok g.nextTurn ∨ r = .error brokenPipe) := by
  by_cases h : g.chan.nextFate = .delivered
  · exact ⟨_, exec_beginTurn_delivered now h, Or.inl rfl⟩
  · exact ⟨_, exec_beginTurn_failed now h, Or.inr rfl⟩

end Guest

/-! ## Turn accounting -/

/-- How many turns were accepted, completed, queued and taken out of the backlog. -/
@[ext]
structure Ledger where
  /-- Turn requests not refused with `TurnInProgress`. -/
  accepted : ℕ
  /-- In-flight markers cleared by a successful `end_turn` or `run_turn`. -/
  completed : ℕ
  /-- Turns put into the backlog. -/
  enqueued : ℕ
  /-- Turns taken out of the backlog. -/
  dequeued : ℕ
deriving DecidableEq, Repr

namespace Ledger

/-- Nothing happened yet. -/
def zero : Ledger := ⟨0, 0, 0, 0⟩

/-- Entries add up. -/
def add (a b : Ledger) : Ledger :=
  ⟨a.accepted + b.accepted, a.completed + b.completed, a.enqueued + b.enqueued,
    a.dequeued + b.dequeued⟩

/-- The entry of one call, read off the call and what it returned. -/
def entry : GuestOp → Except GuestError Reply → Ledger
  | .startTurn _, .error (.turnInProgress _) => zero
  | .startTurn _, .ok (.outcome .queued) => ⟨1, 0, 1, 0⟩
  | .startTurn _, _ => ⟨1, 0, 0, 0⟩
  | .runTurn _ _, .error (.turnInProgress _) => zero
  | .runTurn _ _, .ok (.outcome .queued) => ⟨1, 0, 1, 0⟩
  | .runTurn _ _, .ok _ => ⟨1, 1, 0, 0⟩
  | .runTurn _ _, _ => ⟨1, 0, 0, 0⟩
  | .beginObservedTurn _, .error (.turnInProgress _) => zero
  | .beginObservedTurn _, _ => ⟨1, 0, 0, 0⟩
  | .endTurn _, .ok _ => ⟨0, 1, 0, 0⟩
  | .replayNext _, .ok (.replayed (some _)) => ⟨0, 0, 0, 1⟩
  -- A replay that fails in its send has taken the turn out of the backlog all the same.
  | .replayNext _, .error (.channel _) => ⟨0, 0, 0, 1⟩
  | _, _ => zero

end Ledger

/-! ## The effects -/

/-- A message that says nothing about turns or the drain gate. -/
def Neutral : GuestToHost → Prop
  | .turnStarted _ _ | .turnEnded _ _ | .drainAck _ => False
  | _ => True

/-- Everything a call over a fated channel can return and do to the guest. -/
inductive Effect :
    GuestOp → Except GuestError Reply → Guest FatedChannel → Guest FatedChannel → Prop
  /-- Turns, gate and backlog stand, and whatever was sent is neutral. -/
  | idle {op : GuestOp} {r : Except GuestError Reply} {g : Guest FatedChannel}
      (chan : FatedChannel) (secrets : List (String × String)) (sent : List (GuestToHost × Fate))
      (hfates : chan.fates = g.chan.fates) (hlog : chan.log = g.chan.log ++ sent)
      (hsent : ∀ e ∈ sent, Neutral e.1) (hentry : Ledger.entry op r = .zero) :
      Effect op r g { g with chan, secrets }
  /-- A drain request closes the gate and reports the turn in flight. -/
  | closeGate {r : Except GuestError Reply} {g : Guest FatedChannel} (d : Duration)
      (now : Timestamp) :
      Effect (.handle (.drainRequest d) now) r g
        { g.pushed (.drainAck g.inFlight) with gated := true }
  /-- A drain cancel opens the gate. -/
  | cancel {g : Guest FatedChannel} (now : Timestamp) :
      Effect (.handle .drainCancel now) (.ok .unit) g { g with gated := false }
  /-- A resume whose `Resumed` went through opens the gate. -/
  | resumed {g : Guest FatedChannel} (now : Timestamp) :
      Effect (.resume now) (.ok .unit) g { g.pushed (.resumed now) with gated := false }
  /-- A turn request finds the gate closed. -/
  | queue {op : GuestOp} {g : Guest FatedChannel} (hidle : g.inFlight = none)
      (hgate : g.gated = true) (hentry : Ledger.entry op (.ok (.outcome .queued)) = ⟨1, 0, 1, 0⟩) :
      Effect op (.ok (.outcome .queued)) g { g with queued := g.queued + 1 }
  /-- A self-driven or observed turn begins. -/
  | start {op : GuestOp} {r : Except GuestError Reply} {g : Guest FatedChannel} (now : Timestamp)
      (hidle : g.inFlight = none)
      (hop : (op = .startTurn now ∧ g.gated = false) ∨ op = .beginObservedTurn now)
      (hentry : Ledger.entry op r = ⟨1, 0, 0, 0⟩) : Effect op r g (g.begun now)
  /-- A queued turn begins. -/
  | replay {r : Except GuestError Reply} {g : Guest FatedChannel} (now : Timestamp)
      (hidle : g.inFlight = none) (hgate : g.gated = false) (hqueued : g.queued ≠ 0)
      (hentry : Ledger.entry (.replayNext now) r = ⟨0, 0, 0, 1⟩) :
      Effect (.replayNext now) r g ({ g with queued := g.queued - 1 }.begun now)
  /-- A host-commanded turn is stuck in its first send. -/
  | startFailed {g : Guest FatedChannel} (t : TurnId) (now : Timestamp)
      (hidle : g.inFlight = none) (hgate : g.gated = false) (hfate : g.chan.nextFate ≠ .delivered) :
      Effect (.runTurn t now) (.error brokenPipe) g
        { g.pushed (.turnStarted t now) with inFlight := some t }
  /-- A host-commanded turn is stuck in its second send. -/
  | finishFailed {g : Guest FatedChannel} (t : TurnId) (now : Timestamp)
      (hidle : g.inFlight = none) (hgate : g.gated = false) (hfate : g.chan.nextFate = .delivered)
      (hfate' : (g.pushed (.turnStarted t now)).chan.nextFate ≠ .delivered) :
      Effect (.runTurn t now) (.error brokenPipe) g
        { (g.pushed (.turnStarted t now)).pushed (.turnEnded t now) with inFlight := some t }
  /-- A host-commanded turn runs to its end. -/
  | ran {g : Guest FatedChannel} (t : TurnId) (now : Timestamp)
      (hidle : g.inFlight = none) (hgate : g.gated = false) (hfate : g.chan.nextFate = .delivered)
      (hfate' : (g.pushed (.turnStarted t now)).chan.nextFate = .delivered) :
      Effect (.runTurn t now) (.ok (.outcome (.started t))) g
        ((g.pushed (.turnStarted t now)).pushed (.turnEnded t now))
  /-- The turn in flight ends. -/
  | ended {g : Guest FatedChannel} (t : TurnId) (now : Timestamp) (hbusy : g.inFlight = some t)
      (hfate : g.chan.nextFate = .delivered) :
      Effect (.endTurn now) (.ok .unit) g { g.pushed (.turnEnded t now) with inFlight := none }
  /-- The end of the turn in flight fails, and the turn stays in flight. -/
  | endFailed {g : Guest FatedChannel} (t : TurnId) (now : Timestamp) (hbusy : g.inFlight = some t)
      (hfate : g.chan.nextFate ≠ .delivered) :
      Effect (.endTurn now) (.error brokenPipe) g (g.pushed (.turnEnded t now))

/-- A call that changes nothing at all. -/
theorem Effect.nothing {op : GuestOp} {r : Except GuestError Reply} {g : Guest FatedChannel}
    (hentry : Ledger.entry op r = .zero) : Effect op r g g :=
  .idle g.chan g.secrets [] rfl (by simp) (by simp) hentry

/-- A call that attempts one neutral send and nothing else. -/
theorem Effect.neutral {op : GuestOp} {r : Except GuestError Reply} {g : Guest FatedChannel}
    {msg : GuestToHost} (hmsg : Neutral msg) (hentry : Ledger.entry op r = .zero) :
    Effect op r g (g.pushed msg) :=
  .idle (g.chan.push msg) g.secrets [(msg, g.chan.nextFate)] rfl rfl
    (by simpa using hmsg) hentry

/-! ## The calls, outcome by outcome -/

namespace Guest

variable {g : Guest FatedChannel}

/-- With a turn in flight every call that would start one is refused. -/
theorem call_busy {t : TurnId} (h : g.inFlight = some t) {op : GuestOp}
    (hop : (∃ now, op = .startTurn now) ∨ (∃ t' now, op = .runTurn t' now) ∨
      (∃ now, op = .beginObservedTurn now) ∨ ∃ now, op = .replayNext now) :
    exec (call op) g = (.error (.turnInProgress t), g) := by
  rcases hop with ⟨now, rfl⟩ | ⟨t', now, rfl⟩ | ⟨now, rfl⟩ | ⟨now, rfl⟩
  · simp [call, startTurn, exec_refuseInFlight_busy h]
  · simp [call, runTurn, exec_refuseInFlight_busy h]
  · simp [call, beginObservedTurn, exec_refuseInFlight_busy h]
  · simp [call, replayNext, exec_refuseInFlight_busy h]

theorem call_startTurn_queued (h : g.inFlight = none) (hg : g.gated = true) (now : Timestamp) :
    exec (call (.startTurn now)) g
      = (.ok (.outcome .queued), { g with queued := g.queued + 1 }) := by
  simp [call, startTurn, exec_refuseInFlight_idle h, hg]

theorem call_startTurn_begun (h : g.inFlight = none) (hg : g.gated = false) (now : Timestamp) :
    ∃ r, exec (call (.startTurn now)) g = (r, g.begun now) ∧
      (r = .ok (.outcome (.started g.nextTurn)) ∨ r = .error brokenPipe) := by
  obtain ⟨r, hbegin, rfl | rfl⟩ := exec_beginTurn (g := g) now
  · refine ⟨_, ?_, Or.inl rfl⟩
    simp [call, startTurn, exec_refuseInFlight_idle h, hg, hbegin]
  · refine ⟨_, ?_, Or.inr rfl⟩
    simp [call, startTurn, exec_refuseInFlight_idle h, hg, hbegin]

theorem call_runTurn_queued (h : g.inFlight = none) (hg : g.gated = true) (t : TurnId)
    (now : Timestamp) :
    exec (call (.runTurn t now)) g
      = (.ok (.outcome .queued), { g with queued := g.queued + 1 }) := by
  simp [call, runTurn, exec_refuseInFlight_idle h, hg]

theorem call_runTurn_startFailed (h : g.inFlight = none) (hg : g.gated = false)
    (hd : g.chan.nextFate ≠ .delivered) (t : TurnId) (now : Timestamp) :
    exec (call (.runTurn t now)) g
      = (.error brokenPipe, { g.pushed (.turnStarted t now) with inFlight := some t }) := by
  simp [call, runTurn, exec_refuseInFlight_idle h, hg, exec_send_failed, hd, pushed]

theorem call_runTurn_finishFailed (h : g.inFlight = none) (hg : g.gated = false) (t : TurnId)
    (now : Timestamp) (hd : g.chan.nextFate = .delivered)
    (hd' : (g.pushed (.turnStarted t now)).chan.nextFate ≠ .delivered) :
    exec (call (.runTurn t now)) g = (.error brokenPipe,
      { (g.pushed (.turnStarted t now)).pushed (.turnEnded t now) with inFlight := some t }) := by
  simp only [pushed] at hd'
  simp [call, runTurn, exec_refuseInFlight_idle h, hg, exec_send_delivered, exec_send_failed, hd,
    hd', pushed]

theorem call_runTurn_ran (h : g.inFlight = none) (hg : g.gated = false) (t : TurnId)
    (now : Timestamp) (hd : g.chan.nextFate = .delivered)
    (hd' : (g.pushed (.turnStarted t now)).chan.nextFate = .delivered) :
    exec (call (.runTurn t now)) g = (.ok (.outcome (.started t)),
      (g.pushed (.turnStarted t now)).pushed (.turnEnded t now)) := by
  simp only [pushed] at hd'
  simp [call, runTurn, exec_refuseInFlight_idle h, hg, exec_send_delivered, hd, hd', pushed, h]

theorem call_beginObservedTurn_begun (h : g.inFlight = none) (now : Timestamp) :
    ∃ r, exec (call (.beginObservedTurn now)) g = (r, g.begun now) ∧
      (r = .ok (.turn g.nextTurn) ∨ r = .error brokenPipe) := by
  obtain ⟨r, hbegin, rfl | rfl⟩ := exec_beginTurn (g := g) now
  · refine ⟨_, ?_, Or.inl rfl⟩
    simp [call, beginObservedTurn, exec_refuseInFlight_idle h, hbegin]
  · refine ⟨_, ?_, Or.inr rfl⟩
    simp [call, beginObservedTurn, exec_refuseInFlight_idle h, hbegin]

theorem call_replayNext_gated (h : g.inFlight = none) (hg : g.gated = true) (now : Timestamp) :
    exec (call (.replayNext now)) g = (.error .gatedReplay, g) := by
  simp [call, replayNext, exec_refuseInFlight_idle h, hg]

theorem call_replayNext_empty (h : g.inFlight = none) (hg : g.gated = false) (hq : g.queued = 0)
    (now : Timestamp) : exec (call (.replayNext now)) g = (.ok (.replayed none), g) := by
  simp [call, replayNext, exec_refuseInFlight_idle h, hg, hq]

/-- A replay first takes the turn out of the backlog, then begins it. -/
theorem call_replayNext_begun (h : g.inFlight = none) (hg : g.gated = false) (hq : g.queued ≠ 0)
    (now : Timestamp) :
    exec (call (.replayNext now)) g
      = ((fun t => .replayed (some t)) <$>
          (exec (beginTurn now) { g with queued := g.queued - 1 }).1,
        { g with queued := g.queued - 1 }.begun now) := by
  obtain ⟨r, hbegin, -⟩ := exec_beginTurn (g := { g with queued := g.queued - 1 }) now
  -- The turn is begun on the guest with one turn less queued, and fails on it too.
  simp only [hg] at hbegin
  simp [call, replayNext, exec_refuseInFlight_idle h, hg, hq, hbegin]

theorem call_endTurn_idle (h : g.inFlight = none) (now : Timestamp) :
    exec (call (.endTurn now)) g = (.error .noTurnInFlight, g) := by
  simp [call, endTurn, h]

theorem call_endTurn_ended {t : TurnId} (h : g.inFlight = some t)
    (hd : g.chan.nextFate = .delivered) (now : Timestamp) :
    exec (call (.endTurn now)) g
      = (.ok .unit, { g.pushed (.turnEnded t now) with inFlight := none }) := by
  simp [call, endTurn, h, exec_send_delivered, hd]

theorem call_endTurn_failed {t : TurnId} (h : g.inFlight = some t)
    (hd : g.chan.nextFate ≠ .delivered) (now : Timestamp) :
    exec (call (.endTurn now)) g = (.error brokenPipe, g.pushed (.turnEnded t now)) := by
  simp [call, endTurn, h, exec_send_failed, hd]

theorem call_resume_resumed (hd : g.chan.nextFate = .delivered) (now : Timestamp) :
    exec (call (.resume now)) g = (.ok .unit, { g.pushed (.resumed now) with gated := false }) := by
  simp [call, resume, exec_send_delivered, hd]

theorem call_resume_failed (hd : g.chan.nextFate ≠ .delivered) (now : Timestamp) :
    exec (call (.resume now)) g = (.error brokenPipe, g.pushed (.resumed now)) := by
  simp [call, resume, exec_send_failed, hd]

/-- The handshake announces the guest, takes at most one line and may store secrets. -/
theorem call_handshake : ∃ r chan secrets,
    exec (call .handshake) g = (r, { g with chan, secrets }) ∧
    chan.fates = g.chan.fates ∧
    chan.log = g.chan.log ++ [(.hello g.vmId g.version, g.chan.nextFate)] := by
  by_cases hd : g.chan.nextFate = .delivered
  -- Past the hello the outcome depends on the first line alone, and only secrets are kept.
  · cases hin : g.chan.inbox with
    | nil =>
      refine ⟨.error (.channel .closed), g.chan.push (.hello g.vmId g.version), g.secrets, ?_,
        rfl, rfl⟩
      simp [call, handshake, exec_send_delivered, hd, pushed, GuestChannel.recv, hin,
        Except.mapError]
    | cons line rest =>
      have hcall : ∃ r secrets, exec (call .handshake) g = (r,
          { g with
            chan := { g.chan.push (.hello g.vmId g.version) with inbox := rest }, secrets }) := by
        rcases line with e | msg
        · simp [call, handshake, exec_send_delivered, hd, pushed, GuestChannel.recv, hin,
            Except.mapError]
        · cases msg <;> simp [call, handshake, exec_send_delivered, hd, pushed,
            GuestChannel.recv, hin, Except.mapError]
      obtain ⟨r, secrets, hcall⟩ := hcall
      exact ⟨r, _, secrets, hcall, rfl, rfl⟩
  · exact ⟨.error brokenPipe, g.chan.push (.hello g.vmId g.version), g.secrets,
      by simp [call, handshake, exec_send_failed, hd, pushed], rfl, rfl⟩

/-- A drain request closes the gate and reports the turn in flight, whatever becomes of its ack. -/
theorem after_drainRequest (g : Guest FatedChannel) (d : Duration) (now : Timestamp) :
    g.after (.handle (.drainRequest d) now)
      = { g.pushed (.drainAck g.inFlight) with gated := true } := by
  unfold after
  by_cases hd : g.chan.nextFate = .delivered
  · simp [call, handle, exec_send_delivered, hd, pushed]
  · simp [call, handle, exec_send_failed, hd, pushed]

end Guest

section Cases

open Guest

variable {g : Guest FatedChannel}

/-- With a turn in flight every call that would start one has no effect. -/
theorem effect_busy {t : TurnId} (h : g.inFlight = some t) {op : GuestOp}
    (hop : (∃ now, op = .startTurn now) ∨ (∃ t' now, op = .runTurn t' now) ∨
      (∃ now, op = .beginObservedTurn now) ∨ ∃ now, op = .replayNext now) :
    Effect op (g.result op) g (g.after op) := by
  unfold result after
  rw [call_busy h hop]
  apply Effect.nothing
  rcases hop with ⟨now, rfl⟩ | ⟨t', now, rfl⟩ | ⟨now, rfl⟩ | ⟨now, rfl⟩ <;> rfl

/-- A `start_turn` with no turn in flight is queued or begins a turn. -/
theorem effect_startTurn (h : g.inFlight = none) (now : Timestamp) :
    Effect (.startTurn now) (g.result (.startTurn now)) g (g.after (.startTurn now)) := by
  unfold result after
  cases hg : g.gated with
  | true =>
    rw [call_startTurn_queued h hg]
    exact .queue h hg rfl
  | false =>
    obtain ⟨r, hcall, hr⟩ := call_startTurn_begun h hg now
    rw [hcall]
    refine .start now h (Or.inl ⟨rfl, hg⟩) ?_
    rcases hr with rfl | rfl <;> rfl

/-- An observed turn begins whatever the gate says. -/
theorem effect_beginObservedTurn (h : g.inFlight = none) (now : Timestamp) :
    Effect (.beginObservedTurn now) (g.result (.beginObservedTurn now)) g
      (g.after (.beginObservedTurn now)) := by
  unfold result after
  obtain ⟨r, hcall, hr⟩ := call_beginObservedTurn_begun h now
  rw [hcall]
  refine .start now h (Or.inr rfl) ?_
  rcases hr with rfl | rfl <;> rfl

/-- A replay is refused, finds the backlog empty, or begins a queued turn. -/
theorem effect_replayNext (h : g.inFlight = none) (now : Timestamp) :
    Effect (.replayNext now) (g.result (.replayNext now)) g (g.after (.replayNext now)) := by
  unfold result after
  cases hg : g.gated with
  | true =>
    rw [call_replayNext_gated h hg]
    exact .nothing rfl
  | false =>
    by_cases hq : g.queued = 0
    · rw [call_replayNext_empty h hg hq]
      exact .nothing rfl
    · rw [call_replayNext_begun h hg hq]
      refine .replay now h hg hq ?_
      obtain ⟨r, hbegin, rfl | rfl⟩ := exec_beginTurn (g := { g with queued := g.queued - 1 }) now
      · rw [hbegin]
        rfl
      · rw [hbegin]
        rfl

/-- A `run_turn` with no turn in flight is queued, gets stuck in one of its sends, or runs. -/
theorem effect_runTurn (h : g.inFlight = none) (t : TurnId) (now : Timestamp) :
    Effect (.runTurn t now) (g.result (.runTurn t now)) g (g.after (.runTurn t now)) := by
  unfold result after
  cases hg : g.gated with
  | true =>
    rw [call_runTurn_queued h hg]
    exact .queue h hg rfl
  | false =>
    by_cases hd : g.chan.nextFate = .delivered
    · by_cases hd' : (g.pushed (.turnStarted t now)).chan.nextFate = .delivered
      · rw [call_runTurn_ran h hg t now hd hd']
        exact .ran t now h hg hd hd'
      · rw [call_runTurn_finishFailed h hg t now hd hd']
        exact .finishFailed t now h hg hd hd'
    · rw [call_runTurn_startFailed h hg hd]
      exact .startFailed t now h hg hd

/-- An `end_turn` ends the turn in flight if its send goes through. -/
theorem effect_endTurn (now : Timestamp) :
    Effect (.endTurn now) (g.result (.endTurn now)) g (g.after (.endTurn now)) := by
  unfold result after
  cases h : g.inFlight with
  | none =>
    rw [call_endTurn_idle h]
    exact .nothing rfl
  | some t =>
    by_cases hd : g.chan.nextFate = .delivered
    · rw [call_endTurn_ended h hd]
      exact .ended t now h hd
    · rw [call_endTurn_failed h hd]
      exact .endFailed t now h hd

/-- A `resume` opens the gate if its send goes through. -/
theorem effect_resume (now : Timestamp) :
    Effect (.resume now) (g.result (.resume now)) g (g.after (.resume now)) := by
  unfold result after
  by_cases hd : g.chan.nextFate = .delivered
  · rw [call_resume_resumed hd]
    exact .resumed now
  · rw [call_resume_failed hd]
    exact .neutral trivial rfl

/-- The handshake is idle. -/
theorem effect_handshake :
    Effect .handshake (g.result .handshake) g (g.after .handshake) := by
  unfold result after
  obtain ⟨r, chan, secrets, hcall, hfates, hlog⟩ := call_handshake (g := g)
  rw [hcall]
  refine .idle chan secrets _ hfates hlog ?_ ?_
  · simp [Neutral]
  · simp [Ledger.entry]

/-- Handling a message other than `RunTurn` moves the gate or is idle. -/
theorem effect_handle (msg : HostToGuest) (hmsg : ∀ t, msg ≠ .runTurn t) (now : Timestamp) :
    Effect (.handle msg now) (g.result (.handle msg now)) g (g.after (.handle msg now)) := by
  unfold result after
  cases msg with
  | runTurn t => exact absurd rfl (hmsg t)
  | drainRequest d =>
    have hafter := after_drainRequest g d now
    unfold after at hafter
    rw [hafter]
    exact .closeGate d now
  | drainCancel => exact .cancel now
  | secrets env => exact .idle g.chan env [] rfl (by simp) (by simp) rfl
  | ping =>
    have hexec : (exec (call (.handle .ping now)) g).2 = g.pushed .pong := by
      by_cases hd : g.chan.nextFate = .delivered
      · simp [call, handle, exec_send_delivered, hd]
      · simp [call, handle, exec_send_failed, hd]
    rw [hexec]
    exact .neutral trivial rfl
  | pong => exact .nothing rfl

/-- What a call returns and leaves behind is one of the effects. -/
theorem call_effect (op : GuestOp) :
    Effect op.core (g.result op.core) g (g.after op.core) := by
  have hturn : ∀ t now, Effect (.runTurn t now) (g.result (.runTurn t now)) g
      (g.after (.runTurn t now)) := by
    intro t now
    cases h : g.inFlight with
    | none => exact effect_runTurn h t now
    | some t' => exact effect_busy h (Or.inr (Or.inl ⟨t, now, rfl⟩))
  cases op with
  | handshake => exact effect_handshake
  | startTurn now =>
    cases h : g.inFlight with
    | none => exact effect_startTurn h now
    | some t => exact effect_busy h (Or.inl ⟨now, rfl⟩)
  | runTurn t now => exact hturn t now
  | beginObservedTurn now =>
    cases h : g.inFlight with
    | none => exact effect_beginObservedTurn h now
    | some t => exact effect_busy h (Or.inr (Or.inr (Or.inl ⟨now, rfl⟩)))
  | endTurn now => exact effect_endTurn now
  | replayNext now =>
    cases h : g.inFlight with
    | none => exact effect_replayNext h now
    | some t => exact effect_busy h (Or.inr (Or.inr (Or.inr ⟨now, rfl⟩)))
  | resume now => exact effect_resume now
  | handle msg now =>
    by_cases hmsg : ∃ t, msg = .runTurn t
    · obtain ⟨t, rfl⟩ := hmsg
      exact hturn t now
    -- Any other message is its own core.
    · have hcore : (GuestOp.handle msg now).core = .handle msg now := by
        cases msg <;> first | rfl | exact absurd ⟨_, rfl⟩ hmsg
      rw [hcore]
      exact effect_handle msg (fun t ht => hmsg ⟨t, ht⟩) now

/-- What a call leaves behind, under the call it stands for. -/
theorem call_effect_after (op : GuestOp) :
    Effect op.core (g.result op.core) g (g.after op) := by
  rw [← g.after_core op]
  exact call_effect op

end Cases

end Sleepwalk.Guestd
