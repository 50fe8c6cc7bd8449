import Mathlib.Tactic.Common
import Sleepwalk.Guestd.Channel

/-!
# The supervisor state machine

`Guest` is the in-VM half of the protocol (`guestd::guest`): it owns a channel and the turn and
drain state. Its operations run in `GuestM`, where an error leaves behind every change made before
it, as an early return through `?` does in the source.

* `startTurn`, `runTurn`, `beginObservedTurn`, `replayNext` and `endTurn` drive turns;
* `handle` reacts to one host message, and `resume` reopens the gate after a restore.

The backlog is a `u32`, so `queued` wraps at `2 ^ 32` as the release build does.
-/

namespace Sleepwalk.Guestd

open Proto

/-- What happened when the workload tried to start a turn. -/
inductive StartOutcome where
  /-- The turn started under this id. -/
  | started (turnId : TurnId)
  /-- The drain gate is closed: the turn was queued in-guest. -/
  | queued
deriving DecidableEq, Repr

/-- Why a supervisor operation failed. -/
inductive GuestError where
  /-- The channel to hostd failed. -/
  | channel (e : ChannelError)
  /-- `handshake` expected `Secrets` as the reply to `Hello`. -/
  | unexpectedHandshake
  /-- A turn was started while one was already in flight. -/
  | turnInProgress (inFlight : TurnId)
  /-- `endTurn` was called with no turn in flight. -/
  | noTurnInFlight
  /-- `replayNext` was called while the drain gate is still closed. -/
  | gatedReplay
deriving DecidableEq, Repr

/-- The in-VM supervisor for one VM. -/
structure Guest (C : Type) where
  /-- The identity announced in `Hello`. -/
  vmId : VmId
  /-- The guestd build version announced in `Hello`. -/
  version : GuestdVersion
  /-- The channel to hostd. -/
  chan : C
  /-- The secrets received at boot. -/
  secrets : List (String × String)
  /-- The id of the next self-driven turn. -/
  nextTurn : TurnId
  /-- The turn in flight, if any. -/
  inFlight : Option TurnId
  /-- True once a `DrainRequest` has closed the gate. -/
  gated : Bool
  /-- How many turns are queued for replay. -/
  queued : UInt32

/-- Operations of the supervisor: they may fail, and a failure keeps the state reached so far. -/
abbrev GuestM (C : Type) := ExceptT GuestError (StateM (Guest C))

namespace Guest

variable {C : Type}

/-- Create a supervisor that will identify as `vmId` and `version`. -/
def new (vmId : VmId) (version : GuestdVersion) (chan : C) : Guest C where
  vmId := vmId
  version := version
  chan := chan
  secrets := []
  nextTurn := .FIRST
  inFlight := none
  gated := false
  queued := 0

variable [GuestChannel C]

/-- Send one message to hostd, surfacing a channel failure. -/
def send (msg : GuestToHost) : GuestM C Unit := do
  let g ← get
  let (result, chan) := GuestChannel.send g.chan msg
  set { g with chan }
  match result with
  | .ok () => pure ()
  | .error e => throw (.channel e)

/-- Receive the next message from hostd, surfacing a channel failure. -/
def recv : GuestM C HostToGuest := do
  let g ← get
  let (result, chan) := GuestChannel.recv g.chan
  set { g with chan }
  match result with
  | .ok msg => pure msg
  | .error e => throw (.channel e)

/-- Refuse to go on while a turn is in flight. -/
def refuseInFlight : GuestM C Unit := do
  match (← get).inFlight with
  | some inFlight => throw (.turnInProgress inFlight)
  | none => pure ()

/-- Boot handshake: send `Hello`, then take the `Secrets` reply. -/
def handshake : GuestM C Unit := do
  let g ← get
  send (.hello g.vmId g.version)
  match ← recv with
  | .secrets env => modify fun g => { g with secrets := env }
  | _ => throw .unexpectedHandshake

/-- Assign the next turn id, mark it in flight, and emit `TurnStarted`. -/
def beginTurn (now : Timestamp) : GuestM C TurnId := do
  let turnId := (← get).nextTurn
  modify fun g => { g with nextTurn := g.nextTurn.next, inFlight := some turnId }
  send (.turnStarted turnId now)
  return turnId

/-- Start a turn, or queue it if the drain gate is closed. -/
def startTurn (now : Timestamp) : GuestM C StartOutcome := do
  refuseInFlight
  if (← get).gated then
    modify fun g => { g with queued := g.queued + 1 }
    return .queued
  else
    return .started (← beginTurn now)

/-- Run one host-commanded turn end to end under the host's `turnId`, or queue it if the drain
gate is closed. -/
def runTurn (turnId : TurnId) (now : Timestamp) : GuestM C StartOutcome := do
  refuseInFlight
  if (← get).gated then
    modify fun g => { g with queued := g.queued + 1 }
    return .queued
  else
    modify fun g => { g with inFlight := some turnId }
    send (.turnStarted turnId now)
    send (.turnEnded turnId now)
    modify fun g => { g with inFlight := none }
    return .started turnId

/-- Begin a turn that a wrapped child process has already started. The gate is not consulted. -/
def beginObservedTurn (now : Timestamp) : GuestM C TurnId := do
  refuseInFlight
  beginTurn now

/-- Replay one turn from the backlog; `none` when the backlog is empty. -/
def replayNext (now : Timestamp) : GuestM C (Option TurnId) := do
  refuseInFlight
  if (← get).gated then
    throw .gatedReplay
  else if (← get).queued = 0 then
    return none
  else
    modify fun g => { g with queued := g.queued - 1 }
    return some (← beginTurn now)

/-- Wake on the target host after a restore: emit `Resumed` and reopen the gate. -/
def resume (now : Timestamp) : GuestM C Unit := do
  send (.resumed now)
  modify fun g => { g with gated := false }

/-- End the in-flight turn: send `TurnEnded` and clear it. -/
def endTurn (now : Timestamp) : GuestM C Unit := do
  match (← get).inFlight with
  | none => throw .noTurnInFlight
  | some turnId =>
    send (.turnEnded turnId now)
    modify fun g => { g with inFlight := none }

/-- React to one message from hostd. -/
def handle (msg : HostToGuest) (now : Timestamp) : GuestM C Unit := do
  match msg with
  | .runTurn turnId => discard (runTurn turnId now)
  | .drainRequest _ =>
    -- The gate closes before the ack is sent, so a failed ack leaves it closed.
    modify fun g => { g with gated := true }
    send (.drainAck (← get).inFlight)
  | .drainCancel => modify fun g => { g with gated := false }
  | .secrets env => modify fun g => { g with secrets := env }
  | .ping => send .pong
  | .pong => pure ()

/-! ## Running an operation -/

/-- Run an operation on a guest: its result and the guest it leaves behind. -/
def exec {α : Type} (m : GuestM C α) (g : Guest C) : Except GuestError α × Guest C := m.run.run g

section Exec

omit [GuestChannel C]

variable {α β : Type}

@[simp]
theorem exec_pure (a : α) (g : Guest C) : exec (pure a) g = (.ok a, g) := rfl

@[simp]
theorem exec_throw (e : GuestError) (g : Guest C) :
    exec (throw e : GuestM C α) g = (.error e, g) := rfl

@[simp]
theorem exec_get (g : Guest C) : exec get g = (.ok g, g) := rfl

@[simp]
theorem exec_set (g g' : Guest C) : exec (set g') g = (.ok .unit, g') := rfl

@[simp]
theorem exec_modify (f : Guest C → Guest C) (g : Guest C) : exec (modify f) g = (.ok .unit, f g) :=
  rfl

/-- An error stops a sequence where it occurs and keeps the guest as it was then. -/
@[simp]
theorem exec_bind (m : GuestM C α) (f : α → GuestM C β) (g : Guest C) :
    exec (m >>= f) g = match exec m g with
      | (.ok a, g') => exec (f a) g'
      | (.error e, g') => (.error e, g') := by
  simp only [exec, ExceptT.run_bind, StateT.run_bind]
  rcases StateT.run (ExceptT.run m) g with ⟨_ | _, g'⟩ <;> rfl

@[simp]
theorem exec_map (f : α → β) (m : GuestM C α) (g : Guest C) :
    exec (f <$> m) g = (f <$> (exec m g).1, (exec m g).2) := by
  simp only [exec, ExceptT.run_map, StateT.run_map]
  rcases StateT.run (ExceptT.run m) g with ⟨_ | _, g'⟩ <;> rfl

@[simp]
theorem exec_discard (m : GuestM C α) (g : Guest C) :
    exec (discard m) g = ((fun _ => ()) <$> (exec m g).1, (exec m g).2) :=
  exec_map (Function.const α ()) m g

end Exec

/-- A send leaves the channel's state behind and reports the channel's failure. -/
theorem exec_send (msg : GuestToHost) (g : Guest C) :
    exec (send msg) g = ((GuestChannel.send g.chan msg).1.mapError .channel,
      { g with chan := (GuestChannel.send g.chan msg).2 }) := by
  simp only [send, exec_bind, exec_get, exec_set]
  rcases GuestChannel.send g.chan msg with ⟨_ | _, c⟩ <;> rfl

/-- A receive leaves the channel's state behind and reports the channel's failure. -/
@[simp]
theorem exec_recv (g : Guest C) :
    exec recv g = ((GuestChannel.recv g.chan).1.mapError .channel,
      { g with chan := (GuestChannel.recv g.chan).2 }) := by
  simp only [recv, exec_bind, exec_get, exec_set]
  rcases GuestChannel.recv g.chan with ⟨_ | _, c⟩ <;> rfl

omit [GuestChannel C] in
/-- With a turn in flight, an operation that starts one is refused and changes nothing. -/
theorem exec_refuseInFlight_busy {α : Type} {g : Guest C} {t : TurnId}
    (h : g.inFlight = some t) (m : Unit → GuestM C α) :
    exec (refuseInFlight >>= m) g = (.error (.turnInProgress t), g) := by
  simp [refuseInFlight, h]

omit [GuestChannel C] in
/-- With no turn in flight, an operation that starts one goes on. -/
theorem exec_refuseInFlight_idle {α : Type} {g : Guest C} (h : g.inFlight = none)
    (m : Unit → GuestM C α) : exec (refuseInFlight >>= m) g = exec (m ()) g := by
  simp [refuseInFlight, h]

end Guest

end Sleepwalk.Guestd
