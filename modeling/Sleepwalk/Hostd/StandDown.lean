import Sleepwalk.Guestd.HostDriven
import Sleepwalk.Hostd.Errors
import Sleepwalk.Hostd.Migrate
import Sleepwalk.Lib.Attempt

/-!
# Standing down

`migrate_running` up to its result, with the operations of the link that it drains the guest over:
`connectRetry`, `drainToQuiescence`, the metadata files, and `snapshotAndSend`. How each operation
turns out is given by the `Peer` and the `Source`, and an operation on the network may also never
complete; only the wait for the `DrainAck` has a deadline.

* `stands_down_iff`: a migration that does not get to the pause hands its VM back exactly if nothing
  hangs and the metadata is written.
* `drain_cancelled_iff`: a drain that shut the gate and does not find the guest quiescent reopens
  the gate exactly if it reads a `DrainAck`.
-/

namespace Sleepwalk.Hostd

open Exec Proto

/-! ## The link -/

/-- The port of the guest's vsock. -/
def GUEST_VSOCK_PORT : ℕ := 5252

/-- An operation that is complete, failed, or never completes. -/
abbrev Io (α : Type) := Except (Stop IoError) α

/-- A computation on a link, over the messages the guest has got. -/
abbrev LinkM := ExceptT (Stop IoError) (StateM (List HostToGuest))

/-- What the attempt to connect to a guest's vsock port meets. -/
structure VsockDial where
  /-- The connection to Firecracker's socket. -/
  stream : Io Unit
  /-- `CONNECT` is written. -/
  written : Io Unit
  /-- The line that answers it. -/
  reply : Io String

/-- Connect to the guest's vsock port. -/
def connect (port : ℕ) (dial : VsockDial) : Io Unit := do
  dial.stream
  dial.written
  let ok ← dial.reply
  if "OK".toList.isPrefixOf ok.toList then pure ()
  else throw (.failed (.connectFailed port (Text.trim ok)))

/-- Retry a connection, of either kind, until it succeeds. The attempts are those before the
deadline. -/
def connectRetry (last : IoError) : List (Io Unit) → Io Unit
  | [] => .error (.failed last)
  | .ok () :: _ => .ok ()
  | .error (.failed e) :: dials => connectRetry e dials
  | .error .stuck :: _ => .error .stuck

/-- How a message is sent. -/
structure Sending where
  /-- The guest gets it. -/
  delivered : Bool
  /-- What the sender sees of that. -/
  result : Io Unit

/-- Send one message to the guest. -/
def Sending.send (s : Sending) (msg : HostToGuest) : LinkM Unit := do
  if s.delivered then modify (· ++ [msg])
  outcome s.result

/-- What a drain meets on a link. -/
structure Peer where
  /-- The first line, unless none ever comes. -/
  hello : Option Incoming
  /-- `Secrets` is sent. -/
  secrets : Sending
  /-- `DrainRequest` is sent. -/
  request : Sending
  /-- What there is to read before the deadline. -/
  incoming : List Incoming
  /-- `DrainCancel` is sent. -/
  cancel : Sending

section Link

variable (parsers : Parsers) (peer : Peer)

/-- Complete the boot handshake: receive the guest's `Hello`, reply `Secrets`. -/
def handshake (env : List (String × String)) : LinkM Unit :=
  match peer.hello with
  | none => throw .stuck
  | some next =>
    match GuestLink.recv parsers next with
    | .error e => throw (.failed (.link e))
    | .ok (.hello _ _) => peer.secrets.send (.secrets env)
    | .ok other => throw (.failed (.expectedHello other))

/-- Request a drain and wait for the guest's ack. -/
def Peer.drain (deadline : Duration) : LinkM DrainState := do
  peer.request.send (.drainRequest deadline)
  match GuestLink.awaitAck parsers peer.incoming with
  | .error e => throw (.failed (.link e))
  | .ok ack => return if ack.isNone then .quiescent else .busy

/-- Handshake then drain a guest, returning whether it reached quiescence. On Busy, reopens the
gate. -/
def drainToQuiescence : LinkM DrainState := do
  handshake parsers peer []
  let state ← peer.drain parsers DRAIN_DEADLINE
  if state = .busy then
    -- `let _ =`: whether the cancel was sent does not matter.
    let _ ← (attempt (peer.cancel.send .drainCancel) : LinkM (Except IoError Unit))
  return state

end Link

/-! ## Migrating -/

/-- How migrating a registered, running VM ended. -/
inductive MigrateOutcome where
  /-- The VM was streamed to the target, and torn down here. -/
  | moved
  /-- The migration stood down, and the VM is handed back. -/
  | stoodDown (vm : RunningVm)
deriving DecidableEq, Repr

/-- What `migrate_running` does besides returning. -/
structure SourceState where
  /-- The messages the guest has got. -/
  delivered : List HostToGuest := []
  /-- Firecracker's pause has been called. -/
  paused : Bool := false
  /-- The VM has been torn down. -/
  tornDown : Bool := false
deriving DecidableEq, Repr

/-- A computation of the source. -/
abbrev SourceM := ExceptT (Stop MigrateError) (StateM SourceState)

/-- Run a computation on the link to the guest. -/
def onLink {α : Type} (m : LinkM α) : ExceptT (Stop IoError) (StateM SourceState) α := fun s =>
  let (r, delivered) := exec m s.delivered
  (r, { s with delivered })

/-- What a migration meets. -/
structure Source where
  /-- The attempts to connect over TCP. -/
  tcp : List (Io Unit)
  /-- The attempts to connect over vsock. -/
  vsock : List VsockDial
  /-- The link. -/
  peer : Peer
  /-- `vsock.txt` is written. -/
  writeVsock : Except IoError Unit
  /-- The network identity is serialized. -/
  serializeNet : Except IoError Unit
  /-- `net.json` is written. -/
  writeNet : Except IoError Unit
  /-- Firecracker pauses the VM. -/
  pause : Except (Stop MigrateError) Unit
  /-- It writes the snapshot. -/
  snapshot : Except (Stop MigrateError) Unit
  /-- The files are streamed. -/
  transfer : Except (Stop MigrateError) Unit

section Migrate

variable (parsers : Parsers) (src : Source) (vm : RunningVm)

/-- The attempts to connect to the guest: TCP for a networked VM, vsock for any other. -/
def Source.dials : List (Io Unit) :=
  if vm.net.isSome then src.tcp else src.vsock.map (connect GUEST_VSOCK_PORT)

/-- Kill the VM and remove what it has on the host. -/
def teardown : SourceM Unit := modify fun s => { s with tornDown := true }

/-- Tear the VM down and fail. -/
def teardownErr {α : Type} (context : String) (e : IoError) : SourceM α := do
  teardown
  throw (.failed (.io context e))

/-- Write the metadata that travels with the snapshot. -/
def writeMetadata : SourceM Unit := do
  match src.writeVsock with
  | .error e => teardownErr "write vsock path" e
  | .ok () =>
    if vm.net.isSome then
      match src.serializeNet with
      | .error e => teardownErr "serialize net identity" e
      | .ok () =>
        match src.writeNet with
        | .error e => teardownErr "write net identity" e
        | .ok () => pure ()

/-- Pause, snapshot, and stream the files. -/
def snapshotAndSend : SourceM Unit := do
  modify fun s => { s with paused := true }
  outcome src.pause
  outcome src.snapshot
  outcome src.transfer

/-- Migrate a registered, running VM. What it logs is left out. -/
def migrateRunning : SourceM MigrateOutcome := do
  let connected ← attempt (outcome (connectRetry .noAttempt (src.dials vm)))
  match connected with
  | .error _ => return .stoodDown vm
  | .ok () =>
    let drained ← attempt (onLink (drainToQuiescence parsers src.peer))
    match drained with
    | .error _ => return .stoodDown vm
    | .ok .busy => return .stoodDown vm
    | .ok .quiescent =>
      writeMetadata src vm
      let sent ← (attempt (snapshotAndSend src) : SourceM (Except MigrateError Unit))
      teardown
      match sent with
      | .ok () => return .moved
      | .error e => throw (.failed e)

end Migrate

/-! ## What a drain does -/

/-- The messages the guest gets of a send. -/
def Sending.got (s : Sending) (msg : HostToGuest) : List HostToGuest :=
  if s.delivered then [msg] else []

section Drain

variable (parsers : Parsers) (peer : Peer)

/-- The first line is the guest's `Hello`. -/
def Peer.Greets : Prop :=
  ∃ next vmId version, peer.hello = some next ∧
    GuestLink.recv parsers next = .ok (.hello vmId version)

/-- The handshake is completed, so that the drain is requested. -/
def Peer.Shakes : Prop := peer.Greets parsers ∧ peer.secrets.result = .ok ()

/-- Before the deadline and before anything that ends the wait, an ack is read. -/
def Peer.Acks (inFlight : Option TurnId) : Prop :=
  ∃ before next after, peer.incoming = before ++ next :: after ∧
    (∀ n ∈ before, GuestLink.Skipped parsers n) ∧
    GuestLink.recv parsers next = .ok (.drainAck inFlight)

variable {parsers peer}

theorem exec_send (s : Sending) (msg : HostToGuest) (d : List HostToGuest) :
    exec (s.send msg) d = (s.result, d ++ s.got msg) := by
  rw [Sending.send, Sending.got]
  split
  · rw [exec_bind, exec_modify]
    rfl
  · rw [List.append_nil]
    rfl

/-- The wait ends with the first ack that it comes to. -/
theorem awaitAck_eq_ok_iff {incoming : List Incoming} {inFlight : Option TurnId} :
    GuestLink.awaitAck parsers incoming = .ok inFlight ↔
      ∃ before next after, incoming = before ++ next :: after ∧
        (∀ n ∈ before, GuestLink.Skipped parsers n) ∧
        GuestLink.recv parsers next = .ok (.drainAck inFlight) := by
  constructor
  · intro h
    induction incoming with
    | nil => cases h
    | cons next incoming ih =>
      rw [GuestLink.awaitAck] at h
      split at h
      case h_1 => cases h
      case h_2 o hrecv =>
        obtain rfl := Except.ok.inj h
        exact ⟨[], next, incoming, rfl, by simp, hrecv⟩
      case h_3 msg hmsg hrecv =>
        obtain ⟨before, ack, after, rfl, hbefore, hack⟩ := ih h
        refine ⟨next :: before, ack, after, rfl, fun n hn => ?_, hack⟩
        rcases List.mem_cons.mp hn with rfl | hn
        · exact ⟨msg, hrecv, fun o ho => hmsg o ho⟩
        · exact hbefore n hn
  · rintro ⟨before, next, after, rfl, hbefore, hack⟩
    rw [GuestLink.awaitAck_skipped hbefore, GuestLink.awaitAck, hack]

variable (parsers peer)

/-- What a drain can come to, and what the guest has got by then. -/
inductive DrainRun : Io DrainState → List HostToGuest → Prop where
  /-- No line ever comes. -/
  | unheard (hhello : peer.hello = none) : DrainRun (.error .stuck) []
  /-- The first line is no `Hello`. -/
  | rejected {next : Incoming} {e : IoError} (hhello : peer.hello = some next)
    (hgreets : ¬ peer.Greets parsers) : DrainRun (.error (.failed e)) []
  /-- `Secrets` is not sent. -/
  | unanswered {e : Stop IoError} (hgreets : peer.Greets parsers)
    (hsecrets : peer.secrets.result = .error e) :
    DrainRun (.error e) (peer.secrets.got (.secrets []))
  /-- `DrainRequest` is not sent, as far as the sender can tell. -/
  | unrequested {e : Stop IoError} (hshakes : peer.Shakes parsers)
    (hrequest : peer.request.result = .error e) :
    DrainRun (.error e)
      (peer.secrets.got (.secrets []) ++ peer.request.got (.drainRequest DRAIN_DEADLINE))
  /-- No ack is read. -/
  | unacked {e : LinkError} (hshakes : peer.Shakes parsers)
    (hrequest : peer.request.result = .ok ())
    (hack : GuestLink.awaitAck parsers peer.incoming = .error e) :
    DrainRun (.error (.failed (.link e)))
      (peer.secrets.got (.secrets []) ++ peer.request.got (.drainRequest DRAIN_DEADLINE))
  /-- Nothing is in flight. -/
  | quiescent (hshakes : peer.Shakes parsers) (hrequest : peer.request.result = .ok ())
    (hack : GuestLink.awaitAck parsers peer.incoming = .ok none) :
    DrainRun (.ok .quiescent)
      (peer.secrets.got (.secrets []) ++ peer.request.got (.drainRequest DRAIN_DEADLINE))
  /-- A turn is in flight. -/
  | busy {t : TurnId} (hshakes : peer.Shakes parsers) (hrequest : peer.request.result = .ok ())
    (hack : GuestLink.awaitAck parsers peer.incoming = .ok (some t))
    (hcancel : peer.cancel.result ≠ .error .stuck) :
    DrainRun (.ok .busy)
      (peer.secrets.got (.secrets []) ++ peer.request.got (.drainRequest DRAIN_DEADLINE) ++
        peer.cancel.got .drainCancel)
  /-- A turn is in flight, and the cancel is never sent to the end. -/
  | uncancelled {t : TurnId} (hshakes : peer.Shakes parsers)
    (hrequest : peer.request.result = .ok ())
    (hack : GuestLink.awaitAck parsers peer.incoming = .ok (some t))
    (hcancel : peer.cancel.result = .error .stuck) :
    DrainRun (.error .stuck)
      (peer.secrets.got (.secrets []) ++ peer.request.got (.drainRequest DRAIN_DEADLINE) ++
        peer.cancel.got .drainCancel)

variable {parsers peer}

theorem exec_handshake (parsers : Parsers) (peer : Peer) (env : List (String × String))
    (d : List HostToGuest) :
    (∃ e, exec (handshake parsers peer env) d = (.error e, d) ∧
        ((peer.hello = none ∧ e = .stuck) ∨
          (∃ next, peer.hello = some next) ∧ ¬ peer.Greets parsers ∧ ∃ e', e = .failed e')) ∨
      (peer.Greets parsers ∧ exec (handshake parsers peer env) d =
        (peer.secrets.result, d ++ peer.secrets.got (.secrets env))) := by
  rw [handshake]
  cases hhello : peer.hello with
  | none => exact Or.inl ⟨.stuck, rfl, Or.inl ⟨rfl, rfl⟩⟩
  | some next =>
    have hgreets : peer.Greets parsers ↔
        ∃ vmId version, GuestLink.recv parsers next = .ok (.hello vmId version) := by
      simp [Peer.Greets, hhello]
    rw [hgreets]
    dsimp only
    rcases GuestLink.recv parsers next with e | msg
    · exact Or.inl ⟨_, rfl, Or.inr ⟨⟨next, rfl⟩, by simp, _, rfl⟩⟩
    · cases msg with
      | hello vmId version => exact Or.inr ⟨⟨vmId, version, rfl⟩, exec_send _ _ d⟩
      | _ => exact Or.inl ⟨_, rfl, Or.inr ⟨⟨next, rfl⟩, by simp, _, rfl⟩⟩

theorem exec_drain (deadline : Duration) (d : List HostToGuest) :
    exec (peer.drain parsers deadline) d =
      (peer.request.result.bind fun _ =>
        match GuestLink.awaitAck parsers peer.incoming with
        | .error e => .error (.failed (.link e))
        | .ok ack => .ok (if ack.isNone then .quiescent else .busy),
        d ++ peer.request.got (.drainRequest deadline)) := by
  rw [Peer.drain, exec_bind, exec_send]
  rcases peer.request.result with e | _
  · rfl
  · rcases GuestLink.awaitAck parsers peer.incoming with e | ack
    · rfl
    · rfl

/-- Whether the cancel was sent does not matter, as long as the send completes. -/
theorem exec_cancel (peer : Peer) (d : List HostToGuest) :
    exec (do
      let _ ← (attempt (peer.cancel.send .drainCancel) : LinkM (Except IoError Unit))
      return DrainState.busy) d =
      (if peer.cancel.result = .error .stuck then .error .stuck else .ok .busy,
        d ++ peer.cancel.got .drainCancel) := by
  rw [exec_bind, exec_attempt, exec_send]
  rcases peer.cancel.result with (e | _) | _
  · rfl
  · rfl
  · rfl

/-- Every drain is one of these. -/
theorem drainRun (parsers : Parsers) (peer : Peer) (d : List HostToGuest) :
    ∃ r l, exec (drainToQuiescence parsers peer) d = (r, d ++ l) ∧ DrainRun parsers peer r l := by
  rw [drainToQuiescence, exec_bind]
  rcases exec_handshake parsers peer [] d with
    ⟨e, hexec, ⟨hhello, rfl⟩ | ⟨⟨next, hhello⟩, hgreets, e', rfl⟩⟩ | ⟨hgreets, hexec⟩
  · exact ⟨_, [], by rw [hexec, List.append_nil], .unheard hhello⟩
  · exact ⟨_, [], by rw [hexec, List.append_nil], .rejected hhello hgreets⟩
  rw [hexec]
  rcases hsecrets : peer.secrets.result with e | _
  · exact ⟨_, _, rfl, .unanswered hgreets hsecrets⟩
  have hshakes : peer.Shakes parsers := ⟨hgreets, hsecrets⟩
  simp only [exec_bind, exec_drain]
  rcases hrequest : peer.request.result with e | _
  · exact ⟨_, _, by rw [List.append_assoc]; rfl, .unrequested hshakes hrequest⟩
  rcases hack : GuestLink.awaitAck parsers peer.incoming with e | _ | t
  · exact ⟨_, _, by rw [List.append_assoc]; rfl, .unacked hshakes hrequest hack⟩
  · exact ⟨_, _, by rw [List.append_assoc]; rfl, .quiescent hshakes hrequest hack⟩
  · -- The ack names a turn, so the gate is reopened.
    have hbusy := exec_cancel peer (d ++ peer.secrets.got (.secrets []) ++
      peer.request.got (.drainRequest DRAIN_DEADLINE))
    by_cases hcancel : peer.cancel.result = .error .stuck
    · rw [if_pos hcancel] at hbusy
      exact ⟨_, _, hbusy.trans (by simp only [List.append_assoc]),
        .uncancelled hshakes hrequest hack hcancel⟩
    · rw [if_neg hcancel] at hbusy
      exact ⟨_, _, hbusy.trans (by simp only [List.append_assoc]),
        .busy hshakes hrequest hack hcancel⟩

end Drain

/-! ## What a migration does -/

section Run

variable (parsers : Parsers) (src : Source) (vm : RunningVm)

/-- An attempt comes to this, after ones that failed. -/
def Attempted (dials : List (Io Unit)) (x : Io Unit) : Prop :=
  ∃ before after, dials = before ++ x :: after ∧ ∀ d ∈ before, ∃ e, d = .error (.failed e)

/-- Each operation of the drain completes, if the drain gets to it. -/
structure Peer.Completes (peer : Peer) : Prop where
  hello : peer.hello ≠ none
  secrets : peer.Greets parsers → peer.secrets.result ≠ .error .stuck
  request : peer.Shakes parsers → peer.request.result ≠ .error .stuck
  cancel : peer.Shakes parsers → peer.request.result = .ok () → ∀ t, peer.Acks parsers (some t) →
    peer.cancel.result ≠ .error .stuck

/-- The drain finds the guest quiescent. -/
structure Peer.Drains (peer : Peer) : Prop where
  shakes : peer.Shakes parsers
  request : peer.request.result = .ok ()
  acks : peer.Acks parsers none

/-- The metadata files are written. -/
def Source.Writes : Prop :=
  src.writeVsock = .ok () ∧ (vm.net.isSome = true → src.serializeNet = .ok () ∧
    src.writeNet = .ok ())

/-- What a migration can come to, and what it has done by then. -/
inductive SourceRun : Except (Stop MigrateError) MigrateOutcome → SourceState → Prop where
  /-- The guest is not reached. -/
  | unreached (hdial : ¬ Attempted (src.dials vm) (.ok ()))
    (hcompletes : ¬ Attempted (src.dials vm) (.error .stuck)) : SourceRun (.ok (.stoodDown vm)) {}
  /-- An attempt to reach it hangs. -/
  | dialing (hdial : Attempted (src.dials vm) (.error .stuck)) : SourceRun (.error .stuck) {}
  /-- The drain is not quiescent. -/
  | undrained {r : Io DrainState} {l : List HostToGuest} (hdial : Attempted (src.dials vm) (.ok ()))
    (hdrain : DrainRun parsers src.peer r l) (hstuck : r ≠ .error .stuck)
    (hbusy : r ≠ .ok .quiescent) : SourceRun (.ok (.stoodDown vm)) { delivered := l }
  /-- The drain hangs. -/
  | draining {l : List HostToGuest} (hdial : Attempted (src.dials vm) (.ok ()))
    (hdrain : DrainRun parsers src.peer (.error .stuck) l) :
    SourceRun (.error .stuck) { delivered := l }
  /-- The metadata is not written. -/
  | unwritten {l : List HostToGuest} {context : String} {e : IoError}
    (hdial : Attempted (src.dials vm) (.ok ()))
    (hdrain : DrainRun parsers src.peer (.ok .quiescent) l) (hwrites : ¬ src.Writes vm) :
    SourceRun (.error (.failed (.io context e))) { delivered := l, tornDown := true }
  /-- The pause is called. -/
  | paused {r : Except (Stop MigrateError) MigrateOutcome} {l : List HostToGuest} {torn : Bool}
    (hdial : Attempted (src.dials vm) (.ok ()))
    (hdrain : DrainRun parsers src.peer (.ok .quiescent) l) (hwrites : src.Writes vm)
    (hr : ∀ vm', r ≠ .ok (.stoodDown vm')) :
    SourceRun r { delivered := l, paused := true, tornDown := torn }

variable {parsers src vm} {r : Io DrainState} {l : List HostToGuest}

theorem Peer.acks_iff {peer : Peer} {inFlight : Option TurnId} :
    peer.Acks parsers inFlight ↔ GuestLink.awaitAck parsers peer.incoming = .ok inFlight :=
  awaitAck_eq_ok_iff.symm

theorem Peer.Greets.hello_ne {peer : Peer} (h : peer.Greets parsers) : peer.hello ≠ none := by
  obtain ⟨next, -, -, hhello, -⟩ := h
  simp [hhello]

/-- Once the request is sent, only the cancel can still hang. -/
theorem Peer.Shakes.completes_iff {peer : Peer} (hshakes : peer.Shakes parsers)
    (hrequest : peer.request.result = .ok ()) :
    peer.Completes parsers ↔
      ∀ t, peer.Acks parsers (some t) → peer.cancel.result ≠ .error .stuck := by
  constructor
  · exact fun h => h.cancel hshakes hrequest
  · intro hcancel
    refine ⟨hshakes.1.hello_ne, fun _ => ?_, fun _ => ?_, fun _ _ => hcancel⟩
    · simp [hshakes.2]
    · simp [hrequest]

/-- A drain hangs where one of its operations does not complete. -/
theorem DrainRun.stuck_iff {peer : Peer} (h : DrainRun parsers peer r l) :
    r = .error .stuck ↔ ¬ peer.Completes parsers := by
  cases h with
  | unheard hhello => exact iff_of_true rfl fun h => h.hello hhello
  | rejected hhello hgreets =>
    refine iff_of_false (by simp) (not_not.mpr ⟨by simp [hhello], ?_, ?_, ?_⟩)
    · exact fun h => absurd h hgreets
    · exact fun h => absurd h.1 hgreets
    · exact fun h => absurd h.1 hgreets
  -- A send that fails ends the drain as the send ended: it hangs or it does not.
  | unanswered hgreets hsecrets =>
    have hshakes : ¬ peer.Shakes parsers := fun h => by cases hsecrets.symm.trans h.2
    rw [Except.error.injEq]
    constructor
    · rintro rfl h
      exact h.secrets hgreets hsecrets
    · intro hcompletes
      by_contra hstuck
      refine hcompletes ⟨hgreets.hello_ne, fun _ hs => ?_, fun h => absurd h hshakes,
        fun h => absurd h hshakes⟩
      exact hstuck (Except.error.inj (hsecrets.symm.trans hs))
  | unrequested hshakes hrequest =>
    rw [Except.error.injEq]
    constructor
    · rintro rfl h
      exact h.request hshakes hrequest
    · intro hcompletes
      by_contra hstuck
      refine hcompletes ⟨hshakes.1.hello_ne, fun _ => ?_, fun _ hr => ?_, fun _ hok => ?_⟩
      · simp [hshakes.2]
      · exact hstuck (Except.error.inj (hrequest.symm.trans hr))
      · cases hrequest.symm.trans hok
  -- The wait for the ack has a deadline, and only an ack that names a turn leads to the cancel.
  | unacked hshakes hrequest hack =>
    rw [hshakes.completes_iff hrequest]
    refine iff_of_false (by simp) (not_not.mpr fun t ht => ?_)
    cases hack.symm.trans (Peer.acks_iff.mp ht)
  | quiescent hshakes hrequest hack =>
    rw [hshakes.completes_iff hrequest]
    refine iff_of_false (by simp) (not_not.mpr fun t ht => ?_)
    cases hack.symm.trans (Peer.acks_iff.mp ht)
  | busy hshakes hrequest hack hcancel =>
    rw [hshakes.completes_iff hrequest]
    exact iff_of_false (by simp) (not_not.mpr fun _ _ => hcancel)
  | uncancelled hshakes hrequest hack hcancel =>
    exact iff_of_true rfl fun h => h.cancel hshakes hrequest _ (Peer.acks_iff.mpr hack) hcancel

theorem DrainRun.quiescent_iff {peer : Peer} (h : DrainRun parsers peer r l) :
    r = .ok .quiescent ↔ peer.Drains parsers := by
  cases h with
  | unheard hhello => exact iff_of_false (by simp) fun h => h.shakes.1.hello_ne hhello
  | rejected hhello hgreets => exact iff_of_false (by simp) fun h => hgreets h.shakes.1
  | unanswered hgreets hsecrets =>
    refine iff_of_false (by simp) fun h => ?_
    cases hsecrets.symm.trans h.shakes.2
  | unrequested hshakes hrequest =>
    refine iff_of_false (by simp) fun h => ?_
    cases hrequest.symm.trans h.request
  | unacked hshakes hrequest hack =>
    refine iff_of_false (by simp) fun h => ?_
    cases hack.symm.trans (Peer.acks_iff.mp h.acks)
  | quiescent hshakes hrequest hack =>
    exact iff_of_true rfl ⟨hshakes, hrequest, Peer.acks_iff.mpr hack⟩
  | busy hshakes hrequest hack hcancel =>
    refine iff_of_false (by simp) fun h => ?_
    cases hack.symm.trans (Peer.acks_iff.mp h.acks)
  | uncancelled hshakes hrequest hack hcancel =>
    refine iff_of_false (by simp) fun h => ?_
    cases hack.symm.trans (Peer.acks_iff.mp h.acks)

theorem attempted_cons_failed {dials : List (Io Unit)} {x : Io Unit} (e : IoError)
    (hx : ∀ e, x ≠ .error (.failed e)) :
    Attempted (.error (.failed e) :: dials) x ↔ Attempted dials x := by
  constructor
  · rintro ⟨_ | ⟨d, before⟩, after, hdials, hbefore⟩
    · exact absurd (List.cons.inj hdials).1.symm (hx e)
    · obtain ⟨-, rfl⟩ := List.cons.inj hdials
      exact ⟨before, after, rfl, fun d hd => hbefore d (List.mem_cons_of_mem _ hd)⟩
  · rintro ⟨before, after, rfl, hbefore⟩
    refine ⟨.error (.failed e) :: before, after, rfl, fun d hd => ?_⟩
    rcases List.mem_cons.mp hd with rfl | hd
    · exact ⟨e, rfl⟩
    · exact hbefore d hd

theorem attempted_cons {dials : List (Io Unit)} {x y : Io Unit} (hy : ∀ e, y ≠ .error (.failed e)) :
    Attempted (y :: dials) x ↔ y = x := by
  constructor
  · rintro ⟨_ | ⟨d, before⟩, after, hdials, hbefore⟩
    · exact (List.cons.inj hdials).1
    · obtain ⟨rfl, -⟩ := List.cons.inj hdials
      obtain ⟨e, he⟩ := hbefore y List.mem_cons_self
      exact absurd he (hy e)
  · rintro rfl
    exact ⟨[], dials, rfl, by simp⟩

/-- A retried connection succeeds or hangs with the first attempt that does not fail. -/
theorem connectRetry_eq_iff (last : IoError) {dials : List (Io Unit)} {x : Io Unit}
    (hx : ∀ e, x ≠ .error (.failed e)) : connectRetry last dials = x ↔ Attempted dials x := by
  induction dials generalizing last with
  | nil =>
    have hnone : ¬ Attempted [] x := by
      rintro ⟨before, after, h, -⟩
      simp at h
    simp only [hnone, iff_false]
    exact (hx last).symm
  | cons dial dials ih =>
    rcases dial with (e | _) | _
    · rw [attempted_cons_failed e hx]
      exact ih e
    · rw [attempted_cons (by simp)]
      rfl
    · rw [attempted_cons (by simp)]
      rfl

theorem exec_onLink {α : Type} (m : LinkM α) (s : SourceState) :
    exec (onLink m) s = ((exec m s.delivered).1, { s with delivered := (exec m s.delivered).2 }) :=
  rfl

/-- The metadata is written, or the VM is torn down. -/
theorem exec_writeMetadata (src : Source) (vm : RunningVm) (s : SourceState) :
    (src.Writes vm ∧ exec (writeMetadata src vm) s = (.ok (), s)) ∨
      (¬ src.Writes vm ∧ ∃ context e, exec (writeMetadata src vm) s =
        (.error (.failed (.io context e)), { s with tornDown := true })) := by
  rw [writeMetadata, Source.Writes]
  rcases hvsock : src.writeVsock with e | _
  · exact Or.inr ⟨by simp, _, _, rfl⟩
  cases hnet : vm.net.isSome with
  | false => exact Or.inl ⟨by simp, rfl⟩
  | true =>
    rcases hserialize : src.serializeNet with e | _
    · exact Or.inr ⟨by simp, _, _, rfl⟩
    rcases hwrite : src.writeNet with e | _
    · exact Or.inr ⟨by simp, _, _, rfl⟩
    · exact Or.inl ⟨by simp, rfl⟩

/-- Once the pause is called, nothing takes that back. -/
theorem exec_snapshotAndSend (src : Source) (s : SourceState) :
    (exec (snapshotAndSend src) s).2 = { s with paused := true } := by
  rw [snapshotAndSend, exec_bind, exec_modify]
  dsimp only
  rw [exec_bind, exec_outcome]
  rcases src.pause with e | _
  · rfl
  rcases src.snapshot with e | _
  · rfl
  rcases src.transfer with e | _
  · rfl
  · rfl

/-- Every migration is one of these. -/
theorem sourceRun (parsers : Parsers) (src : Source) (vm : RunningVm) :
    SourceRun parsers src vm (exec (migrateRunning parsers src vm) {}).1
      (exec (migrateRunning parsers src vm) {}).2 := by
  rw [migrateRunning, exec_bind, exec_attempt, exec_outcome]
  -- Each stage that fails ends the migration there; the next one is reached when it works.
  rcases hdial : connectRetry .noAttempt (src.dials vm) with (e | _) | _
  · refine .unreached (fun h => ?_) fun h => ?_
    · cases hdial.symm.trans ((connectRetry_eq_iff _ (by simp)).mpr h)
    · cases hdial.symm.trans ((connectRetry_eq_iff _ (by simp)).mpr h)
  · exact .dialing ((connectRetry_eq_iff _ (by simp)).mp hdial)
  have hdial := (connectRetry_eq_iff _ (by simp)).mp hdial
  dsimp only
  rw [exec_bind, exec_attempt, exec_onLink]
  obtain ⟨r, l, hexec, hdrain⟩ := drainRun parsers src.peer []
  rw [List.nil_append] at hexec
  simp only [hexec]
  rcases r with (e | _) | _ | _
  · exact .undrained hdial hdrain (by simp) (by simp)
  · exact .draining hdial hdrain
  · dsimp only
    rw [exec_bind]
    rcases exec_writeMetadata src vm { delivered := l } with
      ⟨hwrites, hwrite⟩ | ⟨hwrites, context, e, hwrite⟩
    · rw [hwrite]
      dsimp only
      rw [exec_bind, exec_attempt]
      have hpaused := exec_snapshotAndSend src { delivered := l }
      rcases hsent : exec (snapshotAndSend src) { delivered := l } with ⟨(e | _) | _, s⟩
      all_goals
        rw [hsent] at hpaused
        obtain rfl := hpaused
        exact .paused hdial hdrain hwrites (by rintro vm' ⟨⟩)
    · rw [hwrite]
      exact .unwritten hdial hdrain hwrites
  · exact .undrained hdial hdrain (by simp) (by simp)

end Run

/-! ## Standing down -/

section StandDown

variable (parsers : Parsers) (src : Source) (vm : RunningVm)

/-- A migration that does not get to the pause hands its VM back, as it was. -/
structure StandsDown : Prop where
  /-- Unless the pause has been called, the result is the VM. -/
  handsBack : ∀ r s, exec (migrateRunning parsers src vm) {} = (r, s) → s.paused = false →
    r = .ok (.stoodDown vm)
  /-- A VM that is handed back is the same, not paused and not torn down. -/
  intact : ∀ vm' s, exec (migrateRunning parsers src vm) {} = (.ok (.stoodDown vm'), s) →
    vm' = vm ∧ s.paused = false ∧ s.tornDown = false

/-- Nothing up to the pause hangs, and the metadata is written if it gets that far. -/
structure Unhindered : Prop where
  dial : ¬ Attempted (src.dials vm) (.error .stuck)
  drain : Attempted (src.dials vm) (.ok ()) → src.peer.Completes parsers
  metadata : Attempted (src.dials vm) (.ok ()) → src.peer.Drains parsers → src.Writes vm

/-- The first attempt that does not fail decides. -/
theorem Attempted.unique {dials : List (Io Unit)} {x y : Io Unit} (hx : ∀ e, x ≠ .error (.failed e))
    (hy : ∀ e, y ≠ .error (.failed e)) (h : Attempted dials x) (h' : Attempted dials y) : x = y :=
  ((connectRetry_eq_iff .noAttempt hx).mpr h).symm.trans
    ((connectRetry_eq_iff .noAttempt hy).mpr h')

/-- For every VM, every guest and every way the operations turn out: a migration that does not get
to the pause hands the VM back as it was, and so fails only once it has called the pause, if and
only if none of its operations hangs and the metadata of a drained VM is written. -/
theorem stands_down_iff : StandsDown parsers src vm ↔ Unhindered parsers src vm := by
  have hrun := sourceRun parsers src vm
  have hdecides : ∀ {x}, Attempted (src.dials vm) (.ok ()) → Attempted (src.dials vm) x →
      (∀ e, x ≠ .error (.failed e)) → .ok () = x := fun h h' hx => h.unique (by simp) hx h'
  rcases hexec : exec (migrateRunning parsers src vm) {} with ⟨r, s⟩
  rw [hexec] at hrun
  -- The model has one run, so both parts are about its end.
  have hstands : StandsDown parsers src vm ↔ (s.paused = false → r = .ok (.stoodDown vm)) ∧
      ∀ vm', r = .ok (.stoodDown vm') → vm' = vm ∧ s.paused = false ∧ s.tornDown = false := by
    constructor
    · rintro ⟨hhands, hintact⟩
      exact ⟨hhands r s hexec, fun vm' hr => hintact vm' s (by rw [hexec, hr])⟩
    · rintro ⟨hhands, hintact⟩
      refine ⟨fun r' s' h => ?_, fun vm' s' h => ?_⟩
      · obtain ⟨rfl, rfl⟩ := Prod.mk.inj (hexec.symm.trans h)
        exact hhands
      · obtain ⟨rfl, rfl⟩ := Prod.mk.inj (hexec.symm.trans h)
        exact hintact vm' rfl
  rw [hstands]
  cases hrun with
  | unreached hdial hcompletes =>
    refine iff_of_true (by simp) ⟨hcompletes, fun h => absurd h hdial, fun h => absurd h hdial⟩
  | dialing hdial => exact iff_of_false (by simp) fun h => h.dial hdial
  | undrained hdial hdrain hstuck hbusy =>
    refine iff_of_true (by simp) ⟨fun h => ?_, fun _ => ?_, fun _ h => ?_⟩
    · cases hdecides hdial h (by simp)
    · by_contra hcompletes
      exact hstuck (hdrain.stuck_iff.mpr hcompletes)
    · exact absurd (hdrain.quiescent_iff.mpr h) hbusy
  | draining hdial hdrain =>
    exact iff_of_false (by simp) fun h => hdrain.stuck_iff.mp rfl (h.drain hdial)
  | unwritten hdial hdrain hwrites =>
    exact iff_of_false (by simp) fun h =>
      hwrites (h.metadata hdial (hdrain.quiescent_iff.mp rfl))
  | paused hdial hdrain hwrites hr =>
    refine iff_of_true ⟨by simp, fun vm' h => absurd h (hr vm')⟩
      ⟨fun h => ?_, fun _ => ?_, fun _ _ => hwrites⟩
    · cases hdecides hdial h (by simp)
    · by_contra hcompletes
      cases hdrain.stuck_iff.mpr hcompletes

/-- What `serde_json` reads in three lines of a guest. -/
def shortLines (text : String) : Option Serde.Json :=
  if text = "hello" then
    some (.object [("type", .string "Hello"), ("vm_id", .string "0"),
      ("guestd_version", .string "0.1.0")])
  else if text = "idle" then some (.object [("type", .string "DrainAck"), ("in_flight", .null)])
  else if text = "busy" then some (.object [("type", .string "DrainAck"), ("in_flight", .uint 7)])
  else none

/-- Parsers that read those lines. -/
def shortParsers : Parsers := ⟨shortLines, fun _ => some 0⟩

/-- A send that works. -/
def Sending.fine : Sending := ⟨true, .ok ()⟩

/-- A guest that says hello and then these lines, on a link on which every send works. -/
def peerSaying (lines : List String) : Peer :=
  ⟨some (.line "hello"), .fine, .fine, lines.map .line, .fine⟩

/-- A migration over vsock on which everything works, to such a guest. -/
def sourceSaying (lines : List String) : Source where
  tcp := []
  vsock := [⟨.ok (), .ok (), .ok "OK 1073\n"⟩]
  peer := peerSaying lines
  writeVsock := .ok ()
  serializeNet := .ok ()
  writeNet := .ok ()
  pause := .ok ()
  snapshot := .ok ()
  transfer := .ok ()

/-- A VM without a network. -/
def plainVm : RunningVm := { id := ⟨7⟩, proc := 0, vsockUds := "guest.vsock", net := none }

/-- The guest drains, and `vsock.txt` cannot be written: the VM is torn down without a pause. -/
theorem vm_torn_down_unpaused :
    let src : Source := { sourceSaying ["idle"] with writeVsock := .error (.os "disk full") }
    exec (migrateRunning shortParsers src plainVm) {} =
        (.error (.failed (.io "write vsock path" (.os "disk full"))),
          { delivered := [.secrets [], .drainRequest DRAIN_DEADLINE], tornDown := true }) ∧
      ¬ StandsDown shortParsers src plainVm := by
  intro src
  have hexec : exec (migrateRunning shortParsers src plainVm) {} =
      (.error (.failed (.io "write vsock path" (.os "disk full"))),
        { delivered := [.secrets [], .drainRequest DRAIN_DEADLINE], tornDown := true }) := by
    rfl
  exact ⟨hexec, fun h => by cases h.handsBack _ _ hexec rfl⟩

end StandDown

/-! ## The gate -/

section Gate

variable (parsers : Parsers) (src : Source) (vm : RunningVm)

/-- A drain that shut the guest's gate leaves it open, unless it found the guest quiescent. -/
structure Reopens : Prop where
  /-- The drain returns with the cancel sent after the request. -/
  cancelled : ∀ r l, exec (drainToQuiescence parsers src.peer) [] = (r, l) → r ≠ .error .stuck →
    r ≠ .ok .quiescent → .drainRequest DRAIN_DEADLINE ∈ l →
      ∃ before after, l = before ++ .drainRequest DRAIN_DEADLINE :: after ∧ .drainCancel ∈ after
  /-- A VM that is handed back has its gate open. -/
  reopened : ∀ vm' s, exec (migrateRunning parsers src vm) {} = (.ok (.stoodDown vm'), s) →
    Guestd.shutAfter s.delivered = false

/-- The guest gets what is sent, and the send completes. -/
def Sending.Usable (s : Sending) : Prop := s.delivered = true ∧ s.result ≠ .error .stuck

/-- A request that the guest gets either never returns, or is sent without an error and followed by
an ack that is read before the deadline. -/
def Peer.Answers (peer : Peer) : Prop :=
  peer.Shakes parsers → peer.request.delivered = true →
    peer.request.result = .error .stuck ∨
      (peer.request.result = .ok () ∧ ∃ inFlight, peer.Acks parsers inFlight)

variable {parsers src vm} {peer : Peer} {r : Io DrainState} {l : List HostToGuest}

theorem got_of_lost {s : Sending} {msg : HostToGuest} (h : s.delivered = false) :
    s.got msg = [] := by
  rw [Sending.got, h]
  rfl

theorem got_of_delivered {s : Sending} {msg : HostToGuest} (h : s.delivered = true) :
    s.got msg = [msg] := if_pos h

theorem mem_got {s : Sending} {msg msg' : HostToGuest} (h : msg' ∈ s.got msg) :
    msg' = msg ∧ s.delivered = true := by
  rw [Sending.got] at h
  split at h
  case isTrue hdelivered => exact ⟨List.mem_singleton.mp h, hdelivered⟩
  case isFalse => cases h

/-- Messages that do not shut the gate leave it open. -/
theorem shutAfter_secrets (s : Sending) (env : List (String × String)) :
    Guestd.shutAfter (s.got (.secrets env)) = false := by
  rw [Sending.got]
  split
  · rfl
  · rfl

/-- A cancel at the end opens the gate, whatever came before. -/
theorem shutAfter_cancel (l : List HostToGuest) :
    Guestd.shutAfter (l ++ [.drainCancel]) = false := by
  simp [Guestd.shutAfter, Guestd.gateCmd, Gate.isShut_append, Gate.step]

/-- Where every request is answered, a drain that fails has not got its request to the guest. -/
theorem Peer.Answers.lost (h : peer.Answers parsers) (hshakes : peer.Shakes parsers)
    (hstuck : peer.request.result ≠ .error .stuck)
    (hack : peer.request.result = .ok () → ∀ inFlight, ¬ peer.Acks parsers inFlight) :
    peer.request.delivered = false := by
  by_contra hdelivered
  rcases h hshakes (by simpa using hdelivered) with hs | ⟨hok, inFlight, hread⟩
  · exact hstuck hs
  · exact hack hok inFlight hread

/-- A drain that returns without being quiescent did not get its request to the guest, or sent the
cancel last. -/
theorem DrainRun.reopened (h : DrainRun parsers peer r l) (husable : peer.cancel.Usable)
    (hanswers : peer.Answers parsers) (hstuck : r ≠ .error .stuck) (hbusy : r ≠ .ok .quiescent) :
    l = [] ∨ l = peer.secrets.got (.secrets []) ∨
      l = peer.secrets.got (.secrets []) ++ peer.request.got (.drainRequest DRAIN_DEADLINE) ++
        [.drainCancel] := by
  cases h with
  | unheard => exact absurd rfl hstuck
  | rejected => exact Or.inl rfl
  | unanswered => exact Or.inr (Or.inl rfl)
  | unrequested hshakes hrequest =>
    have hlost := hanswers.lost hshakes
      (fun hs => hstuck (congrArg _ (Except.error.inj (hrequest.symm.trans hs))))
      fun hok => by cases hrequest.symm.trans hok
    rw [got_of_lost hlost, List.append_nil]
    exact Or.inr (Or.inl rfl)
  | unacked hshakes hrequest hack =>
    have hlost := hanswers.lost hshakes (by simp [hrequest])
      fun _ inFlight hread => by cases hack.symm.trans (Peer.acks_iff.mp hread)
    rw [got_of_lost hlost, List.append_nil]
    exact Or.inr (Or.inl rfl)
  | quiescent => exact absurd rfl hbusy
  | busy =>
    rw [got_of_delivered husable.1]
    exact Or.inr (Or.inr rfl)
  | uncancelled => exact absurd rfl hstuck

/-- A drain without an answer to its request never sends the cancel. -/
theorem DrainRun.uncancelled_of_not_answers (h : DrainRun parsers peer r l)
    (hanswers : ¬ peer.Answers parsers) :
    (∃ e, r = .error (.failed e)) ∧ .drainRequest DRAIN_DEADLINE ∈ l ∧ .drainCancel ∉ l := by
  rw [Peer.Answers] at hanswers
  push Not at hanswers
  obtain ⟨hshakes, hdelivered, hstuck, hread⟩ := hanswers
  have hcancel : .drainCancel ∉
      peer.secrets.got (.secrets []) ++ peer.request.got (.drainRequest DRAIN_DEADLINE) := by
    intro hmem
    rcases List.mem_append.mp hmem with hmem | hmem
    · cases (mem_got hmem).1
    · cases (mem_got hmem).1
  have hrequested : .drainRequest DRAIN_DEADLINE ∈
      peer.secrets.got (.secrets []) ++ peer.request.got (.drainRequest DRAIN_DEADLINE) := by
    rw [got_of_delivered hdelivered]
    simp
  -- Of the runs that get the request to the guest, those that read an ack are excluded.
  cases h with
  | unheard hhello => exact absurd hhello hshakes.1.hello_ne
  | rejected _ hgreets => exact absurd hshakes.1 hgreets
  | unanswered _ hsecrets => cases hsecrets.symm.trans hshakes.2
  | @unrequested e _ hrequest =>
    rcases e with e | _
    · exact ⟨⟨e, rfl⟩, hrequested, hcancel⟩
    · exact absurd hrequest hstuck
  | unacked => exact ⟨⟨_, rfl⟩, hrequested, hcancel⟩
  | quiescent _ hrequest hack => exact absurd (Peer.acks_iff.mpr hack) (hread hrequest _)
  | busy _ hrequest hack => exact absurd (Peer.acks_iff.mpr hack) (hread hrequest _)
  | uncancelled _ hrequest hack => exact absurd (Peer.acks_iff.mpr hack) (hread hrequest _)

variable (parsers src vm)

/-- For every VM, every guest and every way the operations turn out, on a link that stays usable for
the cancel: a drain that shut the gate and is not quiescent sends the cancel before it returns, and
a VM that is handed back has its gate open, if and only if every request is answered. -/
theorem drain_cancelled_iff (husable : src.peer.cancel.Usable) :
    Reopens parsers src vm ↔ src.peer.Answers parsers := by
  constructor
  · rintro ⟨hcancelled, -⟩
    by_contra hanswers
    obtain ⟨r, l, hexec, hdrain⟩ := drainRun parsers src.peer []
    obtain ⟨⟨e, rfl⟩, hrequested, hnever⟩ := hdrain.uncancelled_of_not_answers hanswers
    obtain ⟨before, after, hl, hcancel⟩ :=
      hcancelled _ l hexec (by simp) (by simp) hrequested
    exact hnever (by simp [hl, hcancel])
  · intro hanswers
    refine ⟨fun r l hexec hstuck hbusy hrequested => ?_, fun vm' s hexec => ?_⟩
    · obtain ⟨r', l', hexec', hdrain⟩ := drainRun parsers src.peer []
      obtain ⟨rfl, rfl⟩ := Prod.mk.inj (hexec.symm.trans hexec')
      -- Of the three, only the last has the request in it.
      rcases hdrain.reopened husable hanswers hstuck hbusy with rfl | rfl | rfl
      · cases hrequested
      · cases (mem_got hrequested).1
      · have hdelivered : src.peer.request.delivered = true := by
          rcases List.mem_append.mp hrequested with hmem | hmem
          · rcases List.mem_append.mp hmem with hmem | hmem
            · cases (mem_got hmem).1
            · exact (mem_got hmem).2
          · cases List.mem_singleton.mp hmem
        rw [got_of_delivered hdelivered]
        exact ⟨src.peer.secrets.got (.secrets []), [.drainCancel], by simp, by simp⟩
    · have hrun := sourceRun parsers src vm
      rw [hexec] at hrun
      cases hrun with
      | unreached => rfl
      | undrained _ hdrain hstuck hbusy =>
        rcases hdrain.reopened husable hanswers hstuck hbusy with rfl | rfl | rfl
        · rfl
        · exact shutAfter_secrets _ _
        · exact shutAfter_cancel _
      | paused _ _ _ hr => exact absurd rfl (hr vm')

/-- A busy guest is handed back with its gate open. -/
theorem drain_cancelled_busy :
    Reopens shortParsers (sourceSaying ["busy"]) plainVm :=
  (drain_cancelled_iff shortParsers (sourceSaying ["busy"]) plainVm ⟨rfl, by simp [sourceSaying,
    peerSaying, Sending.fine]⟩).mpr fun _ _ => Or.inr ⟨rfl, some ⟨7⟩, [], _, [], rfl, by simp, rfl⟩

/-- The guest does not answer before the deadline: its VM is handed back with the gate shut. -/
theorem gate_left_shut :
    exec (migrateRunning shortParsers (sourceSaying []) plainVm) {} =
        (.ok (.stoodDown plainVm),
          { delivered := [.secrets [], .drainRequest DRAIN_DEADLINE] }) ∧
      (sourceSaying []).peer.cancel.Usable ∧
      ¬ Reopens shortParsers (sourceSaying []) plainVm := by
  have hexec : exec (migrateRunning shortParsers (sourceSaying []) plainVm) {} =
      (.ok (.stoodDown plainVm),
        { delivered := [.secrets [], .drainRequest DRAIN_DEADLINE] }) := by rfl
  exact ⟨hexec, ⟨rfl, by simp [sourceSaying, peerSaying, Sending.fine]⟩, fun h => by
    cases h.reopened _ _ hexec⟩

end Gate

end Sleepwalk.Hostd
