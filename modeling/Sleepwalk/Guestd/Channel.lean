import Sleepwalk.Proto.Messages

/-!
# The guest channel

`GuestChannel` is the seam between the supervisor and the wire (`guestd::channel`). The source's
trait takes `&self` and mutates behind it; here both operations pass the channel's state along.

`PseudoChannel` is the recording stand-in of `guestd::pseudo_channel`, which never fails.
`FatedChannel` is the same recorder over an unreliable wire: a `Fate` for every send says
whether it succeeds, fails undelivered, or reports a failure although the bytes reached the host.
-/

namespace Sleepwalk.Guestd

open Proto

/-- An error moving a message over the guest channel. -/
inductive ChannelError where
  /-- The peer (hostd) closed the connection. -/
  | closed
  /-- An I/O error on the underlying transport. -/
  | io (detail : String)
  /-- A line was received that did not decode to a valid message. -/
  | malformed (detail : String)
deriving DecidableEq, Repr

/-- The channel the supervisor uses to talk to hostd. -/
class GuestChannel (C : Type) where
  /-- Send one message to hostd. -/
  send : C → GuestToHost → Except ChannelError Unit × C
  /-- Receive the next message from hostd. -/
  recv : C → Except ChannelError HostToGuest × C

/-- A fake guest channel that scripts inbound messages and records outbound ones. -/
structure PseudoChannel where
  /-- The scripted messages not yet received. -/
  inbox : List HostToGuest
  /-- The messages sent so far, in order. -/
  sent : List GuestToHost
deriving DecidableEq, Repr

instance : GuestChannel PseudoChannel where
  send c msg := (.ok (), { c with sent := c.sent ++ [msg] })
  recv c :=
    match c.inbox with
    | [] => (.error .closed, c)
    | msg :: rest => (.ok msg, { c with inbox := rest })

/-- What becomes of one send. -/
inductive Fate where
  /-- The send succeeds: the bytes reached the host. -/
  | delivered
  /-- The send fails and nothing reached the host. -/
  | lost
  /-- The send fails although the bytes reached the host. -/
  | ghost
deriving DecidableEq, Repr

namespace Fate

/-- The bytes of the send reached the host. -/
def reached : Fate → Bool
  | .delivered | .ghost => true
  | .lost => false

/-- What the caller of the send is told. -/
def result : Fate → Except ChannelError Unit
  | .delivered => .ok ()
  | .lost | .ghost => .error (.io "broken pipe")

end Fate

/-- The messages of a log of sends that reached the host, in order. -/
def onWire (log : List (GuestToHost × Fate)) : List GuestToHost :=
  (log.filter fun p => p.2.reached).map Prod.fst

/-- One more send reaches the host exactly when its fate lets it through. -/
theorem onWire_append_singleton (log : List (GuestToHost × Fate)) (msg : GuestToHost) (f : Fate) :
    onWire (log ++ [(msg, f)]) = if f.reached then onWire log ++ [msg] else onWire log := by
  unfold onWire
  split <;> rename_i h <;> simp [h]

/-- A recording channel whose `n`-th send meets the fate `fates n`, and whose inbound lines may be
malformed. Once the lines are used up the peer has closed the connection. -/
structure FatedChannel where
  /-- The lines the host wrote that were not received yet. -/
  inbox : List (Except ChannelError HostToGuest)
  /-- Every attempted send with its fate, in order. -/
  log : List (GuestToHost × Fate)
  /-- The fate of each send, by its position in `log`. -/
  fates : ℕ → Fate

namespace FatedChannel

/-- A channel with nothing sent yet. -/
def fresh (inbox : List (Except ChannelError HostToGuest)) (fates : ℕ → Fate) : FatedChannel :=
  { inbox, log := [], fates }

/-- The fate the next send will meet. -/
def nextFate (c : FatedChannel) : Fate := c.fates c.log.length

/-- Record one attempted send. -/
def push (c : FatedChannel) (msg : GuestToHost) : FatedChannel :=
  { c with log := c.log ++ [(msg, c.nextFate)] }

/-- The messages that reached the host, in order. -/
def wire (c : FatedChannel) : List GuestToHost := onWire c.log

/-- From now on every send succeeds. -/
def WorksFromNow (c : FatedChannel) : Prop := ∀ n, c.log.length ≤ n → c.fates n = .delivered

end FatedChannel

instance : GuestChannel FatedChannel where
  send c msg := (c.nextFate.result, c.push msg)
  recv c :=
    match c.inbox with
    | [] => (.error .closed, c)
    | line :: rest => (line, { c with inbox := rest })

namespace FatedChannel

@[simp]
theorem send_eq (c : FatedChannel) (msg : GuestToHost) :
    GuestChannel.send c msg = (c.nextFate.result, c.push msg) := rfl

@[simp]
theorem push_fates (c : FatedChannel) (msg : GuestToHost) : (c.push msg).fates = c.fates := rfl

@[simp]
theorem push_inbox (c : FatedChannel) (msg : GuestToHost) : (c.push msg).inbox = c.inbox := rfl

@[simp]
theorem push_log (c : FatedChannel) (msg : GuestToHost) :
    (c.push msg).log = c.log ++ [(msg, c.nextFate)] := rfl

/-- A channel that works keeps working after a send. -/
theorem WorksFromNow.push {c : FatedChannel} (h : c.WorksFromNow) (msg : GuestToHost) :
    (c.push msg).WorksFromNow := by
  intro n hn
  rw [push_fates]
  exact h n (by simp only [push_log, List.length_append] at hn; omega)

/-- On a channel that works the next send is delivered. -/
theorem WorksFromNow.nextFate {c : FatedChannel} (h : c.WorksFromNow) :
    c.nextFate = .delivered := h _ (Nat.le_refl _)

end FatedChannel

end Sleepwalk.Guestd
