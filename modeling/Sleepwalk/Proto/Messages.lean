import Mathlib.Algebra.Group.Nat.Defs

/-!
# The guestd ⇄ hostd protocol

The identifiers of `proto::ids` and the two message enums of `proto::vsock`, one for each
direction, so that a guest cannot build a host message nor a host a guest message.

Identifiers are newtypes over the machine integers the source uses. Of `VmId` only the 128 bits
of the UUID are kept. A `Duration` is its count of nanoseconds, and the `BTreeMap` of
`Secrets` is the list of its entries in key order.
-/

namespace Sleepwalk.Proto

/-- Identifies one microVM across its whole life. -/
structure VmId where
  /-- The bits of the UUID. -/
  uuid : BitVec 128
deriving DecidableEq, Repr

/-- Names a host in the fleet. -/
structure HostId where
  /-- The name. -/
  name : String
deriving DecidableEq, Repr

/-- The guestd build version carried by `Hello`. -/
structure GuestdVersion where
  /-- The free-form version string. -/
  version : String
deriving DecidableEq, Repr

/-- Monotonic per-VM turn counter. Absence of a turn is `Option.none`, never turn `0`. -/
structure TurnId where
  /-- The raw counter value. -/
  get : UInt64
deriving DecidableEq, Repr

namespace TurnId

/-- The first turn id. -/
def FIRST : TurnId := ⟨0⟩

/-- Wrap a raw counter value. -/
def fromU64 (n : UInt64) : TurnId := ⟨n⟩

/-- The next turn id. Saturates at `u64::MAX` rather than wrapping. -/
def next (t : TurnId) : TurnId :=
  if t.get = UInt64.ofNat (2 ^ 64 - 1) then t else ⟨t.get + 1⟩

end TurnId

/-- A wall-clock instant as the guest observed it: nanoseconds since the Unix epoch. -/
structure Timestamp where
  /-- Nanoseconds since the Unix epoch. -/
  nanos : UInt64
deriving DecidableEq, Repr

/-- A span of time. -/
structure Duration where
  /-- The whole span in nanoseconds. -/
  nanos : ℕ
deriving DecidableEq, Repr

/-- Messages the guestd sends to hostd. -/
inductive GuestToHost where
  /-- Boot handshake, the first message after the guest comes up. -/
  | hello (vmId : VmId) (guestdVersion : GuestdVersion)
  /-- Ground-truth busy signal: a turn has started. -/
  | turnStarted (turnId : TurnId) (ts : Timestamp)
  /-- Ground-truth idle signal: the turn finished. -/
  | turnEnded (turnId : TurnId) (ts : Timestamp)
  /-- Response to a `DrainRequest`; `none` means new turns are gated and none is running. -/
  | drainAck (inFlight : Option TurnId)
  /-- First message after a restore on the target host. -/
  | resumed (ts : Timestamp)
  /-- Liveness probe. -/
  | ping
  /-- Liveness reply. -/
  | pong
deriving DecidableEq, Repr

/-- Messages hostd sends to the guestd. -/
inductive HostToGuest where
  /-- API-key/secret handoff at boot. -/
  | secrets (env : List (String × String))
  /-- Ask the guest to gate new turns and report what is in flight. -/
  | drainRequest (deadline : Duration)
  /-- Migration aborted: un-gate, release any queued turns. -/
  | drainCancel
  /-- Drive one unit of guest work under the host's id. -/
  | runTurn (turnId : TurnId)
  /-- Liveness probe. -/
  | ping
  /-- Liveness reply. -/
  | pong
deriving DecidableEq, Repr

end Sleepwalk.Proto
