import Mathlib.Data.List.Induction
import Sleepwalk.Lib.Text
import Sleepwalk.Proto.Messages

/-!
# Wrap mode

Turn boundaries inferred from the stdout of a wrapped child (`guestd::wrap`): `WrapConfig.classify`
reads a line, `TurnTracker` keeps the turn state the reader task updates and the drain responders
consult, and `wrapReply` is the answer of `serve_wrap_messages` to one host message.

The responders answer from the tracker alone. They close no gate, so an answer says nothing about
the next line of the child.
-/

namespace Sleepwalk.Guestd

open Proto

/-- A turn boundary inferred from a line of child stdout. -/
inductive TurnSignal where
  /-- The child opened a turn. -/
  | start
  /-- The child closed a turn. -/
  | stop
deriving DecidableEq, Repr

/-- How to recognise turn boundaries in a wrapped child's stdout. -/
structure WrapConfig where
  /-- A line equal to this (after trimming) opens a turn. -/
  startMarker : String := "@@TURN_START@@"
  /-- A line equal to this (after trimming) closes a turn. -/
  endMarker : String := "@@TURN_END@@"
deriving DecidableEq, Repr

/-- Classify one line of child stdout, or `none` if it is not a boundary. -/
def WrapConfig.classify (cfg : WrapConfig) (line : String) : Option TurnSignal :=
  let line := Text.trim line
  if line = cfg.startMarker then some .start
  else if line = cfg.endMarker then some .stop
  else none

/-- The turn state shared by the child reader and the drain responders. -/
structure TurnTracker where
  /-- The child is in a turn. -/
  inTurn : Bool
  /-- The id of the last turn opened. The atomic counter wraps. -/
  lastId : UInt64
deriving DecidableEq, Repr

namespace TurnTracker

/-- A tracker that has seen no boundary. -/
def new : TurnTracker := { inTurn := false, lastId := 0 }

/-- Update from an inferred boundary. The turn id advances only on a genuine open. -/
def apply (t : TurnTracker) : TurnSignal → TurnTracker
  | .start => if t.inTurn then t else { inTurn := true, lastId := t.lastId + 1 }
  | .stop => { t with inTurn := false }

/-- The in-flight turn id, or `none` between turns. -/
def inFlight (t : TurnTracker) : Option TurnId :=
  if t.inTurn then some (TurnId.fromU64 t.lastId) else none

@[simp]
theorem inFlight_eq_none_iff (t : TurnTracker) : t.inFlight = none ↔ t.inTurn = false := by
  cases h : t.inTurn with
  | false => simp [inFlight, h]
  | true => simp [inFlight, h]

/-- A boundary decides the turn state whatever it was before. -/
theorem inTurn_apply (t : TurnTracker) (sig : TurnSignal) :
    (t.apply sig).inTurn = decide (sig = .start) := by
  cases sig with
  | start =>
    cases h : t.inTurn with
    | false => simp [apply, h]
    | true => simp [apply, h]
  | stop => rfl

end TurnTracker

/-- What `serve_wrap_messages` sends in response to one message, if anything. -/
def wrapReply (tracker : TurnTracker) : HostToGuest → Option GuestToHost
  | .drainRequest _ => some (.drainAck tracker.inFlight)
  | .ping => some .pong
  | .secrets _ | .drainCancel | .runTurn _ | .pong => none

end Sleepwalk.Guestd
