import Mathlib.Data.List.Basic
import Sleepwalk.Lib.Runs
import Sleepwalk.Proto.Messages

/-!
# The turn driver

`run_turn` calls on one connection, and the router that wakes them. A call is named by its turn id,
which no two calls share, and goes from one await to the next in one event. A deadline is the event
that `timeout` elapses, which looks at the channel before it looks at the clock.

A call whose request cannot be sent is booked as dropped without being counted, and the router
leaves the waiters in their map when it stops. Every call is booked once and truthfully if and only
if neither happens to a call (`turns_truthful_iff`).
-/

namespace Sleepwalk.Hostd.TurnDriver

open Proto

/-! ## The driver -/

/-- What the receiver of a call finds. -/
inductive Oneshot where
  /-- Nothing yet. -/
  | open
  /-- The completion. -/
  | sent
  /-- The sender was dropped. -/
  | closed
deriving DecidableEq, Repr

/-- How far a `run_turn` got. -/
inductive Call where
  /-- Its waiter is in the map, and `RunTurn` is on its way out. -/
  | sending (rx : Oneshot)
  /-- `RunTurn` could not be sent. The lock on the waiters is next. -/
  | unsent
  /-- In `timeout(deadline, rx)`. -/
  | waiting (rx : Oneshot)
  /-- The deadline passed. The lock on the waiters is next. -/
  | expired
  /-- It returned. -/
  | returned
deriving DecidableEq, Repr

/-- The channel that a call still looks at. -/
def Call.rx : Call → Option Oneshot
  | .sending rx | .waiting rx => some rx
  | .unsent | .expired | .returned => none

/-- `tx.send(())`. It is lost on a call that does not listen any more. -/
def Call.wake : Call → Call
  | .sending .open => .sending .sent
  | .waiting .open => .waiting .sent
  | call => call

/-- The `outcome` label of a test turn. -/
inductive Outcome where
  /-- `test_turn(.., true)`. -/
  | ok
  /-- `test_turn(.., false)`. -/
  | dropped
deriving DecidableEq, Repr

/-- A driver with its router and its calls. -/
structure VsockTurnDriver where
  /-- The calls so far. -/
  calls : TurnId → Option Call
  /-- The ids in the waiter map. -/
  waiters : TurnId → Bool
  /-- The router has not met the end of the link. -/
  routing : Bool
  /-- What `dropped()` reads. -/
  dropped : UInt64
  /-- The test turns booked so far. -/
  testTurns : List (TurnId × Outcome)

/-- What happens to one turn. -/
inductive TurnEvent where
  /-- `run_turn` is called. -/
  | called
  /-- `RunTurn` is sent. -/
  | sent
  /-- Sending `RunTurn` fails. -/
  | sendFailed
  /-- The router takes the waiter for a `TurnEnded` it received. -/
  | routed
  /-- `timeout` finds the channel ready. -/
  | completed
  /-- `timeout` elapses. -/
  | expired
  /-- The call removes its waiter, counts the drop if it expired, books it and returns. Whoever
  reads `dropped()` in between can see the counter one ahead of the bookings. -/
  | gaveUp
deriving DecidableEq, Repr

/-- What happens at a driver. -/
inductive DriverEvent where
  /-- Something happens to the turn of an id. -/
  | turn (id : TurnId) (event : TurnEvent)
  /-- The router meets the end of the link. -/
  | closed
deriving DecidableEq, Repr

namespace VsockTurnDriver

/-- A new driver. -/
def new : VsockTurnDriver :=
  { calls := fun _ => none, waiters := fun _ => false, routing := true, dropped := 0,
    testTurns := [] }

/-- A call got somewhere. -/
def setCall (id : TurnId) (call : Call) (d : VsockTurnDriver) : VsockTurnDriver :=
  { d with calls := Function.update d.calls id (some call) }

/-- The waiter of an id is put into the map, or taken out. -/
def setWaiter (id : TurnId) (waits : Bool) (d : VsockTurnDriver) : VsockTurnDriver :=
  { d with waiters := Function.update d.waiters id waits }

/-- `dropped.fetch_add(1)`. -/
def countDrop (d : VsockTurnDriver) : VsockTurnDriver := { d with dropped := d.dropped + 1 }

/-- `telemetry::test_turn`. -/
def testTurn (id : TurnId) (outcome : Outcome) (d : VsockTurnDriver) : VsockTurnDriver :=
  { d with testTurns := d.testTurns ++ [(id, outcome)] }

/-- The router on a `TurnEnded`: the waiter is taken out and woken. -/
def route (id : TurnId) (d : VsockTurnDriver) : VsockTurnDriver :=
  if d.waiters id then
    { d.setWaiter id false with calls := Function.update d.calls id ((d.calls id).map Call.wake) }
  else d

/-- The next event of a turn, where it can happen. -/
def turn (id : TurnId) (d : VsockTurnDriver) : TurnEvent → Option VsockTurnDriver
  | .called =>
    match d.calls id with
    | none => some ((d.setCall id (.sending .open)).setWaiter id true)
    | some _ => none
  | .sent =>
    match d.calls id with
    | some (.sending rx) => some (d.setCall id (.waiting rx))
    | _ => none
  | .sendFailed =>
    match d.calls id with
    | some (.sending _) => some (d.setCall id .unsent)
    | _ => none
  | .routed => if d.routing then some (d.route id) else none
  | .completed =>
    match d.calls id with
    -- A dropped sender ends the wait like a completion does.
    | some (.waiting .sent) | some (.waiting .closed) =>
      some ((d.setCall id .returned).testTurn id .ok)
    | _ => none
  | .expired =>
    match d.calls id with
    | some (.waiting .open) => some (d.setCall id .expired)
    | _ => none
  | .gaveUp =>
    match d.calls id with
    | some .unsent => some (((d.setWaiter id false).setCall id .returned).testTurn id .dropped)
    | some .expired =>
      some (((d.setWaiter id false).countDrop.setCall id .returned).testTurn id .dropped)
    | _ => none

/-- The next event. The router stops at the end of the link, and leaves the waiters where they
are. -/
def step (d : VsockTurnDriver) : DriverEvent → Option VsockTurnDriver
  | .turn id event => d.turn id event
  | .closed => if d.routing then some { d with routing := false } else none

/-- A driver after some events, if they can happen. -/
def run (events : List DriverEvent) : Option VsockTurnDriver := Runs.run step new events

/-- Every call has returned. -/
def Settled (d : VsockTurnDriver) : Prop :=
  ∀ id, d.calls id = none ∨ d.calls id = some .returned

/-- What a turn was booked as, each time it was. -/
def outcomes (id : TurnId) (d : VsockTurnDriver) : List Outcome :=
  (d.testTurns.filter fun t => t.1 = id).map Prod.snd

/-- A call that nothing has reached yet. -/
def Outstanding (id : TurnId) (d : VsockTurnDriver) : Prop :=
  ∃ call, d.calls id = some call ∧ call.rx = some .open

/-- The turns booked as dropped. -/
def droppedTurns (d : VsockTurnDriver) : ℕ := d.testTurns.countP fun t => t.2 = .dropped

/-- The counter agrees with the bookings. -/
def Counted (d : VsockTurnDriver) : Prop := d.dropped = .ofNat d.droppedTurns

end VsockTurnDriver

open VsockTurnDriver

/-- The call of a turn has begun, its deadline has not passed, and it has not given up. -/
def Listens (id : TurnId) (events : List DriverEvent) : Prop :=
  .turn id .called ∈ events ∧ .turn id .expired ∉ events ∧ .turn id .gaveUp ∉ events

/-- The completion of a turn was routed to its call before the deadline. -/
def RoutedInTime (id : TurnId) (events : List DriverEvent) : Prop :=
  ∃ before after, events = before ++ .turn id .routed :: after ∧ Listens id before

/-- Every call is booked once and truthfully, a call outstanding when the link closes is released
before its deadline, and the drops are counted throughout. -/
structure Truthful (events : List DriverEvent) (d : VsockTurnDriver) : Prop where
  /-- Each call is booked once, as ok if and only if its completion came in time. -/
  booked : ∀ id, .turn id .called ∈ events →
    ∃ outcome, d.outcomes id = [outcome] ∧ (outcome = .ok ↔ RoutedInTime id events)
  /-- Each call outstanding when the link closes is booked as dropped, without its deadline. -/
  released : ∀ before after d₁, events = before ++ .closed :: after → run before = some d₁ →
    ∀ id, d₁.Outstanding id → .turn id .expired ∉ after ∧ d.outcomes id = [.dropped]
  /-- The counter agrees with the turns booked as dropped. -/
  counted : ∀ before d₁, before <+: events → run before = some d₁ → d₁.Counted

/-! ## What an event does -/

theorem Call.rx_wake {call : Call} (h : call.rx = some .open) : call.wake.rx = some .sent := by
  cases call with
  | sending rx | waiting rx =>
    obtain rfl : rx = .open := Option.some.inj h
    rfl
  | _ => cases h

theorem Call.rx_wake_ne_closed {call : Call} (h : call.rx ≠ some .closed) :
    call.wake.rx ≠ some .closed := by
  cases call with
  | sending rx | waiting rx => cases rx <;> first | exact h | simp [Call.wake, Call.rx]
  | _ => exact h

namespace VsockTurnDriver

variable {d d' : VsockTurnDriver} {id id' : TurnId} {event : TurnEvent}

/-- What an event of a turn needs and does. -/
inductive Turned (id : TurnId) (d : VsockTurnDriver) : TurnEvent → VsockTurnDriver → Prop where
  | called (hcall : d.calls id = none) :
    Turned id d .called ((d.setCall id (.sending .open)).setWaiter id true)
  | sent {rx : Oneshot} (hcall : d.calls id = some (.sending rx)) :
    Turned id d .sent (d.setCall id (.waiting rx))
  | sendFailed {rx : Oneshot} (hcall : d.calls id = some (.sending rx)) :
    Turned id d .sendFailed (d.setCall id .unsent)
  | routed (hrouting : d.routing = true) : Turned id d .routed (d.route id)
  | completed {rx : Oneshot} (hcall : d.calls id = some (.waiting rx)) (hready : rx ≠ .open) :
    Turned id d .completed ((d.setCall id .returned).testTurn id .ok)
  | expired (hcall : d.calls id = some (.waiting .open)) :
    Turned id d .expired (d.setCall id .expired)
  | gaveUpUnsent (hcall : d.calls id = some .unsent) :
    Turned id d .gaveUp (((d.setWaiter id false).setCall id .returned).testTurn id .dropped)
  | gaveUpExpired (hcall : d.calls id = some .expired) :
    Turned id d .gaveUp
      (((d.setWaiter id false).countDrop.setCall id .returned).testTurn id .dropped)

theorem turned_of_turn (h : d.turn id event = some d') : Turned id d event d' := by
  cases event <;> simp only [turn] at h
  case routed =>
    obtain ⟨hrouting, rfl⟩ : d.routing = true ∧ d.route id = d' := by simpa using h
    exact .routed hrouting
  all_goals split at h <;> cases h
  exacts [.called ‹_›, .sent ‹_›, .sendFailed ‹_›, .completed ‹_› (by simp),
    .completed ‹_› (by simp), .expired ‹_›, .gaveUpUnsent ‹_›, .gaveUpExpired ‹_›]

theorem step_closed_iff :
    d.step .closed = some d' ↔ d.routing = true ∧ { d with routing := false } = d' := by
  simp [step]

section Fields

variable {call : Call} {waits : Bool} {outcome : Outcome}

@[simp]
theorem calls_setCall_self : (d.setCall id call).calls id = some call := Function.update_self ..

@[simp]
theorem calls_setCall_of_ne (h : id' ≠ id) : (d.setCall id call).calls id' = d.calls id' :=
  Function.update_of_ne h ..

@[simp]
theorem calls_setWaiter : (d.setWaiter id waits).calls = d.calls := rfl

@[simp]
theorem calls_countDrop : d.countDrop.calls = d.calls := rfl

@[simp]
theorem calls_testTurn : (d.testTurn id outcome).calls = d.calls := rfl

@[simp]
theorem waiters_setCall : (d.setCall id call).waiters = d.waiters := rfl

@[simp]
theorem waiters_setWaiter_self : (d.setWaiter id waits).waiters id = waits :=
  Function.update_self ..

@[simp]
theorem waiters_setWaiter_of_ne (h : id' ≠ id) :
    (d.setWaiter id waits).waiters id' = d.waiters id' := Function.update_of_ne h ..

@[simp]
theorem waiters_countDrop : d.countDrop.waiters = d.waiters := rfl

@[simp]
theorem waiters_testTurn : (d.testTurn id outcome).waiters = d.waiters := rfl

@[simp]
theorem outcomes_setCall : (d.setCall id call).outcomes id' = d.outcomes id' := rfl

@[simp]
theorem outcomes_setWaiter : (d.setWaiter id waits).outcomes id' = d.outcomes id' := rfl

@[simp]
theorem outcomes_countDrop : d.countDrop.outcomes id = d.outcomes id := rfl

@[simp]
theorem outcomes_testTurn_self :
    (d.testTurn id outcome).outcomes id = d.outcomes id ++ [outcome] := by
  simp [testTurn, outcomes]

@[simp]
theorem outcomes_testTurn_of_ne (h : id' ≠ id) :
    (d.testTurn id outcome).outcomes id' = d.outcomes id' := by
  simp [testTurn, outcomes, h.symm]

@[simp]
theorem outcomes_route : (d.route id).outcomes id' = d.outcomes id' := by
  unfold route
  split <;> rfl

theorem calls_route_self :
    (d.route id).calls id = if d.waiters id then (d.calls id).map Call.wake else d.calls id := by
  unfold route
  split
  · exact Function.update_self ..
  · rfl

theorem waiters_route_self : (d.route id).waiters id = false := by
  unfold route
  split
  · exact waiters_setWaiter_self
  · rwa [Bool.not_eq_true] at *

theorem calls_route_of_ne (h : id' ≠ id) : (d.route id).calls id' = d.calls id' := by
  unfold route
  split
  · exact Function.update_of_ne h ..
  · rfl

theorem waiters_route_of_ne (h : id' ≠ id) : (d.route id).waiters id' = d.waiters id' := by
  unfold route
  split
  · exact waiters_setWaiter_of_ne h
  · rfl

theorem droppedTurns_testTurn :
    (d.testTurn id outcome).droppedTurns =
      d.droppedTurns + if outcome = .dropped then 1 else 0 := by
  cases outcome <;> simp [droppedTurns, testTurn]

end Fields

/-- An event of one turn leaves the other turns alone. -/
theorem Turned.frame (h : Turned id d event d') (hne : id' ≠ id) :
    d'.calls id' = d.calls id' ∧ d'.waiters id' = d.waiters id' ∧
      d'.outcomes id' = d.outcomes id' := by
  cases h with
  | routed => exact ⟨calls_route_of_ne hne, waiters_route_of_ne hne, outcomes_route⟩
  | _ => simp [hne]

theorem Turned.routing (h : Turned id d event d') : d'.routing = d.routing := by
  cases h with
  | routed =>
    unfold route
    split <;> rfl
  | _ => rfl

/-- A call that gives up at its deadline counts its drop. -/
theorem Turned.counted (h : Turned id d event d') (hcall : d.calls id ≠ some .unsent)
    (hcounted : d.Counted) : d'.Counted := by
  unfold Counted at *
  cases h with
  | routed =>
    unfold route
    split <;> exact hcounted
  | gaveUpUnsent hunsent => exact absurd hunsent hcall
  | gaveUpExpired =>
    rw [droppedTurns_testTurn, if_pos rfl, UInt64.ofNat_add]
    exact congrArg (· + 1) hcounted
  | completed =>
    rw [droppedTurns_testTurn, if_neg (by simp)]
    exact hcounted
  | _ => exact hcounted

/-- A call that gives up without having been sent does not. -/
theorem Turned.not_counted (h : Turned id d .gaveUp d') (hcall : d.calls id = some .unsent)
    (hcounted : d.Counted) : ¬d'.Counted := by
  unfold Counted at *
  cases h with
  | gaveUpUnsent =>
    rw [droppedTurns_testTurn, if_pos rfl, UInt64.ofNat_add]
    change ¬d.dropped = .ofNat d.droppedTurns + 1
    rw [hcounted]
    simp
  | gaveUpExpired hexpired =>
    rw [hcall] at hexpired
    cases hexpired

/-- No event drops the sender of a call that still looks at its channel. -/
theorem Turned.rx_ne_closed (h : Turned id d event d') {call : Call}
    (hbefore : ∀ call, d.calls id = some call → call.rx ≠ some .closed)
    (hcall : d'.calls id = some call) : call.rx ≠ some .closed := by
  cases h with
  | routed =>
    rw [calls_route_self] at hcall
    split at hcall
    · obtain ⟨call₀, hcall₀, rfl⟩ := Option.map_eq_some_iff.mp hcall
      exact Call.rx_wake_ne_closed (hbefore call₀ hcall₀)
    · exact hbefore call hcall
  | sent hsending =>
    obtain rfl := Option.some.inj (calls_setCall_self.symm.trans hcall)
    have hrx := hbefore _ hsending
    exact hrx
  | _ =>
    simp only [calls_testTurn, calls_setWaiter, calls_setCall_self, Option.some.injEq] at hcall
    subst hcall
    simp [Call.rx]

/-- Without the router nothing reaches a call, which goes on waiting until its deadline. -/
theorem outstanding_of_step {e : DriverEvent} (hstep : d.step e = some d')
    (hrouting : d.routing = false) (hcall : d.Outstanding id) (hsend : e ≠ .turn id .sendFailed)
    (hexpired : e ≠ .turn id .expired) : d'.routing = false ∧ d'.Outstanding id := by
  obtain ⟨call, hcall, hrx⟩ := hcall
  cases e with
  | closed => simp [step, hrouting] at hstep
  | turn id' event =>
    have hturned : Turned id' d event d' := turned_of_turn hstep
    refine ⟨by rw [hturned.routing, hrouting], ?_⟩
    by_cases hid : id = id'
    · subst hid
      cases hturned with
      | called hnone => simp [hnone] at hcall
      | sent hsending =>
        -- It goes on to wait, at the same channel.
        obtain rfl := Option.some.inj (hsending.symm.trans hcall)
        exact ⟨_, calls_setCall_self, hrx⟩
      | sendFailed => exact absurd rfl hsend
      | routed hon => simp [hrouting] at hon
      | completed hwaiting hready =>
        obtain rfl := Option.some.inj (hwaiting.symm.trans hcall)
        exact absurd (Option.some.inj hrx) hready
      | expired => exact absurd rfl hexpired
      | gaveUpUnsent hunsent =>
        obtain rfl := Option.some.inj (hunsent.symm.trans hcall)
        cases hrx
      | gaveUpExpired hlate =>
        obtain rfl := Option.some.inj (hlate.symm.trans hcall)
        cases hrx
    · exact ⟨call, by rw [(hturned.frame hid).1, hcall], hrx⟩

end VsockTurnDriver

/-! ## What is known of one turn -/

section Routed

variable {id : TurnId} {events : List DriverEvent} {e : DriverEvent} {event : TurnEvent}

theorem routedInTime_concat :
    RoutedInTime id (events ++ [e]) ↔
      RoutedInTime id events ∨ e = .turn id .routed ∧ Listens id events := by
  constructor
  · rintro ⟨before, after, heq, hlistens⟩
    rcases List.eq_nil_or_concat after with rfl | ⟨after, e', rfl⟩
    · obtain ⟨rfl, he⟩ := List.append_inj' heq rfl
      exact .inr ⟨by simpa using he, hlistens⟩
    · rw [List.concat_eq_append, ← List.cons_append, ← List.append_assoc] at heq
      exact .inl ⟨before, after, (List.append_inj' heq rfl).1, hlistens⟩
  · rintro (⟨before, after, rfl, hlistens⟩ | ⟨rfl, hlistens⟩)
    · exact ⟨before, after ++ [e], by simp, hlistens⟩
    · exact ⟨events, [], rfl, hlistens⟩

/-- Only the router brings a completion. -/
theorem routedInTime_concat_of_ne (h : e ≠ .turn id .routed) :
    RoutedInTime id (events ++ [e]) ↔ RoutedInTime id events := by
  simp [routedInTime_concat, h]

theorem RoutedInTime.called (h : RoutedInTime id events) : .turn id .called ∈ events := by
  obtain ⟨before, after, rfl, hlistens⟩ := h
  exact List.mem_append_left _ hlistens.1

/-- A call stops listening at its deadline, or when it gives up. -/
theorem Listens.concat (h : Listens id events) (hexpired : e ≠ .turn id .expired)
    (hgaveUp : e ≠ .turn id .gaveUp) : Listens id (events ++ [e]) := by
  obtain ⟨hcalled, hnotExpired, hnotGaveUp⟩ := h
  refine ⟨List.mem_append_left _ hcalled, ?_, ?_⟩
  · simp [hnotExpired, hexpired.symm]
  · simp [hnotGaveUp, hgaveUp.symm]

end Routed

/-- How a call, its waiter and its bookings fit the events, when no request failed to go out. -/
inductive Known (id : TurnId) (events : List DriverEvent) :
    Option Call → Bool → List Outcome → Prop where
  /-- There is no call yet. -/
  | fresh (hnothing : ∀ event ≠ TurnEvent.routed, DriverEvent.turn id event ∉ events) :
    Known id events none false []
  /-- It is in the map and nothing has reached it. -/
  | awaited {call : Call} (hrx : call.rx = some .open) (hlistens : Listens id events)
    (hnot : ¬RoutedInTime id events) :
    Known id events (some call) true []
  /-- Its completion is in the channel. -/
  | completed {call : Call} (hrx : call.rx = some .sent) (hrouted : RoutedInTime id events) :
    Known id events (some call) false []
  /-- Its deadline has passed. -/
  | expired {waits : Bool} (hcalled : .turn id .called ∈ events)
    (hlate : .turn id .expired ∈ events) (hnot : ¬RoutedInTime id events) :
    Known id events (some .expired) waits []
  /-- It has been booked, and no completion can change that. -/
  | returned {waits : Bool} {outcome : Outcome} (hcalled : .turn id .called ∈ events)
    (htruth : outcome = .ok ↔ RoutedInTime id events)
    (hover : ¬Listens id events ∨ RoutedInTime id events) :
    Known id events (some .returned) waits [outcome]

namespace Known

variable {d d' : VsockTurnDriver} {id : TurnId} {events : List DriverEvent} {e : DriverEvent}
  {event : TurnEvent} {call : Option Call} {waits : Bool} {booked : List Outcome}

/-- What happens elsewhere leaves a turn as it is. -/
theorem frame (h : Known id events call waits booked) (he : ∀ event, e ≠ .turn id event) :
    Known id (events ++ [e]) call waits booked := by
  have hmem (event : TurnEvent) :
      DriverEvent.turn id event ∈ events ++ [e] ↔ DriverEvent.turn id event ∈ events := by
    simp [(he event).symm]
  have hlistens : Listens id (events ++ [e]) ↔ Listens id events := by simp only [Listens, hmem]
  have hrouted : RoutedInTime id (events ++ [e]) ↔ RoutedInTime id events :=
    routedInTime_concat_of_ne (he .routed)
  cases h with
  | fresh hnothing => exact .fresh fun event hne => (hmem event).not.mpr (hnothing event hne)
  | awaited hrx hopen hnot => exact .awaited hrx (hlistens.mpr hopen) (hrouted.not.mpr hnot)
  | completed hrx hin => exact .completed hrx (hrouted.mpr hin)
  | expired hcalled hlate hnot =>
    exact .expired ((hmem _).mpr hcalled) ((hmem _).mpr hlate) (hrouted.not.mpr hnot)
  | returned hcalled htruth hover =>
    exact .returned ((hmem _).mpr hcalled) (htruth.trans hrouted.symm)
      (by rwa [hlistens, hrouted])

/-- The router brings a completion in time to the call that listens for it. -/
theorem route (h : Known id events (d.calls id) (d.waiters id) (d.outcomes id)) :
    Known id (events ++ [.turn id .routed]) ((d.route id).calls id) ((d.route id).waiters id)
      ((d.route id).outcomes id) := by
  have hrouted : RoutedInTime id (events ++ [.turn id .routed]) ↔
      RoutedInTime id events ∨ Listens id events := by simp [routedInTime_concat]
  have hlistens : Listens id (events ++ [.turn id .routed]) ↔ Listens id events := by
    simp [Listens]
  rw [calls_route_self, waiters_route_self, outcomes_route]
  generalize d.calls id = call, d.waiters id = waits, d.outcomes id = booked at h ⊢
  cases h with
  | fresh hnothing =>
    refine .fresh fun event hne => ?_
    simpa [hne] using hnothing event hne
  | awaited hrx hopen hnot =>
    -- The waiter is in the map, so the call is woken.
    exact .completed (Call.rx_wake hrx) (hrouted.mpr (.inr hopen))
  | completed hrx hin => exact .completed hrx (hrouted.mpr (.inl hin))
  | @expired waits hcalled hlate hnot =>
    have hdeaf : ¬Listens id events := fun hopen => hopen.2.1 hlate
    have hstill : (if waits then (some Call.expired).map Call.wake else some .expired) =
        some Call.expired := by cases waits <;> rfl
    rw [hstill]
    exact .expired (List.mem_append_left _ hcalled) (List.mem_append_left _ hlate)
      (by simp [hrouted, hnot, hdeaf])
  | @returned waits outcome hcalled htruth hover =>
    have hstill : (if waits then (some Call.returned).map Call.wake else some .returned) =
        some Call.returned := by cases waits <;> rfl
    rw [hstill]
    refine .returned (List.mem_append_left _ hcalled) ?_ ?_
    · rw [htruth, hrouted]
      tauto
    · rw [hlistens, hrouted]
      tauto

/-- What an event of its own does to a turn. -/
theorem turned (h : Known id events (d.calls id) (d.waiters id) (d.outcomes id))
    (hturned : Turned id d event d') (hsend : event ≠ .sendFailed) :
    Known id (events ++ [.turn id event]) (d'.calls id) (d'.waiters id) (d'.outcomes id) := by
  have hrouted (hne : event ≠ .routed) :
      RoutedInTime id (events ++ [.turn id event]) ↔ RoutedInTime id events :=
    routedInTime_concat_of_ne (by simp [hne])
  cases hturned with
  | routed => exact h.route
  | sendFailed => exact absurd rfl hsend
  | called hcall =>
    rw [calls_setWaiter, calls_setCall_self, waiters_setWaiter_self, outcomes_setWaiter,
      outcomes_setCall]
    rw [hcall] at h
    generalize d.waiters id = waits, d.outcomes id = booked at h ⊢
    obtain ⟨hnothing⟩ := h
    refine .awaited rfl ⟨by simp, ?_, ?_⟩ ?_
    · simpa using hnothing .expired (by simp)
    · simpa using hnothing .gaveUp (by simp)
    · -- A completion that came before the call was for nobody.
      rw [hrouted (by simp)]
      exact fun hin => hnothing .called (by simp) hin.called
  | sent hcall =>
    rw [calls_setCall_self, waiters_setCall, outcomes_setCall]
    rw [hcall] at h
    generalize d.waiters id = waits, d.outcomes id = booked at h ⊢
    cases h with
    | awaited hrx hopen hnot =>
      exact .awaited hrx (hopen.concat (by simp) (by simp)) ((hrouted (by simp)).not.mpr hnot)
    | completed hrx hin => exact .completed hrx ((hrouted (by simp)).mpr hin)
  | completed hcall hready =>
    rw [calls_testTurn, calls_setCall_self, waiters_testTurn, waiters_setCall,
      outcomes_testTurn_self, outcomes_setCall]
    rw [hcall] at h
    generalize d.waiters id = waits, d.outcomes id = booked at h ⊢
    cases h with
    | awaited hrx => exact absurd (Option.some.inj hrx) hready
    | completed hrx hin =>
      have hin' := (hrouted (by simp)).mpr hin
      exact .returned (List.mem_append_left _ hin.called) (by simp [hin']) (.inr hin')
  | expired hcall =>
    rw [calls_setCall_self, waiters_setCall, outcomes_setCall]
    rw [hcall] at h
    generalize d.waiters id = waits, d.outcomes id = booked at h ⊢
    cases h with
    | awaited _ hopen hnot =>
      -- The channel is still open, so nothing was routed before the deadline.
      have hnot' := (hrouted (by simp)).not.mpr hnot
      exact .expired (List.mem_append_left _ hopen.1) (by simp) hnot'
    | completed hrx => cases hrx
  | gaveUpUnsent hcall =>
    rw [hcall] at h
    generalize d.waiters id = waits, d.outcomes id = booked at h
    cases h with
    | awaited hrx | completed hrx => cases hrx
  | gaveUpExpired hcall =>
    rw [calls_testTurn, calls_setCall_self, outcomes_testTurn_self, outcomes_setCall,
      outcomes_countDrop, outcomes_setWaiter]
    rw [hcall] at h
    generalize d.waiters id = waits, d.outcomes id = booked at h ⊢
    cases h with
    | awaited hrx | completed hrx => cases hrx
    | expired hcalled hlate hnot =>
      have hnot' := (hrouted (by simp)).not.mpr hnot
      have hdeaf : ¬Listens id (events ++ [.turn id .gaveUp]) := fun hopen => hopen.2.2 (by simp)
      exact .returned (List.mem_append_left _ hcalled) (by simp [hnot']) (.inl hdeaf)

end Known

section Run

variable {events : List DriverEvent} {d : VsockTurnDriver}

/-- After every run in which each request goes out. -/
theorem known_of_run (hrun : run events = some d)
    (hsend : ∀ id, .turn id .sendFailed ∉ events) (id : TurnId) :
    Known id events (d.calls id) (d.waiters id) (d.outcomes id) := by
  refine Runs.run_invariant
    (motive := fun events d => (∀ id, .turn id .sendFailed ∉ events) →
      ∀ id, Known id events (d.calls id) (d.waiters id) (d.outcomes id)) ?_ ?_ hrun hsend id
  · intro _ id
    exact .fresh (by simp)
  · intro events d e d' _ ih hstep hsend id
    have hknown : Known id events (d.calls id) (d.waiters id) (d.outcomes id) :=
      ih (fun id hmem => hsend id (List.mem_append_left _ hmem)) id
    cases e with
    | closed =>
      -- The router stops, and touches no waiter.
      obtain rfl := (step_closed_iff.mp hstep).2
      exact hknown.frame (by simp)
    | turn id' event =>
      have hturned : Turned id' d event d' := turned_of_turn hstep
      by_cases hid : id = id'
      · subst hid
        refine hknown.turned hturned ?_
        rintro rfl
        exact hsend id (by simp)
      · obtain ⟨hcalls, hwaiters, houtcomes⟩ := hturned.frame hid
        rw [hcalls, hwaiters, houtcomes]
        exact hknown.frame (by simp [Ne.symm hid])

/-- Every drop is counted, in every run in which each request goes out. -/
theorem counted_of_run (hrun : run events = some d)
    (hsend : ∀ id, .turn id .sendFailed ∉ events) : d.Counted := by
  refine Runs.run_invariant
    (motive := fun events d => (∀ id, .turn id .sendFailed ∉ events) → d.Counted) ?_ ?_ hrun hsend
  · intro _
    rfl
  · intro events d e d' hrun ih hstep hsend
    have hsent : ∀ id, .turn id .sendFailed ∉ events :=
      fun id hmem => hsend id (List.mem_append_left _ hmem)
    have hcounted : d.Counted := ih hsent
    cases e with
    | closed =>
      obtain rfl := (step_closed_iff.mp hstep).2
      exact hcounted
    | turn id event =>
      refine (turned_of_turn hstep).counted (fun hunsent => ?_) hcounted
      -- Every request went out, so no call is unsent.
      have hknown := known_of_run hrun hsent id
      rw [hunsent] at hknown
      generalize d.waiters id = waits, d.outcomes id = booked at hknown
      cases hknown with
      | awaited hrx | completed hrx => cases hrx

/-- A call whose request failed to go out cannot return unless its drop is missed. -/
theorem unsent_of_counted (hrun : run events = some d)
    (hcounted : ∀ before d₁, before <+: events → run before = some d₁ → d₁.Counted)
    {id : TurnId} (hmem : .turn id .sendFailed ∈ events) : d.calls id = some .unsent := by
  refine Runs.run_invariant
    (motive := fun events d =>
      (∀ before d₁, before <+: events → run before = some d₁ → d₁.Counted) →
        .turn id .sendFailed ∈ events → d.calls id = some .unsent) ?_ ?_ hrun hcounted hmem
  · simp
  · intro events d e d' hrun ih hstep hcounted hmem
    have hbefore : d.Counted := hcounted events d (List.prefix_append ..) hrun
    have hafter : d'.Counted :=
      hcounted _ d' List.prefix_rfl (Runs.run_concat_eq_some_iff.mpr ⟨d, hrun, hstep⟩)
    have ih : .turn id .sendFailed ∈ events → d.calls id = some .unsent :=
      ih fun before d₁ hinit => hcounted before d₁ (hinit.trans (List.prefix_append ..))
    cases e with
    | closed =>
      obtain rfl := (step_closed_iff.mp hstep).2
      exact ih (by simpa using hmem)
    | turn id' event =>
      have hturned : Turned id' d event d' := turned_of_turn hstep
      by_cases hid : id = id'
      · subst hid
        by_cases hevent : event = .sendFailed
        · subst hevent
          cases hturned
          exact calls_setCall_self
        · have hunsent : d.calls id = some .unsent := ih (by simpa [Ne.symm hevent] using hmem)
          cases hturned with
          | sendFailed => exact absurd rfl hevent
          | routed =>
            rw [calls_route_self, hunsent]
            split <;> rfl
          | gaveUpUnsent hcall =>
            -- The call is booked as dropped here, and the counter stays where it is.
            exact absurd hafter ((Turned.gaveUpUnsent hcall).not_counted hunsent hbefore)
          | _ hcall => simp [hunsent] at hcall
      · rw [(hturned.frame hid).1]
        exact ih (by simpa [hid] using hmem)

/-- No call ever finds its sender dropped: the router leaves the waiters alone when it stops. -/
theorem rx_ne_closed_of_run (hrun : run events = some d) {id : TurnId} {call : Call}
    (hcall : d.calls id = some call) : call.rx ≠ some .closed := by
  refine Runs.run_invariant
    (motive := fun _ d => ∀ id call, d.calls id = some call → call.rx ≠ some .closed)
    ?_ ?_ hrun id call hcall
  · simp [new]
  · intro _ d e d' _ ih hstep id call hcall
    cases e with
    | closed =>
      obtain rfl := (step_closed_iff.mp hstep).2
      exact ih id call hcall
    | turn id' event =>
      have hturned : Turned id' d event d' := turned_of_turn hstep
      by_cases hid : id = id'
      · subst hid
        exact hturned.rx_ne_closed (ih id) hcall
      · rw [(hturned.frame hid).1] at hcall
        exact ih id call hcall

/-- A call outstanding when the link closes stays so unless it cannot be sent or its deadline
passes. -/
theorem outstanding_of_closed {d₁ : VsockTurnDriver} {after : List DriverEvent} {id : TurnId}
    (hrun : Runs.run step d₁ (.closed :: after) = some d) (hcall : d₁.Outstanding id)
    (hsend : .turn id .sendFailed ∉ after) (hexpired : .turn id .expired ∉ after) :
    d.Outstanding id := by
  obtain ⟨d₂, hclose, hafter⟩ := Runs.run_cons_eq_some_iff.mp hrun
  obtain rfl := (step_closed_iff.mp hclose).2
  have hkept := Runs.run_preserves (P := fun d => d.routing = false ∧ d.Outstanding id)
    ⟨rfl, hcall⟩ ?_ hafter
  · exact hkept.2
  · intro e he s₁ s₂ hs hstep
    exact outstanding_of_step hstep hs.1 hs.2 (fun h => hsend (h ▸ he)) fun h => hexpired (h ▸ he)

theorem VsockTurnDriver.Settled.not_outstanding (h : d.Settled) (id : TurnId) :
    ¬d.Outstanding id := by
  rintro ⟨call, hcall, hrx⟩
  rcases h id with hnone | hreturned
  · simp [hnone] at hcall
  · obtain rfl := Option.some.inj (hreturned.symm.trans hcall)
    cases hrx

/-- In a run that has settled, every call is booked once and truthfully, those outstanding when the
link closes are released there, and the drops are counted throughout, if and only if every request
goes out and no call is outstanding when the link closes. -/
theorem turns_truthful_iff (hrun : run events = some d) (hsettled : d.Settled) :
    Truthful events d ↔
      (∀ id, .turn id .sendFailed ∉ events) ∧
        ∀ before after d₁, events = before ++ .closed :: after → run before = some d₁ →
          ∀ id, ¬d₁.Outstanding id := by
  constructor
  · intro htruth
    have hsend (id : TurnId) : .turn id .sendFailed ∉ events := by
      intro hmem
      have hunsent := unsent_of_counted hrun htruth.counted hmem
      rcases hsettled id with h | h <;> simp [h] at hunsent
    refine ⟨hsend, fun before after d₁ heq hbefore id hcall => ?_⟩
    -- Nothing but its deadline ends the wait of this call, and that is ruled out.
    have hrelease := (htruth.released before after d₁ heq hbefore id hcall).1
    subst heq
    obtain ⟨d₂, hbefore', hafter⟩ := Runs.run_append_eq_some_iff.mp hrun
    obtain rfl : d₁ = d₂ := Option.some.inj (hbefore.symm.trans hbefore')
    refine hsettled.not_outstanding id (outstanding_of_closed hafter hcall ?_ hrelease)
    intro hmem
    exact hsend id (by simp [hmem])
  · rintro ⟨hsend, hclosed⟩
    refine ⟨fun id hcalled => ?_, fun before after d₁ heq hbefore id hcall => ?_,
      fun before d₁ hinit hbefore => ?_⟩
    · have hknown := known_of_run hrun hsend id
      generalize d.waiters id = waits, d.outcomes id = booked at hknown ⊢
      rcases hsettled id with h | h
      · rw [h] at hknown
        cases hknown with
        | fresh hnothing => exact absurd hcalled (hnothing .called (by simp))
      · rw [h] at hknown
        cases hknown with
        | awaited hrx | completed hrx => cases hrx
        | returned _ htruth => exact ⟨_, rfl, htruth⟩
    · exact absurd hcall (hclosed before after d₁ heq hbefore id)
    · exact counted_of_run hbefore fun id hmem => hsend id (hinit.subset hmem)

/-- Turn 0 completes, turn 1 misses its deadline, and the link closes. -/
def oneLate : List DriverEvent :=
  [.turn ⟨0⟩ .called, .turn ⟨0⟩ .sent, .turn ⟨1⟩ .called, .turn ⟨1⟩ .sent, .turn ⟨0⟩ .routed,
    .turn ⟨1⟩ .expired, .turn ⟨1⟩ .gaveUp, .turn ⟨0⟩ .completed, .closed]

/-- Nothing goes wrong for a turn that completes and one that is late. -/
theorem turns_truthful_oneLate :
    ∃ d, run oneLate = some d ∧ d.outcomes ⟨0⟩ = [.ok] ∧ d.outcomes ⟨1⟩ = [.dropped] ∧
      d.dropped = 1 ∧ Truthful oneLate d := by
  have hsettled (d : VsockTurnDriver) (hrun : run oneLate.dropLast = some d) : d.Settled := by
    obtain rfl := Option.some.inj hrun
    intro id
    by_cases h₀ : id = ⟨0⟩
    · subst h₀
      exact .inr rfl
    · by_cases h₁ : id = ⟨1⟩
      · subst h₁
        exact .inr rfl
      · left
        simp [calls_route_of_ne, h₀, h₁, new]
  have hdone := hsettled _ rfl
  refine ⟨_, rfl, rfl, rfl, rfl, (turns_truthful_iff rfl ?_).mpr ⟨fun id => ?_, ?_⟩⟩
  · exact fun id => hdone id
  · simp [oneLate]
  · intro before after d₁ heq hbefore id
    -- The link closes once, at the end, and both calls have returned by then.
    have hsplit : oneLate = oneLate.dropLast ++ .closed :: [] := rfl
    rw [hsplit, List.append_cons_inj_of_notMem (by decide) List.not_mem_nil] at heq
    obtain ⟨rfl, -, -⟩ := heq
    exact (hsettled d₁ hbefore).not_outstanding id

/-- A turn that could not be sent is not counted, and one outstanding when the link closes waits for
its deadline. -/
theorem unsent_uncounted_and_closed_unreleased :
    (∃ d, run [.turn ⟨0⟩ .called, .turn ⟨0⟩ .sendFailed, .turn ⟨0⟩ .gaveUp] = some d ∧ d.Settled ∧
      d.outcomes ⟨0⟩ = [.dropped] ∧ d.dropped = 0 ∧
      ¬Truthful [.turn ⟨0⟩ .called, .turn ⟨0⟩ .sendFailed, .turn ⟨0⟩ .gaveUp] d) ∧
    ∃ d, run [.turn ⟨0⟩ .called, .turn ⟨0⟩ .sent, .closed, .turn ⟨0⟩ .expired,
        .turn ⟨0⟩ .gaveUp] = some d ∧ d.Settled ∧
      ¬Truthful [.turn ⟨0⟩ .called, .turn ⟨0⟩ .sent, .closed, .turn ⟨0⟩ .expired,
        .turn ⟨0⟩ .gaveUp] d := by
  refine ⟨⟨_, rfl, fun id => ?_, rfl, rfl, fun h => ?_⟩, ⟨_, rfl, fun id => ?_, fun h => ?_⟩⟩
  · by_cases h₀ : id = ⟨0⟩
    · subst h₀
      exact .inr rfl
    · left
      simp [h₀, new]
  · have hcounted : (0 : UInt64) = .ofNat 1 := h.counted _ _ List.prefix_rfl rfl
    exact absurd hcounted (by decide)
  · by_cases h₀ : id = ⟨0⟩
    · subst h₀
      exact .inr rfl
    · left
      simp [h₀, new]
  · have hearly := h.released [.turn ⟨0⟩ .called, .turn ⟨0⟩ .sent] _ _ rfl rfl ⟨0⟩ ⟨_, rfl, rfl⟩
    exact hearly.1 (by simp)

end Run

end Sleepwalk.Hostd.TurnDriver
