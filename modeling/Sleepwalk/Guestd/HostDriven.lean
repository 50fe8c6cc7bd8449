import Mathlib.Data.List.Perm.Subperm
import Sleepwalk.Guestd.Conservation
import Sleepwalk.Lib.Gate

/-!
# Host-driven guestd

The loops of the guestd binary in host-driven mode: `serve_messages_only` on one connection, and
`run_host_driven`, which starts over with a new `Guest` for every connection.

The drain gate these loops should implement is the one of `Gate`. Within a session they do, but
deferred turns are never replayed (`deferred_turns_answered_iff`), and gate and backlog end with
the session (`drain_state_carried_iff`).
-/

namespace Sleepwalk.Guestd

open Proto Bracket

/-- What a host message means to the drain gate. -/
def gateCmd : HostToGuest → Gate.Cmd TurnId
  | .drainRequest _ => .shut
  | .drainCancel => .reopen
  | .runTurn turnId => .request turnId
  | .secrets _ | .ping | .pong => .other

/-- How many sends a message costs, by where the gate stands. -/
def attempts (gated : Bool) : HostToGuest → ℕ
  | .runTurn _ => if gated then 0 else 2
  | .drainRequest _ | .ping => 1
  | .drainCancel | .secrets _ | .pong => 0

/-! ## One message -/

section Handle

variable {g : Guest FatedChannel}

/-- All sends that the message costs go through. -/
def SendsGoThrough (g : Guest FatedChannel) (msg : HostToGuest) : Prop :=
  ∀ k < attempts g.gated msg, g.chan.fates (g.chan.log.length + k) = .delivered

theorem sendsGoThrough_of_attempts_zero {msg : HostToGuest} (h : attempts g.gated msg = 0) :
    SendsGoThrough g msg := by
  intro k hk
  omega

theorem sendsGoThrough_iff_of_attempts_one {msg : HostToGuest} (h : attempts g.gated msg = 1) :
    SendsGoThrough g msg ↔ g.chan.nextFate = .delivered := by
  unfold SendsGoThrough
  rw [h]
  constructor
  · exact fun hall => hall 0 (by omega)
  · intro hnext k hk
    have hzero : k = 0 := by omega
    rw [hzero]
    exact hnext

theorem sendsGoThrough_iff_of_attempts_two {msg : HostToGuest} (h : attempts g.gated msg = 2)
    (first : GuestToHost) :
    SendsGoThrough g msg ↔
      g.chan.nextFate = .delivered ∧ (g.pushed first).chan.nextFate = .delivered := by
  unfold SendsGoThrough
  rw [h]
  have hsecond : (g.pushed first).chan.nextFate = g.chan.fates (g.chan.log.length + 1) := by
    simp [Guest.pushed, FatedChannel.nextFate]
  rw [hsecond]
  constructor
  · exact fun hall => ⟨hall 0 (by omega), hall 1 (by omega)⟩
  · rintro ⟨hfirst, hlast⟩ k hk
    have hcases : k = 0 ∨ k = 1 := by omega
    rcases hcases with rfl | rfl
    · exact hfirst
    · exact hlast

/-- What handling one message does to an idle guest. Gate and backlog move as the message says
whatever becomes of the sends; the rest depends on whether they go through. -/
structure Handled (g : Guest FatedChannel) (msg : HostToGuest) (r : Except GuestError Reply)
    (g' : Guest FatedChannel) : Prop where
  gated : g'.gated = Gate.step g.gated (gateCmd msg)
  queued : g'.queued = g.queued + UInt32.ofNat (Gate.deferred g.gated [gateCmd msg]).length
  fates : g'.chan.fates = g.chan.fates
  inbox : g'.chan.inbox = g.chan.inbox
  ok_iff : (∃ reply, r = .ok reply) ↔ SendsGoThrough g msg
  done : SendsGoThrough g msg → g'.inFlight = none ∧
    g'.chan.log.length = g.chan.log.length + attempts g.gated msg ∧
    completed (marks g'.chan.wire) =
      completed (marks g.chan.wire) ++ Gate.admitted g.gated [gateCmd msg]

/-- Handling a `RunTurn` succeeds when the `run_turn` does. -/
theorem result_handle_runTurn (t : TurnId) (now : Timestamp) :
    (∃ reply, g.result (.handle (.runTurn t) now) = .ok reply) ↔
      ∃ reply, g.result (.runTurn t now) = .ok reply := by
  unfold Guest.result
  simp only [Guest.call, Guest.handle, Guest.exec_map, Guest.exec_discard]
  rcases (Guest.exec (Guest.runTurn t now) g).1 with e | o
  · simp
  · simp

/-- A `RunTurn` on an idle guest, outcome by outcome. -/
theorem handled_runTurn (h : g.inFlight = none) (t : TurnId) (now : Timestamp) :
    Handled g (.runTurn t) (g.result (.handle (.runTurn t) now))
      (g.after (.handle (.runTurn t) now)) := by
  have hafter :
      g.after (.handle (.runTurn t) now) = (Guest.exec (Guest.call (.runTurn t now)) g).2 :=
    (g.after_core (.handle (.runTurn t) now)).symm
  have hok := result_handle_runTurn (g := g) t now
  unfold Guest.result at hok
  -- A shut gate queues the turn; behind an open one it costs two sends, either of which may fail.
  cases hg : g.gated with
  | true =>
    have hcall := Guest.call_runTurn_queued h hg t now
    have hsends : SendsGoThrough g (.runTurn t) :=
      sendsGoThrough_of_attempts_zero (by simp [attempts, hg])
    rw [hcall] at hafter hok
    rw [hafter]
    refine ⟨?_, ?_, rfl, rfl, ?_, ?_⟩
    · rfl
    · simp [Gate.deferred, gateCmd, hg]
    · exact iff_of_true (hok.mpr ⟨_, rfl⟩) hsends
    · intro _
      exact ⟨h, by simp [attempts, hg], by simp [Gate.admitted, gateCmd, hg]⟩
  | false =>
    have htwo : attempts g.gated (.runTurn t) = 2 := by simp [attempts, hg]
    have hsends := sendsGoThrough_iff_of_attempts_two htwo (.turnStarted t now)
    have hcmd : Gate.deferred g.gated [gateCmd (.runTurn t)] = [] := by
      simp [Gate.deferred, gateCmd, hg]
    by_cases hd : g.chan.nextFate = .delivered
    · by_cases hd' : (g.pushed (.turnStarted t now)).chan.nextFate = .delivered
      · have hcall := Guest.call_runTurn_ran h hg t now hd hd'
        rw [hcall] at hafter hok
        rw [hafter]
        refine ⟨rfl, by rw [hcmd]; simp [Guest.pushed], rfl, rfl, ?_, ?_⟩
        · exact iff_of_true (hok.mpr ⟨_, rfl⟩) (hsends.mpr ⟨hd, hd'⟩)
        · intro _
          refine ⟨h, by simp [attempts, hg, Guest.pushed], ?_⟩
          have hmarks : marks ((g.pushed (.turnStarted t now)).pushed (.turnEnded t now)).chan.wire
              = marks g.chan.wire ++ [.start t, .stop t] := by
            rw [marks_wire_pushed, marks_wire_pushed, hd, hd']
            simp [Fate.reached, marks, turnMark]
          rw [hmarks, completed_append_bracket]
          simp [Gate.admitted, gateCmd, hg]
      · have hcall := Guest.call_runTurn_finishFailed h hg t now hd hd'
        rw [hcall] at hafter hok
        rw [hafter]
        have hstuck : ¬ SendsGoThrough g (.runTurn t) := fun hall => hd' (hsends.mp hall).2
        refine ⟨rfl, by rw [hcmd]; simp [Guest.pushed], rfl, rfl, ?_,
          fun hall => absurd hall hstuck⟩
        exact iff_of_false (fun hsome => by simpa using hok.mp hsome) hstuck
    · have hcall := Guest.call_runTurn_startFailed h hg hd t now
      rw [hcall] at hafter hok
      rw [hafter]
      have hstuck : ¬ SendsGoThrough g (.runTurn t) := fun hall => hd (hsends.mp hall).1
      refine ⟨rfl, by rw [hcmd]; simp [Guest.pushed], rfl, rfl, ?_, fun hall => absurd hall hstuck⟩
      exact iff_of_false (fun hsome => by simpa using hok.mp hsome) hstuck

/-- A message answered with one message that is no turn marker. -/
theorem handled_reply {msg : HostToGuest} (reply : GuestToHost) {now : Timestamp}
    (h : g.inFlight = none) (hone : attempts g.gated msg = 1)
    (hmark : turnMark reply = none) (hrequest : ∀ t, gateCmd msg ≠ .request t)
    (hresult : g.result (.handle msg now) =
      if g.chan.nextFate = .delivered then .ok .unit else .error brokenPipe)
    (hafter : g.after (.handle msg now) =
      { g.pushed reply with gated := Gate.step g.gated (gateCmd msg) }) :
    Handled g msg (g.result (.handle msg now)) (g.after (.handle msg now)) := by
  have hsends := sendsGoThrough_iff_of_attempts_one hone
  -- The gate has no turn to admit or to defer.
  have hnone : Gate.deferred g.gated [gateCmd msg] = [] ∧
      Gate.admitted g.gated [gateCmd msg] = [] := by
    cases hcmd : gateCmd msg with
    | request t => exact absurd hcmd (hrequest t)
    | shut | reopen | other => exact ⟨rfl, rfl⟩
  rw [hafter]
  refine ⟨rfl, by rw [hnone.1]; simp [Guest.pushed], rfl, rfl, ?_, ?_⟩
  · rw [hresult, hsends]
    split <;> simp_all
  · intro _
    refine ⟨h, by simp [hone, Guest.pushed], ?_⟩
    rw [hnone.2, List.append_nil]
    exact congrArg completed (marks_wire_pushed_unmarked reply hmark)

/-- A message answered with nothing, which only the gate and the secrets remember. -/
theorem handled_silent {msg : HostToGuest} {now : Timestamp} (secrets : List (String × String))
    (h : g.inFlight = none) (hnone : attempts g.gated msg = 0)
    (hrequest : ∀ t, gateCmd msg ≠ .request t) (hresult : g.result (.handle msg now) = .ok .unit)
    (hafter : g.after (.handle msg now) =
      { g with gated := Gate.step g.gated (gateCmd msg), secrets }) :
    Handled g msg (g.result (.handle msg now)) (g.after (.handle msg now)) := by
  have hcmd : Gate.deferred g.gated [gateCmd msg] = [] ∧
      Gate.admitted g.gated [gateCmd msg] = [] := by
    cases hc : gateCmd msg with
    | request t => exact absurd hc (hrequest t)
    | shut | reopen | other => exact ⟨rfl, rfl⟩
  rw [hafter, hresult]
  refine ⟨rfl, by simp [hcmd.1], rfl, rfl, ?_, ?_⟩
  · exact iff_of_true ⟨_, rfl⟩ (sendsGoThrough_of_attempts_zero hnone)
  · intro _
    exact ⟨h, by simp [hnone], by simp [hcmd.2]⟩

/-- Handling one message on an idle guest. -/
theorem handled_after (h : g.inFlight = none) (msg : HostToGuest) (now : Timestamp) :
    Handled g msg (g.result (.handle msg now)) (g.after (.handle msg now)) := by
  cases msg with
  | runTurn t => exact handled_runTurn h t now
  | drainRequest d =>
    refine handled_reply (.drainAck g.inFlight) h rfl rfl (by simp [gateCmd]) ?_ ?_
    · unfold Guest.result
      split
      · simp [Guest.call, Guest.handle, Guest.exec_send_delivered, *]
      · simp [Guest.call, Guest.handle, Guest.exec_send_failed, *]
    · exact Guest.after_drainRequest g d now
  | ping =>
    have hboth : g.result (.handle .ping now) =
          (if g.chan.nextFate = .delivered then .ok .unit else .error brokenPipe) ∧
        g.after (.handle .ping now) = g.pushed .pong := by
      unfold Guest.result Guest.after
      split
      · simp [Guest.call, Guest.handle, Guest.exec_send_delivered, *]
      · simp [Guest.call, Guest.handle, Guest.exec_send_failed, *]
    exact handled_reply .pong h rfl rfl (by simp [gateCmd]) hboth.1 hboth.2
  | drainCancel => exact handled_silent g.secrets h rfl (by simp [gateCmd]) rfl rfl
  | secrets env => exact handled_silent env h rfl (by simp [gateCmd]) rfl rfl
  | pong => exact handled_silent g.secrets h rfl (by simp [gateCmd]) rfl rfl

end Handle

/-! ## One session -/

section Serve

variable {C : Type} [GuestChannel C]

/-- The loop of `serve_messages_only`: the messages it handles, each with the guest right after.
It ends when `recv` fails or a handler does. `clock` gives the time of each iteration, and `fuel`
bounds their number. -/
def serveLoop (clock : ℕ → Timestamp) : ℕ → Guest C → List (HostToGuest × Guest C)
  | 0, _ => []
  | fuel + 1, g =>
    match Guest.exec Guest.recv g with
    | (.error _, _) => []
    | (.ok msg, received) =>
      let handled := received.after (.handle msg (clock fuel))
      match received.result (.handle msg (clock fuel)) with
      | .error _ => [(msg, handled)]
      | .ok _ => (msg, handled) :: serveLoop clock fuel handled

end Serve

/-- Serve host messages on one connection until the host disconnects, a line is malformed, or a
handler fails. Every iteration takes a line, so the lines are fuel enough. -/
def serveMessagesOnly (clock : ℕ → Timestamp) (g : Guest FatedChannel) :
    List (HostToGuest × Guest FatedChannel) := serveLoop clock g.chan.inbox.length g

section Serve

variable {g : Guest FatedChannel} {clock : ℕ → Timestamp} {fuel : ℕ}

/-- The guest after `recv` took one line. -/
def Guest.received (g : Guest FatedChannel) (rest : List (Except ChannelError HostToGuest)) :
    Guest FatedChannel := { g with chan := { g.chan with inbox := rest } }

/-- Without a message to take the loop ends. -/
theorem serveLoop_of_no_message (h : ∀ msg rest, g.chan.inbox ≠ .ok msg :: rest) :
    serveLoop clock fuel g = [] := by
  cases fuel with
  | zero => rfl
  | succ fuel =>
    rw [serveLoop, Guest.exec_recv]
    rcases hin : g.chan.inbox with _ | ⟨_ | msg, rest⟩
    · simp [GuestChannel.recv, hin, Except.mapError]
    · simp [GuestChannel.recv, hin, Except.mapError]
    · exact absurd hin (h msg rest)

/-- One iteration on an idle guest: the message is handled, and the loop goes on exactly if all its
sends went through. -/
theorem serveLoop_of_message (clock : ℕ → Timestamp) (fuel : ℕ) {msg : HostToGuest}
    {rest : List (Except ChannelError HostToGuest)} (hidle : g.inFlight = none)
    (hin : g.chan.inbox = .ok msg :: rest) :
    ∃ g', Handled (g.received rest) msg
        ((g.received rest).result (.handle msg (clock fuel))) g' ∧
      (SendsGoThrough g msg →
        serveLoop clock (fuel + 1) g = (msg, g') :: serveLoop clock fuel g') ∧
      (¬ SendsGoThrough g msg → serveLoop clock (fuel + 1) g = [(msg, g')]) := by
  have hhandled := handled_after (g := g.received rest) hidle msg (clock fuel)
  refine ⟨_, hhandled, ?_, ?_⟩
  -- The loop goes by the result of `handle`, which is a success exactly if all sends go through.
  · intro hsends
    obtain ⟨reply, hreply⟩ := hhandled.ok_iff.mpr hsends
    rw [serveLoop, Guest.exec_recv]
    simp only [GuestChannel.recv, hin, Except.mapError]
    show (match (g.received rest).result (.handle msg (clock fuel)) with
      | .error _ => _
      | .ok _ => _) = _
    rw [hreply]
    rfl
  · intro hstuck
    rw [serveLoop, Guest.exec_recv]
    simp only [GuestChannel.recv, hin, Except.mapError]
    show (match (g.received rest).result (.handle msg (clock fuel)) with
      | .error _ => _
      | .ok _ => _) = _
    cases hresult : (g.received rest).result (.handle msg (clock fuel)) with
    | error e => rfl
    | ok reply => exact absurd (hhandled.ok_iff.mp ⟨reply, hresult⟩) hstuck

/-- What one iteration on an idle guest does to gate and backlog, and whether another follows. -/
theorem serveLoop_succ_cases (clock : ℕ → Timestamp) (fuel : ℕ) (hidle : g.inFlight = none) :
    serveLoop clock (fuel + 1) g = [] ∨
      ∃ msg g', g'.gated = Gate.step g.gated (gateCmd msg) ∧
        g'.queued = g.queued + UInt32.ofNat (Gate.deferred g.gated [gateCmd msg]).length ∧
        (serveLoop clock (fuel + 1) g = [(msg, g')] ∨
          g'.inFlight = none ∧
            serveLoop clock (fuel + 1) g = (msg, g') :: serveLoop clock fuel g') := by
  rcases hin : g.chan.inbox with _ | ⟨_ | msg, rest⟩
  · exact Or.inl (serveLoop_of_no_message (by simp [hin]))
  · exact Or.inl (serveLoop_of_no_message (by simp [hin]))
  · obtain ⟨g', hhandled, hgo, hstop⟩ := serveLoop_of_message clock fuel hidle hin
    refine Or.inr ⟨msg, g', hhandled.gated, hhandled.queued, ?_⟩
    by_cases hsends : SendsGoThrough g msg
    · exact Or.inr ⟨(hhandled.done hsends).1, hgo hsends⟩
    · exact Or.inl (hstop hsends)

/-- The messages a session handles, read off its lines and the fates of its sends: all up to the
first line that is no message, but none after the first message with a failing send. -/
def servedMessages (fates : ℕ → Fate) :
    ℕ → Bool → List (Except ChannelError HostToGuest) → List HostToGuest
  | _, _, [] => []
  | _, _, .error _ :: _ => []
  | sent, gated, .ok msg :: lines =>
    if ∀ k < attempts gated msg, fates (sent + k) = .delivered then
      msg :: servedMessages fates (sent + attempts gated msg) (Gate.step gated (gateCmd msg)) lines
    else [msg]

/-- The loop handles exactly these messages. -/
theorem serveLoop_messages (hidle : g.inFlight = none) (hfuel : g.chan.inbox.length ≤ fuel) :
    (serveLoop clock fuel g).map Prod.fst
      = servedMessages g.chan.fates g.chan.log.length g.gated g.chan.inbox := by
  induction fuel generalizing g with
  | zero =>
    have hnil : g.chan.inbox = [] := List.eq_nil_of_length_eq_zero (by omega)
    rw [hnil]
    rfl
  | succ fuel ih =>
    rcases hin : g.chan.inbox with _ | ⟨_ | msg, rest⟩
    · rw [serveLoop_of_no_message (by simp [hin])]
      rfl
    · rw [serveLoop_of_no_message (by simp [hin])]
      rfl
    · obtain ⟨g', hhandled, hgo, hstop⟩ :=
        serveLoop_of_message clock fuel hidle hin
      rw [servedMessages]
      -- A message whose sends do not all go through is the last one.
      by_cases hsends : SendsGoThrough g msg
      · obtain ⟨hidle', hlog, -⟩ := hhandled.done hsends
        have hlength : g'.chan.inbox.length ≤ fuel := by
          rw [hhandled.inbox]
          simp only [hin, List.length_cons] at hfuel
          simpa [Guest.received] using hfuel
        unfold SendsGoThrough at hsends
        rw [hgo hsends, if_pos hsends, List.map_cons, ih hidle' hlength, hhandled.fates,
          hhandled.inbox, hhandled.gated, hlog]
        rfl
      · unfold SendsGoThrough at hsends
        rw [hstop hsends, if_neg hsends]
        rfl

end Serve

/-! ## Deferred turns -/

section Deferred

/-- The guest at the start of a session's message loop: it has said hello and has its secrets,
every send succeeds, and the host wrote these messages and then closed the connection. -/
def greeted (vmId : VmId) (version : GuestdVersion) (env : List (String × String))
    (messages : List HostToGuest) : Guest FatedChannel :=
  (Guest.new vmId version
    (.fresh (.ok (.secrets env) :: messages.map .ok) fun _ => .delivered)).after .handshake

/-- The guests at the loop heads of a session, where the loop is about to receive a message: the
guest it starts from, and the guest after each handled message. -/
def loopHeads (clock : ℕ → Timestamp) (g : Guest FatedChannel) : List (Guest FatedChannel) :=
  g :: (serveMessagesOnly clock g).map Prod.snd

/-- The ids of the turns the host asked for. -/
def requestedTurns (messages : List HostToGuest) : List TurnId :=
  Gate.requests (messages.map gateCmd)

/-- The gate stands shut after these messages. -/
def shutAfter (messages : List HostToGuest) : Bool := Gate.isShut false (messages.map gateCmd)

/-- Every requested turn has been answered by a start and an end marker under its own id. An id
that was requested more than once needs as many answers. -/
def Answered (messages : List HostToGuest) (g : Guest FatedChannel) : Prop :=
  ∀ t, (requestedTurns messages).count t ≤ (completed (marks g.chan.wire)).count t

variable {g : Guest FatedChannel} {clock : ℕ → Timestamp}

/-- Over a working channel one iteration handles its message and leaves an idle guest with a
working channel at the next loop head. -/
theorem loopHeads_cons (clock : ℕ → Timestamp) (hidle : g.inFlight = none)
    (hworks : g.chan.WorksFromNow) {msg : HostToGuest} {rest : List HostToGuest}
    (hin : g.chan.inbox = (msg :: rest).map .ok) :
    ∃ g', loopHeads clock g = g :: loopHeads clock g' ∧ g'.inFlight = none ∧
      g'.chan.WorksFromNow ∧ g'.chan.inbox = rest.map .ok ∧
      g'.gated = Gate.step g.gated (gateCmd msg) ∧
      completed (marks g'.chan.wire)
        = completed (marks g.chan.wire) ++ Gate.admitted g.gated [gateCmd msg] := by
  obtain ⟨g', hhandled, hgo, -⟩ :=
    serveLoop_of_message clock rest.length hidle hin
  have hsends : SendsGoThrough g msg := fun k _ => hworks _ (Nat.le_add_right _ k)
  obtain ⟨hidle', hlog, hturns⟩ := hhandled.done hsends
  have hin' : g'.chan.inbox = rest.map .ok := hhandled.inbox
  refine ⟨g', ?_, hidle', ?_, hin', hhandled.gated, hturns⟩
  · have hfuel : g.chan.inbox.length = rest.length + 1 := by simp [hin]
    have hfuel' : g'.chan.inbox.length = rest.length := by simp [hin']
    simp only [loopHeads, serveMessagesOnly, hfuel, hfuel', hgo hsends, List.map_cons]
  · intro n hn
    rw [hhandled.fates]
    have hle : g.chan.log.length ≤ n := by
      have hlog' : g'.chan.log.length = g.chan.log.length + attempts g.gated msg := hlog
      omega
    exact hworks n hle

/-- Over a working channel every message is handled, and the guest at the `n`-th loop head has run
exactly the turns that found the gate open. -/
theorem loopHeads_spec (clock : ℕ → Timestamp) (hidle : g.inFlight = none)
    (hworks : g.chan.WorksFromNow) {messages : List HostToGuest}
    (hin : g.chan.inbox = messages.map .ok) :
    (loopHeads clock g).length = messages.length + 1 ∧
      ∀ n g', (loopHeads clock g)[n]? = some g' →
        g'.gated = Gate.isShut g.gated ((messages.take n).map gateCmd) ∧
          completed (marks g'.chan.wire) = completed (marks g.chan.wire) ++
            Gate.admitted g.gated ((messages.take n).map gateCmd) := by
  induction messages generalizing g with
  | nil =>
    -- The loop ends on the closed channel: there is the one head.
    have hone : loopHeads clock g = [g] := by
      simp [loopHeads, serveMessagesOnly, hin, serveLoop]
    rw [hone]
    refine ⟨rfl, ?_⟩
    intro n g' hn
    cases n with
    | zero =>
      obtain rfl : g = g' := by simpa using hn
      simp [Gate.admitted]
    | succ n => simp at hn
  | cons msg rest ih =>
    obtain ⟨g₁, hheads, hidle', hworks', hin', hgated, hturns⟩ :=
      loopHeads_cons clock hidle hworks hin
    obtain ⟨hlength, hall⟩ := ih hidle' hworks' hin'
    rw [hheads]
    refine ⟨by simp [hlength], ?_⟩
    intro n g' hn
    cases n with
    | zero =>
      obtain rfl : g = g' := by simpa using hn
      simp [Gate.admitted]
    | succ n =>
      obtain ⟨hgated', hturns'⟩ := hall n g' (by simpa using hn)
      rw [List.take_succ_cons, List.map_cons, Gate.isShut_cons, ← hgated]
      refine ⟨hgated', ?_⟩
      rw [hturns', hturns, List.append_assoc, hgated, ← Gate.admitted_cons]

/-- A greeted guest is idle with an open gate, its channel works, and it has completed nothing. -/
theorem greeted_spec (vmId : VmId) (version : GuestdVersion) (env : List (String × String))
    (messages : List HostToGuest) :
    let g := greeted vmId version env messages
    g.inFlight = none ∧ g.gated = false ∧ g.chan.WorksFromNow ∧
      g.chan.inbox = messages.map .ok ∧ completed (marks g.chan.wire) = [] :=
  ⟨rfl, rfl, fun _ _ => rfl, rfl, rfl⟩

/-- The pattern of `Gate.Stranded`, in terms of messages. -/
theorem stranded_map_gateCmd {messages : List HostToGuest} :
    Gate.Stranded (messages.map gateCmd) ↔
      ∃ before t mid after, messages = before ++ .runTurn t :: (mid ++ .drainCancel :: after) ∧
        shutAfter before = true := by
  constructor
  · rintro ⟨l₁, i, l₂, l₃, hmap, hshut⟩
    obtain ⟨before, rest₁, rfl, rfl, h₁⟩ := List.map_eq_append_iff.mp hmap
    obtain ⟨msg, rest₂, rfl, hmsg, h₂⟩ := List.map_eq_cons_iff.mp h₁
    obtain ⟨mid, rest₃, rfl, rfl, h₃⟩ := List.map_eq_append_iff.mp h₂
    obtain ⟨msg', after, rfl, hmsg', rfl⟩ := List.map_eq_cons_iff.mp h₃
    have hrun : msg = .runTurn i := by cases msg <;> simp [gateCmd] at hmsg ⊢; exact hmsg
    have hcancel : msg' = .drainCancel := by cases msg' <;> simp [gateCmd] at hmsg' ⊢
    exact ⟨before, i, mid, after, by rw [hrun, hcancel], hshut⟩
  · rintro ⟨before, t, mid, after, rfl, hshut⟩
    exact ⟨before.map gateCmd, t, mid.map gateCmd, after.map gateCmd, by simp [gateCmd], hshut⟩

/-- A guest that has run the admitted turns of a session has answered every requested turn exactly
if none was deferred. -/
theorem answered_iff {messages : List HostToGuest}
    (hturns : completed (marks g.chan.wire) = Gate.admitted false (messages.map gateCmd)) :
    Answered messages g ↔ Gate.deferred false (messages.map gateCmd) = [] := by
  unfold Answered requestedTurns
  rw [hturns]
  constructor
  · intro hcount
    have hsub : List.Subperm (Gate.requests (messages.map gateCmd))
        (Gate.admitted false (messages.map gateCmd)) :=
      List.subperm_ext_iff.mpr fun t _ => hcount t
    -- As many requests as admitted ones leave no room for a deferred one.
    have hle := hsub.length_le
    have hlength := Gate.length_requests false (messages.map gateCmd)
    exact List.eq_nil_of_length_eq_zero (by omega)
  · intro hnil t
    exact Nat.le_of_eq (congrArg (List.count t) (Gate.admitted_of_deferred_nil hnil)).symm

/-- For every list of messages the host can write on one session: every requested turn has been
answered under its own id at every loop head with an open gate, if and only if no turn is requested
behind a closed gate that a later `DrainCancel` reopens. -/
theorem deferred_turns_answered_iff (vmId : VmId) (version : GuestdVersion)
    (env : List (String × String)) (messages : List HostToGuest) (clock : ℕ → Timestamp) :
    let heads := loopHeads clock (greeted vmId version env messages)
    heads.length = messages.length + 1 ∧
    ((∀ n g, heads[n]? = some g → g.gated = false → Answered (messages.take n) g) ↔
      ¬ ∃ before t mid after, messages = before ++ .runTurn t :: (mid ++ .drainCancel :: after) ∧
        shutAfter before = true) := by
  intro heads
  obtain ⟨hidle, hopen, hworks, hin, hnone⟩ := greeted_spec vmId version env messages
  obtain ⟨hlength, hheads⟩ := loopHeads_spec clock hidle hworks hin
  rw [hopen, hnone] at hheads
  change heads.length = messages.length + 1 at hlength
  refine ⟨hlength, ?_⟩
  rw [← stranded_map_gateCmd, Gate.stranded_iff]
  constructor
  · rintro hanswered ⟨p, hp, hgate, hdeferred⟩
    -- A prefix that leaves the gate open and a turn deferred is what one loop head has seen.
    have hcmds : (messages.take p.length).map gateCmd = p := by
      rw [List.map_take]
      exact (List.prefix_iff_eq_take.mp hp).symm
    have hn : p.length < heads.length := by
      have hle := hp.length_le
      rw [List.length_map] at hle
      omega
    have hg : heads[p.length]? = some heads[p.length] := List.getElem?_eq_getElem hn
    obtain ⟨hgated, hturns⟩ := hheads _ _ hg
    rw [hcmds, hgate] at hgated
    have hdone := (answered_iff hturns).mp (hanswered _ _ hg hgated)
    rw [hcmds] at hdone
    exact hdeferred hdone
  · intro hnever n g hg hgated
    obtain ⟨hgated', hturns⟩ := hheads n g hg
    refine (answered_iff hturns).mpr ?_
    by_contra hdeferred
    refine hnever ⟨(messages.take n).map gateCmd, ?_, hgated'.symm.trans hgated, hdeferred⟩
    rw [List.map_take]
    exact List.take_prefix n _

/-- A turn requested behind a closed gate is still unanswered at the loop head that the cancel
leads to: nothing replays it. -/
theorem deferred_turn_never_answered :
    let messages := [HostToGuest.drainRequest ⟨500⟩, .runTurn ⟨7⟩, .drainCancel]
    ¬ ∀ n g, (loopHeads (fun _ => ⟨0⟩) (greeted ⟨0⟩ ⟨"0.1.0"⟩ [] messages))[n]? = some g →
      g.gated = false → Answered (messages.take n) g := by
  intro messages hall
  have hcount := hall 3 _ rfl rfl ⟨7⟩
  revert hcount
  decide

end Deferred

/-! ## Runs over several sessions -/

/-- One connection of a host: everything it writes until it disconnects, and what becomes of the
sends to it. -/
structure Session where
  /-- The id that `run_host_driven` draws for the connection's `Guest`. -/
  vmId : VmId
  lines : List (Except ChannelError HostToGuest)
  fates : ℕ → Fate
  clock : ℕ → Timestamp

/-- What happens to the process, one event at a time. -/
inductive HostEvent where
  /-- A host connected and completed the handshake. -/
  | connected
  /-- A host message was handled. -/
  | handled (msg : HostToGuest)
  /-- The session ended. -/
  | ended
deriving DecidableEq, Repr

/-- The drain state of the process. -/
structure DrainState where
  gated : Bool
  queued : UInt32
deriving DecidableEq, Repr

/-- The drain state a `Guest` holds. -/
def Guest.drainState {C : Type} (g : Guest C) : DrainState :=
  { gated := g.gated, queued := g.queued }

/-- The drain state of the process while no session is served: it holds no `Guest` then. -/
def DrainState.absent : DrainState := { gated := false, queued := 0 }

/-- One iteration of the loop of `run_host_driven`: a new `Guest` takes the connection, shakes hands
and serves messages until the session ends. A failed handshake leads straight to the next
connection. -/
def runSession (version : GuestdVersion) (s : Session) : List (HostEvent × DrainState) :=
  let g := Guest.new s.vmId version (.fresh s.lines s.fates)
  match g.result .handshake with
  | .error _ => []
  | .ok _ =>
    let g' := g.after .handshake
    (.connected, g'.drainState) ::
      ((serveMessagesOnly s.clock g').map fun p => (.handled p.1, p.2.drainState)) ++
      [(.ended, .absent)]

/-- The events of `run_host_driven`, each with the drain state right after it. -/
def runHostDriven (version : GuestdVersion) (sessions : List Session) :
    List (HostEvent × DrainState) := sessions.flatMap (runSession version)

/-- What an event means to the drain gate of the process. -/
def HostEvent.cmd : HostEvent → Gate.Cmd TurnId
  | .handled msg => gateCmd msg
  | .connected | .ended => .other

/-- While a session is served, the gate is closed if the last message about it, in this session or
an earlier one, was a `DrainRequest`. -/
def GateKept (shut : Bool) : List (HostEvent × DrainState) → Prop
  | [] => True
  | (e, s) :: events =>
    (Gate.step shut e.cmd = true → e ≠ .ended → s.gated = true) ∧
      GateKept (Gate.step shut e.cmd) events

/-- The backlog never shrinks from an event to a later one: none of them replays a turn. -/
def BacklogKept (events : List (HostEvent × DrainState)) : Prop :=
  events.Pairwise fun a b => a.2.queued ≤ b.2.queued

namespace Session

/-- The connection gets through the handshake: the hello is sent and the first line has the
secrets. -/
def shakesHands (s : Session) : Bool :=
  match s.lines with
  | .ok (.secrets _) :: _ => s.fates 0 = .delivered
  | _ => false

/-- The messages that are handled after the handshake. -/
def served (s : Session) : List HostToGuest := servedMessages s.fates 1 false s.lines.tail

end Session

/-- A handshake whose hello goes through and whose first line has the secrets. -/
theorem call_handshake_greeted {g : Guest FatedChannel} {env : List (String × String)}
    {rest : List (Except ChannelError HostToGuest)} (hd : g.chan.nextFate = .delivered)
    (hin : g.chan.inbox = .ok (.secrets env) :: rest) :
    Guest.exec (Guest.call .handshake) g = (.ok .unit,
      { g with
        chan := { g.chan.push (.hello g.vmId g.version) with inbox := rest }
        secrets := env }) := by
  simp [Guest.call, Guest.handshake, Guest.exec_send_delivered, hd, Guest.pushed,
    GuestChannel.recv, hin, Except.mapError]

/-- A handshake whose hello does not go through. -/
theorem call_handshake_unsent {g : Guest FatedChannel} (hd : g.chan.nextFate ≠ .delivered) :
    Guest.exec (Guest.call .handshake) g
      = (.error brokenPipe, g.pushed (.hello g.vmId g.version)) := by
  simp [Guest.call, Guest.handshake, Guest.exec_send_failed, hd]

/-- Any other handshake fails. -/
theorem call_handshake_refused {g : Guest FatedChannel}
    (h : g.chan.nextFate = .delivered → ∀ env rest, g.chan.inbox ≠ .ok (.secrets env) :: rest) :
    ∃ e, (Guest.exec (Guest.call .handshake) g).1 = .error e := by
  by_cases hd : g.chan.nextFate = .delivered
  · rcases hin : g.chan.inbox with _ | ⟨_ | msg, rest⟩
    · simp [Guest.call, Guest.handshake, Guest.exec_send_delivered, hd, Guest.pushed,
        GuestChannel.recv, hin, Except.mapError]
    · simp [Guest.call, Guest.handshake, Guest.exec_send_delivered, hd, Guest.pushed,
        GuestChannel.recv, hin, Except.mapError]
    · cases msg with
      | secrets env => exact absurd hin (h hd env rest)
      | _ =>
        simp [Guest.call, Guest.handshake, Guest.exec_send_delivered, hd, Guest.pushed,
          GuestChannel.recv, hin, Except.mapError]
  · exact ⟨_, congrArg Prod.fst (call_handshake_unsent hd)⟩

/-- Without a handshake nothing happens. -/
theorem runSession_of_not_shakesHands (version : GuestdVersion) {s : Session}
    (h : s.shakesHands = false) : runSession version s = [] := by
  have hrefused := call_handshake_refused
    (g := Guest.new s.vmId version (FatedChannel.fresh s.lines s.fates)) <| by
      intro hd env rest hin
      change s.fates 0 = .delivered at hd
      change s.lines = .ok (.secrets env) :: rest at hin
      simp [Session.shakesHands, hin, hd] at h
  obtain ⟨e, herror⟩ := hrefused
  simp [runSession, Guest.result, herror]

/-- With a handshake the session serves messages from an idle guest with its gate open and nothing
queued. -/
theorem runSession_of_shakesHands (version : GuestdVersion) {s : Session}
    (h : s.shakesHands = true) :
    ∃ g, runSession version s = (.connected, g.drainState) ::
        ((serveMessagesOnly s.clock g).map fun p => (.handled p.1, p.2.drainState)) ++
          [(.ended, .absent)] ∧
      g.inFlight = none ∧ g.gated = false ∧ g.queued = 0 ∧
      (serveMessagesOnly s.clock g).map Prod.fst = s.served := by
  rcases hlines : s.lines with _ | ⟨_ | msg, rest⟩
  · simp [Session.shakesHands, hlines] at h
  · simp [Session.shakesHands, hlines] at h
  · cases msg with
    | secrets env =>
      have hfate : s.fates 0 = .delivered := by simpa [Session.shakesHands, hlines] using h
      have hgreeted := call_handshake_greeted
        (g := Guest.new s.vmId version (FatedChannel.fresh s.lines s.fates)) hfate hlines
      have hresult : (Guest.new s.vmId version (FatedChannel.fresh s.lines s.fates)).result
          .handshake = .ok .unit := congrArg Prod.fst hgreeted
      have hafter : (Guest.new s.vmId version (FatedChannel.fresh s.lines s.fates)).after
          .handshake = _ := congrArg Prod.snd hgreeted
      refine ⟨(Guest.new s.vmId version (FatedChannel.fresh s.lines s.fates)).after .handshake,
        ?_, ?_, ?_, ?_, ?_⟩
      · simp only [runSession, hresult]
      · rw [hafter]
        rfl
      · rw [hafter]
        rfl
      · rw [hafter]
        rfl
      · rw [serveMessagesOnly, serveLoop_messages (by rw [hafter]; rfl) (Nat.le_refl _),
          hafter, Session.served, hlines]
        rfl
    | _ => simp [Session.shakesHands, hlines] at h

/-! ### The gate -/

/-- The gate command of each event. -/
def cmds (events : List (HostEvent × DrainState)) : List (Gate.Cmd TurnId) :=
  events.map fun e => e.1.cmd

theorem gateKept_append {shut : Bool} {events₁ events₂ : List (HostEvent × DrainState)} :
    GateKept shut (events₁ ++ events₂) ↔
      GateKept shut events₁ ∧ GateKept (Gate.isShut shut (cmds events₁)) events₂ := by
  induction events₁ generalizing shut with
  | nil => simp [GateKept, cmds]
  | cons e events₁ ih =>
    obtain ⟨e, s⟩ := e
    rw [List.cons_append, GateKept, GateKept, ih, and_assoc]
    rfl

/-- Within one session the gate is kept. -/
theorem gateKept_serveLoop {g : Guest FatedChannel} (clock : ℕ → Timestamp) (fuel : ℕ)
    (hidle : g.inFlight = none) :
    GateKept g.gated ((serveLoop clock fuel g).map fun p => (.handled p.1, p.2.drainState)) := by
  induction fuel generalizing g with
  | zero => trivial
  | succ fuel ih =>
    -- The guest's gate is the one that the messages of the session make.
    rcases serveLoop_succ_cases clock fuel hidle with hnone |
      ⟨msg, g', hgated, -, hstop | ⟨hidle', hgo⟩⟩
    · rw [hnone]
      trivial
    · rw [hstop, List.map_singleton, GateKept, HostEvent.cmd, ← hgated]
      exact ⟨fun hshut _ => hshut, trivial⟩
    · rw [hgo, List.map_cons, GateKept, HostEvent.cmd, ← hgated]
      exact ⟨fun hshut _ => hshut, ih hidle'⟩

/-- A session keeps the gate exactly if it stood open before, and leaves it where its messages
do. -/
theorem gateKept_runSession (version : GuestdVersion) {s : Session} (h : s.shakesHands = true)
    (shut : Bool) :
    (GateKept shut (runSession version s) ↔ shut = false) ∧
      Gate.isShut shut (cmds (runSession version s)) = Gate.isShut shut (s.served.map gateCmd) := by
  obtain ⟨g, hrun, hidle, hopen, -, hserved⟩ := runSession_of_shakesHands version h
  rw [hrun]
  have hcmds : cmds ((.connected, g.drainState) ::
      ((serveMessagesOnly s.clock g).map fun p => (.handled p.1, p.2.drainState)) ++
        [(.ended, .absent)]) = .other :: (s.served.map gateCmd ++ [.other]) := by
    simp [cmds, ← hserved, HostEvent.cmd, Function.comp_def]
  constructor
  · cases shut with
    | true => simp [GateKept, Gate.step, HostEvent.cmd, Guest.drainState, hopen]
    | false =>
      have hserve := gateKept_serveLoop s.clock g.chan.inbox.length hidle
      rw [hopen] at hserve
      refine iff_of_true ?_ rfl
      rw [gateKept_append]
      refine ⟨⟨?_, hserve⟩, ⟨?_, trivial⟩⟩
      · intro hshut
        exact absurd hshut (by simp [Gate.step, HostEvent.cmd])
      · exact fun _ hended => absurd rfl hended
  · rw [hcmds, Gate.isShut_cons, Gate.isShut_append]
    rfl

/-- Over all sessions the gate is kept exactly if every session but the last leaves it open. -/
theorem gateKept_runHostDriven (version : GuestdVersion) (sessions : List Session) (shut : Bool) :
    GateKept shut (runHostDriven version sessions) ↔
      let served := (sessions.filter Session.shakesHands).map Session.served
      (served = [] ∨ shut = false) ∧ ∀ h ∈ served.dropLast, shutAfter h = false := by
  induction sessions generalizing shut with
  | nil => simp [runHostDriven, GateKept]
  | cons s sessions ih =>
    rw [runHostDriven, List.flatMap_cons]
    change GateKept shut (runSession version s ++ runHostDriven version sessions) ↔ _
    cases h : s.shakesHands with
    | false =>
      rw [runSession_of_not_shakesHands version h, List.nil_append, ih, List.filter_cons, h]
      rfl
    | true =>
      obtain ⟨hkept, hleft⟩ := gateKept_runSession version h shut
      rw [gateKept_append, hkept, hleft, ih, List.filter_cons, h]
      -- The session keeps the gate if it was open, and passes on where it leaves it.
      generalize sessions.filter Session.shakesHands = later
      cases later with
      | nil => simp
      | cons s' later =>
        cases shut with
        | true => simp
        | false => simp [shutAfter]

/-! ### The backlog -/

/-- Within one session nothing is queued exactly if none of its messages is a deferred request. -/
theorem queued_serveLoop {g : Guest FatedChannel} (clock : ℕ → Timestamp) (fuel : ℕ)
    (hidle : g.inFlight = none) (hqueued : g.queued = 0) :
    (∀ p ∈ serveLoop clock fuel g, p.2.queued = 0) ↔
      Gate.deferred g.gated (((serveLoop clock fuel g).map Prod.fst).map gateCmd) = [] := by
  induction fuel generalizing g with
  | zero => simp [serveLoop, Gate.deferred]
  | succ fuel ih =>
    have hempty : ∀ {msg} {g' : Guest FatedChannel},
        g'.queued = g.queued + UInt32.ofNat (Gate.deferred g.gated [gateCmd msg]).length →
          (g'.queued = 0 ↔ Gate.deferred g.gated [gateCmd msg] = []) := by
      intro msg g' hmore
      rw [hmore, hqueued]
      cases gateCmd msg <;> cases g.gated <;> simp [Gate.deferred]
    rcases serveLoop_succ_cases clock fuel hidle with hnone |
      ⟨msg, g', hgated, hmore, hstop | ⟨hidle', hgo⟩⟩
    · simp [hnone, Gate.deferred]
    · rw [hstop]
      simpa using hempty hmore
    · rw [hgo, List.map_cons, List.map_cons, Gate.deferred_cons, List.append_eq_nil_iff,
        List.forall_mem_cons, hempty hmore, ← hgated]
      -- Once a turn is queued nothing more is claimed, and before that the backlog is empty.
      exact and_congr_right fun hnone => ih hidle' ((hempty hmore).mpr hnone)

/-- What a session does to the backlog shows in the drain states of its events, the last of which
has no backlog at all. -/
theorem queued_runSession (version : GuestdVersion) {s : Session} (h : s.shakesHands = true) :
    ((∀ e ∈ runSession version s, e.2.queued = 0) ↔
      Gate.deferred false (s.served.map gateCmd) = []) ∧
      ∃ events, runSession version s = events ++ [(.ended, .absent)] := by
  obtain ⟨g, hrun, hidle, hopen, hqueued, hserved⟩ := runSession_of_shakesHands version h
  have hserve := queued_serveLoop s.clock g.chan.inbox.length hidle hqueued
  rw [hrun]
  refine ⟨?_, _, rfl⟩
  rw [← hserved, ← hopen, serveMessagesOnly, ← hserve, List.forall_mem_append,
    List.forall_mem_cons, List.forall_mem_map, List.forall_mem_singleton]
  exact ⟨fun hall => hall.1.2, fun hall => ⟨⟨hqueued, hall⟩, rfl⟩⟩

/-- The backlog is kept exactly if there never is one: a session takes its backlog along when it
ends. -/
theorem backlogKept_runHostDriven (version : GuestdVersion) (sessions : List Session) :
    BacklogKept (runHostDriven version sessions) ↔
      ∀ h ∈ (sessions.filter Session.shakesHands).map Session.served,
        Gate.deferred false (h.map gateCmd) = [] := by
  have hzero : BacklogKept (runHostDriven version sessions) ↔
      ∀ e ∈ runHostDriven version sessions, e.2.queued = 0 := by
    constructor
    · intro hkept e he
      obtain ⟨s, hs, hmem⟩ := List.mem_flatMap.mp he
      cases h : s.shakesHands with
      | false =>
        rw [runSession_of_not_shakesHands version h] at hmem
        simp at hmem
      | true =>
        -- The session's last event has no backlog, so none before it has one.
        obtain ⟨-, events, hlast⟩ := queued_runSession version h
        have hpart : BacklogKept (runSession version s) := by
          refine List.Pairwise.sublist ?_ hkept
          rw [runHostDriven, List.flatMap_def]
          exact List.sublist_flatten_of_mem (List.mem_map_of_mem hs)
        rw [BacklogKept, hlast, List.pairwise_append] at hpart
        rw [hlast, List.mem_append, List.mem_singleton] at hmem
        rcases hmem with hmem | rfl
        · have hle := hpart.2.2 e hmem _ (List.mem_singleton.mpr rfl)
          exact UInt32.le_zero_iff.mp hle
        · rfl
    · intro hall
      refine List.pairwise_of_forall_mem_list ?_
      intro a ha b hb
      rw [hall a ha, hall b hb]
      exact UInt32.le_refl 0
  -- With all backlogs empty the sessions can be taken one by one.
  rw [hzero, runHostDriven, List.forall_mem_map]
  constructor
  · intro hall s hs
    obtain ⟨hmem, h⟩ := List.mem_filter.mp hs
    refine (queued_runSession version h).1.mp ?_
    exact fun e he => hall e (List.mem_flatMap.mpr ⟨s, hmem, he⟩)
  · intro hall e he
    obtain ⟨s, hs, hmem⟩ := List.mem_flatMap.mp he
    cases h : s.shakesHands with
    | false =>
      rw [runSession_of_not_shakesHands version h] at hmem
      simp at hmem
    | true =>
      have hnone := hall s (List.mem_filter.mpr ⟨hs, h⟩)
      exact (queued_runSession version h).1.mpr hnone e hmem

/-- A list of messages defers a turn exactly if a `RunTurn` comes when the gate stands shut. -/
theorem deferred_map_gateCmd {messages : List HostToGuest} :
    Gate.deferred false (messages.map gateCmd) = [] ↔
      ¬ ∃ before t after, messages = before ++ .runTurn t :: after ∧ shutAfter before = true := by
  rw [← not_iff_not, not_not, ← ne_eq, Gate.deferred_ne_nil_iff]
  constructor
  · rintro ⟨l₁, i, l₂, hmap, hshut⟩
    obtain ⟨before, rest, rfl, rfl, hrest⟩ := List.map_eq_append_iff.mp hmap
    obtain ⟨msg, after, rfl, hmsg, rfl⟩ := List.map_eq_cons_iff.mp hrest
    have hrun : msg = .runTurn i := by cases msg <;> simp [gateCmd] at hmsg ⊢; exact hmsg
    exact ⟨before, i, after, by rw [hrun], hshut⟩
  · rintro ⟨before, t, after, rfl, hshut⟩
    exact ⟨before.map gateCmd, t, after.map gateCmd, by simp [gateCmd], hshut⟩

/-- For every sequence of sessions: a gate closed by a `DrainRequest` stays closed in later sessions
until a `DrainCancel`, and no queued turn is lost when a session ends, if and only if no session
handles a `RunTurn` behind its closed gate and every session but the last leaves its gate open.
Connections that fail the handshake are no sessions. -/
theorem drain_state_carried_iff (version : GuestdVersion) (sessions : List Session) :
    (GateKept false (runHostDriven version sessions) ∧
        BacklogKept (runHostDriven version sessions)) ↔
      let served := (sessions.filter Session.shakesHands).map Session.served
      (∀ h ∈ served, ¬ ∃ before t after, h = before ++ .runTurn t :: after ∧
        shutAfter before = true) ∧
      ∀ h ∈ served.dropLast, shutAfter h = false := by
  rw [gateKept_runHostDriven, backlogKept_runHostDriven, and_comm]
  simp only [deferred_map_gateCmd, or_true, true_and]

/-- A migration's drain, its reconnect, and a turn that was queued in between: the new session
starts with the gate open and without the turn. -/
theorem drain_state_dropped :
    let session (lines : List HostToGuest) : Session :=
      { vmId := ⟨0⟩, lines := (.secrets [] :: lines).map .ok, fates := fun _ => .delivered,
        clock := fun _ => ⟨0⟩ }
    let events := runHostDriven ⟨"0.1.0"⟩ [session [.drainRequest ⟨500⟩, .runTurn ⟨7⟩], session []]
    ¬ (GateKept false events ∧ BacklogKept events) := by
  intro session events hkept
  have hevents : events = [(.connected, ⟨false, 0⟩), (.handled (.drainRequest ⟨500⟩), ⟨true, 0⟩),
      (.handled (.runTurn ⟨7⟩), ⟨true, 1⟩), (.ended, ⟨false, 0⟩), (.connected, ⟨false, 0⟩),
      (.ended, ⟨false, 0⟩)] := by decide
  rw [hevents] at hkept
  have hback := hkept.2
  rw [BacklogKept] at hback
  simp at hback

end Sleepwalk.Guestd
