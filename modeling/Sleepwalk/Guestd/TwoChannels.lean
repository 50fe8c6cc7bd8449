import Mathlib.Logic.Function.Iterate
import Sleepwalk.Guestd.HostDriven
import Sleepwalk.Guestd.Wrap

/-!
# The two drain channels of host-driven guestd

`run_host_driven` serves a `Guest` over vsock while `serve_tcp_drain` answers drains over TCP. The
two are tasks of one thread, so they interleave at the points where they wait: a move takes one
task from one such point to the next, and a schedule is any list of moves.

The TCP task answers from a tracker that only the reader of a wrapped child updates, and there is
no child here. `drain_channels_agree_iff` says what is left of the promise that its `DrainAck`
makes.
-/

namespace Sleepwalk.Guestd

open Proto

/-! ## The vsock task -/

/-- Where the vsock task of `serve_messages_only` waits. -/
inductive ServePhase where
  /-- For the next host message. -/
  | receiving
  /-- For the send of `TurnStarted` in `run_turn`. -/
  | starting (turnId : TurnId) (now : Timestamp)
  /-- For the send of `TurnEnded` in `run_turn`. -/
  | ending (turnId : TurnId) (now : Timestamp)
  /-- For the one send that answers a message. -/
  | replying (msg : GuestToHost)
  /-- Nowhere: the loop is over. -/
  | closed
deriving DecidableEq, Repr

namespace Guest

variable {C : Type} [GuestChannel C]

/-- React to one message up to the first send. -/
def enter (g : Guest C) (now : Timestamp) : HostToGuest → Guest C × ServePhase
  | .runTurn turnId =>
    match g.inFlight with
    | some _ => (g, .closed)
    | none =>
      if g.gated then ({ g with queued := g.queued + 1 }, .receiving)
      else ({ g with inFlight := some turnId }, .starting turnId now)
  | .drainRequest _ => ({ g with gated := true }, .replying (.drainAck g.inFlight))
  | .drainCancel => ({ g with gated := false }, .receiving)
  | .secrets env => ({ g with secrets := env }, .receiving)
  | .ping => (g, .replying .pong)
  | .pong => (g, .receiving)

/-- Finish a send: a failed one ends the loop. -/
def finishSend (g : Guest C) (msg : GuestToHost) (done : Guest C → Guest C × ServePhase) :
    Guest C × ServePhase :=
  match exec (send msg) g with
  | (.ok (), g) => done g
  | (.error _, g) => (g, .closed)

/-- One move of the vsock task. -/
def serveMove (g : Guest C) (now : Timestamp) : ServePhase → Guest C × ServePhase
  | .receiving =>
    match exec recv g with
    | (.ok msg, g) => g.enter now msg
    | (.error _, g) => (g, .closed)
  | .starting turnId now =>
    g.finishSend (.turnStarted turnId now) fun g => (g, .ending turnId now)
  | .ending turnId now =>
    g.finishSend (.turnEnded turnId now) fun g => ({ g with inFlight := none }, .receiving)
  | .replying msg => g.finishSend msg fun g => (g, .receiving)
  | .closed => (g, .closed)

end Guest

section ServeMove

variable {g : Guest FatedChannel}

theorem finishSend_delivered (h : g.chan.nextFate = .delivered) (msg : GuestToHost)
    (done : Guest FatedChannel → Guest FatedChannel × ServePhase) :
    g.finishSend msg done = done (g.pushed msg) := by
  rw [Guest.finishSend, Guest.exec_send_delivered h]

theorem finishSend_failed (h : g.chan.nextFate ≠ .delivered) (msg : GuestToHost)
    (done : Guest FatedChannel → Guest FatedChannel × ServePhase) :
    g.finishSend msg done = (g.pushed msg, .closed) := by
  rw [Guest.finishSend, Guest.exec_send_failed h]

/-- A finished send went through, or it ended the loop. -/
theorem finishSend_cases (g : Guest FatedChannel) (msg : GuestToHost)
    (done : Guest FatedChannel → Guest FatedChannel × ServePhase) :
    g.finishSend msg done = done (g.pushed msg) ∨
      g.finishSend msg done = (g.pushed msg, .closed) := by
  by_cases h : g.chan.nextFate = .delivered
  · exact .inl (finishSend_delivered h msg done)
  · exact .inr (finishSend_failed h msg done)

theorem serveMove_receiving_message {msg : HostToGuest}
    {rest : List (Except ChannelError HostToGuest)} (hin : g.chan.inbox = .ok msg :: rest)
    (now : Timestamp) :
    g.serveMove now .receiving = (g.received rest).enter now msg := by
  simp only [Guest.serveMove, Guest.exec_recv, GuestChannel.recv, hin, Except.mapError]
  rfl

theorem serveMove_receiving_none (hin : g.chan.inbox = []) (now : Timestamp) :
    g.serveMove now .receiving = (g, .closed) := by
  simp only [Guest.serveMove, Guest.exec_recv, GuestChannel.recv, hin, Except.mapError]

/-- A message that is no admitted turn moves the gate as it says, and is answered with one send or
with none. -/
theorem enter_unadmitted {msg : HostToGuest} (hidle : g.inFlight = none)
    (hnone : Gate.admitted g.gated [gateCmd msg] = []) (now : Timestamp) :
    ∃ g' phase, g.enter now msg = (g', phase) ∧
      (phase = .receiving ∨ ∃ reply, phase = .replying reply) ∧
      g'.inFlight = none ∧ g'.chan = g.chan ∧ g'.gated = Gate.step g.gated (gateCmd msg) := by
  cases msg with
  | runTurn t =>
    -- The gate is shut, or the turn would have been admitted.
    have hshut : g.gated = true := by
      by_contra hopen
      rw [Bool.not_eq_true] at hopen
      simp [gateCmd, Gate.admitted, hopen] at hnone
    exact ⟨{ g with queued := g.queued + 1 }, .receiving, by simp [Guest.enter, hidle, hshut],
      .inl rfl, hidle, rfl, rfl⟩
  | drainRequest d => exact ⟨_, _, rfl, .inr ⟨_, rfl⟩, hidle, rfl, rfl⟩
  | ping => exact ⟨_, _, rfl, .inr ⟨_, rfl⟩, hidle, rfl, rfl⟩
  | drainCancel => exact ⟨_, _, rfl, .inl rfl, hidle, rfl, rfl⟩
  | secrets env => exact ⟨_, _, rfl, .inl rfl, hidle, rfl, rfl⟩
  | pong => exact ⟨_, _, rfl, .inl rfl, hidle, rfl, rfl⟩

/-- Where the loop goes on after a call. -/
def phaseAfter : Except GuestError Reply → ServePhase
  | .ok _ => .receiving
  | .error _ => .closed

/-- Handling a `RunTurn` leaves the loop where the `run_turn` does. -/
theorem phaseAfter_runTurn (t : TurnId) (now : Timestamp) :
    phaseAfter (g.result (.handle (.runTurn t) now)) = phaseAfter (g.result (.runTurn t now)) := by
  unfold Guest.result
  simp only [Guest.call, Guest.handle, Guest.exec_map, Guest.exec_discard]
  cases (Guest.exec (Guest.runTurn t now) g).1 with
  | error e => rfl
  | ok o => rfl

/-- Left alone, the vsock task handles a message as `handle` does: within three moves it is back
at the loop head with the guest that `handle` leaves, or done if `handle` failed. -/
theorem serveMoves_handle (g : Guest FatedChannel) (msg : HostToGuest) (now : Timestamp) :
    let moves := fun s : Guest FatedChannel × ServePhase => s.1.serveMove now s.2
    ∃ n ≤ 2, moves^[n] (g.enter now msg)
      = (g.after (.handle msg now), phaseAfter (g.result (.handle msg now))) := by
  intro moves
  -- The single sends that answer a message.
  have hreply : ∀ (g : Guest FatedChannel) (reply : GuestToHost),
      moves (g, .replying reply) = (g.pushed reply,
        if g.chan.nextFate = .delivered then .receiving else .closed) := by
    intro g reply
    change g.finishSend reply _ = _
    by_cases h : g.chan.nextFate = .delivered
    · rw [finishSend_delivered h, if_pos h]
    · rw [finishSend_failed h, if_neg h]
  cases msg with
  | secrets env => exact ⟨0, by omega, rfl⟩
  | drainCancel => exact ⟨0, by omega, rfl⟩
  | pong => exact ⟨0, by omega, rfl⟩
  | ping =>
    refine ⟨1, by omega, ?_⟩
    rw [Function.iterate_one, Guest.enter, hreply]
    by_cases h : g.chan.nextFate = .delivered
    · simp [Guest.after, Guest.result, Guest.call, Guest.handle, Guest.exec_send_delivered, h,
        phaseAfter]
    · simp [Guest.after, Guest.result, Guest.call, Guest.handle, Guest.exec_send_failed, h,
        phaseAfter]
  | drainRequest d =>
    refine ⟨1, by omega, ?_⟩
    rw [Function.iterate_one, Guest.enter, hreply]
    by_cases h : g.chan.nextFate = .delivered
    · simp [Guest.after, Guest.result, Guest.call, Guest.handle, Guest.exec_send_delivered, h,
        phaseAfter]
    · simp [Guest.after, Guest.result, Guest.call, Guest.handle, Guest.exec_send_failed, h,
        phaseAfter]
  | runTurn t =>
    rw [phaseAfter_runTurn, ← g.after_core]
    change ∃ n ≤ 2, moves^[n] (g.enter now (.runTurn t)) =
      ((Guest.exec (Guest.call (.runTurn t now)) g).2,
        phaseAfter (Guest.exec (Guest.call (.runTurn t now)) g).1)
    cases h : g.inFlight with
    | some t' =>
      refine ⟨0, by omega, ?_⟩
      rw [Guest.call_busy h (.inr (.inl ⟨t, now, rfl⟩))]
      simp [Guest.enter, h, phaseAfter]
    | none =>
      cases hg : g.gated with
      | true =>
        refine ⟨0, by omega, ?_⟩
        rw [Guest.call_runTurn_queued h hg t now]
        simp [Guest.enter, h, hg, phaseAfter]
      | false =>
        have henter : g.enter now (.runTurn t) =
            ({ g with inFlight := some t }, .starting t now) := by
          simp [Guest.enter, h, hg]
        rw [henter]
        by_cases hd : g.chan.nextFate = .delivered
        · refine ⟨2, Nat.le_refl 2, ?_⟩
          have hfirst : moves ({ g with inFlight := some t }, .starting t now) =
              ({ g.pushed (.turnStarted t now) with inFlight := some t }, .ending t now) :=
            finishSend_delivered (g := { g with inFlight := some t }) hd _ _
          rw [Function.iterate_succ_apply, hfirst, Function.iterate_one]
          by_cases hd' : (g.pushed (.turnStarted t now)).chan.nextFate = .delivered
          · rw [Guest.call_runTurn_ran h hg t now hd hd']
            refine
              (finishSend_delivered (g := { g.pushed _ with inFlight := some t }) hd' _ _).trans ?_
            simp [Guest.pushed, phaseAfter, h]
          · rw [Guest.call_runTurn_finishFailed h hg t now hd hd']
            exact finishSend_failed (g := { g.pushed _ with inFlight := some t }) hd' _ _
        · refine ⟨1, by omega, ?_⟩
          rw [Guest.call_runTurn_startFailed h hg hd t now, Function.iterate_one]
          exact finishSend_failed (g := { g with inFlight := some t }) hd _ _

end ServeMove

/-! ## The TCP task -/

/-- Where the TCP task of `serve_wrap_messages` waits. -/
inductive AnswerPhase where
  /-- For the next host message. -/
  | receiving
  /-- For the send of a reply. -/
  | replying (msg : GuestToHost)
  /-- Nowhere: the session is over. -/
  | closed
deriving DecidableEq, Repr

/-- One move of the TCP task. -/
def answerMove (tracker : TurnTracker) (chan : FatedChannel) :
    AnswerPhase → FatedChannel × AnswerPhase
  | .receiving =>
    match GuestChannel.recv chan with
    | (.ok msg, chan) =>
      match wrapReply tracker msg with
      | some reply => (chan, .replying reply)
      | none => (chan, .receiving)
    | (.error _, chan) => (chan, .closed)
  | .replying msg =>
    match GuestChannel.send chan msg with
    | (.ok (), chan) => (chan, .receiving)
    | (.error _, chan) => (chan, .closed)
  | .closed => (chan, .closed)

/-! ## Both tasks -/

/-- What one host connection brings. -/
structure Connection where
  /-- The id the guest announces on it. -/
  vmId : VmId
  /-- The environment in the host's `Secrets`. -/
  env : List (String × String)
  /-- The messages the host writes after its `Secrets`. -/
  messages : List HostToGuest
  /-- What becomes of each send on it. -/
  fates : ℕ → Fate

/-- The guest a connection is served with. -/
def Connection.guest (version : GuestdVersion) (c : Connection) : Guest FatedChannel :=
  .new c.vmId version (.fresh (.ok (.secrets c.env) :: c.messages.map .ok) c.fates)

/-- Host-driven guestd with one session on each channel. -/
structure Duplex where
  /-- The guest of the vsock session. -/
  guest : Guest FatedChannel
  /-- Where the vsock task waits. -/
  serving : ServePhase
  /-- The channel of the TCP session. -/
  drain : FatedChannel
  /-- Where the TCP task waits. -/
  answering : AnswerPhase
  /-- The tracker the TCP task answers from. -/
  tracker : TurnTracker

/-- One move of a task. -/
inductive TaskMove where
  /-- The vsock task, which reads this clock. -/
  | vsock (now : Timestamp)
  /-- The TCP task. -/
  | tcp
deriving DecidableEq, Repr

/-- What a move shows to an observer of both channels. -/
inductive DuplexEvent where
  /-- A turn starts on the vsock session. -/
  | started (turnId : TurnId)
  /-- A `DrainAck` reaches the host on the TCP session. -/
  | acked (inFlight : Option TurnId)
  /-- A `DrainCancel` is taken on the TCP session. -/
  | cancelled
deriving DecidableEq, Repr

namespace Duplex

/-- Both sessions after their handshakes. A session whose handshake failed is over. -/
def start (version : GuestdVersion) (vsock tcp : Connection) : Duplex :=
  let g := vsock.guest version
  let d := tcp.guest version
  { guest := g.after .handshake
    serving := phaseAfter (g.result .handshake)
    drain := (d.after .handshake).chan
    answering := if (d.result .handshake).isOk then .receiving else .closed
    tracker := .new }

/-- Let one task move. -/
def move (s : Duplex) : TaskMove → Duplex
  | .vsock now =>
    let (guest, serving) := s.guest.serveMove now s.serving
    { s with guest, serving }
  | .tcp =>
    let (drain, answering) := answerMove s.tracker s.drain s.answering
    { s with drain, answering }

/-- What the move shows. -/
def shows (s : Duplex) : TaskMove → Option DuplexEvent
  | .vsock now =>
    match s.serving, (s.guest.serveMove now s.serving).2 with
    | .receiving, .starting turnId _ => some (.started turnId)
    | _, _ => none
  | .tcp =>
    match s.answering with
    | .receiving => if s.drain.inbox.head? = some (.ok .drainCancel) then some .cancelled else none
    | .replying (.drainAck inFlight) =>
      if s.drain.nextFate.reached then some (.acked inFlight) else none
    | _ => none

/-- What a schedule shows, each event with the turn in flight on the vsock session right after. -/
def events (s : Duplex) : List TaskMove → List (DuplexEvent × Option TurnId)
  | [] => []
  | task :: tasks =>
    (s.shows task).toList.map (fun e => (e, (s.move task).guest.inFlight)) ++
      (s.move task).events tasks

end Duplex

/-- The channels agree: a `DrainAck` that reports no turn finds none in flight on the vsock session,
and from then until a `DrainCancel` no turn starts there. `promised` says that such an ack is out
already. -/
def Agrees : Bool → List (DuplexEvent × Option TurnId) → Prop
  | _, [] => True
  | promised, (.started _, _) :: events => promised = false ∧ Agrees promised events
  | _, (.acked none, inFlight) :: events => inFlight = none ∧ Agrees true events
  | promised, (.acked (some _), _) :: events => Agrees promised events
  | _, (.cancelled, _) :: events => Agrees false events

/-! ## Schedules -/

section Schedule

variable {s : Duplex}

/-- Let the tasks of a schedule move. -/
def Duplex.run (s : Duplex) (tasks : List TaskMove) : Duplex := tasks.foldl Duplex.move s

theorem events_append (s : Duplex) (tasks₁ tasks₂ : List TaskMove) :
    s.events (tasks₁ ++ tasks₂) = s.events tasks₁ ++ (s.run tasks₁).events tasks₂ := by
  induction tasks₁ generalizing s with
  | nil => rfl
  | cons task tasks₁ ih =>
    rw [List.cons_append, Duplex.events, Duplex.events, ih, List.append_assoc]
    rfl

/-- What holds of every state and of what every move from such a state shows, holds of all that a
schedule shows. -/
theorem forall_events {P : Duplex → Prop} {Q : DuplexEvent × Option TurnId → Prop}
    (hmove : ∀ s task, P s → P (s.move task))
    (hshows : ∀ s task e, P s → s.shows task = some e → Q (e, (s.move task).guest.inFlight))
    (h : P s) (tasks : List TaskMove) : ∀ e ∈ s.events tasks, Q e := by
  induction tasks generalizing s with
  | nil => simp [Duplex.events]
  | cons task tasks ih =>
    rw [Duplex.events, List.forall_mem_append]
    refine ⟨?_, ih (hmove s task h)⟩
    intro e he
    obtain ⟨shown, hshown, rfl⟩ := List.mem_map.mp he
    exact hshows s task shown h (Option.mem_toList.mp hshown)

/-- Without an acknowledgement nothing was promised. -/
theorem agrees_of_not_acked {events : List (DuplexEvent × Option TurnId)}
    (h : ∀ e ∈ events, ∀ o, e.1 ≠ .acked o) : Agrees false events := by
  induction events with
  | nil => trivial
  | cons e events ih =>
    obtain ⟨hhead, htail⟩ := List.forall_mem_cons.mp h
    obtain ⟨_ | o | _, inFlight⟩ := e
    · exact ⟨rfl, ih htail⟩
    · exact absurd rfl (hhead o)
    · exact ih htail

/-- A session that starts no turn keeps every promise. -/
theorem agrees_of_idle {promised : Bool} {events : List (DuplexEvent × Option TurnId)}
    (h : ∀ e ∈ events, (∀ t, e.1 ≠ .started t) ∧ e.2 = none) : Agrees promised events := by
  induction events generalizing promised with
  | nil => trivial
  | cons e events ih =>
    obtain ⟨hhead, htail⟩ := List.forall_mem_cons.mp h
    obtain ⟨t | _ | _, inFlight⟩ := e
    · exact absurd rfl (hhead.1 t)
    · rename_i o
      cases o with
      | none => exact ⟨hhead.2, ih htail⟩
      | some t => exact ih htail
    · exact ih htail

/-- After an acknowledgement that reports no turn, the rest is under its promise. -/
theorem agrees_of_acked {promised : Bool} {events₁ events₂ : List (DuplexEvent × Option TurnId)}
    {inFlight : Option TurnId}
    (h : Agrees promised (events₁ ++ (.acked none, inFlight) :: events₂)) :
    Agrees true events₂ := by
  induction events₁ generalizing promised with
  | nil => exact h.2
  | cons e events₁ ih =>
    obtain ⟨_ | o | _, _⟩ := e
    · exact ih h.2
    · cases o with
      | none => exact ih h.2
      | some t => exact ih h
    · exact ih h

/-! ### Sessions that cannot disagree -/

/-- No drain is requested on the TCP session any more. -/
def Undrained (s : Duplex) : Prop :=
  (∀ d, .ok (.drainRequest d) ∉ s.drain.inbox) ∧ ∀ o, s.answering ≠ .replying (.drainAck o)

theorem undrained_move (task : TaskMove) (h : Undrained s) : Undrained (s.move task) := by
  obtain ⟨hin, hreply⟩ := h
  -- The drain channel is the TCP task's alone, which takes messages out and acks no other kind.
  cases task with
  | vsock now => exact ⟨hin, hreply⟩
  | tcp =>
    unfold Undrained
    rw [Duplex.move]
    cases hphase : s.answering with
    | receiving =>
      rcases hinbox : s.drain.inbox with _ | ⟨_ | msg, rest⟩
      · simp [answerMove, GuestChannel.recv, hinbox]
      · rw [hinbox] at hin
        simp only [answerMove, GuestChannel.recv, hinbox]
        exact ⟨fun d hd => hin d (List.mem_cons_of_mem _ hd), by simp⟩
      · rw [hinbox] at hin
        have hrest : ∀ d, .ok (.drainRequest d) ∉ rest :=
          fun d hd => hin d (List.mem_cons_of_mem _ hd)
        cases msg with
        | drainRequest d => exact absurd List.mem_cons_self (hin d)
        | ping | pong | drainCancel | runTurn | secrets =>
          simp only [answerMove, GuestChannel.recv, hinbox, wrapReply]
          exact ⟨hrest, by simp⟩
    | replying msg =>
      simp only [answerMove, FatedChannel.send_eq]
      cases s.drain.nextFate with
      | delivered | lost | ghost => exact ⟨hin, by simp [Fate.result]⟩
    | closed => exact ⟨hin, by simp [answerMove]⟩

theorem undrained_shows (task : TaskMove) {e : DuplexEvent} (h : Undrained s)
    (hshown : s.shows task = some e) (o : Option TurnId) : e ≠ .acked o := by
  rintro rfl
  cases task with
  | vsock now =>
    simp only [Duplex.shows] at hshown
    split at hshown <;> simp at hshown
  | tcp =>
    simp only [Duplex.shows] at hshown
    split at hshown
    · split at hshown <;> simp at hshown
    · rename_i inFlight hphase
      exact h.2 inFlight hphase
    · simp at hshown

/-- No turn is in flight on the vsock session, and none will start. -/
def Idle (s : Duplex) : Prop :=
  s.guest.inFlight = none ∧
    match s.serving with
    | .receiving | .replying _ =>
      ∃ rest : List HostToGuest, s.guest.chan.inbox = rest.map .ok ∧
        Gate.admitted s.guest.gated (rest.map gateCmd) = []
    | .closed => True
    | .starting _ _ | .ending _ _ => False

theorem idle_move (task : TaskMove) (h : Idle s) : Idle (s.move task) := by
  obtain ⟨hidle, hphase⟩ := h
  cases task with
  | tcp => exact ⟨hidle, hphase⟩
  | vsock now =>
    unfold Idle
    rw [Duplex.move]
    cases hserving : s.serving with
    | receiving =>
      rw [hserving] at hphase
      obtain ⟨rest, hin, hnone⟩ := hphase
      cases rest with
      | nil =>
        rw [serveMove_receiving_none hin]
        exact ⟨hidle, trivial⟩
      | cons msg rest =>
        rw [List.map_cons, Gate.admitted_cons, List.append_eq_nil_iff] at hnone
        obtain ⟨g, phase, henter, hreturns, hidle', hchan, hgated⟩ :=
          enter_unadmitted (g := s.guest.received (rest.map .ok)) hidle hnone.1 now
        have hrest : ∃ rest : List HostToGuest, g.chan.inbox = rest.map .ok ∧
            Gate.admitted g.gated (rest.map gateCmd) = [] :=
          ⟨rest, by rw [hchan]; rfl, by rw [hgated]; exact hnone.2⟩
        -- A message that is not admitted is done at once, or leaves an answer to send.
        rw [serveMove_receiving_message hin, henter]
        rcases hreturns with rfl | ⟨reply, rfl⟩
        · exact ⟨hidle', hrest⟩
        · exact ⟨hidle', hrest⟩
    | replying msg =>
      rw [hserving] at hphase
      have hmove : s.guest.serveMove now (.replying msg) =
          s.guest.finishSend msg fun g => (g, .receiving) := rfl
      rw [hmove]
      rcases finishSend_cases s.guest msg fun g => (g, .receiving) with hdone | hover
      · rw [hdone]
        exact ⟨hidle, hphase⟩
      · rw [hover]
        exact ⟨hidle, trivial⟩
    | starting t ts | ending t ts =>
      rw [hserving] at hphase
      exact hphase.elim
    | closed => exact ⟨hidle, trivial⟩

theorem idle_shows (task : TaskMove) {e : DuplexEvent} (h : Idle s)
    (hshown : s.shows task = some e) (t : TurnId) : e ≠ .started t := by
  rintro rfl
  cases task with
  | vsock now =>
    have hnext := (idle_move (.vsock now) h).2
    simp only [Duplex.shows] at hshown
    split at hshown
    · rename_i hstarting
      rw [Duplex.move] at hnext
      simp [hstarting] at hnext
    · simp at hshown
  | tcp =>
    simp only [Duplex.shows] at hshown
    split at hshown
    · split at hshown <;> simp at hshown
    · split at hshown <;> simp at hshown
    · simp at hshown

/-! ### Sessions that disagree -/

/-- Over a working channel the TCP task takes one message and is back for the next, and a
`DrainRequest` is acknowledged with the tracker's turn. The vsock task is not touched. -/
theorem answers_message {msg : HostToGuest} {rest : List (Except ChannelError HostToGuest)}
    (hphase : s.answering = .receiving) (hworks : s.drain.WorksFromNow)
    (hin : s.drain.inbox = .ok msg :: rest) :
    ∃ n drain, s.run (.replicate n .tcp) = { s with drain } ∧
      drain.inbox = rest ∧ drain.WorksFromNow ∧
      ∀ d, msg = .drainRequest d →
        s.events (.replicate n .tcp) = [(.acked s.tracker.inFlight, s.guest.inFlight)] := by
  have htake : ∀ reply, wrapReply s.tracker msg = some reply →
      s.move .tcp = { s with
        drain := { s.drain with inbox := rest }
        answering := .replying reply } := by
    intro reply hreply
    simp only [Duplex.move, hphase, answerMove, GuestChannel.recv, hin, hreply]
  -- One move takes the message, and one more sends the answer where there is one.
  cases hreply : wrapReply s.tracker msg with
  | none =>
    refine ⟨1, { s.drain with inbox := rest }, ?_, rfl, hworks, ?_⟩
    · simp only [Duplex.run, List.replicate, List.foldl, Duplex.move, hphase, answerMove,
        GuestChannel.recv, hin, hreply]
    · rintro d rfl
      simp [wrapReply] at hreply
  | some reply =>
    have hnext : ({ s.drain with inbox := rest } : FatedChannel).nextFate = .delivered :=
      hworks.nextFate
    refine ⟨2, ({ s.drain with inbox := rest } : FatedChannel).push reply, ?_, rfl,
      FatedChannel.WorksFromNow.push hworks reply, ?_⟩
    · simp only [Duplex.run, List.replicate, List.foldl, htake reply hreply]
      simp only [Duplex.move, answerMove, FatedChannel.send_eq, hnext, Fate.result, hphase]
    · rintro d rfl
      obtain rfl : .drainAck s.tracker.inFlight = reply := by simpa [wrapReply] using hreply
      have hfirst : s.shows .tcp = none := by simp [Duplex.shows, hphase, hin]
      have hsecond : (s.move .tcp).shows .tcp = some (.acked s.tracker.inFlight) := by
        rw [htake _ hreply]
        simp [Duplex.shows, hnext, Fate.reached]
      rw [List.replicate, List.replicate, List.replicate, Duplex.events, Duplex.events, hfirst,
        hsecond]
      rfl

/-- Over a working channel the TCP task gets to acknowledge a drain, whatever comes before it. -/
theorem exists_acked {before after : List HostToGuest} {d : Duration}
    (hphase : s.answering = .receiving) (hworks : s.drain.WorksFromNow)
    (hin : s.drain.inbox = (before ++ .drainRequest d :: after).map .ok) :
    ∃ n drain events, s.run (.replicate n .tcp) = { s with drain } ∧
      s.events (.replicate n .tcp) = events ++ [(.acked s.tracker.inFlight, s.guest.inFlight)] := by
  induction before generalizing s with
  | nil =>
    obtain ⟨n, drain, hrun, -, -, hacked⟩ := answers_message hphase hworks hin
    exact ⟨n, drain, [], hrun, hacked d rfl⟩
  | cons msg before ih =>
    obtain ⟨n, drain, hrun, hin', hworks', -⟩ := answers_message hphase hworks hin
    obtain ⟨m, drain', events, hrest, hevents⟩ :=
      ih (s := { s with drain }) hphase hworks' hin'
    refine ⟨n + m, drain', s.events (.replicate n .tcp) ++ events, ?_, ?_⟩
    · rw [List.replicate_add, Duplex.run, List.foldl_append]
      change (s.run _).run _ = _
      rw [hrun, hrest]
    · rw [List.replicate_add, events_append, hrun, hevents, List.append_assoc]

/-- Over a working channel the vsock task takes a message that is no admitted turn, shows nothing,
and is back for the next. The TCP task is not touched. -/
theorem serves_message {msg : HostToGuest} {rest : List (Except ChannelError HostToGuest)}
    (hphase : s.serving = .receiving) (hidle : s.guest.inFlight = none)
    (hworks : s.guest.chan.WorksFromNow) (hin : s.guest.chan.inbox = .ok msg :: rest)
    (hnone : Gate.admitted s.guest.gated [gateCmd msg] = []) (now : Timestamp) :
    ∃ n guest, s.run (.replicate n (.vsock now)) = { s with guest } ∧
      s.events (.replicate n (.vsock now)) = [] ∧ guest.inFlight = none ∧
      guest.chan.WorksFromNow ∧ guest.chan.inbox = rest ∧
      guest.gated = Gate.step s.guest.gated (gateCmd msg) := by
  obtain ⟨g, phase, henter, hreturns, hidle', hchan, hgated⟩ :=
    enter_unadmitted (g := s.guest.received rest) hidle hnone now
  have htake : s.guest.serveMove now s.serving = (g, phase) := by
    rw [hphase, serveMove_receiving_message hin, henter]
  have hworks' : g.chan.WorksFromNow := by
    rw [hchan]
    exact hworks
  have hin' : g.chan.inbox = rest := by rw [hchan]; rfl
  -- One move without an answer, two with one.
  rcases hreturns with rfl | ⟨reply, rfl⟩
  · refine ⟨1, g, ?_, ?_, hidle', hworks', hin', hgated⟩
    · simp only [Duplex.run, List.replicate, List.foldl, Duplex.move, htake, ← hphase]
    · simp [List.replicate, Duplex.events, Duplex.shows, htake]
  · have hfinish : g.serveMove now (.replying reply) = (g.pushed reply, .receiving) :=
      finishSend_delivered hworks'.nextFate reply _
    refine ⟨2, g.pushed reply, ?_, ?_, hidle', hworks'.push reply, hin', hgated⟩
    · simp only [Duplex.run, List.replicate, List.foldl, Duplex.move, htake, hfinish, ← hphase]
    · simp [List.replicate, Duplex.events, Duplex.shows, htake, Duplex.move]

/-- Over a working channel the vsock task gets to start a turn, if one is admitted at all. -/
theorem exists_started {messages : List HostToGuest} (hphase : s.serving = .receiving)
    (hidle : s.guest.inFlight = none) (hworks : s.guest.chan.WorksFromNow)
    (hin : s.guest.chan.inbox = messages.map .ok)
    (hadmitted : Gate.admitted s.guest.gated (messages.map gateCmd) ≠ []) (now : Timestamp) :
    ∃ n t inFlight, s.events (.replicate n (.vsock now)) = [(.started t, inFlight)] := by
  induction messages generalizing s with
  | nil => exact absurd rfl hadmitted
  | cons msg rest ih =>
    by_cases hnone : Gate.admitted s.guest.gated [gateCmd msg] = []
    · obtain ⟨n, g, hrun, hquiet, hidle', hworks', hin', hgated⟩ :=
        serves_message hphase hidle hworks hin hnone now
      rw [List.map_cons, Gate.admitted_cons, hnone, List.nil_append, ← hgated] at hadmitted
      obtain ⟨m, t, inFlight, hevents⟩ :=
        ih (s := { s with guest := g }) hphase hidle' hworks' hin' hadmitted
      refine ⟨n + m, t, inFlight, ?_⟩
      rw [List.replicate_add, events_append, hrun, hquiet, hevents, List.nil_append]
    · -- The message is a turn, and the gate is open.
      cases msg with
      | runTurn t =>
        have hopen : s.guest.gated = false := by
          by_contra hshut
          rw [Bool.not_eq_false] at hshut
          simp [gateCmd, Gate.admitted, hshut] at hnone
        refine ⟨1, t, some t, ?_⟩
        have henter : s.guest.serveMove now .receiving =
            ({ s.guest.received (rest.map .ok) with inFlight := some t }, .starting t now) := by
          rw [serveMove_receiving_message hin]
          simp [Guest.enter, Guest.received, hidle, hopen]
        rw [List.replicate, List.replicate, Duplex.events, Duplex.shows, Duplex.move]
        simp only [hphase, henter]
        rfl
      | drainRequest | drainCancel | secrets | ping | pong => exact absurd rfl hnone

/-- What the handshake leaves behind. -/
theorem guest_after_handshake (version : GuestdVersion) (c : Connection) :
    let g := c.guest version
    (g.result .handshake = .ok .unit ∧ (g.after .handshake).inFlight = none ∧
      (g.after .handshake).gated = false ∧
      (g.after .handshake).chan.inbox = c.messages.map .ok ∧
      (g.after .handshake).chan.fates = c.fates) ∨
    (g.result .handshake = .error brokenPipe ∧ (g.after .handshake).inFlight = none ∧
      (g.after .handshake).chan.inbox = .ok (.secrets c.env) :: c.messages.map .ok) := by
  intro g
  by_cases hd : c.fates 0 = .delivered
  · refine .inl ?_
    have hcall := call_handshake_greeted (g := g) hd rfl
    unfold Guest.result Guest.after
    rw [hcall]
    exact ⟨rfl, rfl, rfl, rfl, rfl⟩
  · refine .inr ?_
    have hcall := call_handshake_unsent (g := g) hd
    unfold Guest.result Guest.after
    rw [hcall]
    exact ⟨rfl, rfl, rfl⟩

end Schedule

/-- Over a working channel the handshake succeeds and leaves an idle guest with an open gate. -/
theorem guest_after_handshake_works (version : GuestdVersion) (c : Connection)
    (h : c.fates = fun _ => .delivered) :
    let g := c.guest version
    g.result .handshake = .ok .unit ∧ (g.after .handshake).inFlight = none ∧
      (g.after .handshake).gated = false ∧
      (g.after .handshake).chan.inbox = c.messages.map .ok ∧
      (g.after .handshake).chan.WorksFromNow := by
  intro g
  have hcall := call_handshake_greeted (g := g) (congrFun h 0) rfl
  unfold Guest.result Guest.after
  rw [hcall]
  exact ⟨rfl, rfl, rfl, rfl, fun n _ => congrFun h n⟩

/-- The condition of `Idle`, in terms of messages. -/
theorem admitted_map_gateCmd {messages : List HostToGuest} :
    Gate.admitted false (messages.map gateCmd) = [] ↔
      ¬ ∃ before t after, messages = before ++ .runTurn t :: after ∧ shutAfter before = false := by
  rw [← not_iff_not, not_not, ← ne_eq, Gate.admitted_ne_nil_iff]
  constructor
  · rintro ⟨l₁, i, l₂, hmap, hopen⟩
    obtain ⟨before, rest, rfl, rfl, hrest⟩ := List.map_eq_append_iff.mp hmap
    obtain ⟨msg, after, rfl, hmsg, rfl⟩ := List.map_eq_cons_iff.mp hrest
    have hrun : msg = .runTurn i := by cases msg <;> simp [gateCmd] at hmsg ⊢; exact hmsg
    exact ⟨before, i, after, by rw [hrun], hopen⟩
  · rintro ⟨before, t, after, rfl, hopen⟩
    exact ⟨before.map gateCmd, t, after.map gateCmd, by simp [gateCmd], hopen⟩

/-- A TCP session without a `DrainRequest` starts out undrained. -/
theorem undrained_start (version : GuestdVersion) (vsock tcp : Connection)
    (h : ∀ d, .drainRequest d ∉ tcp.messages) : Undrained (.start version vsock tcp) := by
  have hphase : ∀ o, (Duplex.start version vsock tcp).answering ≠ .replying (.drainAck o) := by
    intro o
    simp only [Duplex.start]
    split <;> simp
  refine ⟨?_, hphase⟩
  intro d hd
  simp only [Duplex.start] at hd
  rcases guest_after_handshake version tcp with ⟨-, -, -, hin, -⟩ | ⟨-, -, hin⟩
  · rw [hin] at hd
    exact h d (by simpa using hd)
  · rw [hin] at hd
    exact h d (by simpa using hd)

/-- A vsock session that admits no turn starts out idle. -/
theorem idle_start (version : GuestdVersion) (vsock tcp : Connection)
    (h : Gate.admitted false (vsock.messages.map gateCmd) = []) :
    Idle (.start version vsock tcp) := by
  unfold Idle
  rcases guest_after_handshake version vsock with ⟨hok, hidle, hopen, hin, -⟩ | ⟨herror, hidle, -⟩
  · simp only [Duplex.start, hok, phaseAfter]
    exact ⟨hidle, vsock.messages, hin, by rw [hopen]; exact h⟩
  · simp only [Duplex.start, herror, phaseAfter]
    exact ⟨hidle, trivial⟩

/-- For every pair of sessions: the two channels agree under every schedule and whatever becomes of
the sends, if and only if no drain is requested on the TCP session or no turn of the vsock session
finds its gate open. -/
theorem drain_channels_agree_iff (version : GuestdVersion) (vsock tcp : Connection) :
    (∀ vsockFates tcpFates tasks,
      Agrees false ((Duplex.start version { vsock with fates := vsockFates }
        { tcp with fates := tcpFates }).events tasks)) ↔
      (∀ d, .drainRequest d ∉ tcp.messages) ∨
        ¬ ∃ before t after, vsock.messages = before ++ .runTurn t :: after ∧
          shutAfter before = false := by
  rw [← admitted_map_gateCmd]
  constructor
  · intro hagrees
    by_contra hnot
    simp only [not_or, not_forall, not_not] at hnot
    obtain ⟨⟨d, hd⟩, hadmitted⟩ := hnot
    obtain ⟨before, after, hmessages⟩ := List.mem_iff_append.mp hd
    -- With every send going through, the TCP task acknowledges, and then the vsock task starts.
    let works : ℕ → Fate := fun _ => .delivered
    let s := Duplex.start version { vsock with fates := works } { tcp with fates := works }
    obtain ⟨hserving, hidle, hopen, hin, hworks⟩ :=
      guest_after_handshake_works version { vsock with fates := works } rfl
    obtain ⟨hanswering, -, -, hin', hworks'⟩ :=
      guest_after_handshake_works version { tcp with fates := works } rfl
    have hreceiving : s.serving = .receiving := by
      simp only [s, Duplex.start, hserving, phaseAfter]
    have hreceiving' : s.answering = .receiving := by
      simp only [s, Duplex.start, hanswering]
      rfl
    have hsome : Gate.admitted s.guest.gated (vsock.messages.map gateCmd) ≠ [] := by
      have hopen' : s.guest.gated = false := hopen
      rw [hopen']
      exact hadmitted
    obtain ⟨n, drain, events, hrun, hevents⟩ :=
      exists_acked (s := s) hreceiving' hworks' (hin'.trans (by rw [← hmessages]))
    obtain ⟨m, t, inFlight, hstarted⟩ :=
      exists_started (s := { s with drain }) hreceiving hidle hworks hin hsome ⟨0⟩
    have hboth := hagrees works works (.replicate n .tcp ++ .replicate m (.vsock ⟨0⟩))
    rw [events_append] at hboth
    change Agrees false (s.events _ ++ (s.run _).events _) at hboth
    rw [hrun, hevents, hstarted, List.append_assoc] at hboth
    exact absurd (agrees_of_acked hboth).1 (by simp)
  · rintro (hundrained | hidle) vsockFates tcpFates tasks
    · refine agrees_of_not_acked ?_
      exact forall_events (Q := fun e => ∀ o, e.1 ≠ .acked o)
        (fun s task h => undrained_move task h)
        (fun s task e h hshown => undrained_shows task h hshown)
        (undrained_start version { vsock with fates := vsockFates }
          { tcp with fates := tcpFates } hundrained) tasks
    · refine agrees_of_idle ?_
      exact forall_events (Q := fun e => (∀ t, e.1 ≠ .started t) ∧ e.2 = none)
        (fun s task h => idle_move task h)
        (fun s task e h hshown => ⟨idle_shows task h hshown, (idle_move task h).1⟩)
        (idle_start version { vsock with fates := vsockFates }
          { tcp with fates := tcpFates } hidle) tasks

/-- A drain over TCP, and then a turn over vsock: the TCP session has been told that new turns are
gated, and the turn starts. -/
theorem drain_channels_disagree :
    let connection (messages : List HostToGuest) : Connection :=
      { vmId := ⟨0⟩, env := [], messages, fates := fun _ => .delivered }
    let s := Duplex.start ⟨"0.1.0"⟩ (connection [.runTurn ⟨7⟩]) (connection [.drainRequest ⟨500⟩])
    ¬ ∀ tasks, Agrees false (s.events tasks) := by
  intro connection s hagrees
  have hboth := hagrees [.tcp, .tcp, .vsock ⟨0⟩]
  have hevents : s.events [.tcp, .tcp, .vsock ⟨0⟩] =
      [(.acked none, none), (.started ⟨7⟩, some ⟨7⟩)] := by decide
  rw [hevents] at hboth
  exact absurd hboth.2.1 (by simp)

end Sleepwalk.Guestd
