import Sleepwalk.Guestd.Calls
import Sleepwalk.Lib.Bracket

/-!
# The race rule on the wire

What the host can read off the guest's transcript, for every sequence of calls and every pattern
of send outcomes:

* `race_rule_ack_none` — when `DrainAck { in_flight: None }` is emitted, every `TurnStarted` that
  reached the wire has been followed by its `TurnEnded`;
* `race_rule_ack_exact` — over a channel that never fails, the acks name exactly the open turn
  and the turn markers alternate with matching ids;
* `race_rule_gate` — while the gate stays closed, only observed turns are announced.

Turn markers are read as the brackets of `Bracket`.
-/

namespace Sleepwalk.Guestd

open Proto Bracket

/-- The bracket mark of a message, if it is a turn marker. -/
def turnMark : GuestToHost → Option (Mark TurnId)
  | .turnStarted t _ => some (.start t)
  | .turnEnded t _ => some (.stop t)
  | _ => none

/-- The turn markers of a transcript, in order. -/
def marks (transcript : List GuestToHost) : List (Mark TurnId) := transcript.filterMap turnMark

@[simp]
theorem marks_nil : marks [] = [] := rfl

@[simp]
theorem marks_append (l₁ l₂ : List GuestToHost) : marks (l₁ ++ l₂) = marks l₁ ++ marks l₂ :=
  List.filterMap_append

/-- A drain ack is no turn marker, and no neutral message is one. -/
theorem turnMark_neutral {msg : GuestToHost} (h : Neutral msg) : turnMark msg = none := by
  cases msg <;> first | rfl | exact absurd h id

/-- A log of sends extended by sends that are no turn markers shows the same markers. -/
theorem marks_onWire_append_unmarked (log sent : List (GuestToHost × Fate))
    (h : ∀ e ∈ sent, turnMark e.1 = none) :
    marks (onWire (log ++ sent)) = marks (onWire log) := by
  have hnone : marks (onWire sent) = [] := by
    unfold marks onWire
    rw [List.filterMap_eq_nil_iff]
    intro msg hmsg
    obtain ⟨e, he, rfl⟩ := List.mem_map.mp hmsg
    exact h e (List.mem_of_mem_filter he)
  have hsplit : onWire (log ++ sent) = onWire log ++ onWire sent := by simp [onWire]
  rw [hsplit, marks_append, hnone, List.append_nil]

/-! ## What one call emits -/

namespace Guest

/-- The sends one call attempts. -/
def emitted (g : Guest FatedChannel) (op : GuestOp) : List (GuestToHost × Fate) :=
  (g.after op).chan.log.drop g.chan.log.length

end Guest

variable {g g' : Guest FatedChannel} {op : GuestOp} {r : Except GuestError Reply}

/-- A call only extends the log. What it adds contains no drain ack, or is one drain ack that
reports the turn in flight. -/
theorem Effect.log (h : Effect op r g g') :
    ∃ sent, g'.chan.log = g.chan.log ++ sent ∧
      ((∀ e ∈ sent, ∀ o, e.1 ≠ .drainAck o) ∨ ∃ f, sent = [(.drainAck g.inFlight, f)]) := by
  cases h with
  | idle chan secrets sent hfates hlog hsent hentry =>
    refine ⟨sent, hlog, Or.inl ?_⟩
    intro e he o ho
    have hneutral := hsent e he
    rw [ho] at hneutral
    exact hneutral
  | closeGate d now => exact ⟨[(.drainAck g.inFlight, g.chan.nextFate)], rfl, Or.inr ⟨_, rfl⟩⟩
  | cancel now => exact ⟨[], by simp, Or.inl (by simp)⟩
  | resumed now => exact ⟨[(.resumed now, g.chan.nextFate)], rfl, Or.inl (by simp)⟩
  | queue hidle hgate hentry => exact ⟨[], by simp, Or.inl (by simp)⟩
  | start now hidle hop hentry =>
    exact ⟨[(.turnStarted g.nextTurn now, g.chan.nextFate)], rfl, Or.inl (by simp)⟩
  | replay now hidle hgate hqueued hentry =>
    exact ⟨[(.turnStarted g.nextTurn now, g.chan.nextFate)], rfl, Or.inl (by simp)⟩
  | startFailed t now hidle hgate hfate =>
    exact ⟨[(.turnStarted t now, g.chan.nextFate)], rfl, Or.inl (by simp)⟩
  | finishFailed t now hidle hgate hfate hfate' | ran t now hidle hgate hfate hfate' =>
    refine ⟨[(.turnStarted t now, g.chan.nextFate),
      (.turnEnded t now, (g.pushed (.turnStarted t now)).chan.nextFate)], ?_, Or.inl (by simp)⟩
    simp [Guest.pushed]
  | ended t now hbusy hfate | endFailed t now hbusy hfate =>
    exact ⟨[(.turnEnded t now, g.chan.nextFate)], rfl, Or.inl (by simp)⟩

/-- A call extends the log by what it emits. -/
theorem after_log (g : Guest FatedChannel) (op : GuestOp) :
    (g.after op).chan.log = g.chan.log ++ g.emitted op := by
  obtain ⟨sent, hlog, -⟩ := (call_effect_after (g := g) op).log
  simp [Guest.emitted, hlog]

/-- Every drain ack in the log, seen with the log before it, satisfies `P`. -/
def AcksSatisfy (P : List (GuestToHost × Fate) → Option TurnId → Prop)
    (log : List (GuestToHost × Fate)) : Prop :=
  ∀ pre o f post, log = pre ++ (.drainAck o, f) :: post → P pre o

/-- Acks keep satisfying `P` if the turn in flight satisfies it for the log so far. -/
theorem Effect.acksSatisfy {P : List (GuestToHost × Fate) → Option TurnId → Prop}
    (h : Effect op r g g') (hP : P g.chan.log g.inFlight) (hacks : AcksSatisfy P g.chan.log) :
    AcksSatisfy P g'.chan.log := by
  obtain ⟨sent, hlog, hsent⟩ := h.log
  intro pre o f post hsplit
  rw [hlog] at hsplit
  -- The ack is an old one, or the call has just emitted it.
  rcases append_eq_split hsplit with ⟨post', -, hold⟩ | ⟨pre', hpre, hnew⟩
  · exact hacks pre o f post' hold
  · rcases hsent with hno | ⟨f', hone⟩
    · exact absurd rfl (hno (.drainAck o, f) (by simp [hnew]) o)
    · -- The one ack emitted now reports the turn in flight.
      rw [hone] at hnew
      obtain ⟨hnil, hack, -⟩ := singleton_eq_split hnew
      have ho : g.inFlight = o := by simpa using congrArg Prod.fst hack
      rw [hpre, hnil, List.append_nil, ← ho]
      exact hP

/-! ## Settled transcripts -/

section Settled

/-- The markers on the wire after one more send. -/
theorem marks_wire_pushed (g : Guest FatedChannel) (msg : GuestToHost) :
    marks (g.pushed msg).chan.wire =
      if g.chan.nextFate.reached then marks g.chan.wire ++ marks [msg] else marks g.chan.wire := by
  simp only [Guest.pushed, FatedChannel.wire, FatedChannel.push_log, onWire_append_singleton]
  split <;> simp

/-- A message that is no turn marker leaves the markers on the wire alone. -/
theorem marks_wire_pushed_unmarked (msg : GuestToHost) (h : turnMark msg = none) :
    marks (g.pushed msg).chan.wire = marks g.chan.wire := by
  rw [marks_wire_pushed]
  simp [marks, h]

/-- Announcing a turn on a settled wire leaves at most that turn unsettled. -/
theorem settledBut_pushed_started (h : Settled (marks g.chan.wire)) (t : TurnId)
    (now : Timestamp) :
    SettledBut (some t) (marks (g.pushed (.turnStarted t now)).chan.wire) := by
  rw [marks_wire_pushed]
  split
  · exact h.append_start t
  · exact h.but (some t)

/-- Announcing the end of the unsettled turn settles the wire if the send goes through. -/
theorem settled_pushed_ended {t : TurnId} (h : SettledBut (some t) (marks g.chan.wire))
    (hfate : g.chan.nextFate = .delivered) (now : Timestamp) :
    Settled (marks (g.pushed (.turnEnded t now)).chan.wire) := by
  rw [marks_wire_pushed, hfate]
  exact h.append_stop

/-- Announcing the end of a turn unsettles nothing, whatever becomes of the send. -/
theorem settledBut_pushed_ended {o : Option TurnId} (h : SettledBut o (marks g.chan.wire))
    (t : TurnId) (now : Timestamp) :
    SettledBut o (marks (g.pushed (.turnEnded t now)).chan.wire) := by
  rw [marks_wire_pushed]
  split
  · exact h.append_any_stop t
  · exact h

/-- Whatever became of the sends, the only turn on the wire without its end is the one in
flight. -/
def WireSettled (g : Guest FatedChannel) : Prop := SettledBut g.inFlight (marks g.chan.wire)

theorem WireSettled.settled (h : WireSettled g) (hidle : g.inFlight = none) :
    Settled (marks g.chan.wire) := by
  unfold WireSettled at h
  rwa [hidle] at h

/-- What moves neither the turn in flight nor the markers keeps the wire settled. -/
theorem WireSettled.of_marks_eq (hw : WireSettled g) (hbusy : g'.inFlight = g.inFlight)
    (hmarks : marks g'.chan.wire = marks g.chan.wire) : WireSettled g' := by
  unfold WireSettled
  rw [hbusy, hmarks]
  exact hw

/-- Every call keeps the wire settled but for the turn in flight. -/
theorem Effect.wireSettled (h : Effect op r g g') (hw : WireSettled g) : WireSettled g' := by
  cases h with
  | idle chan secrets sent hfates hlog hsent hentry =>
    have hmarks : marks chan.wire = marks g.chan.wire := by
      rw [FatedChannel.wire, hlog]
      exact marks_onWire_append_unmarked _ _ fun e he => turnMark_neutral (hsent e he)
    exact hw.of_marks_eq rfl hmarks
  | closeGate d now =>
    exact hw.of_marks_eq rfl (marks_wire_pushed_unmarked (.drainAck g.inFlight) rfl)
  | resumed now => exact hw.of_marks_eq rfl (marks_wire_pushed_unmarked (.resumed now) rfl)
  | cancel now | queue hidle hgate hentry => exact hw
  -- What is announced is the turn that is in flight from now on, even if the send fails.
  | start now hidle hop hentry => exact settledBut_pushed_started (hw.settled hidle) _ now
  | replay now hidle hgate hqueued hentry =>
    exact settledBut_pushed_started (g := g) (hw.settled hidle) _ now
  | startFailed t now hidle hgate hfate =>
    exact settledBut_pushed_started (hw.settled hidle) t now
  | finishFailed t now hidle hgate hfate hfate' =>
    exact settledBut_pushed_ended (settledBut_pushed_started (hw.settled hidle) t now) t now
  | ran t now hidle hgate hfate hfate' =>
    have hbusy := settledBut_pushed_started (hw.settled hidle) t now
    have hdone := settled_pushed_ended hbusy hfate' now
    exact hdone.but g.inFlight
  | ended t now hbusy hfate =>
    unfold WireSettled at hw
    rw [hbusy] at hw
    exact settled_pushed_ended hw hfate now
  | endFailed t now hbusy hfate => exact settledBut_pushed_ended hw t now

end Settled

/-! ## Exact transcripts -/

section Exact

/-- Every attempted send went through. -/
def AllDelivered (log : List (GuestToHost × Fate)) : Prop := ∀ e ∈ log, e.2 = .delivered

/-- If every send went through, the markers on the wire alternate and leave exactly the turn in
flight open. -/
def WireExact (g : Guest FatedChannel) : Prop :=
  AllDelivered g.chan.log → track (marks g.chan.wire) = some g.inFlight

/-- A call after which everything was delivered delivered what it sent. -/
theorem AllDelivered.before {sent log : List (GuestToHost × Fate)}
    (h : AllDelivered (log ++ sent)) : AllDelivered log :=
  fun e he => h e (List.mem_append_left sent he)

/-- The last of a log of delivered sends was delivered. -/
theorem AllDelivered.last {log : List (GuestToHost × Fate)} {e : GuestToHost × Fate}
    (h : AllDelivered (log ++ [e])) : e.2 = .delivered := h e (by simp)

/-- What moves neither the turn in flight nor the markers keeps the transcript exact. -/
theorem WireExact.of_marks_eq {sent : List (GuestToHost × Fate)} (hw : WireExact g)
    (hlog : g'.chan.log = g.chan.log ++ sent) (hbusy : g'.inFlight = g.inFlight)
    (hmarks : marks g'.chan.wire = marks g.chan.wire) : WireExact g' := by
  intro hall
  rw [hlog] at hall
  rw [hbusy, hmarks]
  exact hw hall.before

/-- Announcing a turn over an exact transcript opens its bracket. -/
theorem track_pushed_started (hw : WireExact g) (hidle : g.inFlight = none) {t : TurnId}
    {now : Timestamp} (hall : AllDelivered (g.pushed (.turnStarted t now)).chan.log) :
    track (marks (g.pushed (.turnStarted t now)).chan.wire) = some (some t) := by
  have hbefore : track (marks g.chan.wire) = some none := by
    rw [← hidle]
    exact hw hall.before
  have hfate : g.chan.nextFate = .delivered := hall.last
  rw [marks_wire_pushed, hfate]
  exact track_append_start hbefore t

/-- Announcing the end of the open turn closes its bracket. -/
theorem track_pushed_ended {t : TurnId} {now : Timestamp}
    (hopen : track (marks g.chan.wire) = some (some t))
    (hall : AllDelivered (g.pushed (.turnEnded t now)).chan.log) :
    track (marks (g.pushed (.turnEnded t now)).chan.wire) = some none := by
  have hfate : g.chan.nextFate = .delivered := hall.last
  rw [marks_wire_pushed, hfate]
  exact track_append_stop hopen

/-- Every call keeps the transcript exact. -/
theorem Effect.wireExact (h : Effect op r g g') (hw : WireExact g) : WireExact g' := by
  cases h with
  | idle chan secrets sent hfates hlog hsent hentry =>
    refine hw.of_marks_eq hlog rfl ?_
    rw [FatedChannel.wire, hlog]
    exact marks_onWire_append_unmarked _ _ fun e he => turnMark_neutral (hsent e he)
  | closeGate d now =>
    exact hw.of_marks_eq rfl rfl (marks_wire_pushed_unmarked (.drainAck g.inFlight) rfl)
  | resumed now =>
    exact hw.of_marks_eq rfl rfl (marks_wire_pushed_unmarked (.resumed now) rfl)
  | cancel now | queue hidle hgate hentry => exact hw
  | start now hidle hop hentry => exact fun hall => track_pushed_started hw hidle hall
  | replay now hidle hgate hqueued hentry =>
    exact fun hall => track_pushed_started (g := g) hw hidle hall
  -- A send that fails is not delivered, so these say nothing.
  | startFailed t now hidle hgate hfate => exact fun hall => absurd hall.last hfate
  | finishFailed t now hidle hgate hfate hfate' => exact fun hall => absurd hall.last hfate'
  | ran t now hidle hgate hfate hfate' =>
    intro hall
    have hopen := track_pushed_started hw hidle (AllDelivered.before hall)
    have hdone := track_pushed_ended hopen hall
    rw [hdone]
    exact congrArg some hidle.symm
  | ended t now hbusy hfate =>
    intro hall
    have hopen : track (marks g.chan.wire) = some (some t) := by
      rw [← hbusy]
      exact hw (AllDelivered.before hall)
    exact track_pushed_ended hopen hall
  | endFailed t now hbusy hfate => exact fun hall => absurd hall.last hfate

end Exact

/-! ## The gate -/

section Gate

/-- Calls that open the gate: a handled `DrainCancel`, and a `resume` that succeeds. -/
def Reopens (g : Guest FatedChannel) (op : GuestOp) : Prop :=
  (∃ now, op = .handle .drainCancel now) ∨ ∃ now, op = .resume now ∧ g.result op = .ok .unit

/-- No call of a run opens the gate. -/
def NeverReopens : Guest FatedChannel → List GuestOp → Prop
  | _, [] => True
  | g, op :: ops => ¬ Reopens g op ∧ NeverReopens (g.after op) ops

/-- A closed gate opens only through a handled `DrainCancel` or a `resume` that succeeds. -/
theorem Effect.gated (h : Effect op r g g') (hgate : g.gated = true) :
    g'.gated = true ∨ (∃ now, op = .handle .drainCancel now) ∨
      ∃ now, op = .resume now ∧ r = .ok .unit := by
  cases h with
  | cancel now => exact Or.inr (Or.inl ⟨now, rfl⟩)
  | resumed now => exact Or.inr (Or.inr ⟨now, rfl, rfl⟩)
  | closeGate d now => exact Or.inl rfl
  | _ => exact Or.inl hgate

/-- Behind a closed gate only an observed turn is announced. -/
theorem Effect.started (h : Effect op r g g') (hgate : g.gated = true)
    {sent : List (GuestToHost × Fate)} (hlog : g'.chan.log = g.chan.log ++ sent) {t : TurnId}
    {ts : Timestamp} {f : Fate} (hmem : (.turnStarted t ts, f) ∈ sent) :
    ∃ now, op = .beginObservedTurn now := by
  -- Most calls send no start at all; those that do check the gate, but for the observed one.
  cases h with
  | idle chan secrets sent' hfates hlog' hsent hentry =>
    have hsame : sent = sent' := List.append_cancel_left (hlog.symm.trans hlog')
    exact absurd (hsent _ (hsame ▸ hmem)) id
  | closeGate d now =>
    have hsent : sent = [(.drainAck g.inFlight, g.chan.nextFate)] :=
      (List.append_cancel_left hlog).symm
    simp [hsent] at hmem
  | cancel now | queue hidle hopen hentry =>
    have hsent : sent = [] := by simpa using hlog
    simp [hsent] at hmem
  | resumed now =>
    have hsent : sent = [(.resumed now, g.chan.nextFate)] := (List.append_cancel_left hlog).symm
    simp [hsent] at hmem
  | start now hidle hop hentry =>
    rcases hop with ⟨-, hopen⟩ | hobserved
    · simp [hgate] at hopen
    · exact ⟨now, hobserved⟩
  | replay now hidle hopen hqueued hentry => simp [hgate] at hopen
  | startFailed t now hidle hopen hfate => simp [hgate] at hopen
  | finishFailed t now hidle hopen hfate hfate' => simp [hgate] at hopen
  | ran t now hidle hopen hfate hfate' => simp [hgate] at hopen
  | ended t now hbusy hfate =>
    have hsent : sent = [(.turnEnded t now, g.chan.nextFate)] :=
      (List.append_cancel_left hlog).symm
    simp [hsent] at hmem
  | endFailed t now hbusy hfate =>
    have hsent : sent = [(.turnEnded t now, g.chan.nextFate)] :=
      (List.append_cancel_left hlog).symm
    simp [hsent] at hmem

/-- A closed gate stays closed through a call that does not open it. -/
theorem gated_after (hgate : g.gated = true) (hshut : ¬ Reopens g op) :
    (g.after op).gated = true := by
  rcases (call_effect_after (g := g) op).gated hgate with h | ⟨now, hop⟩ | ⟨now, hop, hok⟩
  · exact h
  · have hself := GuestOp.core_eq_self op (by simp [hop])
    exact absurd (Or.inl ⟨now, hself.symm.trans hop⟩) hshut
  · have hself := GuestOp.core_eq_self op (by simp [hop])
    rw [hself] at hop hok
    exact absurd (Or.inr ⟨now, hop, hok⟩) hshut

/-- A closed gate stays closed through a run that does not open it. -/
theorem gated_run {ops : List GuestOp} (hgate : g.gated = true) (hshut : NeverReopens g ops) :
    (g.run ops).gated = true := by
  induction ops generalizing g with
  | nil => exact hgate
  | cons op ops ih => exact ih (gated_after hgate hshut.1) hshut.2

end Gate

/-! ## The race rule -/

/-- Every reachable transcript satisfies the settled and the exact reading, acks included. -/
theorem transcript_run (g : Guest FatedChannel) (ops : List GuestOp)
    (hlog : g.chan.log = []) (hidle : g.inFlight = none) :
    (WireSettled (g.run ops) ∧ WireExact (g.run ops)) ∧
      AcksSatisfy (fun pre o => SettledBut o (marks (onWire pre)) ∧
        (AllDelivered pre → track (marks (onWire pre)) = some o)) (g.run ops).chan.log := by
  -- The acks need both readings of the log before them, so all three go through one induction.
  refine Guest.run_induction (P := fun g => (WireSettled g ∧ WireExact g) ∧
    AcksSatisfy _ g.chan.log) ?_ ?_ ops
  · rintro g op ⟨⟨hsettled, hexact⟩, hacks⟩
    have heffect := call_effect_after (g := g) op
    exact ⟨⟨heffect.wireSettled hsettled, heffect.wireExact hexact⟩,
      heffect.acksSatisfy ⟨hsettled, hexact⟩ hacks⟩
  · have hwire : marks g.chan.wire = [] := by simp [FatedChannel.wire, hlog, onWire]
    refine ⟨⟨?_, ?_⟩, ?_⟩
    · unfold WireSettled
      rw [hwire]
      exact settledBut_nil _
    · intro _
      rw [hwire, hidle]
      rfl
    · intro pre o f post hsplit
      simp [hlog] at hsplit

/-- The race rule, for every run of a fresh guest over every channel:
a `DrainAck` of `None` is emitted only over a settled wire; if every send went through, each ack
names exactly the open turn and the markers alternate with matching ids; and from a handled drain
request on, as long as nothing opens the gate, only observed turns are announced. -/
theorem race_rule (vmId : VmId) (version : GuestdVersion)
    (inbox : List (Except ChannelError HostToGuest)) (fates : ℕ → Fate) (ops : List GuestOp) :
    let start := Guest.new vmId version (FatedChannel.fresh inbox fates)
    let log := (start.run ops).chan.log
    (∀ pre f post, log = pre ++ (.drainAck none, f) :: post → Settled (marks (onWire pre))) ∧
    (AllDelivered log →
      (∀ pre o f post, log = pre ++ (.drainAck o, f) :: post →
        o = openMark (marks (onWire pre))) ∧
      Alternates (marks (onWire log))) ∧
    (∀ before d now mid op after, ops = before ++ .handle (.drainRequest d) now :: mid ++
        op :: after →
      let drained := (start.run before).after (.handle (.drainRequest d) now)
      NeverReopens drained mid →
        ∀ t ts f, (.turnStarted t ts, f) ∈ (drained.run mid).emitted op →
          ∃ now', op = .beginObservedTurn now') := by
  intro start log
  obtain ⟨⟨-, hexact⟩, hacks⟩ := transcript_run start ops rfl rfl
  refine ⟨?_, ?_, ?_⟩
  · intro pre f post hsplit
    exact (hacks pre none f post hsplit).1
  · intro hall
    constructor
    · intro pre o f post hsplit
      have hpre : AllDelivered pre := by
        intro e he
        exact hall e (by rw [hsplit]; exact List.mem_append_left _ he)
      exact (openMark_of_track ((hacks pre o f post hsplit).2 hpre)).symm
    · unfold Alternates
      rw [show track (marks (onWire log)) = _ from hexact hall]
      rfl
  · intro before d now mid op after _ drained hshut t ts f hmem
    -- The drain closes the gate, and behind a closed gate only observed turns are announced.
    have hclosed : drained.gated = true := by
      rw [show drained = _ from Guest.after_drainRequest _ d now]
    have hgate : (drained.run mid).gated = true := gated_run hclosed hshut
    obtain ⟨now', hop⟩ := (call_effect_after op).started hgate (after_log _ op) hmem
    have hself := GuestOp.core_eq_self op (by simp [hop])
    exact ⟨now', hself.symm.trans hop⟩

end Sleepwalk.Guestd
