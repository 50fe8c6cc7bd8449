import Sleepwalk.Guestd.Conservation
import Sleepwalk.Hostd.Quiesce

/-!
# Host-side drain coordination

`DrainCoordinator` folds the signals of one drain attempt into a verdict (`hostd::drain`). It
reads the guest's transcript with arbitrary delay, so it always decides on a prefix of what the
guest has emitted.

`quiescent_verdict_sound` composes it with a guest over a reliable FIFO channel: a `Quiescent`
verdict on any such prefix means that the guest is gated and idle now, however far ahead of the
prefix it is, and stays so until its gate is opened.
-/

namespace Sleepwalk.Hostd

open Proto Guestd

/-- The outcome of a drain attempt. -/
inductive DrainVerdict where
  /-- All three quiescence layers are quiet. -/
  | quiescent
  /-- Not yet quiescent, with the turn that holds out. -/
  | busy (inFlight : Option TurnId)
deriving DecidableEq, Repr

/-- Folds the signals of one drain attempt into a quiescence verdict. -/
structure DrainCoordinator (α : Type) where
  detector : QuiescenceDetector α

/-- One signal of a drain attempt. -/
inductive Observation (α : Type) where
  /-- A message received from the guest. -/
  | guest (msg : GuestToHost)
  /-- An infra sampling tick. -/
  | infra (cpuPct : α) (queuesQuiet : Bool)
  /-- A report of the storage watermark. -/
  | storage (caughtUp : Bool)

/-- Fold one guest message into the app layer. -/
def AppLayer.observe (a : AppLayer) : GuestToHost → AppLayer
  | .turnStarted turnId _ => a.turnStarted turnId
  | .turnEnded _ _ => a.turnEnded
  | .drainAck inFlight => a.drainAcked inFlight
  | .hello _ _ | .resumed _ | .ping | .pong => a

namespace DrainCoordinator

variable {α : Type}

/-- A coordinator for a fresh drain: all layers start active. -/
def new (infra : InfraThresholds α) : DrainCoordinator α := { detector := .new infra }

/-- Fold a message received from the guest into the app layer. -/
def observeGuest (c : DrainCoordinator α) (msg : GuestToHost) : DrainCoordinator α :=
  { detector := { c.detector with app := c.detector.app.observe msg } }

/-- Record one infra sampling tick. -/
def observeInfra (c : DrainCoordinator α) (cpuPct : α) (queuesQuiet : Bool) : DrainCoordinator α :=
  { detector := { c.detector with infra := c.detector.infra.record cpuPct queuesQuiet } }

/-- Record whether the workspace sync has caught up. -/
def observeStorage (c : DrainCoordinator α) (caughtUp : Bool) : DrainCoordinator α :=
  { detector := { c.detector with storage := c.detector.storage.setCaughtUp caughtUp } }

/-- The verdict: `quiescent` iff every layer is quiet, else the app layer's hold-out turn. -/
def verdict [LT α] [DecidableLT α] (c : DrainCoordinator α) : DrainVerdict :=
  if c.detector.isQuiescent then .quiescent else .busy c.detector.app.inFlight

/-- Fold one signal, whatever its source. -/
def observe (c : DrainCoordinator α) : Observation α → DrainCoordinator α
  | .guest msg => c.observeGuest msg
  | .infra cpuPct queuesQuiet => c.observeInfra cpuPct queuesQuiet
  | .storage caughtUp => c.observeStorage caughtUp

end DrainCoordinator

/-- The guest messages among the signals of a drain attempt, in order. -/
def guestMessages {α : Type} (signals : List (Observation α)) : List GuestToHost :=
  signals.filterMap fun
    | .guest msg => some msg
    | _ => none

/-! ## The host's view of the app layer -/

/-- The app layer of a fresh coordinator that has read these guest messages. -/
def hostView (transcript : List GuestToHost) : AppLayer := transcript.foldl AppLayer.observe .new

theorem hostView_append (l₁ l₂ : List GuestToHost) :
    hostView (l₁ ++ l₂) = l₂.foldl AppLayer.observe (hostView l₁) := List.foldl_append

/-- Infra and storage signals do not touch the app layer. -/
theorem foldl_observe_app {α : Type} (c : DrainCoordinator α) (signals : List (Observation α)) :
    (signals.foldl DrainCoordinator.observe c).detector.app
      = (guestMessages signals).foldl AppLayer.observe c.detector.app := by
  induction signals generalizing c with
  | nil => rfl
  | cons s signals ih =>
    rw [List.foldl_cons, ih]
    cases s <;> rfl

/-- A `quiescent` verdict means in particular that the host's view of the app layer is quiet. -/
theorem isQuiet_of_verdict {α : Type} [LT α] [DecidableLT α] {infra : InfraThresholds α}
    {signals : List (Observation α)}
    (h : (signals.foldl DrainCoordinator.observe (.new infra)).verdict = .quiescent) :
    (hostView (guestMessages signals)).isQuiet = true := by
  have hquiet : (signals.foldl DrainCoordinator.observe (.new infra)).detector.isQuiescent := by
    by_contra hbusy
    simp [DrainCoordinator.verdict, hbusy] at h
  have happ := foldl_observe_app (.new infra) signals
  simp only [QuiescenceDetector.isQuiescent, QuiescenceDetector.report,
    QuiescenceReport.isQuiescent, Bool.and_eq_true] at hquiet
  rw [happ] at hquiet
  exact hquiet.1.1

/-- Messages that are neither turn markers nor acks leave the view alone. -/
theorem hostView_append_neutral (transcript : List GuestToHost) {sent : List GuestToHost}
    (h : ∀ msg ∈ sent, Neutral msg) : hostView (transcript ++ sent) = hostView transcript := by
  rw [hostView_append]
  generalize hostView transcript = a
  induction sent with
  | nil => rfl
  | cons msg sent ih =>
    have hmsg : a.observe msg = a := by
      have hneutral := h msg (by simp)
      cases msg <;> first | rfl | exact absurd hneutral id
    rw [List.foldl_cons, hmsg]
    exact ih fun m hm => h m (by simp [hm])

/-! ## The host is behind, never ahead -/

section Behind

variable {g g' : Guest FatedChannel} {op : GuestOp} {r : Except GuestError Reply}

/-- A native call: anything but the report of a turn that a wrapped process started by itself. -/
def Native (op : GuestOp) : Prop := ∀ now, op ≠ .beginObservedTurn now

/-- Behind a closed gate a native call over a working channel puts neutral messages on the wire,
acks a drain, or ends the turn in flight. -/
theorem closed_effect (h : Effect op r g g') (hgate : g.gated = true) (hnative : Native op)
    (hworks : g.chan.WorksFromNow) :
    (∃ sent, g'.chan.wire = g.chan.wire ++ sent ∧ (∀ msg ∈ sent, Neutral msg) ∧
      g'.inFlight = g.inFlight) ∨
    (g'.chan.wire = g.chan.wire ++ [.drainAck g.inFlight] ∧ g'.inFlight = g.inFlight) ∨
    ∃ t now, g'.chan.wire = g.chan.wire ++ [.turnEnded t now] ∧ g'.inFlight = none := by
  have hpush : ∀ msg, (g.chan.push msg).wire = g.chan.wire ++ [msg] := by
    intro msg
    rw [FatedChannel.wire, FatedChannel.push_log, onWire_append_singleton, hworks.nextFate]
    rfl
  cases h with
  | idle chan secrets sent hfates hlog hsent hentry =>
    refine Or.inl ⟨onWire sent, ?_, ?_, rfl⟩
    · simp [FatedChannel.wire, hlog, onWire]
    · intro msg hmsg
      obtain ⟨e, he, rfl⟩ := List.mem_map.mp hmsg
      exact hsent e (List.mem_of_mem_filter he)
  | closeGate d now => exact Or.inr (Or.inl ⟨hpush _, rfl⟩)
  | cancel now | queue hidle hopen hentry => exact Or.inl ⟨[], by simp, by simp, rfl⟩
  | resumed now => exact Or.inl ⟨[.resumed now], hpush _, by simp [Neutral], rfl⟩
  | ended t now hbusy hfate => exact Or.inr (Or.inr ⟨t, now, hpush _, rfl⟩)
  | endFailed t now hbusy hfate => exact absurd hworks.nextFate hfate
  -- Every remaining call needs an open gate or is not native.
  | start now hidle hop hentry =>
    rcases hop with ⟨-, hopen⟩ | hobserved
    · simp [hgate] at hopen
    · exact absurd hobserved (hnative now)
  | replay now hidle hopen hqueued hentry => simp [hgate] at hopen
  | startFailed t now hidle hopen hfate => simp [hgate] at hopen
  | finishFailed t now hidle hopen hfate hfate' => simp [hgate] at hopen
  | ran t now hidle hopen hfate hfate' => simp [hgate] at hopen

/-- Whatever prefix of `transcript` the host has read, a quiet view means an idle guest. -/
def HostBehind (transcript : List GuestToHost) (g : Guest FatedChannel) : Prop :=
  ∀ p, p <+: transcript → (hostView p).isQuiet = true → g.inFlight = none

/-- A prefix of an extended transcript is a prefix of the transcript, or goes beyond it. -/
theorem prefix_append_cases {α : Type} {p l₁ l₂ : List α} (h : p <+: l₁ ++ l₂) :
    p <+: l₁ ∨ ∃ q, q <+: l₂ ∧ p = l₁ ++ q := by
  obtain ⟨rest, hrest⟩ := h
  rcases List.append_eq_append_iff.mp hrest with ⟨q, hl₁, -⟩ | ⟨q, hp, hl₂⟩
  · exact Or.inl ⟨q, hl₁.symm⟩
  · exact Or.inr ⟨q, ⟨rest, hl₂.symm⟩, hp⟩

/-- Behind a closed gate a native call extends the wire such that the host stays behind, and lets
an idle guest idle without announcing a turn. -/
theorem closed_after (hgate : g.gated = true) (hnative : Native op)
    (hworks : g.chan.WorksFromNow) (transcript : List GuestToHost)
    (hbehind : HostBehind transcript g) :
    ∃ sent, (g.after op).chan.wire = g.chan.wire ++ sent ∧
      HostBehind (transcript ++ sent) (g.after op) ∧
      (g.inFlight = none → (g.after op).inFlight = none) ∧
      ∀ t ts, .turnStarted t ts ∉ sent := by
  have hcore : Native op.core := by
    intro now hop
    have hself := GuestOp.core_eq_self op (by simp [hop])
    exact hnative now (hself.symm.trans hop)
  -- The call sends no ack and keeps the turn, sends one ack, or ends the turn.
  rcases closed_effect (call_effect_after (g := g) op) hgate hcore hworks with
    ⟨sent, hwire, hsent, hsame⟩ | ⟨hwire, hsame⟩ | ⟨t, now, hwire, hidle⟩
  · refine ⟨sent, hwire, ?_, fun h => hsame.trans h, fun t ts hmem => hsent _ hmem⟩
    intro p hp hquiet
    rw [hsame]
    rcases prefix_append_cases hp with hold | ⟨q, hq, rfl⟩
    · exact hbehind p hold hquiet
    · have hneutral := hostView_append_neutral transcript fun m hm => hsent m (hq.subset hm)
      rw [hneutral] at hquiet
      exact hbehind transcript (List.prefix_refl _) hquiet
  · refine ⟨_, hwire, ?_, fun h => hsame.trans h, by simp⟩
    intro p hp hquiet
    rw [hsame]
    rcases List.prefix_concat_iff.mp hp with rfl | hold
    · -- The view right after an ack is what the ack reports.
      rw [hostView_append] at hquiet
      simpa [AppLayer.observe, AppLayer.drainAcked, AppLayer.isQuiet] using hquiet
    · exact hbehind p hold hquiet
  · exact ⟨_, hwire, fun p _ _ => hidle, fun _ => hidle, by simp⟩

/-- `closed_after` for a whole run. -/
theorem closed_run {ops : List GuestOp} (hgate : g.gated = true)
    (hnative : ∀ op ∈ ops, Native op) (hshut : NeverReopens g ops)
    (hworks : g.chan.WorksFromNow) (transcript : List GuestToHost)
    (hbehind : HostBehind transcript g) :
    ∃ sent, (g.run ops).chan.wire = g.chan.wire ++ sent ∧
      HostBehind (transcript ++ sent) (g.run ops) ∧
      (g.inFlight = none → (g.run ops).inFlight = none ∧ ∀ t ts, .turnStarted t ts ∉ sent) := by
  induction ops generalizing g transcript with
  | nil => exact ⟨[], by simp, by simpa using hbehind, fun h => ⟨h, by simp⟩⟩
  | cons op ops ih =>
    obtain ⟨sent, hwire, hbehind', hidle, hquiet⟩ :=
      closed_after hgate (hnative op (by simp)) hworks transcript hbehind
    obtain ⟨sent', hwire', hbehind'', hidle'⟩ :=
      ih (gated_after hgate hshut.1) (fun o ho => hnative o (by simp [ho])) hshut.2
        (worksFromNow_after hworks op) _ hbehind'
    refine ⟨sent ++ sent', ?_, ?_, ?_⟩
    · rw [Guest.run_cons, hwire', hwire, List.append_assoc]
    · rw [← List.append_assoc]
      exact hbehind''
    · intro h
      obtain ⟨hdone, hquiet'⟩ := hidle' (hidle h)
      refine ⟨hdone, ?_⟩
      intro t ts hmem
      rcases List.mem_append.mp hmem with hmem | hmem
      · exact hquiet t ts hmem
      · exact hquiet' t ts hmem

end Behind

/-! ## The verdict -/

/-- A fresh guest on a channel that never fails. -/
def reliableGuest (vmId : VmId) (version : GuestdVersion)
    (inbox : List (Except ChannelError HostToGuest)) : Guest FatedChannel :=
  .new vmId version (.fresh inbox fun _ => .delivered)

/-- A guest serves a drain request somewhere in its run, and goes on with native calls of which
none opens its gate. A fresh coordinator reads any prefix of what the guest emitted from that ack
on, interleaved with any infra and storage signals. If its verdict is `quiescent`, the guest is
gated and idle now, and no native call starts a turn until the gate is opened. -/
theorem quiescent_verdict_sound {α : Type} [LT α] [DecidableLT α] (vmId : VmId)
    (version : GuestdVersion) (inbox : List (Except ChannelError HostToGuest))
    (before after : List GuestOp) (d : Duration) (now : Timestamp) (infra : InfraThresholds α)
    (signals : List (Observation α)) :
    let served := (reliableGuest vmId version inbox).run before
    let drained := served.after (.handle (.drainRequest d) now)
    let current := drained.run after
    (∀ op ∈ after, Native op) → NeverReopens drained after →
    guestMessages signals <+: current.chan.wire.drop served.chan.wire.length →
    (signals.foldl DrainCoordinator.observe (.new infra)).verdict = .quiescent →
    current.gated = true ∧ current.inFlight = none ∧
      ∀ later, (∀ op ∈ later, Native op) → NeverReopens current later →
        (current.run later).inFlight = none ∧
          ∀ t ts, .turnStarted t ts ∉ (current.run later).chan.wire.drop
            current.chan.wire.length := by
  intro served drained current hnative hshut hprefix hverdict
  have hserved : served.chan.WorksFromNow := worksFromNow_run (fun _ _ => rfl) before
  have hdrained : drained = { served.pushed (.drainAck served.inFlight) with gated := true } :=
    Guest.after_drainRequest served d now
  have hclosed : drained.gated = true := by rw [hdrained]
  have hack : drained.chan.wire = served.chan.wire ++ [.drainAck served.inFlight] := by
    rw [hdrained, FatedChannel.wire]
    show onWire (served.chan.push _).log = _
    rw [FatedChannel.push_log, onWire_append_singleton, hserved.nextFate]
    rfl
  -- Having read nothing but the ack, the host is behind the guest that sent it.
  have hbehind : HostBehind [.drainAck served.inFlight] drained := by
    intro p hp hquiet
    rw [hdrained]
    show served.inFlight = none
    rcases List.prefix_cons_iff.mp hp with rfl | ⟨rest, rfl, hrest⟩
    · simp [hostView, AppLayer.new, AppLayer.isQuiet] at hquiet
    · rw [List.prefix_nil.mp hrest] at hquiet
      simpa [hostView, AppLayer.observe, AppLayer.drainAcked, AppLayer.isQuiet] using hquiet
  obtain ⟨sent, hwire, hbehind', -⟩ :=
    closed_run hclosed hnative hshut (worksFromNow_after hserved _) _ hbehind
  have hsuffix : current.chan.wire.drop served.chan.wire.length
      = [.drainAck served.inFlight] ++ sent := by
    rw [show current.chan.wire = _ from hwire, hack, List.append_assoc, List.drop_left]
  rw [hsuffix] at hprefix
  have hgate : current.gated = true := gated_run hclosed hshut
  have hidle : current.inFlight = none := hbehind' _ hprefix (isQuiet_of_verdict hverdict)
  refine ⟨hgate, hidle, ?_⟩
  intro later hlater hstill
  have hworks : current.chan.WorksFromNow :=
    worksFromNow_run (worksFromNow_after hserved _) after
  obtain ⟨sent', hwire', -, hquiet⟩ := closed_run hgate hlater hstill hworks []
    (fun _ _ _ => hidle)
  obtain ⟨hdone, hnone⟩ := hquiet hidle
  refine ⟨hdone, ?_⟩
  rw [hwire', List.drop_left]
  exact hnone

/-- A turn that ends after the drain request: with its end and three quiet samples read, the
verdict is `quiescent`. -/
theorem quiescent_verdict_sound_turn_ended :
    let current := ((reliableGuest ⟨0⟩ ⟨"0.1.0"⟩ []).run [.startTurn ⟨1⟩]).run
      [.handle (.drainRequest ⟨500⟩) ⟨2⟩, .endTurn ⟨3⟩]
    current.gated = true ∧ current.inFlight = none := by
  have hnative : ∀ op ∈ [GuestOp.endTurn ⟨3⟩], Native op := by simp [Native]
  have hsound := quiescent_verdict_sound (α := ℕ) ⟨0⟩ ⟨"0.1.0"⟩ [] [.startTurn ⟨1⟩] [.endTurn ⟨3⟩]
    ⟨500⟩ ⟨2⟩ { cpuPct := 5, samples := 1 }
    [.storage true, .guest (.drainAck (some .FIRST)), .infra 1 true, .guest (.turnEnded .FIRST ⟨3⟩)]
  obtain ⟨hgate, hidle, -⟩ :=
    hsound hnative (by simp [NeverReopens, Reopens]) (by decide) (by decide)
  exact ⟨hgate, hidle⟩

end Sleepwalk.Hostd
