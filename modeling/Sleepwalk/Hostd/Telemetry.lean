import Sleepwalk.Hostd.StandDown

/-!
# Counting migrations

`hostd::telemetry` as far as migrations go, and what counts with it: `migrate_running`,
`migrate_source`, and the handler of `/migrate/send` in the daemon, which calls them. A counter is
the sum of what the metrics are told.

`migrate_running` counts its own failure where the pause, the snapshot or the transfer fails, and
the handler counts every failure it is given. So an attempt that fails while a registered VM is in
transit is counted twice, and nothing else is miscounted (`attempts_counted_iff`).
-/

namespace Sleepwalk.Hostd.Telemetry

open Exec Proto

/-! ## The metrics -/

/-- One migration's source-side timing. -/
structure SourceTiming where
  /-- Pause to snapshot written. -/
  snapshot : Duration
  /-- Snapshot written to transfer complete. -/
  transfer : Duration
  /-- Bytes in the memory snapshot. -/
  bytes : ℕ

/-- The metrics of migrations. -/
structure Metrics where
  /-- Migrations completed successfully. -/
  migrationsTotal : ℕ := 0
  /-- Migration attempts that failed. -/
  migrationFailuresTotal : ℕ := 0
  /-- The freeze windows. -/
  freezeWindows : List Duration := []
  /-- Cumulative snapshot bytes moved. -/
  snapshotBytesTotal : ℕ := 0

/-- Record a successful migration's source cost. -/
def migrationOk (freeze : Duration) (bytes : ℕ) (t : Metrics) : Metrics :=
  { t with
    migrationsTotal := t.migrationsTotal + 1
    freezeWindows := t.freezeWindows ++ [freeze]
    snapshotBytesTotal := t.snapshotBytesTotal + bytes }

/-- Record a failed migration attempt. -/
def migrationFailed (t : Metrics) : Metrics :=
  { t with migrationFailuresTotal := t.migrationFailuresTotal + 1 }

/-- Record the timing of a migration. -/
def SourceTiming.ok (timing : SourceTiming) : Metrics → Metrics :=
  migrationOk ⟨timing.snapshot.nanos + timing.transfer.nanos⟩ timing.bytes

/-- A computation of the source, with the metrics. -/
abbrev MeteredM (ε : Type) := ExceptT ε (StateM (SourceState × Metrics))

/-- Tell the metrics. -/
def record {ε : Type} (f : Metrics → Metrics) : MeteredM ε Unit := modify fun s => (s.1, f s.2)

@[simp]
theorem exec_record {ε : Type} (f : Metrics → Metrics) (s : SourceState) (t : Metrics) :
    exec (record f : MeteredM ε Unit) (s, t) = (.ok (), (s, f t)) := rfl

/-! ## Moving a registered VM -/

section Running

variable (parsers : Parsers) (src : Source) (timing : SourceTiming) (vm : RunningVm)

/-- `migrate_running` with what it tells the metrics. -/
def migrateRunning : MeteredM (Stop MigrateError) MigrateOutcome := do
  let connected ← attempt (outcome (connectRetry .noAttempt (src.dials vm)))
  match connected with
  | .error _ => return .stoodDown vm
  | .ok () =>
    let drained ← attempt (onFst (onLink (drainToQuiescence parsers src.peer)))
    match drained with
    | .error _ => return .stoodDown vm
    | .ok .busy => return .stoodDown vm
    | .ok .quiescent =>
      -- A failure to write the metadata tells the metrics nothing.
      onFst (writeMetadata src vm)
      let sent ← (attempt (onFst (snapshotAndSend src)) : MeteredM _ (Except MigrateError Unit))
      match sent with
      | .ok () =>
        record timing.ok
        onFst teardown
        return .moved
      | .error e =>
        record migrationFailed
        onFst teardown
        throw (.failed e)

/-- The pause, the snapshot or the transfer fails. -/
def Source.ShipFails : Prop :=
  ∃ e, src.pause = .error (.failed e) ∨ (src.pause = .ok () ∧ src.snapshot = .error (.failed e)) ∨
    (src.pause = .ok () ∧ src.snapshot = .ok () ∧ src.transfer = .error (.failed e))

/-- The VM's guest is reached and drains, its metadata is written, and the VM is not shipped. -/
structure LostInTransit : Prop where
  dial : Attempted (src.dials vm) (.ok ())
  drain : src.peer.Drains parsers
  metadata : src.Writes vm
  ship : Source.ShipFails src

/-- What the metrics are told, by the result. Only a VM lost in transit is a failure to them. -/
inductive Told (t : Metrics) : Except (Stop MigrateError) MigrateOutcome → Metrics → Prop where
  | moved (h : ¬ LostInTransit parsers src vm) : Told t (.ok .moved) (timing.ok t)
  | stoodDown (h : ¬ LostInTransit parsers src vm) : Told t (.ok (.stoodDown vm)) t
  | stuck (h : ¬ LostInTransit parsers src vm) : Told t (.error .stuck) t
  | unwritten {e : MigrateError} (h : ¬ LostInTransit parsers src vm) :
    Told t (.error (.failed e)) t
  | lost {e : MigrateError} (h : LostInTransit parsers src vm) :
    Told t (.error (.failed e)) (migrationFailed t)

variable {parsers src timing vm}

/-- Shipping fails where one of its operations does, and what fails earlier decides. -/
theorem shipFails_iff {s : SourceState} :
    Source.ShipFails src ↔ ∃ e s', exec (snapshotAndSend src) s = (.error (.failed e), s') := by
  have hexec : (exec (snapshotAndSend src) s).1 = (do src.pause; src.snapshot; src.transfer) := by
    rw [snapshotAndSend, exec_bind, exec_modify]
    dsimp only
    rw [exec_bind, exec_outcome]
    rcases src.pause with e | _
    · rfl
    rcases src.snapshot with e | _
    · rfl
    rcases src.transfer with e | _
    · rfl
    · rfl
  have hfails : (∃ e s', exec (snapshotAndSend src) s = (.error (.failed e), s')) ↔
      ∃ e, (exec (snapshotAndSend src) s).1 = .error (.failed e) := by
    constructor
    · rintro ⟨e, s', h⟩
      exact ⟨e, by rw [h]⟩
    · rintro ⟨e, h⟩
      exact ⟨e, _, Prod.ext h rfl⟩
  rw [hfails, hexec, Source.ShipFails]
  rcases src.pause with e | _
  · exact exists_congr fun e' => by simp [bind, Except.bind]
  rcases src.snapshot with e | _
  · exact exists_congr fun e' => by simp [bind, Except.bind]
  · exact exists_congr fun e' => by simp [bind, Except.bind]

/-- A migration does what it does without the metrics, and tells them this. -/
theorem told (t : Metrics) :
    ∃ r s t', exec (Hostd.migrateRunning parsers src vm) {} = (r, s) ∧
      exec (migrateRunning parsers src timing vm) ({}, t) = (r, (s, t')) ∧
      Told parsers src timing vm t r t' := by
  rw [Hostd.migrateRunning, migrateRunning]
  simp only [exec_bind, exec_attempt, exec_outcome]
  -- As far as the pause nothing is told, and the VM is not in transit.
  have hreached (h : LostInTransit parsers src vm) :
      connectRetry .noAttempt (src.dials vm) = .ok () :=
    (connectRetry_eq_iff _ (by simp)).mpr h.dial
  rcases hdial : connectRetry .noAttempt (src.dials vm) with (e | _) | _
  · refine ⟨_, _, _, rfl, rfl, .stoodDown fun h => ?_⟩
    cases hdial.symm.trans (hreached h)
  · refine ⟨_, _, _, rfl, rfl, .stuck fun h => ?_⟩
    cases hdial.symm.trans (hreached h)
  have hdial := (connectRetry_eq_iff _ (by simp)).mp hdial
  dsimp only
  obtain ⟨r, l, hexec, hdrain⟩ := drainRun parsers src.peer []
  rw [List.nil_append] at hexec
  have hdrained (h : LostInTransit parsers src vm) : r = .ok .quiescent :=
    hdrain.quiescent_iff.mpr h.drain
  simp only [exec_bind, exec_attempt, exec_onFst, exec_onLink, hexec]
  rcases r with (e | _) | _ | _
  · refine ⟨_, _, _, rfl, rfl, .stoodDown fun h => ?_⟩
    cases hdrained h
  · refine ⟨_, _, _, rfl, rfl, .stuck fun h => ?_⟩
    cases hdrained h
  · dsimp only
    simp only [exec_bind, exec_onFst]
    rcases exec_writeMetadata src vm { delivered := l } with
      ⟨hwrites, hwrite⟩ | ⟨hwrites, context, e, hwrite⟩
    · simp only [hwrite, exec_attempt, exec_onFst]
      have hship (h : LostInTransit parsers src vm) :
          ∃ e s', exec (snapshotAndSend src) { delivered := l } = (.error (.failed e), s') :=
        shipFails_iff.mp h.ship
      rcases hsent : exec (snapshotAndSend src) { delivered := l } with ⟨(e | _) | _, s⟩
      · have hlost : LostInTransit parsers src vm :=
          ⟨hdial, hdrain.quiescent_iff.mp rfl, hwrites, shipFails_iff.mpr ⟨e, s, hsent⟩⟩
        exact ⟨_, _, _, rfl, rfl, .lost hlost⟩
      · refine ⟨_, _, _, rfl, rfl, .stuck fun h => ?_⟩
        obtain ⟨e, s', hfails⟩ := hship h
        cases hsent.symm.trans hfails
      · refine ⟨_, _, _, rfl, rfl, .moved fun h => ?_⟩
        obtain ⟨e, s', hfails⟩ := hship h
        cases hsent.symm.trans hfails
    · simp only [hwrite]
      exact ⟨_, _, _, rfl, rfl, .unwritten fun h => hwrites h.metadata⟩
  · refine ⟨_, _, _, rfl, rfl, .stoodDown fun h => ?_⟩
    cases hdrained h

end Running

/-! ## Moving a VM of its own -/

/-- A failure of `migrate_source`. -/
inductive SourceError where
  /-- One that any migration can have. -/
  | migrate (e : MigrateError)
  /-- The guest did not reach quiescence before the drain deadline. -/
  | notQuiescent
deriving DecidableEq, Repr

/-- How the VM that `migrate_source` boots comes up. -/
structure Boot where
  /-- The work dir is made. -/
  mkdir : Except IoError Unit
  /-- Firecracker is launched. -/
  launch : Except IoError Unit
  /-- It takes a step of the configuration. -/
  configured : ConfigStep → Except (Stop MigrateError) Unit
  /-- It boots. -/
  boot : Except (Stop MigrateError) Unit

/-- Fail as a part of `migrate_source` does. -/
def orFail {α : Type} (m : MeteredM (Stop MigrateError) α) : MeteredM (Stop SourceError) α := do
  match ← (attempt m : MeteredM (Stop SourceError) (Except MigrateError α)) with
  | .ok a => return a
  | .error e => throw (.failed (.migrate e))

/-- Kill the VM and remove its files. -/
def cleanUp : MeteredM (Stop SourceError) Unit :=
  modify fun s => ({ s.1 with tornDown := true }, s.2)

/-- Give up a VM that is not frozen yet. -/
def abort {α : Type} (e : SourceError) : MeteredM (Stop SourceError) α := do
  cleanUp
  throw (.failed e)

section Source

variable (parsers : Parsers) (boot : Boot) (src : Source) (timing : SourceTiming)

/-- Boot a VM, as far as its guest can be reached. -/
def bringUp : MeteredM (Stop SourceError) Unit := do
  outcome (boot.mkdir.mapError fun e => .failed (.migrate (.io "create work dir" e)))
  outcome (boot.launch.mapError fun e => .failed (.migrate (.io "spawn firecracker" e)))
  (configSteps false).forM fun step => orFail (outcome (boot.configured step))
  orFail (outcome boot.boot)

/-- Reach the guest over vsock and drain it. -/
def drainSource : MeteredM (Stop SourceError) Unit := do
  let dials := src.vsock.map (connect GUEST_VSOCK_PORT)
  match ← attempt (outcome (connectRetry .noAttempt dials)) with
  | .error e => abort (.migrate (.io "connect guest vsock" e))
  | .ok () =>
    match ← attempt (onFst (onLink (handshake parsers src.peer []))) with
    | .error e => abort (.migrate (.io "guest handshake" e))
    | .ok () =>
      match ← attempt (onFst (onLink (src.peer.drain parsers DRAIN_DEADLINE))) with
      | .error e => abort (.migrate (.io "drain guest" e))
      | .ok .busy => abort .notQuiescent
      | .ok .quiescent => return

/-- `migrate_source`: boot a VM, snapshot it, and stream it to the target. -/
def migrateSource : MeteredM (Stop SourceError) SourceTiming := do
  bringUp boot
  drainSource parsers src
  -- The process is killed as it is dropped with the error.
  orFail (onFst (snapshotAndSend src))
  cleanUp
  record timing.ok
  return timing

end Source

section Source

variable {ε α : Type} {t : Metrics}

/-- These metrics, whatever the source has done. -/
def At (t : Metrics) (s : SourceState × Metrics) : Prop := s.2 = t

theorem keeps_onFst (m : ExceptT ε (StateM SourceState) α) : Keeps (At t) (onFst m) :=
  fun _ h => h

theorem keeps_attempt {ε' : Type} {m : MeteredM (Stop ε) α} (h : Keeps (At t) m) :
    Keeps (At t) (attempt m : MeteredM (Stop ε') (Except ε α)) := by
  intro s hs
  have hend := h s hs
  rw [exec_attempt]
  rcases hexec : exec m s with ⟨(e | _) | a, s'⟩
  all_goals
    rw [hexec] at hend
    exact hend

theorem keeps_throw (e : ε) : Keeps (At t) (throw e : MeteredM ε α) := fun _ h => h

theorem keeps_cleanUp : Keeps (At t) cleanUp := keeps_modify fun _ h => h

theorem keeps_abort (e : SourceError) : Keeps (At t) (abort e : MeteredM (Stop SourceError) α) :=
  keeps_cleanUp.bind fun _ => keeps_throw _

theorem keeps_orFail {m : MeteredM (Stop MigrateError) α} (h : Keeps (At t) m) :
    Keeps (At t) (orFail m) := by
  refine (keeps_attempt h).bind fun r => ?_
  rcases r with e | a
  · exact keeps_throw _
  · exact keeps_pure a

theorem keeps_bringUp (boot : Boot) : Keeps (At t) (bringUp boot) := by
  refine (keeps_outcome _).bind fun _ => (keeps_outcome _).bind fun _ => ?_
  have hstep : ∀ steps : List ConfigStep, Keeps (At t)
      (steps.forM fun step => orFail (outcome (boot.configured step)) :
        MeteredM (Stop SourceError) PUnit) := by
    intro steps
    induction steps with
    | nil => exact keeps_pure _
    | cons step steps ih => exact (keeps_orFail (keeps_outcome _)).bind fun _ => ih
  exact (hstep _).bind fun _ => keeps_orFail (keeps_outcome _)

theorem keeps_drainSource (parsers : Parsers) (src : Source) :
    Keeps (At t) (drainSource parsers src) := by
  refine (keeps_attempt (keeps_outcome _)).bind fun connected => ?_
  rcases connected with e | _
  · exact keeps_abort _
  refine (keeps_attempt (keeps_onFst _)).bind fun shaken => ?_
  rcases shaken with e | _
  · exact keeps_abort _
  refine (keeps_attempt (keeps_onFst _)).bind fun drained => ?_
  rcases drained with e | _ | _
  · exact keeps_abort _
  · exact keeps_pure _
  · exact keeps_abort _

/-- `migrate_source` tells the metrics when it succeeds, and else nothing. -/
theorem ensures_migrateSource (parsers : Parsers) (boot : Boot) (src : Source)
    (timing : SourceTiming) :
    Ensures (At t) (migrateSource parsers boot src timing) (fun _ => At (timing.ok t)) (At t) := by
  have hkept : ∀ {β : Type} {m : MeteredM (Stop SourceError) β}, Keeps (At t) m →
      Ensures (At t) m (fun _ => At t) (At t) := fun h => h.ensures fun _ hs => hs
  refine (hkept (keeps_bringUp boot)).bind fun _ => ?_
  refine (hkept (keeps_drainSource parsers src)).bind fun _ => ?_
  refine (hkept (keeps_orFail (keeps_onFst _))).bind fun _ => ?_
  refine (hkept keeps_cleanUp).bind fun _ => ?_
  rintro ⟨s, t'⟩ rfl
  rfl

end Source

/-! ## The handler -/

/-- A request to `/migrate/send`, and what it meets. -/
structure Request where
  /-- The parameter `to`. -/
  dest : Option String
  /-- The parameter `vm`. -/
  vm : Option String
  /-- The artifacts are found. -/
  artifacts : Bool
  /-- How a migration goes. -/
  src : Source
  /-- How a VM of its own boots. -/
  boot : Boot
  /-- How long it takes. -/
  timing : SourceTiming

/-- The daemon's registry and metrics. -/
structure Daemon where
  vms : VmId → Option RunningVm
  metrics : Metrics

/-- How a request ends. -/
inductive Reply where
  /-- A parameter is missing or cannot be parsed. -/
  | badRequest
  /-- There is no such VM. -/
  | notFound
  /-- There is nothing to boot a VM from. -/
  | noArtifacts
  /-- The migration returned `Moved`, or `Ok` where it booted a VM of its own. -/
  | moved
  /-- It stood down. -/
  | stoodDown
  /-- It ended in `Err`. -/
  | failed
  /-- It never does. -/
  | pending
deriving DecidableEq, Repr

section Handler

variable (parseUuid : String → Option (BitVec 128)) (parsers : Parsers)

/-- Handle `/migrate/send`: with `vm` it migrates that VM, and else one that it boots. -/
def migrateSend (req : Request) (d : Daemon) : Reply × Daemon :=
  match req.dest, req.vm with
  | none, _ => (.badRequest, d)
  | some _, some text =>
    match parseUuid text with
    | none => (.badRequest, d)
    | some id =>
      match d.vms ⟨id⟩ with
      | none => (.notFound, d)
      | some running =>
        let vms := Function.update d.vms ⟨id⟩ none
        match exec (migrateRunning parsers req.src req.timing running) ({}, d.metrics) with
        | (.ok .moved, (_, metrics)) => (.moved, { vms, metrics })
        | (.ok (.stoodDown vm), (_, metrics)) =>
          (.stoodDown, { vms := Function.update vms vm.id (some vm), metrics })
        | (.error (.failed _), (_, metrics)) =>
          (.failed, { vms, metrics := migrationFailed metrics })
        | (.error .stuck, (_, metrics)) => (.pending, { vms, metrics })
  | some _, none =>
    if req.artifacts then
      match exec (migrateSource parsers req.boot req.src req.timing) ({}, d.metrics) with
      | (.ok _, (_, metrics)) => (.moved, { d with metrics })
      | (.error (.failed _), (_, metrics)) =>
        (.failed, { d with metrics := migrationFailed metrics })
      | (.error .stuck, (_, metrics)) => (.pending, { d with metrics })
    else
      (.noArtifacts, d)

/-- Handle some requests, one after the other. -/
def serve : List Request → Daemon → List Reply × Daemon
  | [], d => ([], d)
  | req :: reqs, d =>
    let (reply, d) := migrateSend parseUuid parsers req d
    let (replies, d) := serve reqs d
    (reply :: replies, d)

/-- Every migration that moved its VM is counted once, and every one that failed is. -/
structure CountedOnce (reqs : List Request) (d : Daemon) : Prop where
  migrations : (serve parseUuid parsers reqs d).2.metrics.migrationsTotal =
    d.metrics.migrationsTotal + (serve parseUuid parsers reqs d).1.count .moved
  failures : (serve parseUuid parsers reqs d).2.metrics.migrationFailuresTotal =
    d.metrics.migrationFailuresTotal + (serve parseUuid parsers reqs d).1.count .failed

/-- The request is for a VM that is registered, and the VM is lost in transit. -/
def LosesVm (req : Request) (d : Daemon) : Prop :=
  req.dest.isSome = true ∧ ∃ text id running, req.vm = some text ∧ parseUuid text = some id ∧
    d.vms ⟨id⟩ = some running ∧ LostInTransit parsers req.src running

/-- No request loses a VM in transit that is registered when it comes. -/
def LosesNone (reqs : List Request) (d : Daemon) : Prop :=
  ∀ before req after, reqs = before ++ req :: after →
    ¬ LosesVm parseUuid parsers req (serve parseUuid parsers before d).2

variable (req : Request) (reqs : List Request) (d : Daemon)

/-- What one request adds: it is counted as it ends, and some failures more. -/
structure Counts (t t' : Metrics) (reply : Reply) (more : ℕ) : Prop where
  migrations : t'.migrationsTotal = t.migrationsTotal + [reply].count .moved
  failures : t'.migrationFailuresTotal =
    t.migrationFailuresTotal + [reply].count .failed + more

/-- One request is counted as it ends, and once more if a VM is lost in transit. -/
theorem migrateSend_counts :
    ∃ more, Counts d.metrics (migrateSend parseUuid parsers req d).2.metrics
        (migrateSend parseUuid parsers req d).1 more ∧
      (more = 0 ↔ ¬ LosesVm parseUuid parsers req d) := by
  rw [migrateSend, LosesVm]
  rcases hdest : req.dest with - | addr
  · exact ⟨0, ⟨rfl, rfl⟩, by simp⟩
  rcases hvm : req.vm with - | text
  · -- A VM of its own: `migrate_source` leaves its failures to the handler.
    refine ⟨0, ?_, by simp⟩
    dsimp only
    split
    case isFalse => exact ⟨rfl, rfl⟩
    case isTrue =>
      have hends := ensures_migrateSource (t := d.metrics) parsers req.boot req.src req.timing
        ({}, d.metrics) rfl
      rcases hexec : exec (migrateSource parsers req.boot req.src req.timing) ({}, d.metrics) with
        ⟨(e | _) | timing, s, t⟩
      all_goals
        rw [hexec] at hends
        obtain rfl := hends
        exact ⟨rfl, rfl⟩
  dsimp only
  rcases hid : parseUuid text with - | id
  · exact ⟨0, ⟨rfl, rfl⟩, by simp [hid]⟩
  dsimp only
  rcases hrunning : d.vms ⟨id⟩ with - | running
  · exact ⟨0, ⟨rfl, rfl⟩, by simp [hid, hrunning]⟩
  obtain ⟨r, s, t, -, hexec, htold⟩ := @told parsers req.src req.timing running d.metrics
  have hloses : (some addr).isSome = true ∧ (∃ text' id' running', some text = some text' ∧
      parseUuid text' = some id' ∧ d.vms ⟨id'⟩ = some running' ∧
        LostInTransit parsers req.src running') ↔ LostInTransit parsers req.src running := by
    simp [hid, hrunning]
  rw [hloses]
  simp only [hexec]
  cases htold with
  | moved h => exact ⟨0, ⟨rfl, rfl⟩, iff_of_true rfl h⟩
  | stoodDown h => exact ⟨0, ⟨rfl, rfl⟩, iff_of_true rfl h⟩
  | stuck h => exact ⟨0, ⟨rfl, rfl⟩, iff_of_true rfl h⟩
  | unwritten h => exact ⟨0, ⟨rfl, rfl⟩, iff_of_true rfl h⟩
  | lost h => exact ⟨1, ⟨rfl, rfl⟩, iff_of_false one_ne_zero (not_not.mpr h)⟩

theorem losesNone_cons :
    LosesNone parseUuid parsers (req :: reqs) d ↔ ¬ LosesVm parseUuid parsers req d ∧
      LosesNone parseUuid parsers reqs (migrateSend parseUuid parsers req d).2 := by
  constructor
  · intro hnone
    refine ⟨hnone [] req reqs rfl, fun before req' after hreqs => ?_⟩
    exact hnone (req :: before) req' after (by rw [hreqs, List.cons_append])
  · rintro ⟨hfirst, hrest⟩ (_ | ⟨_, before⟩) req' after hreqs
    · obtain ⟨rfl, -⟩ := List.cons.inj hreqs
      exact hfirst
    · obtain ⟨rfl, rfl⟩ := List.cons.inj hreqs
      exact hrest before req' after rfl

/-- A sequence of requests is counted as they end, and more if VMs are lost in transit. -/
theorem serve_counts :
    ∃ more, (serve parseUuid parsers reqs d).2.metrics.migrationsTotal =
        d.metrics.migrationsTotal + (serve parseUuid parsers reqs d).1.count .moved ∧
      (serve parseUuid parsers reqs d).2.metrics.migrationFailuresTotal =
        d.metrics.migrationFailuresTotal + (serve parseUuid parsers reqs d).1.count .failed +
          more ∧
      (more = 0 ↔ LosesNone parseUuid parsers reqs d) := by
  induction reqs generalizing d with
  | nil => exact ⟨0, rfl, rfl, by simp [LosesNone]⟩
  | cons req reqs ih =>
    -- What the first request adds is there when the others come.
    obtain ⟨first, ⟨hmigrations, hfailures⟩, hfirst⟩ := migrateSend_counts parseUuid parsers req d
    obtain ⟨rest, hmigrations', hfailures', hrest⟩ := ih (migrateSend parseUuid parsers req d).2
    have hcount (reply : Reply) : (serve parseUuid parsers (req :: reqs) d).1.count reply =
        [(migrateSend parseUuid parsers req d).1].count reply +
          (serve parseUuid parsers reqs (migrateSend parseUuid parsers req d).2).1.count reply := by
      rw [← List.count_append]
      rfl
    have hserve : (serve parseUuid parsers (req :: reqs) d).2 =
        (serve parseUuid parsers reqs (migrateSend parseUuid parsers req d).2).2 := rfl
    refine ⟨first + rest, ?_, ?_, ?_⟩
    · rw [hserve, hmigrations', hmigrations, hcount, Nat.add_assoc]
    · rw [hserve, hfailures', hfailures, hcount]
      omega
    · rw [losesNone_cons, ← hfirst, ← hrest, Nat.add_eq_zero_iff]

/-- In any sequence of requests the migrations that moved their VM are counted once each, and those
that failed are if and only if no request loses in transit a VM that was registered. -/
theorem attempts_counted_iff :
    CountedOnce parseUuid parsers reqs d ↔ LosesNone parseUuid parsers reqs d := by
  obtain ⟨more, hmigrations, hfailures, hmore⟩ := serve_counts parseUuid parsers reqs d
  rw [← hmore]
  constructor
  · rintro ⟨-, honce⟩
    omega
  · rintro rfl
    exact ⟨hmigrations, hfailures⟩

/-- The daemon has one VM, whose guest drains, and the stream to the target breaks off. -/
def brokenStream : Request where
  dest := some "10.0.0.2:9000"
  vm := some "7"
  artifacts := true
  src := { sourceSaying ["idle"] with transfer := .error (.failed (.transfer (.io "broken pipe"))) }
  boot := { mkdir := .ok (), launch := .ok (), configured := fun _ => .ok (), boot := .ok () }
  timing := { snapshot := ⟨0⟩, transfer := ⟨0⟩, bytes := 0 }

/-- One attempt fails, and two failures are counted. -/
theorem broken_stream_counted_twice :
    let d : Daemon := { vms := fun id => if id = ⟨7⟩ then some plainVm else none, metrics := {} }
    serve (fun _ => some 7) shortParsers [brokenStream] d =
        ([.failed], { vms := Function.update d.vms ⟨7⟩ none,
                      metrics := { migrationFailuresTotal := 2 } }) ∧
      ¬ CountedOnce (fun _ => some 7) shortParsers [brokenStream] d := by
  intro d
  have hserve : serve (fun _ => some 7) shortParsers [brokenStream] d =
      ([.failed], { vms := Function.update d.vms ⟨7⟩ none,
                    metrics := { migrationFailuresTotal := 2 } }) := by rfl
  refine ⟨hserve, fun honce => ?_⟩
  have hfailures := honce.failures
  rw [hserve] at hfailures
  exact absurd hfailures (by decide)

end Handler

end Sleepwalk.Hostd.Telemetry
