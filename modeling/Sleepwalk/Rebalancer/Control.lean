import Sleepwalk.Rebalancer.Placement

/-!
# The control loop

`rebalance_once` of `control.rs` and the loop of `bin/rebalance.rs` around it. What the daemons
report and how they answer the two calls of a move is given for each step of the loop;
`ControlPlane` has the daemons that answer them over HTTP.

The loop stops for want of a move as soon as the hottest host has none. That host is the only one
looked at, so `loop_stops_done_iff` says when stopping means that nothing is left to do.
-/

namespace Sleepwalk.Rebalancer

open Proto

/-- A failure executing a rebalance. -/
inductive CtlError where
  /-- A chosen host has no endpoint registered in the fleet. -/
  | unknownHost (host : HostId)
  /-- A daemon call failed. -/
  | daemon (host : HostId) (op : String) (detail : String)
deriving DecidableEq, Repr

/-- How to reach one host's daemon and its data plane. -/
structure HostEndpoint where
  /-- The daemon control base URL. -/
  controlUrl : String
  /-- What the target binds to receive a migration. -/
  dataListen : String
  /-- What a source connects to to reach this host's data plane. -/
  dataAddr : String

/-- The fleet: each host's daemon and data-plane endpoints. -/
structure Fleet where
  hosts : Std.TreeMap HostId HostEndpoint

namespace Fleet

/-- An empty fleet. -/
def new : Fleet := ⟨∅⟩

/-- Register a host's endpoints. -/
def add (fleet : Fleet) (host : HostId) (endpoint : HostEndpoint) : Fleet :=
  ⟨fleet.hosts.insert host endpoint⟩

/-- The endpoints of a host. -/
def endpoint (fleet : Fleet) (host : HostId) : Except CtlError HostEndpoint :=
  match fleet.hosts[host]? with
  | some e => .ok e
  | none => .error (.unknownHost host)

end Fleet

/-- How the daemons answer the two calls of a move. -/
structure DaemonApi where
  /-- The daemon at the URL is told to receive a migration on an address. -/
  migrateRecv : (controlUrl listen : String) → Except String Unit
  /-- The daemon at the URL is told to send a VM to an address. -/
  migrateSend : (controlUrl : String) → VmId → (addr : String) → Except String Unit

/-- The fleet state read by one pass of the loop. -/
structure Reading where
  placement : Placement
  pressure : Std.TreeMap HostId Pressure
  idle : Std.TreeMap VmId Duration
  compat : Std.TreeMap HostId CompatClass

/-- Run one rebalance step: pick the best move and execute it, or do nothing. -/
def rebalanceOnce (r : Reading) (highWatermark : Pressure) (fleet : Fleet) (api : DaemonApi) :
    Except CtlError (Option Rebalance) :=
  match pickVictim r.placement r.pressure r.idle highWatermark r.compat with
  | none => .ok none
  | some mv => do
    let target ← fleet.endpoint mv.toHost
    let source ← fleet.endpoint mv.fromHost
    -- Receiver first, then the sender connects.
    (api.migrateRecv target.controlUrl target.dataListen).mapError
      (CtlError.daemon mv.toHost "recv")
    (api.migrateSend source.controlUrl mv.vm target.dataAddr).mapError
      (CtlError.daemon mv.fromHost "send")
    return some mv

/-- One host of the configuration. -/
structure HostCfg where
  id : String
  controlUrl : String
  dataListen : String
  dataAddr : String

/-- The configuration of the loop. -/
structure Config where
  watermark : F64
  maxSteps : UInt32
  hosts : List HostCfg

/-- One host's live status. -/
structure StatusResp where
  vms : List String
  pressure : F64
  compat : CompatClass

/-- What one pass of the loop meets. -/
structure Surroundings where
  /-- The status fetched from a daemon's control URL. Hosts that are configured with one URL read
  one status in a pass. -/
  fetchStatus : String → Except String StatusResp
  api : DaemonApi

/-- Why the loop fails. -/
inductive LoopError where
  /-- The status of a host could not be fetched. -/
  | status (id : String) (detail : String)
  /-- A reported VM id is not one. -/
  | vmId (text : String)
  /-- The step failed. -/
  | step (e : CtlError)
deriving DecidableEq, Repr

/-- How the loop ends. -/
inductive Outcome where
  /-- No move, and no host over the watermark. -/
  | converged (step : ℕ)
  /-- No move, and a host over the watermark. -/
  | noEligibleMove (step : ℕ)
  /-- All steps used. -/
  | maxReached
  | failed (e : LoopError)
deriving DecidableEq, Repr

namespace Reading

/-- Nothing read yet. -/
def empty : Reading := ⟨.new, ∅, ∅, ∅⟩

/-- Record that a VM lives on a host. There is no live idle signal: every VM is taken as equally
idle, for 60 seconds. -/
def addVm (parseVm : String → Option VmId) (host : HostId) (r : Reading) (vm : String) :
    Except LoopError Reading :=
  match parseVm vm with
  | some id => .ok { r with
      placement := r.placement.assign host id
      idle := r.idle.insert id ⟨60 * 10 ^ 9⟩ }
  | none => .error (.vmId vm)

/-- Read the status of one more host. -/
def addHost (parseVm : String → Option VmId) (fetchStatus : String → Except String StatusResp)
    (r : Reading) (h : HostCfg) : Except LoopError Reading := do
  let host : HostId := ⟨h.id⟩
  let st ← (fetchStatus h.controlUrl).mapError (LoopError.status h.id)
  -- A host that is configured twice is read twice, and the later reading stands.
  let r := { r with pressure := r.pressure.insert host (.new st.pressure) }
  let r ← st.vms.foldlM (addVm parseVm host) r
  return { r with compat := r.compat.insert host st.compat }

/-- A move of `vm` from `a` to `b` would relieve an overloaded host of the fleet as read. -/
def Relieves (r : Reading) (highWatermark : Pressure) (a b : HostId) (vm : VmId) : Prop :=
  Rebalancer.Relieves r.placement r.pressure highWatermark r.compat a b vm

end Reading

namespace Config

variable (parseVm : String → Option VmId) (cfg : Config)

/-- The endpoints of the configured hosts. -/
def fleet : Fleet :=
  cfg.hosts.foldl (fun fleet h => fleet.add ⟨h.id⟩ ⟨h.controlUrl, h.dataListen, h.dataAddr⟩) .new

/-- Read the live fleet state: each host's pressure and its VMs. -/
def poll (s : Surroundings) : Except LoopError Reading :=
  cfg.hosts.foldlM (Reading.addHost parseVm s.fetchStatus) .empty

/-- The watermark as the step compares it. -/
def highWatermark : Pressure := .new cfg.watermark

/-- Whether some host reads above the configured watermark. -/
def hot (r : Reading) : Bool := r.pressure.values.any fun p => cfg.watermark.below p.value

/-- The passes of the loop from step number `step` on, while `left` of them are left. -/
def rebalanceLoop (env : ℕ → Surroundings) : (left step : ℕ) → Outcome
  | 0, _ => .maxReached
  | left + 1, step =>
    match cfg.poll parseVm (env step) with
    | .error e => .failed e
    | .ok r =>
      match rebalanceOnce r cfg.highWatermark cfg.fleet (env step).api with
      | .error e => .failed (.step e)
      | .ok (some _) => rebalanceLoop env left (step + 1)
      -- The loop stops here whether or not a host is still hot; only what it prints differs.
      | .ok none => if cfg.hot r then .noEligibleMove step else .converged step

/-- The whole loop. -/
def main (env : ℕ → Surroundings) : Outcome :=
  cfg.rebalanceLoop parseVm env cfg.maxSteps.toNat 1

end Config

/-! ## When stopping means done -/

section Done

variable {parseVm : String → Option VmId} {cfg : Config} {env : ℕ → Surroundings} {r : Reading}
  {highWatermark : Pressure} {fleet : Fleet} {api : DaemonApi}

/-- The hottest host has a relieving move if any host of the fleet has one. -/
def Reading.HottestServes (r : Reading) (highWatermark : Pressure) : Prop :=
  (∃ a b vm, r.Relieves highWatermark a b vm) →
    ∃ hottest, IsHottest r.pressure hottest ∧ ∃ b vm, r.Relieves highWatermark hottest b vm

/-- The move that a step picks. -/
def Reading.pick (r : Reading) (highWatermark : Pressure) : Option Rebalance :=
  pickVictim r.placement r.pressure r.idle highWatermark r.compat

theorem Reading.exists_pick_iff : (∃ mv, r.pick highWatermark = some mv) ↔
    ∃ hottest, IsHottest r.pressure hottest ∧ ∃ b vm, r.Relieves highWatermark hottest b vm :=
  exists_pickVictim_iff

/-- A step does nothing exactly if none is picked. -/
theorem rebalanceOnce_eq_none_iff :
    rebalanceOnce r highWatermark fleet api = .ok none ↔ r.pick highWatermark = none := by
  rw [rebalanceOnce, Reading.pick]
  cases pickVictim r.placement r.pressure r.idle highWatermark r.compat with
  | none => simp
  | some mv =>
    simp only [reduceCtorEq, iff_false]
    intro h
    -- Whatever the daemons answer, the step returns the move or an error.
    cases htarget : fleet.endpoint mv.toHost <;> cases hsource : fleet.endpoint mv.fromHost <;>
      simp only [htarget, hsource, bind, Except.bind, reduceCtorEq] at h
    split at h
    · cases h
    split at h
    · cases h
    · cases h

/-- A pass of the loop makes a move. -/
def Config.Moves (parseVm : String → Option VmId) (cfg : Config) (s : Surroundings) : Prop :=
  ∃ r mv, cfg.poll parseVm s = .ok r ∧
    rebalanceOnce r cfg.highWatermark cfg.fleet s.api = .ok (some mv)

/-- A pass of the loop finds no move. -/
def Config.Idles (parseVm : String → Option VmId) (cfg : Config) (s : Surroundings) : Prop :=
  ∃ r, cfg.poll parseVm s = .ok r ∧
    rebalanceOnce r cfg.highWatermark cfg.fleet s.api = .ok none

/-- Pass number `step` of the loop is reached: every earlier one makes a move. -/
def Config.Reaches (parseVm : String → Option VmId) (cfg : Config) (env : ℕ → Surroundings)
    (step : ℕ) : Prop :=
  1 ≤ step ∧ step ≤ cfg.maxSteps.toNat ∧ ∀ k, 1 ≤ k → k < step → cfg.Moves parseVm (env k)

/-- The loop ends with pass number `step` for want of a move. -/
def Config.StopsAt (parseVm : String → Option VmId) (cfg : Config) (env : ℕ → Surroundings)
    (step : ℕ) : Prop :=
  cfg.main parseVm env = .converged step ∨ cfg.main parseVm env = .noEligibleMove step

/-- A pass does at most one of the two. -/
theorem not_idles_of_moves {s : Surroundings} (h : cfg.Moves parseVm s) :
    ¬ cfg.Idles parseVm s := by
  rintro ⟨r', hr', hnone⟩
  obtain ⟨r, mv, hr, hsome⟩ := h
  obtain rfl := Except.ok.inj (hr.symm.trans hr')
  rw [hsome] at hnone
  cases hnone

/-- A pass that moves goes on to the next, one that finds no move ends the loop there, and any
other fails. -/
theorem pass_cases (left first : ℕ) :
    (cfg.Moves parseVm (env first) ∧ cfg.rebalanceLoop parseVm env (left + 1) first =
        cfg.rebalanceLoop parseVm env left (first + 1)) ∨
      (cfg.Idles parseVm (env first) ∧ ∃ hot, cfg.rebalanceLoop parseVm env (left + 1) first =
        if hot = true then .noEligibleMove first else .converged first) ∨
      (¬ cfg.Moves parseVm (env first) ∧ ¬ cfg.Idles parseVm (env first) ∧
        ∃ e, cfg.rebalanceLoop parseVm env (left + 1) first = .failed e) := by
  rw [Config.rebalanceLoop]
  cases hpoll : cfg.poll parseVm (env first) with
  | error e =>
    refine Or.inr (Or.inr ⟨?_, ?_, e, rfl⟩)
    · rintro ⟨r, mv, hr, -⟩
      rw [hpoll] at hr
      cases hr
    · rintro ⟨r, hr, -⟩
      rw [hpoll] at hr
      cases hr
  | ok r =>
    cases honce : rebalanceOnce r cfg.highWatermark cfg.fleet (env first).api with
    | error e =>
      refine Or.inr (Or.inr ⟨?_, ?_, .step e, by simp only [honce]⟩)
      · rintro ⟨r', mv, hr, hsome⟩
        obtain rfl := Except.ok.inj (hpoll.symm.trans hr)
        rw [honce] at hsome
        cases hsome
      · rintro ⟨r', hr, hnone⟩
        obtain rfl := Except.ok.inj (hpoll.symm.trans hr)
        rw [honce] at hnone
        cases hnone
    | ok o =>
      cases o with
      | none => exact Or.inr (Or.inl ⟨⟨r, hpoll, honce⟩, cfg.hot r, by simp only [honce]⟩)
      | some mv => exact Or.inl ⟨⟨r, mv, hpoll, honce⟩, by simp only [honce]⟩

/-- The loop ends for want of a move with the first pass that finds none, if all before it move. -/
theorem rebalanceLoop_stops_iff {left first step : ℕ} :
    (cfg.rebalanceLoop parseVm env left first = .converged step ∨
        cfg.rebalanceLoop parseVm env left first = .noEligibleMove step) ↔
      first ≤ step ∧ step < first + left ∧
        (∀ k, first ≤ k → k < step → cfg.Moves parseVm (env k)) ∧
        cfg.Idles parseVm (env step) := by
  induction left generalizing first with
  | zero =>
    simp only [Config.rebalanceLoop, reduceCtorEq, or_self, false_iff]
    rintro ⟨hfirst, hlast, -⟩
    omega
  | succ left ih =>
    -- A pass that moves shifts the question to the next pass; any other ends the loop.
    rcases pass_cases left first with ⟨hmoves, hloop⟩ | ⟨hidles, hot, hloop⟩ |
      ⟨hstill, hbusy, e, hloop⟩
    · rw [hloop, ih]
      constructor
      · rintro ⟨hfirst, hlast, hrest, hidles⟩
        refine ⟨by omega, by omega, fun k hk hk' => ?_, hidles⟩
        rcases Nat.eq_or_lt_of_le hk with rfl | hk
        · exact hmoves
        · exact hrest k hk hk'
      · rintro ⟨hfirst, hlast, hrest, hidles⟩
        rcases Nat.eq_or_lt_of_le hfirst with rfl | hlater
        · exact absurd hidles (not_idles_of_moves hmoves)
        · exact ⟨hlater, by omega, fun k hk hk' => hrest k (by omega) hk', hidles⟩
    · have hstop : (cfg.rebalanceLoop parseVm env (left + 1) first = .converged step ∨
          cfg.rebalanceLoop parseVm env (left + 1) first = .noEligibleMove step) ↔
          first = step := by
        rw [hloop]
        cases hot <;> simp
      rw [hstop]
      constructor
      · rintro rfl
        exact ⟨le_rfl, by omega, fun k hk hk' => by omega, hidles⟩
      · rintro ⟨hfirst, -, hrest, -⟩
        rcases Nat.eq_or_lt_of_le hfirst with rfl | hlater
        · rfl
        · exact absurd hidles (not_idles_of_moves (hrest first le_rfl hlater))
    · simp only [hloop, reduceCtorEq, or_self, false_iff]
      rintro ⟨hfirst, -, hrest, hidles⟩
      rcases Nat.eq_or_lt_of_le hfirst with rfl | hlater
      · exact hbusy hidles
      · exact hstill (hrest first le_rfl hlater)

theorem stopsAt_iff {step : ℕ} : cfg.StopsAt parseVm env step ↔
    cfg.Reaches parseVm env step ∧ cfg.Idles parseVm (env step) := by
  rw [Config.StopsAt, Config.main, rebalanceLoop_stops_iff, Config.Reaches]
  constructor
  · rintro ⟨hfirst, hlast, hmoves, hidles⟩
    exact ⟨⟨hfirst, by omega, hmoves⟩, hidles⟩
  · rintro ⟨⟨hfirst, hlast, hmoves⟩, hidles⟩
    exact ⟨hfirst, by omega, hmoves, hidles⟩

/-- In every run of the loop: if it ends before its last step for want of a move, no relieving move
is left in the fleet as read, if and only if in every state of the fleet it reads the hottest host
has a relieving move whenever any host has one. -/
theorem loop_stops_done_iff (parseVm : String → Option VmId) (cfg : Config)
    (env : ℕ → Surroundings) :
    (∀ step r, cfg.StopsAt parseVm env step → cfg.poll parseVm (env step) = .ok r →
        ¬ ∃ a b vm, r.Relieves cfg.highWatermark a b vm) ↔
      ∀ step r, cfg.Reaches parseVm env step → cfg.poll parseVm (env step) = .ok r →
        r.HottestServes cfg.highWatermark := by
  constructor
  · intro hdone step r hreaches hpoll hmove
    -- A step that picks nothing ends the loop, and then there was no move.
    by_contra hnone
    have hpick : r.pick cfg.highWatermark = none := by
      rw [Option.eq_none_iff_forall_not_mem]
      exact fun mv hmv => hnone (Reading.exists_pick_iff.mp ⟨mv, hmv⟩)
    have hidles : cfg.Idles parseVm (env step) :=
      ⟨r, hpoll, rebalanceOnce_eq_none_iff.mpr hpick⟩
    exact hdone step r (stopsAt_iff.mpr ⟨hreaches, hidles⟩) hpoll hmove
  · intro hserves step r hstops hpoll hmove
    -- The hottest host would have had a move, so the step would have picked one.
    obtain ⟨hreaches, r', hpoll', hnone⟩ := stopsAt_iff.mp hstops
    obtain rfl := Except.ok.inj (hpoll.symm.trans hpoll')
    obtain ⟨mv, hmv⟩ := Reading.exists_pick_iff.mpr (hserves step r hreaches hpoll hmove)
    rw [rebalanceOnce_eq_none_iff.mp hnone] at hmv
    cases hmv

/-- Three hosts over the watermark of 4/5 or under it: `a`, the hottest, is alone in its class, and
`b` could send its VM to `c`, of its own class and cooler. The loop ends with its first step and
leaves `b` as it is. -/
theorem overloaded_host_left :
    let statuses (url : String) : Except String StatusResp :=
      if url = "http://a" then
        .ok ⟨["00000000-0000-0000-0000-000000000001"], .finite (19 / 20),
          ⟨"AuthenticAMD", "EPYC", 2400000, "6.1.155"⟩⟩
      else if url = "http://b" then
        .ok ⟨["00000000-0000-0000-0000-000000000002"], .finite (9 / 10),
          ⟨"GenuineIntel", "Xeon", 2000000, "6.1.155"⟩⟩
      else .ok ⟨[], .finite (1 / 10), ⟨"GenuineIntel", "Xeon", 2000000, "6.1.155"⟩⟩
    let parseVm (text : String) : Option VmId :=
      if text = "00000000-0000-0000-0000-000000000001" then some ⟨1⟩
      else if text = "00000000-0000-0000-0000-000000000002" then some ⟨2⟩ else none
    let cfg : Config := ⟨.finite (4 / 5), 10, [⟨"a", "http://a", "0.0.0.0:9000", "a:9000"⟩,
      ⟨"b", "http://b", "0.0.0.0:9000", "b:9000"⟩, ⟨"c", "http://c", "0.0.0.0:9000", "c:9000"⟩]⟩
    let env (_ : ℕ) : Surroundings := ⟨statuses, fun _ _ => .ok (), fun _ _ _ => .ok ()⟩
    cfg.StopsAt parseVm env 1 ∧ ∃ r, cfg.poll parseVm (env 1) = .ok r ∧
      r.Relieves cfg.highWatermark ⟨"b"⟩ ⟨"c"⟩ ⟨2⟩ := by
  intro statuses parseVm cfg env
  refine ⟨Or.inr (by decide +kernel), _, rfl, ?_⟩
  let xeon : CompatClass := ⟨"GenuineIntel", "Xeon", 2000000, "6.1.155"⟩
  refine ⟨by decide +kernel, ⟨xeon, xeon, ?_, ?_, ?_⟩,
    ⟨.new (.finite (9 / 10)), .new (.finite (1 / 10)), ?_, ?_, ?_, ?_⟩⟩
  all_goals decide +kernel

end Done

end Sleepwalk.Rebalancer
