import Sleepwalk.Hostd.Errors
import Sleepwalk.Hostd.Migrate
import Sleepwalk.Lib.Attempt

/-!
# What a failed spawn leaves behind

`VmRegistry::spawn` with everything it acquires: the work dir, the tap, the Firecracker process, and
the vsock socket that Firecracker binds. `Steps` says how each step turns out; a step that hangs
leaves the spawn without a result, and is left out.

The process is killed when it is dropped, and the VM is registered last, so a failure leaves the
registry and the processes as they were. Nothing removes the work dir, which is there from the first
step on: `spawn_atomic_iff`.
-/

namespace Sleepwalk.Hostd.Spawn

open Exec Proto

/-! ## The spawn -/

/-- A host and what a spawn has acquired on it. -/
structure Host where
  /-- The work dir is there. -/
  work : Bool
  /-- The path of the vsock socket is there. -/
  vsock : Bool
  /-- The taps of the host. -/
  taps : List String
  /-- The Firecracker process is alive. -/
  alive : Bool
  /-- The registry. -/
  vms : VmId → Option RunningVm

/-- The host before the spawn. -/
def Host.before (taps : List String) (vms : VmId → Option RunningVm) : Host :=
  { work := false, vsock := false, taps, alive := false, vms }

/-- How the steps of a spawn turn out. -/
structure Steps where
  /-- The id that is minted. -/
  id : VmId
  /-- The process that is launched. -/
  proc : ProcId
  /-- The path of its vsock socket. -/
  vsockUds : String
  /-- Whether the VM gets a network. -/
  networked : Bool
  /-- The tap index. -/
  idx : UInt32
  /-- How the tap is made. -/
  plumbing : Plumbing
  /-- The work dir is made. -/
  mkdir : Except String Unit
  /-- Firecracker is launched. One that does not come up is killed as it is dropped. -/
  launch : Except String Unit
  /-- Firecracker takes a step of the configuration. -/
  configured : ConfigStep → Except String Unit
  /-- Firecracker binds the vsock socket when it is configured. -/
  binds : Bool
  /-- It boots. -/
  boot : Except String Unit
  /-- The daemon carries boot secrets. -/
  secrets : Bool
  /-- The guest is reached. -/
  connected : Except IoError Unit
  /-- The guest takes the secrets. -/
  shaken : Except IoError Unit

abbrev SpawnM := ExceptT MigrateError (StateM Host)

section Program

variable (b : Steps)

/-- Make the work dir. -/
def makeWork : SpawnM Unit := do
  outcome (b.mkdir.mapError fun detail => .io "create vm work dir" (.os detail))
  modify fun s => { s with work := true }

/-- Plumb the network. -/
def plumb : SpawnM (Option NetId) :=
  if b.networked then do
    let s ← get
    let (r, taps) := create b.plumbing b.idx s.taps
    set { s with taps }
    outcome ((r.mapError fun e => .io "plumb vm network" (.net e)).map some)
  else
    pure none

/-- Launch Firecracker. -/
def launchFirecracker : SpawnM Unit := do
  outcome (b.launch.mapError fun detail => .io "spawn firecracker" (.os detail))
  modify fun s => { s with alive := true }

/-- One step of the configuration. -/
def configure (step : ConfigStep) : SpawnM Unit := do
  modify fun s => { s with vsock := s.vsock || (b.binds && decide (step = .vsock)) }
  outcome ((b.configured step).mapError .firecracker)

/-- Deliver boot secrets. -/
def deliverSecrets : SpawnM Unit :=
  if b.secrets then do
    outcome (b.connected.mapError (.io "connect guest for boot secrets"))
    outcome (b.shaken.mapError (.io "deliver boot secrets"))
  else
    pure ()

/-- Configure, boot, and hand the guest its secrets. -/
def bringUp (net : Option NetId) : SpawnM Unit := do
  (configSteps net.isSome).forM (configure b)
  outcome (b.boot.mapError .firecracker)
  deliverSecrets b

/-- Boot a guestd VM, register it, and return its id. -/
def spawn : SpawnM VmId := do
  makeWork b
  let net ← plumb b
  launchFirecracker b
  -- The process is dropped with every error from here on.
  onError (fun s => { s with alive := false }) (bringUp b net)
  modify fun s => { s with
    vms := Function.update s.vms b.id
      (some { id := b.id, proc := b.proc, vsockUds := b.vsockUds, net }) }
  return b.id

end Program

/-! ## The steps -/

section Steps

variable {b : Steps} {s s' : Host} {net : Option NetId}

theorem mapError_eq_ok_iff {ε ε' α : Type} {f : ε → ε'} {r : Except ε α} {a : α} :
    r.mapError f = .ok a ↔ r = .ok a := by
  rcases r with e | a'
  · simp [Except.mapError]
  · simp [Except.mapError]

theorem exec_makeWork_ok_iff : exec (makeWork b) s = (.ok (), s') ↔
    b.mkdir = .ok () ∧ s' = { s with work := true } := by
  rw [makeWork, exec_bind_ok_iff]
  simp only [exec_outcome, exec_modify, Prod.mk.injEq, mapError_eq_ok_iff]
  constructor
  · rintro ⟨_, _, ⟨hmkdir, rfl⟩, -, rfl⟩
    exact ⟨hmkdir, rfl⟩
  · rintro ⟨hmkdir, rfl⟩
    exact ⟨(), s, ⟨hmkdir, rfl⟩, trivial, rfl⟩

theorem exec_plumb_ok_iff : exec (plumb b) s = (.ok net, s') ↔
    (b.networked = true ∧ ∃ n taps', create b.plumbing b.idx s.taps = (.ok n, taps') ∧
      net = some n ∧ s' = { s with taps := taps' }) ∨
    (b.networked = false ∧ net = none ∧ s' = s) := by
  rw [plumb]
  cases hnet : b.networked with
  | false => simp [eq_comm]
  | true =>
    rw [if_pos rfl, exec_bind, exec_get]
    rcases hcreate : create b.plumbing b.idx s.taps with ⟨e | n, taps'⟩
    · simp [hcreate, exec_bind, Except.mapError, Except.map]
    · simp [hcreate, exec_bind, Except.mapError, Except.map, eq_comm]

/-- Where the network is not plumbed, the taps are all that may have changed. -/
theorem exec_plumb_error {err : MigrateError} (h : exec (plumb b) s = (.error err, s')) :
    ∃ taps', s' = { s with taps := taps' } := by
  rw [plumb] at h
  split at h
  case isTrue hnet =>
    rw [exec_bind, exec_get] at h
    simp only [exec_bind, exec_set, exec_outcome, Prod.mk.injEq] at h
    exact ⟨_, h.2.symm⟩
  case isFalse => cases h

theorem exec_launch_ok_iff : exec (launchFirecracker b) s = (.ok (), s') ↔
    b.launch = .ok () ∧ s' = { s with alive := true } := by
  rw [launchFirecracker, exec_bind_ok_iff]
  simp only [exec_outcome, exec_modify, Prod.mk.injEq, mapError_eq_ok_iff]
  constructor
  · rintro ⟨_, _, ⟨hlaunch, rfl⟩, -, rfl⟩
    exact ⟨hlaunch, rfl⟩
  · rintro ⟨hlaunch, rfl⟩
    exact ⟨(), s, ⟨hlaunch, rfl⟩, trivial, rfl⟩

/-- An operation with an error of its own, and what comes after it. -/
theorem exec_outcome_error {α : Type} {r : Except MigrateError α} {f : α → SpawnM Unit}
    {err : MigrateError} (hf : ∀ a s e s', exec (f a) s ≠ (.error e, s'))
    (h : exec (outcome r >>= f) s = (.error err, s')) : s' = s := by
  rcases exec_bind_error_iff.mp h with h | ⟨a, s'', -, h⟩
  · exact (Prod.mk.inj h).2.symm
  · exact absurd h (hf _ _ _ _)

theorem exec_makeWork_error {err : MigrateError} (h : exec (makeWork b) s = (.error err, s')) :
    s' = s := exec_outcome_error (fun _ _ _ _ => by simp) h

theorem exec_launch_error {err : MigrateError}
    (h : exec (launchFirecracker b) s = (.error err, s')) : s' = s :=
  exec_outcome_error (fun _ _ _ _ => by simp) h

theorem returns_configure {step : ConfigStep} :
    Returns (configure b step) s ↔ b.configured step = .ok () := by
  rw [configure, returns_bind]
  simp only [returns_outcome, mapError_eq_ok_iff]
  constructor
  · rintro ⟨-, -, -, h⟩
    exact h
  · exact fun h => ⟨_, _, exec_modify _ s, h⟩

theorem returns_configureAll {steps : List ConfigStep} :
    Returns (steps.forM (configure b)) s ↔ ∀ step ∈ steps, b.configured step = .ok () := by
  induction steps generalizing s with
  | nil => exact iff_of_true ⟨_, _, rfl⟩ (by simp)
  | cons step steps ih =>
    change Returns (configure b step >>= fun _ => steps.forM (configure b)) s ↔ _
    rw [returns_bind, List.forall_mem_cons, ← returns_configure (s := s)]
    constructor
    · rintro ⟨u, s', hstep, hsteps⟩
      exact ⟨⟨u, s', hstep⟩, ih.mp hsteps⟩
    · rintro ⟨⟨u, s', hstep⟩, hsteps⟩
      exact ⟨u, s', hstep, ih.mpr hsteps⟩

theorem returns_deliverSecrets :
    Returns (deliverSecrets b) s ↔
      (b.secrets = true → b.connected = .ok () ∧ b.shaken = .ok ()) := by
  rw [deliverSecrets]
  cases b.secrets with
  | false => exact iff_of_true ⟨_, _, rfl⟩ (by simp)
  | true =>
    rw [if_pos rfl, returns_bind]
    simp only [exec_outcome, returns_outcome, mapError_eq_ok_iff, Prod.mk.injEq, forall_true_left]
    constructor
    · rintro ⟨_, _, ⟨hconnected, -⟩, hshaken⟩
      exact ⟨hconnected, hshaken⟩
    · rintro ⟨hconnected, hshaken⟩
      exact ⟨(), s, ⟨hconnected, rfl⟩, hshaken⟩

theorem returns_bringUp (b : Steps) (net : Option NetId) (s : Host) :
    Returns (bringUp b net) s ↔
      (∀ step ∈ configSteps net.isSome, b.configured step = .ok ()) ∧ b.boot = .ok () ∧
        (b.secrets = true → b.connected = .ok () ∧ b.shaken = .ok ()) := by
  rw [bringUp, returns_bind, ← returns_configureAll (s := s)]
  constructor
  · rintro ⟨u, s', hsteps, hrest⟩
    obtain ⟨u', s'', hboot, hsecrets⟩ := returns_bind.mp hrest
    refine ⟨⟨u, s', hsteps⟩, ?_, returns_deliverSecrets.mp hsecrets⟩
    exact mapError_eq_ok_iff.mp (Prod.mk.inj hboot).1
  · rintro ⟨⟨u, s', hsteps⟩, hboot, hsecrets⟩
    refine ⟨u, s', hsteps, returns_bind.mpr ⟨(), s', ?_, returns_deliverSecrets.mpr hsecrets⟩⟩
    rw [exec_outcome, mapError_eq_ok_iff.mpr hboot]

/-- Bringing a VM up leaves the work dir and the registry alone. -/
theorem keeps_bringUp (b : Steps) (net : Option NetId) (vms : VmId → Option RunningVm) :
    Keeps (fun s => s.work = true ∧ s.vms = vms) (bringUp b net) := by
  have hconfigure : ∀ step, Keeps (fun s : Host => s.work = true ∧ s.vms = vms)
      (configure b step) := by
    intro step
    refine Keeps.bind (keeps_modify fun s h => ?_) fun _ => keeps_outcome _
    exact h
  have hall : ∀ steps : List ConfigStep, Keeps (fun s : Host => s.work = true ∧ s.vms = vms)
      (steps.forM (configure b)) := by
    intro steps
    induction steps with
    | nil => exact keeps_pure _
    | cons step steps ih => exact (hconfigure step).bind fun _ => ih
  refine (hall _).bind fun _ => (keeps_outcome _).bind fun _ => ?_
  rw [deliverSecrets]
  split
  · exact (keeps_outcome _).bind fun _ => keeps_outcome _
  · exact keeps_pure _

end Steps

/-! ## What outlives a failure -/

section Failure

variable (b : Steps) (taps : List String) (vms : VmId → Option RunningVm)

/-- Every step after the work dir is made succeeds. -/
structure Succeeds : Prop where
  network : b.networked = true →
    ∃ net, NetId.ofIndex b.idx = some net ∧ b.plumbing = .works ∧ net.tap ∉ taps
  launch : b.launch = .ok ()
  configured : ∀ step ∈ configSteps b.networked, b.configured step = .ok ()
  boot : b.boot = .ok ()
  secrets : b.secrets = true → b.connected = .ok () ∧ b.shaken = .ok ()

/-- The host is as it was before. -/
structure Atomic (before after : Host) : Prop where
  registry : after.vms = before.vms
  process : after.alive = false
  taps : ∀ t, t ∈ after.taps ↔ t ∈ before.taps
  work : after.work = false
  vsock : after.vsock = false

variable {b taps vms}

/-- A network that can be made is made, where one is asked for. -/
theorem Succeeds.plumb (h : Succeeds b taps) (vms : VmId → Option RunningVm) :
    ∃ net s', exec (Spawn.plumb b) { Host.before taps vms with work := true } = (.ok net, s') ∧
      net.isSome = b.networked := by
  cases hnet : b.networked with
  | false => exact ⟨none, _, exec_plumb_ok_iff.mpr (Or.inr ⟨hnet, rfl, rfl⟩), rfl⟩
  | true =>
    obtain ⟨n, hindex, hworks, hnew⟩ := h.network hnet
    have hcreate := create_eq_ok_iff.mpr ⟨hindex, hworks, hnew, rfl⟩
    exact ⟨some n, _, exec_plumb_ok_iff.mpr (Or.inl ⟨hnet, n, _, hcreate, rfl, rfl⟩), rfl⟩

/-- A spawn returns if and only if each of its steps succeeds. -/
theorem returns_spawn :
    Returns (spawn b) (.before taps vms) ↔ b.mkdir = .ok () ∧ Succeeds b taps := by
  rw [spawn, returns_bind]
  constructor
  · rintro ⟨_, s₁, hwork, h⟩
    obtain ⟨net, s₂, hplumb, h⟩ := returns_bind.mp h
    obtain ⟨_, s₃, hlaunch, h⟩ := returns_bind.mp h
    obtain ⟨_, s₄, hup, -⟩ := returns_bind.mp h
    obtain ⟨hmkdir, rfl⟩ := exec_makeWork_ok_iff.mp hwork
    obtain ⟨hlaunch, -⟩ := exec_launch_ok_iff.mp hlaunch
    obtain ⟨hsteps, hboot, hsecrets⟩ := (returns_bringUp _ _ _).mp
      ⟨_, _, exec_onError_ok_iff.mp hup⟩
    rcases exec_plumb_ok_iff.mp hplumb with ⟨hnet, n, taps', hcreate, rfl, -⟩ | ⟨hnet, rfl, -⟩
    · obtain ⟨hindex, hworks, hnew, -⟩ := create_eq_ok_iff.mp hcreate
      refine ⟨hmkdir, fun _ => ⟨n, hindex, hworks, hnew⟩, hlaunch, ?_, hboot, hsecrets⟩
      rw [hnet]
      exact hsteps
    · refine ⟨hmkdir, fun h => ?_, hlaunch, ?_, hboot, hsecrets⟩
      · cases hnet.symm.trans h
      · rw [hnet]
        exact hsteps
  · rintro ⟨hmkdir, h⟩
    have hwork := (exec_makeWork_ok_iff (s := .before taps vms)).mpr ⟨hmkdir, rfl⟩
    obtain ⟨net, s', hplumb, hsome⟩ := h.plumb vms
    have hlaunch := (exec_launch_ok_iff (s := s')).mpr ⟨h.launch, rfl⟩
    obtain ⟨u, s'', hup⟩ := (returns_bringUp b net { s' with alive := true }).mpr
      ⟨by rw [hsome]; exact h.configured, h.boot, h.secrets⟩
    refine ⟨_, _, hwork, returns_bind.mpr ⟨net, s', hplumb, ?_⟩⟩
    refine returns_bind.mpr ⟨(), _, hlaunch, returns_bind.mpr ⟨u, s'', ?_, ?_⟩⟩
    · exact exec_onError_ok_iff.mpr hup
    · -- Registering the VM cannot fail.
      exact returns_bind.mpr ⟨_, _, exec_modify _ _, _, _, rfl⟩

/-- What a failed spawn always leaves: the registry as it was, no process, and the work dir if there
was one. -/
theorem spawn_error {err : MigrateError} {s : Host}
    (h : exec (spawn b) (.before taps vms) = (.error err, s)) :
    s.vms = vms ∧ s.alive = false ∧
      ((∃ detail, b.mkdir = .error detail) → s = .before taps vms) ∧
      (b.mkdir = .ok () → s.work = true) := by
  -- The failing step is one of these, in the order in which spawn takes them.
  rcases exec_bind_error_iff.mp h with h | ⟨_, s₁, hwork, h⟩
  · obtain rfl := exec_makeWork_error h
    refine ⟨rfl, rfl, fun _ => rfl, fun hmkdir => ?_⟩
    cases h.symm.trans (exec_makeWork_ok_iff.mpr ⟨hmkdir, rfl⟩)
  obtain ⟨hmkdir, rfl⟩ := exec_makeWork_ok_iff.mp hwork
  have hnever : (∃ detail, b.mkdir = .error detail) → s = .before taps vms := by
    rintro ⟨detail, herror⟩
    cases hmkdir.symm.trans herror
  rcases exec_bind_error_iff.mp h with h | ⟨net, s₂, hplumb, h⟩
  · obtain ⟨taps', rfl⟩ := exec_plumb_error h
    exact ⟨rfl, rfl, hnever, fun _ => rfl⟩
  obtain ⟨taps', rfl⟩ : ∃ taps', s₂ = { Host.before taps' vms with work := true } := by
    rcases exec_plumb_ok_iff.mp hplumb with ⟨-, n, taps', -, -, rfl⟩ | ⟨-, -, rfl⟩
    · exact ⟨taps', rfl⟩
    · exact ⟨taps, rfl⟩
  rcases exec_bind_error_iff.mp h with h | ⟨_, s₃, hlaunch, h⟩
  · obtain rfl := exec_launch_error h
    exact ⟨rfl, rfl, hnever, fun _ => rfl⟩
  obtain ⟨-, rfl⟩ := exec_launch_ok_iff.mp hlaunch
  rcases exec_bind_error_iff.mp h with h | ⟨_, s₄, -, h⟩
  · obtain ⟨s', hup, rfl⟩ := exec_onError_error_iff.mp h
    have hkept := keeps_bringUp b net vms
      { Host.before taps' vms with work := true, alive := true } ⟨rfl, rfl⟩
    rw [hup] at hkept
    exact ⟨hkept.2, rfl, hnever, fun _ => hkept.1⟩
  · -- Registering the VM cannot fail.
    cases h

variable (b taps vms)

/-- For every host and every way the steps of a spawn turn out: a spawn that fails leaves the
registry as it was and no process of its own, and it leaves the whole host as it was if and only if
it is one that has no work dir yet, or there is none. -/
theorem spawn_atomic_iff :
    (∀ err s, exec (spawn b) (.before taps vms) = (.error err, s) →
        s.vms = vms ∧ s.alive = false) ∧
      ((∀ err s, exec (spawn b) (.before taps vms) = (.error err, s) →
          Atomic (.before taps vms) s) ↔
        (∃ detail, b.mkdir = .error detail) ∨ Succeeds b taps) := by
  refine ⟨fun err s h => ⟨(spawn_error h).1, (spawn_error h).2.1⟩, ?_⟩
  constructor
  · intro hatomic
    rcases hmkdir : b.mkdir with detail | _
    · exact Or.inl ⟨detail, rfl⟩
    -- A spawn that does not return leaves the work dir that it has made.
    by_contra hnot
    have hfails : ¬ Returns (spawn b) (.before taps vms) := by
      rw [returns_spawn]
      exact fun h => hnot (Or.inr h.2)
    obtain ⟨err, s, h⟩ := not_returns_iff.mp hfails
    have hwork := (spawn_error h).2.2.2 hmkdir
    rw [(hatomic err s h).work] at hwork
    cases hwork
  · rintro (hmkdir | hsucceeds) err s h
    · rw [(spawn_error h).2.2.1 hmkdir]
      exact ⟨rfl, rfl, fun _ => Iff.rfl, rfl, rfl⟩
    · rcases hmkdir : b.mkdir with detail | _
      · rw [(spawn_error h).2.2.1 ⟨detail, hmkdir⟩]
        exact ⟨rfl, rfl, fun _ => Iff.rfl, rfl, rfl⟩
      · exact absurd (returns_spawn.mpr ⟨hmkdir, hsucceeds⟩) (not_returns_iff.mpr ⟨err, s, h⟩)

/-- A networked VM that does not boot. -/
def bootFails : Steps where
  id := ⟨7⟩
  proc := 0
  vsockUds := "guest.vsock"
  networked := true
  idx := 0
  plumbing := .works
  mkdir := .ok ()
  launch := .ok ()
  configured _ := .ok ()
  binds := true
  boot := .error "boot source not found"
  secrets := false
  connected := .ok ()
  shaken := .ok ()

/-- Its work dir, its tap and its socket stay. -/
theorem host_littered_by_failed_boot :
    let run := exec (spawn bootFails) (.before [] fun _ => none)
    run.1 = .error (.firecracker "boot source not found") ∧
      run.2.work = true ∧ run.2.taps = ["sw-tap0"] ∧ run.2.vsock = true ∧
      ¬ ∀ err s, exec (spawn bootFails) (.before [] fun _ => none) = (.error err, s) →
        Atomic (.before [] fun _ => none) s := by
  intro run
  have hfails : run.1 = .error (.firecracker "boot source not found") := by decide +kernel
  have hwork : run.2.work = true := by decide +kernel
  refine ⟨hfails, hwork, by decide +kernel, by decide +kernel, fun h => ?_⟩
  rw [(h _ run.2 (Prod.ext hfails rfl)).work] at hwork
  cases hwork

end Failure

end Sleepwalk.Hostd.Spawn
