import Mathlib.Data.List.Forall2
import Sleepwalk.Hostd.Net
import Sleepwalk.Hostd.Transfer

/-!
# Daemons on one overlay

Several `hostd` daemons whose bridges form one network, each with its own registry, its own taps
and its own `NET_SEQ`. Here a request is one step: a VM is booted, removed, or moved all the way
from its source to its target, and where it can fail it fails as the step says. To the registry of
its source such a move does what the handler does (`vms_migrate`).

What a VM is known by takes three routes through a move. Its network identity is written to
`net.json`, its memory size is the length of `mem.snap`, and both go through the framing of
`Hostd.Transfer`; its id is not sent at all.
-/

namespace Sleepwalk.Hostd.Overlay

open Bytes Exec Proto Serde Transfer

/-- A running VM with its memory size. -/
structure SizedVm extends RunningVm where
  /-- The memory size in MiB. -/
  mib : UInt32
deriving DecidableEq, Repr

/-- A daemon and its host. -/
structure Daemon where
  /-- The tap index of the next networked VM. -/
  netSeq : UInt64
  /-- The taps of the host. -/
  taps : List String
  /-- The registry. -/
  vms : VmId → Option SizedVm

/-- The daemons by their hosts. -/
abbrev Daemons := HostId → Daemon

/-- The index the next networked VM of a daemon gets: the counter is cut to 32 bits. -/
def Daemon.nextIndex (d : Daemon) : UInt32 := d.netSeq.toUInt32

/-! ## Booting and removing -/

/-- A VM to boot. -/
structure Spawn where
  /-- The id that is minted for it. -/
  id : VmId
  /-- The process launched for it. -/
  proc : ProcId
  /-- Its vsock socket. -/
  vsockUds : String
  /-- Its memory size in MiB. -/
  mib : UInt32
  /-- Whether it gets a network. -/
  networked : Bool
  /-- How its tap is made. -/
  plumbing : Plumbing
  /-- Whether Firecracker boots it. -/
  boots : Bool

/-- Plumb the network of a VM, if it gets one. The index is used up either way. -/
def plumb (s : Spawn) (d : Daemon) : Except NetError (Option NetId) × Daemon :=
  if s.networked then
    match create s.plumbing d.nextIndex d.taps with
    -- `fetch_add` comes first, so a failure uses up the index as well.
    | (.ok net, taps) => (.ok (some net), { d with netSeq := d.netSeq + 1, taps })
    | (.error e, taps) => (.error e, { d with netSeq := d.netSeq + 1, taps })
  else
    (.ok none, d)

/-- Boot a VM and register it. A VM that does not boot leaves its tap behind. -/
def spawn (s : Spawn) (d : Daemon) : Option VmId × Daemon :=
  match plumb s d with
  | (.error _, d) => (none, d)
  | (.ok net, d) =>
    if s.boots then
      let vm := { id := s.id, proc := s.proc, vsockUds := s.vsockUds, net, mib := s.mib }
      (some s.id, { d with vms := Function.update d.vms s.id (some vm) })
    else
      (none, d)

/-- Drop a VM's tap, if it has one. -/
def teardown (works : Bool) (vm : SizedVm) (d : Daemon) : Daemon :=
  match vm.net with
  | some net => { d with taps := destroy works net.tap d.taps }
  | none => d

/-- Deregister a VM. -/
def take (id : VmId) (d : Daemon) : Option SizedVm × Daemon :=
  (d.vms id, { d with vms := Function.update d.vms id none })

/-- Deregister and tear down a VM, if present. -/
def remove (works : Bool) (id : VmId) (d : Daemon) : Bool × Daemon :=
  match take id d with
  | (some vm, d) => (true, teardown works vm d)
  | (none, d) => (false, d)

/-! ## Moving -/

/-- How a restore goes on once the tap is there. -/
inductive Load where
  /-- The page server or the process does not start, and the tap stays. -/
  | abandoned
  /-- The snapshot does not load. The tap is torn down if that works. -/
  | failed (untapped : Bool)
  /-- The guest resumes. -/
  | resumed
deriving DecidableEq, Repr

/-- A VM to move. -/
structure Transit where
  /-- Whether its guest drains. -/
  drains : Bool
  /-- The memory dump. -/
  mem : List UInt8
  /-- The device state. -/
  state : List UInt8
  /-- How much the `k`-th read of a file returns, at most. -/
  reads : ℕ → ℕ
  /-- Whether the source's tap is torn down. -/
  untapped : Bool
  /-- The id that the target mints. -/
  id : VmId
  /-- The process launched for it at the target. -/
  proc : ProcId
  /-- How its tap is made at the target. -/
  plumbing : Plumbing
  /-- How it is loaded. -/
  load : Load

/-- The files that a VM is sent as. -/
def files (vm : SizedVm) (m : Transit) : List File :=
  [("mem.snap", m.mem), ("state.snap", m.state), ("vsock.txt", ofText vm.vsockUds)] ++
    match vm.net with
    | some net => [("net.json", ofText net.encode.text)]
    | none => []

/-- Open one of some files. -/
def openFile (files : List File) (reads : ℕ → ℕ) (path : String) : Except String Source :=
  match files.lookup path with
  | some data => .ok { len := .ofNat data.length, data, reads := fun k => .ok (reads k) }
  | none => .error "No such file or directory"

/-- Send a VM: the stream it is sent as, unless a file is larger than files can be. -/
def send (hasher : Hasher) (vm : SizedVm) (m : Transit) : Option (List UInt8) :=
  if ∀ f ∈ files vm m, f.2.length < 2 ^ 64 then
    match exec (sendFiles hasher (openFile (files vm m) m.reads)
        ((files vm m).map fun f => ⟨f.1, f.1⟩)) ⟨[], none⟩ with
    | (.ok (), w) => some w.sent
    | (.error _, _) => none
  else
    none

/-- A snapshot's guest memory size in MiB, from the length of the memory file. -/
def memMib (mem : Option (List UInt8)) : UInt32 :=
  .ofNat ((mem.map List.length).getD 0 / (1024 * 1024))

/-- The network identity among the received files, if it can be read. -/
def readNet (codec : Codec) (dir : String → Option (List UInt8)) : Option (Option NetId) :=
  match dir "net.json" with
  | none => some none
  | some bytes => (((toText bytes).bind codec.json).bind NetId.decode).map some

/-- The vsock path among the received files, or an empty one. -/
def readVsock (dir : String → Option (List UInt8)) : String :=
  (((dir "vsock.txt").bind toText).map Text.trim).getD ""

/-- Make the tap of an identity, if there is one. -/
def replumb (plumbing : Plumbing) (net : Option NetId) (taps : List String) :
    Except NetError Unit × List String :=
  match net with
  | some net => createTap plumbing net.tap taps
  | none => (.ok (), taps)

/-- The VM that received files make, if there are as many as there should be. -/
def rebuild (codec : Codec) (m : Transit) (names : List String)
    (dir : String → Option (List UInt8)) : Option SizedVm :=
  if 2 ≤ names.length ∧ names.length ≤ 4 then
    (readNet codec dir).map fun net =>
      { id := m.id, proc := m.proc, vsockUds := readVsock dir, net, mib := memMib (dir "mem.snap") }
  else
    none

/-- Launch a restored VM, whose tap must be there first: whether it resumes. -/
def launch (m : Transit) (vm : SizedVm) (d : Daemon) : Bool × Daemon :=
  match replumb m.plumbing vm.net d.taps with
  | (.error _, taps) => (false, { d with taps })
  | (.ok (), taps) =>
    match m.load with
    | .abandoned => (false, { d with taps })
    -- Only a snapshot that does not load takes its tap with it.
    | .failed untapped => (false, teardown untapped vm { d with taps })
    | .resumed => (true, { d with taps })

/-- Launch a restored VM and register it. -/
def register (m : Transit) (vm : SizedVm) (d : Daemon) : Option VmId × Daemon :=
  match launch m vm d with
  | (true, d) => (some vm.id, { d with vms := Function.update d.vms vm.id (some vm) })
  | (false, d) => (none, d)

/-- Receive a VM from a stream and register it. -/
def receive (hasher : Hasher) (codec : Codec) (m : Transit) (stream : List UInt8) (d : Daemon) :
    Option VmId × Daemon :=
  -- The work dir is a fresh one, so there is nothing in it before and any file can be created.
  match recvFiles hasher (fun _ => .ok ()) ⟨stream, fun _ => none⟩ with
  | (.error _, _) => (none, d)
  | (.ok names, r) =>
    match rebuild codec m names r.disk with
    | none => (none, d)
    | some vm => register m vm d

/-! ## Runs -/

/-- One request, or the two of a move. -/
inductive Op where
  /-- `/vms/spawn`. -/
  | spawn (host : HostId) (s : Spawn)
  /-- `/vms/remove`. -/
  | remove (host : HostId) (id : VmId) (untapped : Bool)
  /-- `/migrate/send` at the source and `/migrate/recv` at the target. -/
  | migrate (source target : HostId) (id : VmId) (m : Transit)

section Runs

variable (hasher : Hasher) (codec : Codec)

/-- Move a VM: its id at the target, if it gets there. A VM that does not drain stays. -/
def migrate (source target : HostId) (id : VmId) (m : Transit) (σ : Daemons) :
    Option VmId × Daemons :=
  match take id (σ source) with
  | (none, _) => (none, σ)
  | (some vm, d) =>
    -- What does not drain is put back under its id; past the drain nothing is put back.
    if m.drains then
      let σ := Function.update σ source (teardown m.untapped vm d)
      match send hasher vm m with
      | none => (none, σ)
      | some stream =>
        let (new, d) := receive hasher codec m stream (σ target)
        (new, Function.update σ target d)
    else
      (none, σ)

/-- Perform a request: the id of the VM that is registered, if one is. -/
def perform (op : Op) (σ : Daemons) : Option VmId × Daemons :=
  match op with
  | .spawn host s =>
    let (new, d) := spawn s (σ host)
    (new, Function.update σ host d)
  | .remove host id untapped =>
    let (_, d) := remove untapped id (σ host)
    (none, Function.update σ host d)
  | .migrate source target id m => migrate hasher codec source target id m σ

/-- The daemons after some requests. -/
def run (σ : Daemons) (ops : List Op) : Daemons :=
  ops.foldl (fun σ op => (perform hasher codec op σ).2) σ

end Runs

/-- Daemons that have just started: nothing registered, and no networked VM so far. -/
structure Started (σ : Daemons) : Prop where
  netSeq : ∀ h, (σ h).netSeq = 0
  vms : ∀ h id, (σ h).vms id = none

section Runs

variable {hasher : Hasher} {codec : Codec} {σ : Daemons} {op : Op} {ops : List Op}

theorem run_append_singleton :
    run hasher codec σ (ops ++ [op]) = (perform hasher codec op (run hasher codec σ ops)).2 := by
  rw [run, List.foldl_append]
  rfl

theorem run_spawn {host : HostId} {s : Spawn} :
    run hasher codec σ [.spawn host s] = Function.update σ host (spawn s (σ host)).2 := rfl

end Runs

/-! ## What becomes of the taps and the registry -/

namespace Daemon

variable {d d' d'' : Daemon} {id id' : VmId} {vm : SizedVm} {net : NetId}

/-- A registered VM with its network identity. -/
def Has (d : Daemon) (id : VmId) (net : NetId) : Prop :=
  ∃ vm, d.vms id = some vm ∧ vm.net = some net

/-- The registry stays as it is, and no tap goes. -/
structure Keeps (d d' : Daemon) : Prop where
  vms_eq : d'.vms = d.vms
  taps_subset : d.taps ⊆ d'.taps

/-- A VM is registered. If it has a tap, that is a new one. -/
structure Registers (d d' : Daemon) (vm : SizedVm) : Prop where
  vms_eq : d'.vms = Function.update d.vms vm.id (some vm)
  taps_subset : d.taps ⊆ d'.taps
  tap_new : ∀ net, vm.net = some net → net.tap ∉ d.taps ∧ net.tap ∈ d'.taps

/-- A VM is deregistered. No tap goes but its own. -/
structure Drops (d d' : Daemon) (id : VmId) (vm : SizedVm) : Prop where
  found : d.vms id = some vm
  vms_eq : d'.vms = Function.update d.vms id none
  taps_subset : ∀ t ∈ d.taps, (∀ net, vm.net = some net → t ≠ net.tap) → t ∈ d'.taps

theorem Keeps.has_iff (h : Keeps d d') : d'.Has id net ↔ d.Has id net := by
  rw [Has, Has, h.vms_eq]

theorem Registers.has_iff (h : Registers d d' vm) :
    d'.Has id net ↔ (id = vm.id ∧ vm.net = some net) ∨ (id ≠ vm.id ∧ d.Has id net) := by
  rw [Has, Has, h.vms_eq]
  by_cases hid : id = vm.id
  · subst hid
    simp
  · simp [hid]

theorem Drops.has_iff (h : Drops d d' id vm) : d'.Has id' net ↔ id' ≠ id ∧ d.Has id' net := by
  rw [Has, Has, h.vms_eq]
  by_cases hid : id' = id
  · subst hid
    simp
  · simp [hid]

end Daemon

open Daemon

section Steps

variable {d d' : Daemon} {id : VmId} {vm : SizedVm} {s : Spawn} {m : Transit}

/-- A spawn that goes through: Firecracker boots, and a networked VM's index is in range, its tap
new, and the tap's commands succeed. -/
def Goes (d : Daemon) (s : Spawn) : Prop :=
  s.boots = true ∧ (s.networked = true → s.plumbing = .works ∧
    ∃ net, NetId.ofIndex d.nextIndex = some net ∧ net.tap ∉ d.taps)

/-- The identity that a spawn gives. -/
def spawnNet (d : Daemon) (s : Spawn) : Option NetId :=
  if s.networked then NetId.ofIndex d.nextIndex else none

theorem keeps_refl : Keeps d d := ⟨rfl, List.Subset.refl _⟩

theorem keeps_plumb : Keeps d (plumb s d).2 := by
  unfold plumb
  split
  · have htaps : d.taps ⊆ (create s.plumbing d.nextIndex d.taps).2 := taps_subset_create
    rcases hcreate : create s.plumbing d.nextIndex d.taps with ⟨_ | net, taps⟩
    all_goals
      rw [hcreate] at htaps
      exact ⟨rfl, htaps⟩
  · exact keeps_refl

theorem plumb_goes (h : Goes d s) : (plumb s d).1 = .ok (spawnNet d s) ∧
    ∀ net, spawnNet d s = some net → net.tap ∉ d.taps ∧ net.tap ∈ (plumb s d).2.taps := by
  cases hnetworked : s.networked with
  | false => simp [plumb, spawnNet, hnetworked]
  | true =>
    obtain ⟨hworks, net, hnet, hnew⟩ := h.2 hnetworked
    have hcreate : create s.plumbing d.nextIndex d.taps = (.ok net, net.tap :: d.taps) :=
      create_eq_ok_iff.mpr ⟨hnet, hworks, hnew, rfl⟩
    simp [plumb, spawnNet, hnetworked, hcreate, hnet, hnew]

theorem goes_of_plumb {net : Option NetId} (hboots : s.boots = true)
    (h : (plumb s d).1 = .ok net) : Goes d s := by
  refine ⟨hboots, fun hnetworked => ?_⟩
  rw [plumb, if_pos hnetworked] at h
  rcases hcreate : create s.plumbing d.nextIndex d.taps with ⟨_ | n, taps⟩
  · simp [hcreate] at h
  · obtain ⟨hnet, hworks, hnew, -⟩ := create_eq_ok_iff.mp hcreate
    exact ⟨hworks, n, hnet, hnew⟩

/-- The VM that is booted. -/
def spawnVm (d : Daemon) (s : Spawn) : SizedVm :=
  { id := s.id, proc := s.proc, vsockUds := s.vsockUds, net := spawnNet d s, mib := s.mib }

theorem spawn_goes (h : Goes d s) : (spawn s d).1 = some s.id ∧
    Registers d (spawn s d).2 (spawnVm d s) := by
  have hkeeps : Keeps d (plumb s d).2 := keeps_plumb
  obtain ⟨hok, hnew⟩ := plumb_goes h
  rw [spawn]
  rcases hplumb : plumb s d with ⟨r, d₁⟩
  rw [hplumb] at hkeeps hok hnew
  obtain rfl : r = .ok (spawnNet d s) := hok
  simp only [h.1, if_true, true_and]
  exact ⟨congrArg (Function.update · s.id _) hkeeps.vms_eq, hkeeps.taps_subset, hnew⟩

theorem spawn_stays (h : ¬ Goes d s) : (spawn s d).1 = none ∧ Keeps d (spawn s d).2 := by
  have hkeeps : Keeps d (plumb s d).2 := keeps_plumb
  rw [spawn]
  rcases hplumb : plumb s d with ⟨_ | net, d₁⟩
  · rw [hplumb] at hkeeps
    exact ⟨rfl, hkeeps⟩
  · rw [hplumb] at hkeeps
    have hboots : ¬ s.boots = true := fun hboots => h (goes_of_plumb hboots (by rw [hplumb]))
    simp only [if_neg hboots]
    exact ⟨trivial, hkeeps⟩

/-! ### Teardown -/

/-- All taps but a VM's own outlast its teardown. -/
theorem mem_taps_teardown {works : Bool} {t : String} (ht : t ∈ d.taps)
    (hother : ∀ net, vm.net = some net → t ≠ net.tap) : t ∈ (teardown works vm d).taps := by
  unfold teardown
  cases hnet : vm.net with
  | none => exact ht
  | some net =>
    cases works with
    | false => exact ht
    | true => exact List.mem_filter.mpr ⟨ht, by simpa using hother net hnet⟩

theorem vms_teardown (works : Bool) : (teardown works vm d).vms = d.vms := by
  unfold teardown
  cases vm.net <;> rfl

/-- Taking a VM out and tearing it down drops it. -/
theorem drops_teardown (works : Bool) (h : d.vms id = some vm) :
    Drops d (teardown works vm (take id d).2) id vm where
  found := h
  vms_eq := vms_teardown works
  taps_subset _ ht hother := mem_taps_teardown ht hother

theorem remove_cases (works : Bool) (id : VmId) (d : Daemon) :
    (d.vms id = none ∧ Keeps d (remove works id d).2) ∨
      ∃ vm, Drops d (remove works id d).2 id vm := by
  cases hvm : d.vms id with
  | none =>
    refine Or.inl ⟨rfl, ?_, ?_⟩
    · simp only [remove, take, hvm]
      exact Function.update_eq_self_iff.mpr hvm.symm
    · simp only [remove, take, hvm]
      exact List.Subset.refl _
  | some vm =>
    refine Or.inr ⟨vm, ?_⟩
    have hdrops := drops_teardown works hvm
    simpa only [remove, take, hvm] using hdrops

/-! ### Restore -/

/-- A VM that is admitted: the tap is new and made, and the guest resumes. -/
def Admits (d : Daemon) (m : Transit) (vm : SizedVm) : Prop :=
  m.load = .resumed ∧ ∀ net, vm.net = some net → m.plumbing = .works ∧ net.tap ∉ d.taps

theorem replumb_goes (h : ∀ net, vm.net = some net → m.plumbing = .works ∧ net.tap ∉ d.taps) :
    (replumb m.plumbing vm.net d.taps).1 = .ok () := by
  cases hnet : vm.net with
  | none => rfl
  | some net =>
    obtain ⟨hworks, hnew⟩ := h net hnet
    rw [replumb, createTap_eq_ok_iff.mpr ⟨hworks, hnew, rfl⟩]

theorem replumb_ok {taps : List String} (h : replumb m.plumbing vm.net d.taps = (.ok (), taps)) :
    d.taps ⊆ taps ∧ ∀ net, vm.net = some net →
      m.plumbing = .works ∧ net.tap ∉ d.taps ∧ taps = net.tap :: d.taps := by
  cases hnet : vm.net with
  | none =>
    rw [hnet] at h
    obtain ⟨-, rfl⟩ := Prod.mk.inj h
    exact ⟨List.Subset.refl _, by simp⟩
  | some net =>
    rw [hnet] at h
    obtain ⟨hworks, hnew, rfl⟩ := createTap_eq_ok_iff.mp h
    refine ⟨List.subset_cons_self _ _, ?_⟩
    rintro n ⟨⟩
    exact ⟨hworks, hnew, rfl⟩

theorem register_goes (h : Admits d m vm) : (register m vm d).1 = some vm.id ∧
    Registers d (register m vm d).2 vm := by
  have hok := replumb_goes h.2
  rcases hplumb : replumb m.plumbing vm.net d.taps with ⟨r, taps⟩
  rw [hplumb] at hok
  obtain rfl : r = .ok () := hok
  obtain ⟨hsubset, hnew⟩ := replumb_ok hplumb
  simp only [register, launch, hplumb, h.1, true_and]
  refine ⟨rfl, hsubset, fun net hnet => ?_⟩
  obtain ⟨-, hfresh, rfl⟩ := hnew net hnet
  exact ⟨hfresh, List.mem_cons_self⟩

theorem taps_subset_replumb : d.taps ⊆ (replumb m.plumbing vm.net d.taps).2 := by
  unfold replumb
  cases vm.net with
  | none => exact List.Subset.refl _
  | some net => exact taps_subset_createTap

theorem register_stays (h : ¬ Admits d m vm) : (register m vm d).1 = none ∧
    Keeps d (register m vm d).2 := by
  have hsubset : d.taps ⊆ (replumb m.plumbing vm.net d.taps).2 := taps_subset_replumb
  rcases hplumb : replumb m.plumbing vm.net d.taps with ⟨_ | _, taps⟩
  · rw [hplumb] at hsubset
    simp only [register, launch, hplumb, true_and]
    exact ⟨rfl, hsubset⟩
  · obtain ⟨-, hnew⟩ := replumb_ok hplumb
    rw [hplumb] at hsubset
    cases hload : m.load with
    | abandoned =>
      simp only [register, launch, hplumb, hload, true_and]
      exact ⟨rfl, hsubset⟩
    | failed untapped =>
      -- The tap that goes is the one that was just made.
      simp only [register, launch, hplumb, hload, true_and]
      refine ⟨vms_teardown untapped, fun t ht => mem_taps_teardown (hsubset ht) ?_⟩
      rintro net hnet rfl
      exact (hnew net hnet).2.1 ht
    | resumed => exact absurd ⟨hload, fun net hnet => ⟨(hnew net hnet).1, (hnew net hnet).2.1⟩⟩ h

/-! ### What arrives -/

variable {hasher : Hasher} {codec : Codec} {stream : List UInt8} {σ : Daemons}

/-- The VM that a sent VM is restored as. -/
def restored (vm : SizedVm) (m : Transit) : SizedVm :=
  { id := m.id, proc := m.proc, vsockUds := Text.trim vm.vsockUds, net := vm.net
    mib := memMib (some m.mem) }

theorem map_fst_files (vm : SizedVm) (m : Transit) :
    (files vm m).map Prod.fst = snapshotFiles vm.extra := by
  cases hnet : vm.net <;> simp [files, snapshotFiles, RunningVm.extra, hnet]

theorem sendable_files (h : ∀ f ∈ files vm m, f.2.length < 2 ^ 64) :
    ∀ f ∈ files vm m, Sendable f := by
  have hvalid : ∀ name ∈ snapshotFiles vm.extra, ValidName name := by
    have hall : ∀ name ∈ ["mem.snap", "state.snap", "vsock.txt", "net.json"],
        isUnsafe name = false ∧ (ofText name).length < 2 ^ 16 := by decide
    intro name hname
    have hmem : name ∈ ["mem.snap", "state.snap", "vsock.txt", "net.json"] := by
      rw [RunningVm.extra] at hname
      split at hname <;> simp [snapshotFiles] at hname ⊢ <;> tauto
    exact ⟨(hall name hmem).1, (hall name hmem).2⟩
  intro f hf
  refine ⟨hvalid f.1 ?_, h f hf⟩
  rw [← map_fst_files vm m]
  exact List.mem_map_of_mem hf

theorem nodup_map_fst_files : ((files vm m).map Prod.fst).Nodup := by
  rw [map_fst_files, RunningVm.extra]
  split <;> decide

theorem lookup_of_mem {fs : List File} {f : File} (hnodup : (fs.map Prod.fst).Nodup)
    (hf : f ∈ fs) : fs.lookup f.1 = some f.2 := by
  induction fs with
  | nil => cases hf
  | cons g fs ih =>
    obtain ⟨hnew, hnodup⟩ := List.nodup_cons.mp hnodup
    rcases List.mem_cons.mp hf with rfl | hf
    · exact List.lookup_cons_self
    · have hne : f.1 ≠ g.1 := fun heq => hnew (heq ▸ List.mem_map_of_mem hf)
      rw [List.lookup_cons, beq_false_of_ne hne]
      exact ih hnodup hf

theorem opens_files (h : ∀ f ∈ files vm m, f.2.length < 2 ^ 64) :
    Opens (openFile (files vm m) m.reads) ((files vm m).map fun f => ⟨f.1, f.1⟩) (files vm m) := by
  rw [Opens, List.forall₂_map_left_iff, List.forall₂_same]
  intro f hf
  have hlen : (UInt64.ofNat f.2.length).toNat = f.2.length := by
    rw [UInt64.toNat_ofNat']
    exact Nat.mod_eq_of_lt (h f hf)
  refine ⟨rfl, _, by rw [openFile, lookup_of_mem nodup_map_fst_files hf], rfl, hlen, ?_⟩
  exact fun k => ⟨m.reads k, rfl⟩

theorem send_eq_some_iff : send hasher vm m = some stream ↔
    (∀ f ∈ files vm m, f.2.length < 2 ^ 64) ∧ stream = encode hasher (files vm m) := by
  rw [send]
  split
  case isTrue hsmall =>
    rw [exec_sendFiles (sendable_files hsmall) (opens_files hsmall), List.nil_append]
    exact ⟨fun h => ⟨hsmall, (Option.some.inj h).symm⟩, fun h => congrArg some h.2.symm⟩
  case isFalse hlarge => exact ⟨nofun, fun h => absurd h.1 hlarge⟩

/-- A VM that was sent is restored as itself, under another id. -/
theorem receive_sent {d : Daemon} (hsent : send hasher vm m = some stream)
    (hcodec : ∀ net, vm.net = some net → codec.Reads net.encode) :
    receive hasher codec m stream d = register m (restored vm m) d := by
  obtain ⟨hsmall, rfl⟩ := send_eq_some_iff.mp hsent
  have hrecv : recvFiles hasher (fun _ => .ok ()) ⟨encode hasher (files vm m), fun _ => none⟩ =
      (.ok ((files vm m).map Prod.fst), ⟨[], (files vm m).foldl written fun _ => none⟩) :=
    recvFiles_eq_ok_iff.mpr
      ⟨files vm m, rfl, fun f hf => ⟨sendable_files hsmall f hf, rfl⟩, by simp, rfl⟩
  -- Every file the source wrote is in the target's directory, under its name.
  have hfile : ∀ f ∈ files vm m, (files vm m).foldl written (fun _ => none) f.1 = some f.2 :=
    fun f hf => foldl_written_of_mem nodup_map_fst_files hf
  have hmem : (files vm m).foldl written (fun _ => none) "mem.snap" = some m.mem :=
    hfile ("mem.snap", m.mem) (by simp [files])
  have hvsock : readVsock ((files vm m).foldl written fun _ => none) = Text.trim vm.vsockUds := by
    rw [readVsock, hfile ("vsock.txt", ofText vm.vsockUds) (by simp [files]), Option.bind_some,
      toText_eq_some_iff.mpr rfl]
    rfl
  -- There is a `net.json` exactly if the VM has a network.
  have hnet : readNet codec ((files vm m).foldl written fun _ => none) = some vm.net := by
    rw [readNet]
    cases hnet : vm.net with
    | none =>
      have hnone : "net.json" ∉ (files vm m).map Prod.fst := by
        rw [map_fst_files, RunningVm.extra, hnet]
        decide
      rw [foldl_written_of_notMem hnone]
    | some net =>
      have hjson : codec.json net.encode.text = some net.encode := hcodec net hnet
      rw [hfile ("net.json", ofText net.encode.text) (by simp [files, hnet])]
      simp [toText_eq_some_iff.mpr rfl, hjson, NetId.decode_encode]
  have hcount : 2 ≤ ((files vm m).map Prod.fst).length ∧
      ((files vm m).map Prod.fst).length ≤ 4 := by
    rw [map_fst_files, RunningVm.extra]
    split <;> decide
  have hrebuild : rebuild codec m ((files vm m).map Prod.fst)
      ((files vm m).foldl written fun _ => none) = some (restored vm m) := by
    rw [rebuild, if_pos hcount, hnet, hvsock, hmem]
    rfl
  rw [receive, hrecv]
  simp only [hrebuild]

/-- A move that gets through: the VM is there, drains and can be sent, and the target admits it
once the source has let it go. -/
def Completes (σ : Daemons) (source target : HostId) (id : VmId) (m : Transit) : Prop :=
  ∃ vm, (σ source).vms id = some vm ∧ m.drains = true ∧
    (∀ f ∈ files vm m, f.2.length < 2 ^ 64) ∧
    Admits (Function.update σ source (teardown m.untapped vm (take id (σ source)).2) target) m
      (restored vm m)

/-- What a request does to the overlay, and which id is registered by it. -/
inductive Performed (σ : Daemons) : Op → Option VmId → Daemons → Prop where
  /-- No VM comes or goes. -/
  | keeps {op : Op} {host : HostId} {d' : Daemon} (hkeeps : Keeps (σ host) d')
      (hfails : ∀ source target id m, op = .migrate source target id m →
        ¬ Completes σ source target id m) :
      Performed σ op none (Function.update σ host d')
  /-- A VM is booted. -/
  | spawned {host : HostId} {s : Spawn} {d' : Daemon} (hgoes : Goes (σ host) s)
      (hregisters : Registers (σ host) d' (spawnVm (σ host) s)) :
      Performed σ (.spawn host s) (some s.id) (Function.update σ host d')
  /-- A VM is removed. -/
  | removed {host : HostId} {id : VmId} {untapped : Bool} {vm : SizedVm} {d' : Daemon}
      (hdrops : Drops (σ host) d' id vm) :
      Performed σ (.remove host id untapped) none (Function.update σ host d')
  /-- The source has torn a VM down, and the target has not registered it. -/
  | lost {source target : HostId} {id : VmId} {m : Transit} {vm : SizedVm} {d d' : Daemon}
      (hdrains : m.drains = true) (hfails : ¬ Completes σ source target id m)
      (hdrops : Drops (σ source) d id vm)
      (hkeeps : Keeps (Function.update σ source d target) d') :
      Performed σ (.migrate source target id m) none
        (Function.update (Function.update σ source d) target d')
  /-- The source has torn a VM down, and the target has registered it. -/
  | arrives {source target : HostId} {id : VmId} {m : Transit} {vm : SizedVm} {d d' : Daemon}
      (hdrains : m.drains = true) (hcompletes : Completes σ source target id m)
      (hdrops : Drops (σ source) d id vm)
      (hregisters : Registers (Function.update σ source d target) d' (restored vm m)) :
      Performed σ (.migrate source target id m) (some m.id)
        (Function.update (Function.update σ source d) target d')

/-- A move that fails before the source lets the VM go changes nothing. -/
theorem performed_unchanged {source target : HostId} {id : VmId} {m : Transit}
    (hfails : ¬ Completes σ source target id m) :
    Performed σ (.migrate source target id m) none σ := by
  have hsame : Performed σ (.migrate source target id m) none
      (Function.update σ source (σ source)) := by
    refine .keeps keeps_refl ?_
    rintro _ _ _ _ ⟨⟩
    exact hfails
  rwa [Function.update_eq_self] at hsame

theorem performed_migrate (hasher : Hasher) (hcodec : ∀ net : NetId, codec.Reads net.encode)
    (σ : Daemons) (source target : HostId) (id : VmId) (m : Transit) :
    Performed σ (.migrate source target id m) (migrate hasher codec source target id m σ).1
      (migrate hasher codec source target id m σ).2 := by
  cases hvm : (σ source).vms id with
  | none =>
    simp only [migrate, take, hvm]
    refine performed_unchanged ?_
    rintro ⟨vm, hfound, -⟩
    exact nomatch hvm.symm.trans hfound
  | some vm =>
    have hdrops := drops_teardown m.untapped hvm
    have hcompletes : Completes σ source target id m ↔ m.drains = true ∧
        (∀ f ∈ files vm m, f.2.length < 2 ^ 64) ∧
        Admits (Function.update σ source (teardown m.untapped vm (take id (σ source)).2) target) m
          (restored vm m) := by
      simp [Completes, hvm]
    cases hdrains : m.drains with
    | false =>
      simp only [migrate, take, hvm, hdrains]
      exact performed_unchanged (by simp [hcompletes, hdrains])
    | true =>
      have htake : take id (σ source) = (some vm, (take id (σ source)).2) :=
        Prod.ext hvm rfl
      rw [migrate, htake]
      simp only [hdrains, if_true, true_and] at hcompletes ⊢
      -- From here on the source has let the VM go, and only the target decides.
      generalize teardown m.untapped vm (take id (σ source)).2 = d at hdrops hcompletes
      cases hsent : send hasher vm m with
      | none =>
        have hlarge : ¬ ∀ f ∈ files vm m, f.2.length < 2 ^ 64 := fun hsmall =>
          nomatch hsent.symm.trans (send_eq_some_iff.mpr ⟨hsmall, rfl⟩)
        have hlost : Performed σ (.migrate source target id m) none
            (Function.update (Function.update σ source d) target
              (Function.update σ source d target)) :=
          .lost hdrains (fun h => hlarge (hcompletes.mp h).1) hdrops keeps_refl
        rwa [Function.update_eq_self] at hlost
      | some stream =>
        simp only [receive_sent hsent fun net _ => hcodec net]
        by_cases hadmits : Admits (Function.update σ source d target) m (restored vm m)
        · obtain ⟨hid, hregisters⟩ := register_goes hadmits
          rw [hid]
          have hsmall := (send_eq_some_iff.mp hsent).1
          exact .arrives hdrains (hcompletes.mpr ⟨hsmall, hadmits⟩) hdrops hregisters
        · obtain ⟨hid, hkeeps⟩ := register_stays hadmits
          rw [hid]
          exact .lost hdrains (fun h => hadmits (hcompletes.mp h).2) hdrops hkeeps

theorem performed (hasher : Hasher) (hcodec : ∀ net : NetId, codec.Reads net.encode)
    (σ : Daemons) (op : Op) :
    Performed σ op (perform hasher codec op σ).1 (perform hasher codec op σ).2 := by
  cases op with
  | spawn host s =>
    by_cases hgoes : Goes (σ host) s
    · obtain ⟨hid, hregisters⟩ := spawn_goes hgoes
      simp only [perform, hid]
      exact .spawned hgoes hregisters
    · obtain ⟨hid, hkeeps⟩ := spawn_stays hgoes
      simp only [perform, hid]
      exact .keeps hkeeps nofun
  | remove host id untapped =>
    rcases remove_cases untapped id (σ host) with ⟨-, hkeeps⟩ | ⟨vm, hdrops⟩
    · exact .keeps hkeeps nofun
    · exact .removed hdrops
  | migrate source target id m => exact performed_migrate hasher hcodec σ source target id m

end Steps

end Sleepwalk.Hostd.Overlay
