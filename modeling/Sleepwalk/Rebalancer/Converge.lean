import Sleepwalk.Lib.Descent
import Sleepwalk.Rebalancer.Control

/-!
# Iterating the pick

The loop without its step cap, over a fleet where nothing happens but its own moves: each step reads
the fleet, picks a move and carries it out. Without a bound on the size of the VMs it moves, such a
run need not end (`one_vm_moves_forever`); it does if every move leaves its target with less load
than its source had (`converges_without_thrash`), and for VMs of one size and a watermark the fleet
can meet, its length is the number of VMs above the watermark (`excess_moves`).
-/

namespace Sleepwalk.Rebalancer

open Proto Descent

/-- Which VMs run on which host. -/
abbrev World := HostId → List VmId

namespace World

/-- Carry out a move. -/
def relocate (world : World) (mv : Rebalance) : World := fun host =>
  if host = mv.fromHost then (world host).erase mv.vm
  else if host = mv.toHost then world host ++ [mv.vm]
  else world host

/-- The total size of the VMs on a host. -/
def load (size : VmId → ℕ) (world : World) (host : HostId) : ℕ := ((world host).map size).sum

variable {world : World} {mv : Rebalance} {host : HostId} (size : VmId → ℕ)

theorem load_relocate_source (h : mv.vm ∈ world mv.fromHost) :
    (world.relocate mv).load size mv.fromHost + size mv.vm = world.load size mv.fromHost := by
  rw [load, load, relocate, if_pos rfl, Nat.add_comm]
  exact List.sum_map_erase size h

theorem load_relocate_target (hne : mv.toHost ≠ mv.fromHost) :
    (world.relocate mv).load size mv.toHost = world.load size mv.toHost + size mv.vm := by
  rw [load, load, relocate, if_neg hne, if_pos rfl]
  simp

theorem load_relocate_other (hfrom : host ≠ mv.fromHost) (hto : host ≠ mv.toHost) :
    (world.relocate mv).load size host = world.load size host := by
  rw [load, load, relocate, if_neg hfrom, if_neg hto]

end World

/-- A fleet of fixed hosts, and how it is read. -/
structure Cluster where
  hosts : List HostId
  /-- No host is configured twice. -/
  nodup : hosts.Nodup
  /-- The pressure a host reports. -/
  pressure : World → HostId → Pressure
  /-- The idle gap of each VM. -/
  idle : VmId → Duration
  /-- The class of each host. -/
  compat : HostId → CompatClass
  highWatermark : Pressure

namespace Cluster

variable (c : Cluster) (world : World)

/-- Read one more host, as the loop does. -/
def readHost (r : Reading) (host : HostId) : Reading where
  placement := (world host).foldl (fun placement vm => placement.assign host vm) r.placement
  pressure := r.pressure.insert host (c.pressure world host)
  idle := (world host).foldl (fun idle vm => idle.insert vm (c.idle vm)) r.idle
  compat := r.compat.insert host (c.compat host)

/-- Read the whole fleet. -/
def read : Reading := c.hosts.foldl (c.readHost world) .empty

/-- The move picked for the fleet as it is. -/
def pick : Option Rebalance := (c.read world).pick c.highWatermark

/-- Pick a move and carry it out. -/
def next : Option World := (c.pick world).map world.relocate

/-! ## What a reading holds -/

section Read

variable {c world} {host : HostId}

theorem vmsOn_foldl_assign (placement : Placement) (vms : List VmId) (host other : HostId) :
    (vms.foldl (fun placement vm => placement.assign host vm) placement).vmsOn other =
      if host = other then placement.vmsOn host ++ vms else placement.vmsOn other := by
  induction vms generalizing placement with
  | nil =>
    split
    case isTrue h => simp [h]
    case isFalse => rfl
  | cons vm vms ih =>
    rw [List.foldl_cons, ih, Placement.vmsOn_assign, Placement.vmsOn_assign]
    split
    case isTrue h => simp
    case isFalse => rfl

/-- A map of a reading that every host inserts its value into holds the values of the hosts read. -/
theorem getElem?_foldl {β : Type} (m : Reading → Std.TreeMap HostId β) (value : HostId → β)
    (hinsert : ∀ r h, m (c.readHost world r h) = (m r).insert h (value h)) (hosts : List HostId)
    (r : Reading) :
    (m (hosts.foldl (c.readHost world) r))[host]? =
      if host ∈ hosts then some (value host) else (m r)[host]? := by
  induction hosts generalizing r with
  | nil => simp
  | cons h hosts ih =>
    rw [List.foldl_cons, ih, hinsert]
    by_cases hmem : host ∈ hosts
    · simp [hmem]
    · by_cases heq : host = h
      · subst heq
        simp
      · have hne : ¬ compare h host = .eq := fun he => heq (compare_eq_iff_eq.mp he).symm
        simp [hmem, heq, Std.TreeMap.getElem?_insert, hne]

theorem vmsOn_foldl {hosts : List HostId} (hnodup : hosts.Nodup) (r : Reading)
    (hbare : ∀ h ∈ hosts, r.placement.vmsOn h = []) :
    (hosts.foldl (c.readHost world) r).placement.vmsOn host =
      if host ∈ hosts then world host else r.placement.vmsOn host := by
  induction hosts generalizing r with
  | nil => simp
  | cons h hosts ih =>
    obtain ⟨hnew, hnodup⟩ := List.nodup_cons.mp hnodup
    have hread (other : HostId) : (c.readHost world r h).placement.vmsOn other =
        if h = other then r.placement.vmsOn h ++ world h else r.placement.vmsOn other :=
      vmsOn_foldl_assign r.placement (world h) h other
    have hrest : ∀ h' ∈ hosts, (c.readHost world r h).placement.vmsOn h' = [] := by
      intro h' hmem
      have hne : ¬ h = h' := fun heq => hnew (heq ▸ hmem)
      rw [hread, if_neg hne]
      exact hbare h' (List.mem_cons_of_mem _ hmem)
    rw [List.foldl_cons, ih hnodup _ hrest, hread]
    by_cases hmem : host ∈ hosts
    · simp [hmem]
    · by_cases heq : h = host
      · subst heq
        simp [hmem, hbare h List.mem_cons_self]
      · have hne : ¬ host = h := fun he => heq he.symm
        simp [hmem, heq, hne]

theorem read_pressure_eq_some_iff {p : Pressure} : (c.read world).pressure[host]? = some p ↔
    host ∈ c.hosts ∧ c.pressure world host = p := by
  rw [read, getElem?_foldl Reading.pressure (c.pressure world) fun _ _ => rfl]
  by_cases hmem : host ∈ c.hosts <;> simp [hmem, Reading.empty]

theorem read_compat_eq_some_iff {k : CompatClass} : (c.read world).compat[host]? = some k ↔
    host ∈ c.hosts ∧ c.compat host = k := by
  rw [read, getElem?_foldl Reading.compat c.compat fun _ _ => rfl]
  by_cases hmem : host ∈ c.hosts <;> simp [hmem, Reading.empty]

theorem read_vmsOn : (c.read world).placement.vmsOn host =
    if host ∈ c.hosts then world host else [] := by
  rw [read, vmsOn_foldl c.nodup _ fun h _ => by simp [Reading.empty]]
  simp [Reading.empty]

end Read

/-! ## What a move is -/

section Pick

variable {c world} {mv : Rebalance}

/-- What is known of a picked move: it goes from the hottest host, which is above the watermark, to
the coolest of the others that can restore the VM, which is cooler. -/
structure Picked (c : Cluster) (world : World) (mv : Rebalance) : Prop where
  from_mem : mv.fromHost ∈ c.hosts
  to_mem : mv.toHost ∈ c.hosts
  ne : mv.toHost ≠ mv.fromHost
  runs : mv.vm ∈ world mv.fromHost
  hottest : ∀ h ∈ c.hosts, (c.pressure world h).value ≤ (c.pressure world mv.fromHost).value
  overloaded : c.highWatermark.value < (c.pressure world mv.fromHost).value
  compatible : (c.compat mv.fromHost).compatibleWith (c.compat mv.toHost) = true
  cooler : (c.pressure world mv.toHost).value < (c.pressure world mv.fromHost).value
  coolest : ∀ h ∈ c.hosts, h ≠ mv.fromHost →
    (c.compat mv.fromHost).compatibleWith (c.compat h) = true →
    (c.pressure world mv.toHost).value ≤ (c.pressure world h).value

theorem picked (h : c.pick world = some mv) : c.Picked world mv := by
  obtain ⟨sourceClass, hhot, hover, hclass, hcool, hcooler, hvictim⟩ := pickVictim_eq_some_iff.mp h
  obtain ⟨p, hp, hmax⟩ := hottestHost_eq_some_iff.mp hhot
  obtain ⟨q, ⟨hq, hne, class', hclass', hcompatible⟩, hmin⟩ :=
    coolestCompatibleHost_eq_some_iff.mp hcool
  rw [pressureOf_eq hp] at hover hcooler
  rw [pressureOf_eq hq] at hcooler
  obtain ⟨hfrom, rfl⟩ := read_pressure_eq_some_iff.mp hp
  obtain ⟨hto, rfl⟩ := read_pressure_eq_some_iff.mp hq
  obtain ⟨-, rfl⟩ := read_compat_eq_some_iff.mp hclass
  obtain ⟨-, rfl⟩ := read_compat_eq_some_iff.mp hclass'
  have hruns := mem_of_mostIdleVm hvictim
  rw [read_vmsOn, if_pos hfrom] at hruns
  refine ⟨hfrom, hto, hne, hruns, fun h hmem => ?_, hover, hcompatible, hcooler,
    fun h hmem hother hcompatible => ?_⟩
  · rcases hmax h _ (read_pressure_eq_some_iff.mpr ⟨hmem, rfl⟩) with hlt | ⟨heq, -⟩
    · exact Pressure.value_le hlt.le
    · rw [heq]
  · rcases hmin h _ ⟨read_pressure_eq_some_iff.mpr ⟨hmem, rfl⟩, hother, c.compat h,
      read_compat_eq_some_iff.mpr ⟨hmem, rfl⟩, hcompatible⟩ with hlt | ⟨heq, -⟩
    · exact Pressure.value_le hlt.le
    · rw [heq]

/-- A fleet with a host above the watermark picks a move, if its hottest host runs a VM and has a
compatible cooler peer. -/
theorem exists_pick {a : HostId} (ha : a ∈ c.hosts)
    (hover : c.highWatermark.value < (c.pressure world a).value)
    (hserves : ∀ hottest ∈ c.hosts,
      (c.pressure world a).value ≤ (c.pressure world hottest).value →
      world hottest ≠ [] ∧ ∃ b ∈ c.hosts,
        (c.compat hottest).compatibleWith (c.compat b) = true ∧
        (c.pressure world b).value < (c.pressure world hottest).value) :
    ∃ mv, c.pick world = some mv := by
  have hread : (c.read world).pressure[a]? = some (c.pressure world a) :=
    read_pressure_eq_some_iff.mpr ⟨ha, rfl⟩
  obtain ⟨hottest, hhot⟩ := exists_hottestHost hread
  rw [hottestHost_eq_some_iff] at hhot
  obtain ⟨p, hp, hmax⟩ := hhot
  -- The hottest host reads at least what `a` reads, so it is over the watermark and is served.
  obtain ⟨hmem, rfl⟩ := read_pressure_eq_some_iff.mp hp
  have hle : (c.pressure world a).value ≤ (c.pressure world hottest).value := by
    rcases hmax a _ hread with hlt | ⟨heq, -⟩
    · exact Pressure.value_le hlt.le
    · rw [heq]
  obtain ⟨hsome, b, hb, hcompatible, hcooler⟩ := hserves hottest hmem hle
  obtain ⟨vm, hvm⟩ := List.exists_mem_of_ne_nil _ hsome
  refine Reading.exists_pick_iff.mpr ⟨hottest, ⟨_, hp, hmax⟩, b, vm, ?_⟩
  refine ⟨?_, ⟨_, _, read_compat_eq_some_iff.mpr ⟨hmem, rfl⟩,
    read_compat_eq_some_iff.mpr ⟨hb, rfl⟩, hcompatible⟩, ⟨_, _, hp,
    read_pressure_eq_some_iff.mpr ⟨hb, rfl⟩, hover.trans_le hle, hcooler⟩⟩
  rwa [read_vmsOn, if_pos hmem]

theorem next_eq_some_iff {world' : World} : c.next world = some world' ↔
    ∃ mv, c.pick world = some mv ∧ world.relocate mv = world' :=
  Option.map_eq_some_iff

theorem next_eq_none_iff : c.next world = none ↔ c.pick world = none :=
  Option.map_eq_none_iff

/-- The sum over the hosts of a function of their loads, before and after a move. -/
theorem Picked.sum_relocate (h : c.Picked world mv) (size : VmId → ℕ) (f : ℕ → ℕ) :
    ∑ host ∈ c.hosts.toFinset, f ((world.relocate mv).load size host) +
        (f (world.load size mv.fromHost) + f (world.load size mv.toHost)) =
      ∑ host ∈ c.hosts.toFinset, f (world.load size host) +
        (f ((world.relocate mv).load size mv.fromHost) +
          f ((world.relocate mv).load size mv.toHost)) := by
  refine sum_two_points (f := fun host => f (world.load size host))
    (g := fun host => f ((world.relocate mv).load size host))
    (List.mem_toFinset.mpr h.from_mem) (List.mem_toFinset.mpr h.to_mem) h.ne.symm
    fun host _ hfrom hto => ?_
  rw [World.load_relocate_other size hfrom hto]

/-- No move creates or loses load. -/
theorem Picked.total_relocate (h : c.Picked world mv) (size : VmId → ℕ) :
    ∑ host ∈ c.hosts.toFinset, (world.relocate mv).load size host =
      ∑ host ∈ c.hosts.toFinset, world.load size host := by
  have hsum := h.sum_relocate size id
  have hfrom := World.load_relocate_source size h.runs
  have hto : (world.relocate mv).load size mv.toHost = _ := World.load_relocate_target size h.ne
  simp only [id] at hsum
  omega

end Pick

/-! ## Runs that end -/

section Runs

variable {c} {start world world' : World} {n : ℕ}

/-- Two fleets with the same VMs on each host. -/
def SamePlacement (c : Cluster) (world world' : World) : Prop :=
  ∀ host ∈ c.hosts, (world host).Perm (world' host)

theorem SamePlacement.load_eq (h : c.SamePlacement world world') (size : VmId → ℕ) {host : HostId}
    (hmem : host ∈ c.hosts) : world.load size host = world'.load size host :=
  ((h host hmem).map size).sum_eq

/-- The total load stays what it was at the start. -/
theorem total_iter (h : iter c.next n start = some world) (size : VmId → ℕ) :
    ∑ host ∈ c.hosts.toFinset, world.load size host =
      ∑ host ∈ c.hosts.toFinset, start.load size host := by
  refine iter_invariant (P := fun world => ∑ host ∈ c.hosts.toFinset, world.load size host =
      ∑ host ∈ c.hosts.toFinset, start.load size host) rfl (fun world world' hworld hnext => ?_) h
  obtain ⟨mv, hpick, rfl⟩ := next_eq_some_iff.mp hnext
  rw [(picked hpick).total_relocate size, hworld]

/-- A move leaves its target with less load than its source had. -/
def Relieving (size : VmId → ℕ) (world : World) (mv : Rebalance) : Prop :=
  world.load size mv.toHost + size mv.vm < world.load size mv.fromHost

instance (size : VmId → ℕ) (mv : Rebalance) : Decidable (Relieving size world mv) :=
  inferInstanceAs (Decidable (_ < _))

/-- The sum of the squares of the loads. -/
def squares (c : Cluster) (size : VmId → ℕ) (world : World) : ℕ :=
  ∑ host ∈ c.hosts.toFinset, world.load size host ^ 2

/-- A relieving move of a VM brings the loads of its two hosts nearer to each other. -/
theorem squares_relocate_lt {mv : Rebalance} {size : VmId → ℕ} (h : c.Picked world mv)
    (hpos : 0 < size mv.vm) (hless : Relieving size world mv) :
    c.squares size (world.relocate mv) < c.squares size world := by
  have hsum := h.sum_relocate size (· ^ 2)
  have hfrom := World.load_relocate_source size h.runs
  have hto : (world.relocate mv).load size mv.toHost = _ := World.load_relocate_target size h.ne
  rw [Relieving] at hless
  rw [squares, squares]
  rw [← hfrom] at hless hsum
  rw [hto] at hsum
  generalize (world.relocate mv).load size mv.fromHost = f at *
  generalize world.load size mv.toHost = t at *
  generalize size mv.vm = s at *
  -- With `f + s` and `t` before and `f` and `t + s` after, the squares drop by `2 s (f - t)`.
  have hft : t < f := by omega
  nlinarith [Nat.mul_lt_mul_of_pos_left hft hpos]

/-- Whatever pressures the hosts report: if every move of a run takes a VM smaller than the gap
between the loads of its two hosts, the run comes to an end and returns to no placement. -/
theorem converges_without_thrash (c : Cluster) (start : World) (size : VmId → ℕ)
    (hpos : ∀ vm, 0 < size vm)
    (hrelieving : ∀ n world mv, iter c.next n start = some world → c.pick world = some mv →
      Relieving size world mv) :
    (∃ n world, iter c.next n start = some world ∧ c.next world = none) ∧
      ∀ m n world world', m < n → iter c.next m start = some world →
        iter c.next n start = some world' → ¬ c.SamePlacement world world' := by
  have hdrop : ∀ n world world', iter c.next n start = some world →
      c.next world = some world' → c.squares size world' < c.squares size world := by
    intro n world world' hworld hnext
    obtain ⟨mv, hpick, rfl⟩ := next_eq_some_iff.mp hnext
    exact squares_relocate_lt (picked hpick) (hpos _) (hrelieving n world mv hworld hpick)
  refine ⟨exists_end hdrop, fun m n world world' hlt hworld hworld' hsame => ?_⟩
  -- The squares have dropped, and a placement met before would have them as they were.
  have hless := measure_lt hdrop hlt hworld hworld'
  have hequal : c.squares size world = c.squares size world' :=
    Finset.sum_congr rfl fun host hmem => by rw [hsame.load_eq size (List.mem_toFinset.mp hmem)]
  omega

/-- A fleet whose pressures are its loads over one capacity, with all hosts of one class. -/
def uniform (hosts : List HostId) (nodup : hosts.Nodup) (size : VmId → ℕ) (capacity : ℕ)
    (idle : VmId → Duration) (host : CompatClass) (highWatermark : Pressure) : Cluster where
  hosts := hosts
  nodup := nodup
  pressure world h := .new (.finite (world.load size h / capacity))
  idle := idle
  compat _ := host
  highWatermark := highWatermark

/-- Two hosts with a watermark at half their capacity of 10. -/
def twoHosts (size : VmId → ℕ) : Cluster :=
  uniform [⟨"a"⟩, ⟨"b"⟩] (by decide) size 10 (fun _ => ⟨60 * 10 ^ 9⟩)
    ⟨"GenuineIntel", "Xeon", 2000000, "6.1.155"⟩ (.new (.finite (1 / 2)))

/-- Two VMs of size 4 on one host: one of them moves, and both hosts are under the watermark. -/
theorem converges_without_thrash_two_vms :
    let c := twoHosts fun _ => 4
    let start : World := fun host => if host = ⟨"a"⟩ then [⟨1⟩, ⟨2⟩] else []
    (∃ n world, iter c.next n start = some world ∧ c.next world = none) ∧
      ∀ m n world world', m < n → iter c.next m start = some world →
        iter c.next n start = some world' → ¬ c.SamePlacement world world' := by
  intro c start
  let mv : Rebalance := ⟨⟨1⟩, ⟨"a"⟩, ⟨"b"⟩⟩
  have hpick : c.pick start = some mv := by decide +kernel
  have hlast : c.pick (start.relocate mv) = none := by decide +kernel
  have hnext : c.next start = some (start.relocate mv) := next_eq_some_iff.mpr ⟨mv, hpick, rfl⟩
  refine converges_without_thrash c start (fun _ => 4) (fun _ => by decide) ?_
  intro n world mv' hworld hpick'
  -- The run has its start and one more state, in which nothing is picked.
  have hrun : ∀ n world, iter c.next n start = some world →
      world = start ∨ world = start.relocate mv := by
    intro n world hworld
    refine iter_invariant (P := fun world => world = start ∨ world = start.relocate mv)
      (Or.inl rfl) ?_ hworld
    rintro b b' (rfl | rfl) hb'
    · exact Or.inr (Option.some_inj.mp (hb'.symm.trans hnext))
    · rw [next_eq_none_iff.mpr hlast] at hb'
      cases hb'
  rcases hrun n world hworld with rfl | rfl
  · obtain rfl := Option.some_inj.mp (hpick'.symm.trans hpick)
    decide +kernel
  · rw [hlast] at hpick'
    cases hpick'

/-- One VM larger than the watermark goes to and fro between two hosts, for ever. -/
theorem one_vm_moves_forever :
    let c := twoHosts fun _ => 8
    let start : World := fun host => if host = ⟨"a"⟩ then [⟨1⟩] else []
    (¬ ∃ n world, iter c.next n start = some world ∧ c.next world = none) ∧
      ∃ m n world world', m < n ∧ iter c.next m start = some world ∧
        iter c.next n start = some world' ∧ c.SamePlacement world world' := by
  intro c start
  let mv : Rebalance := ⟨⟨1⟩, ⟨"a"⟩, ⟨"b"⟩⟩
  let back : Rebalance := ⟨⟨1⟩, ⟨"b"⟩, ⟨"a"⟩⟩
  have hpick : c.pick start = some mv := by decide +kernel
  have hback : c.pick (start.relocate mv) = some back := by decide +kernel
  have hreturn : (start.relocate mv).relocate back = start := by
    funext host
    by_cases ha : host = ⟨"a"⟩
    · subst ha
      decide +kernel
    · by_cases hb : host = ⟨"b"⟩
      · subst hb
        decide +kernel
      · simp [World.relocate, mv, back, start, ha, hb]
  have hnext : c.next start = some (start.relocate mv) := next_eq_some_iff.mpr ⟨mv, hpick, rfl⟩
  have hnext' : c.next (start.relocate mv) = some start :=
    next_eq_some_iff.mpr ⟨back, hback, hreturn⟩
  constructor
  · rintro ⟨n, world, hworld, hnone⟩
    -- There are only these two worlds, and each has a move to the other.
    have hrun : world = start ∨ world = start.relocate mv := by
      refine iter_invariant (P := fun world => world = start ∨ world = start.relocate mv)
        (Or.inl rfl) ?_ hworld
      rintro b b' (rfl | rfl) hb'
      · exact Or.inr (Option.some_inj.mp (hb'.symm.trans hnext))
      · exact Or.inl (Option.some_inj.mp (hb'.symm.trans hnext'))
    rcases hrun with rfl | rfl
    · rw [hnext] at hnone
      cases hnone
    · rw [hnext'] at hnone
      cases hnone
  · refine ⟨0, 2, start, start, by decide, rfl, ?_, fun _ _ => .refl _⟩
    rw [iter_succ_eq_some_iff]
    exact ⟨start.relocate mv, iter_succ_eq_some_iff.mpr ⟨start, rfl, hnext⟩, hnext'⟩

end Runs

/-! ## Runs of VMs of one size -/

section Counts

variable {c} {start world world' : World} {w n : ℕ}

theorem load_one (world : World) (host : HostId) :
    world.load (fun _ => 1) host = (world host).length := by
  simp [World.load]

/-- The number of times a VM is listed on the hosts of the fleet. -/
def copies (c : Cluster) (world : World) (vm : VmId) : ℕ :=
  ∑ host ∈ c.hosts.toFinset, (world host).count vm

theorem load_indicator (world : World) (host : HostId) (vm : VmId) :
    world.load (fun other => if other = vm then 1 else 0) host = (world host).count vm := by
  rw [World.load]
  induction world host with
  | nil => rfl
  | cons other vms ih =>
    rw [List.map_cons, List.sum_cons, ih, List.count_cons, Nat.add_comm]
    simp [beq_iff_eq]

/-- A VM listed once lives on exactly one host. -/
theorem existsUnique_of_copies {vm : VmId} (h : c.copies world vm = 1) :
    ∃! host, host ∈ c.hosts ∧ vm ∈ world host := by
  obtain ⟨host, hmem, hne⟩ := Finset.exists_ne_zero_of_sum_ne_zero (h.trans_ne one_ne_zero)
  have hvm : vm ∈ world host := List.count_pos_iff.mp (Nat.pos_of_ne_zero hne)
  refine ⟨host, ⟨List.mem_toFinset.mp hmem, hvm⟩, fun other ⟨hother, hvm'⟩ => ?_⟩
  by_contra hdiff
  -- Two hosts with the VM would list it twice.
  have hpair : ({host, other} : Finset HostId) ⊆ c.hosts.toFinset := by
    intro x hx
    rcases Finset.mem_insert.mp hx with rfl | hx
    · exact hmem
    · exact Finset.mem_singleton.mp hx ▸ List.mem_toFinset.mpr hother
  have hle := Finset.sum_le_sum_of_subset (f := fun host => (world host).count vm) hpair
  rw [Finset.sum_pair (Ne.symm hdiff)] at hle
  have hone := List.count_pos_iff.mpr hvm
  have hone' := List.count_pos_iff.mpr hvm'
  rw [copies] at h
  omega

/-- In every state of the run, pressures compare as the numbers of VMs do, and the watermark as
`w` VMs. -/
structure ComparesCounts (c : Cluster) (start : World) (w : ℕ) : Prop where
  hosts : ∀ n world, iter c.next n start = some world → ∀ a ∈ c.hosts, ∀ b ∈ c.hosts,
    ((c.pressure world a).value ≤ (c.pressure world b).value ↔
      (world a).length ≤ (world b).length)
  watermark : ∀ n world, iter c.next n start = some world → ∀ a ∈ c.hosts,
    ((c.pressure world a).value ≤ c.highWatermark.value ↔ (world a).length ≤ w)

/-- The number of VMs above the watermark. -/
def excess (c : Cluster) (w : ℕ) (world : World) : ℕ :=
  ∑ host ∈ c.hosts.toFinset, ((world host).length - w)

theorem excess_eq_zero_iff :
    c.excess w world = 0 ↔ ∀ host ∈ c.hosts, (world host).length ≤ w := by
  simp [excess, Nat.sub_eq_zero_iff_le]

/-- With room for all, a host above the watermark leaves another below it. -/
theorem exists_below {a : HostId} (ha : a ∈ c.hosts) (hover : w < (world a).length)
    (htotal : ∑ host ∈ c.hosts.toFinset, (world host).length ≤ c.hosts.length * w) :
    ∃ b ∈ c.hosts, (world b).length < w := by
  -- If every host were at the watermark, the one above it would make the total too large.
  by_contra hnone
  have hfull : ∀ b ∈ c.hosts.toFinset, w ≤ (world b).length := by
    intro b hb
    by_contra hb'
    exact hnone ⟨b, List.mem_toFinset.mp hb, by omega⟩
  have hlt := Finset.sum_lt_sum hfull ⟨a, List.mem_toFinset.mpr ha, hover⟩
  rw [Finset.sum_const, List.toFinset_card_of_nodup c.nodup, smul_eq_mul] at hlt
  omega

variable (hcompat : ∀ a ∈ c.hosts, ∀ b ∈ c.hosts,
    (c.compat a).compatibleWith (c.compat b) = true)
  (hcounts : c.ComparesCounts start w)
  (htotal : ∑ host ∈ c.hosts.toFinset, (start host).length ≤ c.hosts.length * w)

include htotal in
theorem total_le (h : iter c.next n start = some world) :
    ∑ host ∈ c.hosts.toFinset, (world host).length ≤ c.hosts.length * w := by
  have hsame := total_iter h fun _ => 1
  simp only [load_one] at hsame
  omega

include hcompat hcounts htotal in
/-- A move takes a VM from a host above the watermark to one below it. -/
theorem counts_of_pick {mv : Rebalance} (h : iter c.next n start = some world)
    (hpick : c.pick world = some mv) :
    w < (world mv.fromHost).length ∧ (world mv.toHost).length < w := by
  have hpicked := picked hpick
  have hover : w < (world mv.fromHost).length := by
    by_contra hle
    have hvalue := (hcounts.watermark n world h _ hpicked.from_mem).mpr (by omega)
    exact absurd hpicked.overloaded (not_lt.mpr hvalue)
  obtain ⟨b, hb, hbelow⟩ := exists_below hpicked.from_mem hover (total_le htotal h)
  have hne : b ≠ mv.fromHost := by
    rintro rfl
    omega
  -- The target reads no higher than `b`, so it has no more VMs.
  have hcool := hpicked.coolest b hb hne (hcompat _ hpicked.from_mem b hb)
  have hle := (hcounts.hosts n world h _ hpicked.to_mem b hb).mp hcool
  exact ⟨hover, by omega⟩

include hcompat hcounts htotal in
/-- Nothing is picked exactly if every host is within the watermark. -/
theorem pick_eq_none_iff (h : iter c.next n start = some world) :
    c.next world = none ↔ c.excess w world = 0 := by
  rw [next_eq_none_iff, excess_eq_zero_iff]
  constructor
  · intro hnone
    by_contra hexcess
    obtain ⟨a, ha, hover⟩ : ∃ a ∈ c.hosts, w < (world a).length := by simpa using hexcess
    have hvalue : c.highWatermark.value < (c.pressure world a).value := by
      by_contra hle
      have := (hcounts.watermark n world h a ha).mp (not_lt.mp hle)
      omega
    obtain ⟨b, hb, hbelow⟩ := exists_below ha hover (total_le htotal h)
    -- A host as hot as `a` has as many VMs, so it runs one, and `b` is cooler than it.
    obtain ⟨mv, hmv⟩ := exists_pick ha hvalue fun hottest hmem hle => by
      have hmost := (hcounts.hosts n world h a ha hottest hmem).mp hle
      refine ⟨fun hbare => ?_, b, hb, hcompat hottest hmem b hb, ?_⟩
      · rw [hbare, List.length_nil] at hmost
        omega
      · by_contra hle'
        have := (hcounts.hosts n world h hottest hmem b hb).mp (not_lt.mp hle')
        omega
    rw [hnone] at hmv
    cases hmv
  · intro hwithin
    by_contra hsome
    obtain ⟨mv, hpick⟩ := Option.ne_none_iff_exists'.mp hsome
    obtain ⟨hover, -⟩ := counts_of_pick hcompat hcounts htotal h hpick
    have := hwithin _ (picked hpick).from_mem
    omega

theorem length_relocate {mv : Rebalance} (h : c.Picked world mv) :
    (world.relocate mv mv.fromHost).length + 1 = (world mv.fromHost).length ∧
      (world.relocate mv mv.toHost).length = (world mv.toHost).length + 1 ∧
      ∀ host, host ≠ mv.fromHost → host ≠ mv.toHost →
        (world.relocate mv host).length = (world host).length := by
  simp only [← load_one]
  exact ⟨World.load_relocate_source _ h.runs, World.load_relocate_target _ h.ne,
    fun host => World.load_relocate_other _⟩

include hcompat hcounts htotal in
/-- Every move takes one VM off the excess. -/
theorem excess_next (h : iter c.next n start = some world) (hnext : c.next world = some world') :
    c.excess w world' + 1 = c.excess w world := by
  obtain ⟨mv, hpick, rfl⟩ := next_eq_some_iff.mp hnext
  obtain ⟨hover, hbelow⟩ := counts_of_pick hcompat hcounts htotal h hpick
  have hsum := (picked hpick).sum_relocate (fun _ => 1) (· - w)
  simp only [load_one] at hsum
  obtain ⟨hfrom, hto, -⟩ := length_relocate (picked hpick)
  rw [excess, excess]
  omega

/-- Hosts of one class, VMs of one size, a watermark of `w` VMs and room for all of them: the run
ends after exactly as many moves as there are VMs above the watermark, with every host within it;
no move takes a host above it, and every VM stays on one host. -/
theorem excess_moves (c : Cluster) (start : World) (w : ℕ)
    (hcompat : ∀ a ∈ c.hosts, ∀ b ∈ c.hosts, (c.compat a).compatibleWith (c.compat b) = true)
    (hcounts : c.ComparesCounts start w)
    (htotal : ∑ host ∈ c.hosts.toFinset, (start host).length ≤ c.hosts.length * w) :
    (∃ final, iter c.next (∑ host ∈ c.hosts.toFinset, ((start host).length - w)) start =
        some final ∧ c.next final = none ∧ ∀ host ∈ c.hosts, (final host).length ≤ w) ∧
      ∀ n world, iter c.next n start = some world →
        (∀ world', c.next world = some world' → ∀ host,
          (world host).length < (world' host).length → (world' host).length ≤ w) ∧
        (∀ vm, c.copies world vm = c.copies start vm) ∧
        ∀ vm, c.copies start vm = 1 → ∃! host, host ∈ c.hosts ∧ vm ∈ world host := by
  have hend : ∀ n world, iter c.next n start = some world →
      (c.next world = none ↔ c.excess w world = 0) :=
    fun _ _ h => pick_eq_none_iff hcompat hcounts htotal h
  have hcopies : ∀ n world, iter c.next n start = some world →
      ∀ vm, c.copies world vm = c.copies start vm := by
    intro n world h vm
    have hsame := total_iter h fun other => if other = vm then 1 else 0
    simp only [load_indicator] at hsame
    exact hsame
  refine ⟨?_, fun n world h => ⟨?_, hcopies n world h, ?_⟩⟩
  · obtain ⟨final, hfinal, hnone⟩ := exists_end_at
      (fun _ _ _ h hnext => excess_next hcompat hcounts htotal h hnext) hend
    exact ⟨final, hfinal, hnone, excess_eq_zero_iff.mp ((hend _ final hfinal).mp hnone)⟩
  · intro world' hnext host hmore
    obtain ⟨mv, hpick, rfl⟩ := next_eq_some_iff.mp hnext
    obtain ⟨-, hbelow⟩ := counts_of_pick hcompat hcounts htotal h hpick
    obtain ⟨hfrom, hto, hother⟩ := length_relocate (picked hpick)
    -- Only the target gains a VM, and it was below the watermark.
    by_cases hsource : host = mv.fromHost
    · subst hsource
      omega
    · by_cases htarget : host = mv.toHost
      · subst htarget
        omega
      · rw [hother host hsource htarget] at hmore
        omega
  · intro vm hone
    exact existsUnique_of_copies ((hcopies n world h vm).trans hone)

/-- Five VMs on three hosts with room for eight each and a watermark of two: two moves. -/
theorem excess_moves_five_vms :
    let c := uniform [⟨"a"⟩, ⟨"b"⟩, ⟨"c"⟩] (by decide) (fun _ => 1) 8 (fun _ => ⟨60 * 10 ^ 9⟩)
      ⟨"GenuineIntel", "Xeon", 2000000, "6.1.155"⟩ (.new (.finite (2 / 8)))
    let start : World := fun host =>
      if host = ⟨"b"⟩ then [⟨1⟩] else if host = ⟨"c"⟩ then [⟨2⟩, ⟨3⟩, ⟨4⟩, ⟨5⟩] else []
    ∃ final, iter c.next 2 start = some final ∧ c.next final = none ∧
      ∀ host ∈ c.hosts, (final host).length ≤ 2 := by
  intro c start
  have htotal : ∑ host ∈ c.hosts.toFinset, (start host).length ≤ c.hosts.length * 2 := by
    decide +kernel
  -- No host ever holds more VMs than there are, so no reading is clamped.
  have hfits : ∀ n world, iter c.next n start = some world → ∀ a ∈ c.hosts,
      (world a).length ≤ 6 := by
    intro n world h a ha
    refine (Finset.single_le_sum (f := fun host => (world host).length)
      (fun _ _ => Nat.zero_le _) (List.mem_toFinset.mpr ha)).trans ?_
    exact total_le htotal h
  have hvalue : ∀ n world, iter c.next n start = some world → ∀ a ∈ c.hosts,
      (c.pressure world a).value = (world a).length / 8 := by
    intro n world h a ha
    have hle : ((world a).length : ℚ) ≤ 6 := by exact_mod_cast hfits n world h a ha
    have hread : (c.pressure world a).value =
        max 0 (min (((world.load (fun _ => 1) a : ℕ) : ℚ) / ((8 : ℕ) : ℚ)) 1) := rfl
    rw [hread, load_one, Nat.cast_ofNat, min_eq_left (by linarith), max_eq_right (by positivity)]
  have hcounts : c.ComparesCounts start 2 := by
    refine ⟨fun n world h a ha b hb => ?_, fun n world h a ha => ?_⟩
    · rw [hvalue n world h a ha, hvalue n world h b hb,
        div_le_div_iff_of_pos_right (by norm_num), Nat.cast_le]
    · have hmark : c.highWatermark.value = ((2 : ℕ) : ℚ) / 8 := by decide +kernel
      rw [hvalue n world h a ha, hmark, div_le_div_iff_of_pos_right (by norm_num), Nat.cast_le]
  have hcompat : ∀ a ∈ c.hosts, ∀ b ∈ c.hosts,
      (c.compat a).compatibleWith (c.compat b) = true :=
    fun _ _ _ _ => CompatClass.compatibleWith_refl _
  have hexcess : ∑ host ∈ c.hosts.toFinset, ((start host).length - 2) = 2 := by decide +kernel
  obtain ⟨hfinal, -⟩ := excess_moves c start 2 hcompat hcounts htotal
  rwa [hexcess] at hfinal

end Counts

end Cluster

end Sleepwalk.Rebalancer
