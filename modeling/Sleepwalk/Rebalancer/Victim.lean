import Sleepwalk.Rebalancer.Placement

/-!
# The victim that is picked

What `pickVictim` picks, in terms of sets of hosts and VMs: the least host of those that read
highest, the least of the compatible ones that read lowest, and the least of the VMs that have been
idle longest (`pickVictim_best`).

A VM without a reading counts as idle for no time at all. That keeps it from being picked before a
VM with a positive reading, and before no other (`pickVictim_evidenced_iff`).
-/

namespace Sleepwalk.Rebalancer

open Proto

/-- A placement as it is recorded, one VM after the other. -/
def Placement.record (assigned : List (HostId × VmId)) : Placement :=
  assigned.foldl (fun placement e => placement.assign e.1 e.2) .new

section Best

variable (placement : Placement) (pressure : Std.TreeMap HostId Pressure)
  (idle : Std.TreeMap VmId Duration) (highWatermark : Pressure)
  (compat : Std.TreeMap HostId CompatClass)

/-- The hosts of maximal pressure. -/
def hottestHosts : Set HostId :=
  {host | host ∈ pressure ∧
    ∀ other ∈ pressure, pressureOf pressure other ≤ pressureOf pressure host}

/-- The hosts other than `except` whose class can restore a snapshot of `sourceClass`. -/
def compatibleHosts (except : HostId) (sourceClass : CompatClass) : Set HostId :=
  {host | host ∈ pressure ∧ host ≠ except ∧
    ∃ target, compat[host]? = some target ∧ sourceClass.compatibleWith target = true}

/-- Those of minimal pressure. -/
def coolestHosts (except : HostId) (sourceClass : CompatClass) : Set HostId :=
  {host | host ∈ compatibleHosts pressure compat except sourceClass ∧
    ∀ other ∈ compatibleHosts pressure compat except sourceClass,
      pressureOf pressure host ≤ pressureOf pressure other}

/-- The VMs with a reading of maximal length. -/
def mostIdleVms (vms : List VmId) : Set VmId :=
  {vm | vm ∈ vms ∧ ∃ gap, idle[vm]? = some gap ∧
    ∀ other ∈ vms, ∀ gap', idle[other]? = some gap' → gap' ≤ gap}

/-- The best move there is: from the least host of those that read highest, which is overloaded, to
the least of the compatible ones that read lowest, which is cooler, of the least VM of those on the
source that have been idle longest. -/
structure Best (mv : Rebalance) : Prop where
  hottest : IsLeast (hottestHosts pressure) mv.fromHost
  overloaded : highWatermark.value < (pressureOf pressure mv.fromHost).value
  coolest : ∃ sourceClass, compat[mv.fromHost]? = some sourceClass ∧
    IsLeast (coolestHosts pressure compat mv.fromHost sourceClass) mv.toHost
  cooler : (pressureOf pressure mv.toHost).value < (pressureOf pressure mv.fromHost).value
  mostIdle : IsLeast (mostIdleVms idle (placement.vmsOn mv.fromHost)) mv.vm

end Best

section Selection

variable {pressure : Std.TreeMap HostId Pressure} {compat : Std.TreeMap HostId CompatClass}
  {idle : Std.TreeMap VmId Duration} {host except : HostId} {sourceClass : CompatClass}
  {vms : List VmId} {vm : VmId}

/-- The readings are those of the hosts that have one. -/
theorem getElem?_pressure_iff {p : Pressure} :
    pressure[host]? = some p ↔ host ∈ pressure ∧ pressureOf pressure host = p := by
  constructor
  · intro h
    rw [Std.TreeMap.mem_iff_isSome_getElem?, h]
    exact ⟨rfl, pressureOf_eq h⟩
  · rintro ⟨hmem, rfl⟩
    have hread := Std.TreeMap.getElem?_eq_some_getElem hmem
    rw [hread, pressureOf_eq hread]

theorem hottestHost_eq_some_iff_isLeast :
    hottestHost pressure = some host ↔ IsLeast (hottestHosts pressure) host := by
  rw [hottestHost_eq_some_iff]
  refine Iff.trans ?_ (Extremum.isLeast_maximal_iff {h | h ∈ pressure}
    (pressureOf pressure)).symm
  constructor
  · rintro ⟨p, hp, hmax⟩
    obtain ⟨hmem, rfl⟩ := getElem?_pressure_iff.mp hp
    exact ⟨hmem, fun other hother => hmax other _ (getElem?_pressure_iff.mpr ⟨hother, rfl⟩)⟩
  · rintro ⟨hmem, hmax⟩
    refine ⟨_, getElem?_pressure_iff.mpr ⟨hmem, rfl⟩, fun other q hq => ?_⟩
    obtain ⟨hother, rfl⟩ := getElem?_pressure_iff.mp hq
    exact hmax other hother

theorem candidate_iff {q : Pressure} : Candidate pressure except sourceClass compat host q ↔
    host ∈ compatibleHosts pressure compat except sourceClass ∧ pressureOf pressure host = q := by
  constructor
  · rintro ⟨hq, hne, hclass⟩
    obtain ⟨hmem, hread⟩ := getElem?_pressure_iff.mp hq
    exact ⟨⟨hmem, hne, hclass⟩, hread⟩
  · rintro ⟨⟨hmem, hne, hclass⟩, hread⟩
    exact ⟨getElem?_pressure_iff.mpr ⟨hmem, hread⟩, hne, hclass⟩

theorem coolestCompatibleHost_eq_some_iff_isLeast :
    coolestCompatibleHost pressure except sourceClass compat = some host ↔
      IsLeast (coolestHosts pressure compat except sourceClass) host := by
  rw [coolestCompatibleHost_eq_some_iff]
  refine Iff.trans ?_ Extremum.isLeast_minimal_iff.symm
  simp only [candidate_iff]
  constructor
  · rintro ⟨q, ⟨hmem, rfl⟩, hmin⟩
    exact ⟨hmem, fun other hother => hmin other _ ⟨hother, rfl⟩⟩
  · rintro ⟨hmem, hmin⟩
    refine ⟨_, ⟨hmem, rfl⟩, ?_⟩
    rintro other r ⟨hother, rfl⟩
    exact hmin other hother

/-- The most-idle VM is the least of those whose idle gap, zero without a reading, is maximal. -/
theorem mostIdleVm_eq_some_iff :
    mostIdleVm vms idle = some vm ↔
      vm ∈ vms ∧ ∀ other ∈ vms, idle.getD other ⟨0⟩ < idle.getD vm ⟨0⟩ ∨
        idle.getD other ⟨0⟩ = idle.getD vm ⟨0⟩ ∧ vm ≤ other := by
  rw [mostIdleVm, Extremum.maxBy_eq_some_iff]
  refine and_congr_right fun _ => forall₂_congr fun other _ => ?_
  rw [byIdleness, Ordering.isLE_then_iff_or, compare_lt_iff_lt, compare_eq_iff_eq,
    Extremum.isLE_compare_iff]

theorem getD_idle {gap : Duration} (h : idle[vm]? = some gap) : idle.getD vm ⟨0⟩ = gap := by
  rw [Std.TreeMap.getD_eq_getD_getElem?, h, Option.getD_some]

/-- Where every VM has a reading, the most-idle VM is the least of those that read longest. -/
theorem mostIdleVm_eq_some_iff_isLeast (hread : ∀ vm ∈ vms, ∃ gap, idle[vm]? = some gap) :
    mostIdleVm vms idle = some vm ↔ IsLeast (mostIdleVms idle vms) vm := by
  have hsame : mostIdleVms idle vms =
      {vm | vm ∈ {vm | vm ∈ vms} ∧
        ∀ other ∈ {vm | vm ∈ vms}, idle.getD other ⟨0⟩ ≤ idle.getD vm ⟨0⟩} := by
    -- Every VM has a reading, so the zero that stands for a missing one never comes in.
    ext vm
    constructor
    · rintro ⟨hmem, gap, hgap, hmax⟩
      refine ⟨hmem, fun other hother => ?_⟩
      obtain ⟨gap', hgap'⟩ := hread other hother
      rw [getD_idle hgap, getD_idle hgap']
      exact hmax other hother gap' hgap'
    · rintro ⟨hmem, hmax⟩
      obtain ⟨gap, hgap⟩ := hread vm hmem
      refine ⟨hmem, gap, hgap, fun other hother gap' hgap' => ?_⟩
      have hle := hmax other hother
      rwa [getD_idle hgap, getD_idle hgap'] at hle
  rw [mostIdleVm_eq_some_iff, hsame, Extremum.isLeast_maximal_iff]
  rfl

/-- The order and the number of times in which VMs are listed do not matter. -/
theorem mostIdleVm_congr {vms' : List VmId} (h : ∀ vm, vm ∈ vms ↔ vm ∈ vms') :
    mostIdleVm vms idle = mostIdleVm vms' idle := by
  ext vm
  simp only [mostIdleVm_eq_some_iff, h]

theorem mem_vmsOn_record {assigned : List (HostId × VmId)} :
    vm ∈ (Placement.record assigned).vmsOn host ↔ (host, vm) ∈ assigned := by
  induction assigned using List.reverseRecOn with
  | nil => simp [Placement.record]
  | append_singleton assigned e ih =>
    rw [Placement.record, List.foldl_append, List.foldl_cons, List.foldl_nil,
      Placement.vmsOn_assign]
    obtain ⟨other, v⟩ := e
    change vm ∈ (if other = host then (Placement.record assigned).vmsOn other ++ [v]
      else (Placement.record assigned).vmsOn host) ↔ _
    by_cases hhost : other = host
    · subst hhost
      rw [if_pos rfl, List.mem_append, ih]
      simp
    · have hne : ¬ host = other := fun heq => hhost heq.symm
      rw [if_neg hhost, ih]
      simp [hne]

end Selection

/-! ## The best move -/

section PickVictim

/-- For every placement, pressures, watermark and classes, and all idle readings that cover the
placed VMs, what is picked is the best move, and nothing where there is none; and it does not
depend on the order in which the placement was recorded. -/
theorem pickVictim_best :
    (∀ (placement : Placement) (pressure : Std.TreeMap HostId Pressure)
      (idle : Std.TreeMap VmId Duration) (highWatermark : Pressure)
      (compat : Std.TreeMap HostId CompatClass),
      (∀ host, ∀ vm ∈ placement.vmsOn host, ∃ gap, idle[vm]? = some gap) →
      ∀ mv, pickVictim placement pressure idle highWatermark compat = some mv ↔
        Best placement pressure idle highWatermark compat mv) ∧
    ∀ (assigned assigned' : List (HostId × VmId)) (pressure : Std.TreeMap HostId Pressure)
      (idle : Std.TreeMap VmId Duration) (highWatermark : Pressure)
      (compat : Std.TreeMap HostId CompatClass), assigned.Perm assigned' →
      pickVictim (.record assigned) pressure idle highWatermark compat =
        pickVictim (.record assigned') pressure idle highWatermark compat := by
  constructor
  · intro placement pressure idle highWatermark compat hread mv
    rw [pickVictim_eq_some_iff]
    simp only [hottestHost_eq_some_iff_isLeast, coolestCompatibleHost_eq_some_iff_isLeast,
      mostIdleVm_eq_some_iff_isLeast (hread mv.fromHost)]
    constructor
    · rintro ⟨sourceClass, hhot, hover, hclass, hcool, hcooler, hvictim⟩
      exact ⟨hhot, hover, ⟨sourceClass, hclass, hcool⟩, hcooler, hvictim⟩
    · rintro ⟨hhot, hover, ⟨sourceClass, hclass, hcool⟩, hcooler, hvictim⟩
      exact ⟨sourceClass, hhot, hover, hclass, hcool, hcooler, hvictim⟩
  · intro assigned assigned' pressure idle highWatermark compat hperm
    ext mv
    -- Only the choice of the VM looks at the lists.
    have hvictim : mostIdleVm ((Placement.record assigned).vmsOn mv.fromHost) idle =
        mostIdleVm ((Placement.record assigned').vmsOn mv.fromHost) idle := by
      refine mostIdleVm_congr fun vm => ?_
      rw [mem_vmsOn_record, mem_vmsOn_record, hperm.mem_iff]
    simp only [pickVictim_eq_some_iff, hvictim]

/-- Two VMs on a hot host: the one that has been idle for a minute is moved to the cool host. -/
theorem pickVictim_best_idle_vm :
    let host : CompatClass := ⟨"GenuineIntel", "Xeon", 2000000, "6.1.155"⟩
    let pressure :=
      ({} : Std.TreeMap HostId Pressure).insert ⟨"a"⟩ (.new (.finite (19 / 20)))
        |>.insert ⟨"b"⟩ (.new (.finite (1 / 5)))
    let idle :=
      ({} : Std.TreeMap VmId Duration).insert ⟨1⟩ ⟨10 ^ 9⟩ |>.insert ⟨2⟩ ⟨60 * 10 ^ 9⟩
    let compat :=
      ({} : Std.TreeMap HostId CompatClass).insert ⟨"a"⟩ host |>.insert ⟨"b"⟩ host
    Best (.record [(⟨"a"⟩, ⟨1⟩), (⟨"a"⟩, ⟨2⟩)]) pressure idle (.new (.finite (4 / 5))) compat
      ⟨⟨2⟩, ⟨"a"⟩, ⟨"b"⟩⟩ := by
  intro host pressure idle compat
  refine (pickVictim_best.1 _ pressure idle _ compat (fun h vm hvm => ?_) _).mp (by decide +kernel)
  rw [mem_vmsOn_record] at hvm
  rcases List.mem_cons.mp hvm with heq | hvm
  · obtain ⟨-, rfl⟩ := Prod.mk.inj heq
    exact ⟨⟨10 ^ 9⟩, by decide +kernel⟩
  · obtain ⟨-, rfl⟩ := Prod.mk.inj (List.mem_singleton.mp hvm)
    exact ⟨⟨60 * 10 ^ 9⟩, by decide +kernel⟩

/-! ## Evidence of idleness -/

variable {placement : Placement} {pressure : Std.TreeMap HostId Pressure}
  {idle : Std.TreeMap VmId Duration} {highWatermark : Pressure}
  {compat : Std.TreeMap HostId CompatClass} {mv : Rebalance}

/-- Two hosts are not both the hottest. -/
theorem IsHottest.eq {a b : HostId} (ha : IsHottest pressure a) (hb : IsHottest pressure b) :
    a = b := by
  have ha' := hottestHost_eq_some_iff.mpr ha
  have hb' := hottestHost_eq_some_iff.mpr hb
  exact Option.some_inj.mp (ha'.symm.trans hb')

/-- A VM that is picked without a reading is the least of its host, whose readings are all zero. -/
theorem no_evidence_of_unread (hpick : mostIdleVm (placement.vmsOn mv.fromHost) idle = some mv.vm)
    (hnone : idle[mv.vm]? = none) :
    IsLeast {vm | vm ∈ placement.vmsOn mv.fromHost} mv.vm ∧
      ∀ vm ∈ placement.vmsOn mv.fromHost, ∀ gap, idle[vm]? = some gap → gap = ⟨0⟩ := by
  obtain ⟨hmem, hmax⟩ := mostIdleVm_eq_some_iff.mp hpick
  have hzero : idle.getD mv.vm ⟨0⟩ = ⟨0⟩ := by
    rw [Std.TreeMap.getD_eq_getD_getElem?, hnone, Option.getD_none]
  -- It counts as zero, so any other VM of the host can only tie with it.
  have hnever : ∀ gap : Duration, ¬ gap < ⟨0⟩ := fun gap => Nat.not_lt_zero gap.nanos
  rw [hzero] at hmax
  refine ⟨⟨hmem, fun vm hvm => ?_⟩, fun vm hvm gap hgap => ?_⟩
  · rcases hmax vm hvm with hlt | ⟨-, hle⟩
    · exact absurd hlt (hnever _)
    · exact hle
  · rcases hmax vm hvm with hlt | ⟨heq, -⟩
    · exact absurd hlt (hnever _)
    · rwa [getD_idle hgap] at heq

/-- For every placement, pressures, idle readings, watermark and classes: whatever is picked has an
idle reading, if and only if the hottest host, where it has a relieving move at all, has a VM with a
positive reading or a reading for the least of its VMs. -/
theorem pickVictim_evidenced_iff (placement : Placement) (pressure : Std.TreeMap HostId Pressure)
    (idle : Std.TreeMap VmId Duration) (highWatermark : Pressure)
    (compat : Std.TreeMap HostId CompatClass) :
    (∀ mv, pickVictim placement pressure idle highWatermark compat = some mv →
        ∃ gap, idle[mv.vm]? = some gap) ↔
      ∀ hottest b least, IsHottest pressure hottest →
        Relieves placement pressure highWatermark compat hottest b least →
        IsLeast {vm | vm ∈ placement.vmsOn hottest} least →
        (∃ vm ∈ placement.vmsOn hottest, ∃ gap, idle[vm]? = some gap ∧ ⟨0⟩ < gap) ∨
          ∃ gap, idle[least]? = some gap := by
  constructor
  · intro hevidence hottest b least hhot hrelieves hleast
    by_contra hnone
    obtain ⟨hpositive, hunread⟩ := not_or.mp hnone
    -- Something is picked, of the hottest host; with no positive reading it is the least VM.
    obtain ⟨mv, hmv⟩ := exists_pickVictim_iff.mpr ⟨hottest, hhot, b, least, hrelieves⟩
    obtain ⟨_, hfrom, -, -, -, -, hvictim⟩ := pickVictim_eq_some_iff.mp hmv
    obtain rfl := hhot.eq (hottestHost_eq_some_iff.mp hfrom)
    obtain ⟨hmem, hmax⟩ := mostIdleVm_eq_some_iff.mp hvictim
    obtain ⟨gap, hgap⟩ := hevidence mv hmv
    have hgap0 : ¬ ⟨0⟩ < gap := fun hlt => hpositive ⟨mv.vm, hmem, gap, hgap, hlt⟩
    have hle : mv.vm ≤ least := by
      rcases hmax least hleast.1 with hlt | ⟨-, hle⟩
      · rw [getD_idle hgap] at hlt
        exact absurd (lt_of_le_of_lt (Nat.zero_le _) hlt) hgap0
      · exact hle
    obtain heq : mv.vm = least := le_antisymm hle (hleast.2 hmem)
    exact hunread ⟨gap, heq ▸ hgap⟩
  · intro hcovered mv hmv
    obtain ⟨_, hfrom, -, -, -, -, hvictim⟩ := pickVictim_eq_some_iff.mp hmv
    cases hread : idle[mv.vm]? with
    | some gap => exact ⟨gap, rfl⟩
    | none =>
      obtain ⟨hleast, hzero⟩ := no_evidence_of_unread hvictim hread
      rcases hcovered _ _ _ (hottestHost_eq_some_iff.mp hfrom) (relieves_of_pickVictim hmv) hleast
        with ⟨vm, hvm, gap, hgap, hpositive⟩ | ⟨gap, hgap⟩
      · rw [hzero vm hvm gap hgap] at hpositive
        exact absurd hpositive (lt_irrefl _)
      · rw [hread] at hgap
        cases hgap

/-- A hot host with one VM, of which nothing is known: it is moved. -/
theorem unread_vm_picked :
    let host : CompatClass := ⟨"GenuineIntel", "Xeon", 2000000, "6.1.155"⟩
    let pressure :=
      ({} : Std.TreeMap HostId Pressure).insert ⟨"a"⟩ (.new (.finite (19 / 20)))
        |>.insert ⟨"b"⟩ (.new (.finite (1 / 10)))
    let compat :=
      ({} : Std.TreeMap HostId CompatClass).insert ⟨"a"⟩ host |>.insert ⟨"b"⟩ host
    ¬ ∀ mv, pickVictim (.record [(⟨"a"⟩, ⟨1⟩)]) pressure ∅ (.new (.finite (4 / 5))) compat =
        some mv → ∃ gap, (∅ : Std.TreeMap VmId Duration)[mv.vm]? = some gap := by
  intro host pressure compat hevidence
  obtain ⟨gap, hgap⟩ := hevidence ⟨⟨1⟩, ⟨"a"⟩, ⟨"b"⟩⟩ (by decide +kernel)
  simp at hgap

end PickVictim

end Sleepwalk.Rebalancer
