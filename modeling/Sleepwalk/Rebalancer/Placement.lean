import Sleepwalk.Lib.Extremum
import Sleepwalk.Proto.Compat
import Sleepwalk.Proto.Messages

/-!
# Placement and the pick-victim heuristic

`placement.rs`: where VMs live, how loaded each host is, and `pickVictim`, the one migration that
relieves the hottest host. A `BTreeMap` is a `Std.TreeMap`.

An `f64` is used for two orders only: `total_cmp`, which tells the two zeros apart, selects hosts,
and `<=`, which does not, compares the selected ones. Both are kept: the order of `Pressure` is the
first, and its `value` is what the second sees.
-/

namespace Sleepwalk.Proto

theorem HostId.name_injective : Function.Injective HostId.name := by
  rintro ⟨a⟩ ⟨b⟩ rfl
  rfl

theorem VmId.toNat_injective : Function.Injective fun vm : VmId => vm.uuid.toNat := by
  rintro ⟨a⟩ ⟨b⟩ h
  obtain rfl : a = b := BitVec.eq_of_toNat_eq h
  rfl

theorem Duration.nanos_injective : Function.Injective Duration.nanos := by
  rintro ⟨a⟩ ⟨b⟩ rfl
  rfl

/-- Hosts in the order of their names. -/
instance : LinearOrder HostId := LinearOrder.lift' HostId.name HostId.name_injective

/-- VMs in the order of their UUIDs. -/
instance : LinearOrder VmId := LinearOrder.lift' _ VmId.toNat_injective

/-- Durations in the order of their length. -/
instance : LinearOrder Duration := LinearOrder.lift' Duration.nanos Duration.nanos_injective

instance : Std.LawfulEqCmp (compare : HostId → HostId → Ordering) := ⟨compare_eq_iff_eq.mp⟩

instance : Std.LawfulEqCmp (compare : VmId → VmId → Ordering) := ⟨compare_eq_iff_eq.mp⟩

end Sleepwalk.Proto

namespace Sleepwalk.Rebalancer

open Proto

/-- The values of an `f64`. A finite one is its number; zero also comes negative. -/
inductive F64 where
  | nan
  | infinite (negative : Bool)
  | negZero
  | finite (value : ℚ)
deriving DecidableEq, Repr

/-- Whether a number is greater than an `f64`, as `>` compares. -/
def F64.below : F64 → ℚ → Bool
  | nan, _ => false
  | infinite negative, _ => negative
  | negZero, value => 0 < value
  | finite limit, value => limit < value

/-- A normalized memory-pressure reading for a host: a finite `f64` from 0 to 1. -/
structure Pressure where
  /-- The number. -/
  value : ℚ
  /-- Whether it is the negative zero. -/
  negZero : Bool
  nonneg : 0 ≤ value
  le_one : value ≤ 1
  zero : negZero = true → value = 0

namespace Pressure

/-- Build a pressure reading, clamping to `[0, 1]` and mapping non-finite values to `0.0`. -/
def new : F64 → Pressure
  | .nan | .infinite _ => ⟨0, false, le_rfl, zero_le_one, fun h => by cases h⟩
  -- `clamp` returns a negative zero as it is.
  | .negZero => ⟨0, true, le_rfl, zero_le_one, fun _ => rfl⟩
  | .finite value => ⟨max 0 (min value 1), false, by simp, by simp, fun h => by cases h⟩

/-- The place of a reading in the order of `total_cmp`: its number, negative zero before zero. -/
def rank (p : Pressure) : ℚ ×ₗ Bool := toLex (p.value, !p.negZero)

theorem rank_injective : Function.Injective rank := by
  rintro ⟨v, n, _, _, _⟩ ⟨v', n', _, _, _⟩ h
  obtain ⟨rfl, hn⟩ : v = v' ∧ (!n) = !n' := Prod.mk.inj (toLex_inj.mp h)
  obtain rfl := Bool.not_inj hn
  rfl

/-- Readings in the order of `total_cmp`. -/
instance : LinearOrder Pressure := LinearOrder.lift' rank rank_injective

/-- The order of `total_cmp` refines that of the numbers. -/
theorem value_le {p q : Pressure} (h : p ≤ q) : p.value ≤ q.value := by
  have hrank : rank p ≤ rank q := h
  rcases Prod.Lex.le_iff.mp hrank with hlt | ⟨heq, -⟩
  · exact hlt.le
  · exact heq.le

end Pressure

/-- Which VMs currently live on which host. -/
structure Placement where
  hosts : Std.TreeMap HostId (List VmId)

namespace Placement

/-- An empty placement. -/
def new : Placement := ⟨∅⟩

/-- The VMs on `host`, none if the host is unknown or bare. -/
def vmsOn (placement : Placement) (host : HostId) : List VmId := placement.hosts.getD host []

/-- Record that `vm` lives on `host`. -/
def assign (placement : Placement) (host : HostId) (vm : VmId) : Placement :=
  ⟨placement.hosts.insert host (placement.vmsOn host ++ [vm])⟩

@[simp]
theorem vmsOn_new (host : HostId) : new.vmsOn host = [] := by
  simp [vmsOn, new]

theorem vmsOn_assign (placement : Placement) (host other : HostId) (vm : VmId) :
    (placement.assign host vm).vmsOn other =
      if host = other then placement.vmsOn host ++ [vm] else placement.vmsOn other := by
  simp [vmsOn, assign, Std.TreeMap.getD_insert]

end Placement

/-- One rebalancing move: relocate `vm` from `fromHost` to `toHost`. -/
structure Rebalance where
  /-- The VM to migrate. -/
  vm : VmId
  /-- The overloaded source host. -/
  fromHost : HostId
  /-- The chosen, cooler target host. -/
  toHost : HostId
deriving DecidableEq, Repr

/-- By pressure; of two equal readings the lower id is the greater. -/
def byHeat (a b : HostId × Pressure) : Ordering := (compare a.2 b.2).then (compare b.1 a.1)

/-- By pressure, then by id. -/
def byCoolness (a b : HostId × Pressure) : Ordering := (compare a.2 b.2).then (compare a.1 b.1)

/-- By idle gap, where a VM without a reading counts as fully busy; of two equal gaps the lower id
is the greater. -/
def byIdleness (idle : Std.TreeMap VmId Duration) (a b : VmId) : Ordering :=
  (compare (idle.getD a ⟨0⟩) (idle.getD b ⟨0⟩)).then (compare b a)

/-- The host with the greatest pressure. -/
def hottestHost (pressure : Std.TreeMap HostId Pressure) : Option HostId :=
  (Extremum.maxBy byHeat pressure.toList).map Prod.fst

/-- The coolest host other than `except` that can restore a snapshot of `sourceClass`. Hosts with
no known class are skipped. -/
def coolestCompatibleHost (pressure : Std.TreeMap HostId Pressure) (except : HostId)
    (sourceClass : CompatClass) (compat : Std.TreeMap HostId CompatClass) : Option HostId :=
  (Extremum.minBy byCoolness
    ((pressure.toList.filter fun e => e.1 ≠ except).filter fun e =>
      (compat[e.1]?).any sourceClass.compatibleWith)).map Prod.fst

/-- The most-idle VM among `vms`. -/
def mostIdleVm (vms : List VmId) (idle : Std.TreeMap VmId Duration) : Option VmId :=
  Extremum.maxBy (byIdleness idle) vms

/-- The reading of a host, zero if there is none. -/
def pressureOf (pressure : Std.TreeMap HostId Pressure) (host : HostId) : Pressure :=
  pressure.getD host (.new (.finite 0))

/-- The single best migration to relieve memory pressure, or `none` if no move helps. -/
def pickVictim (placement : Placement) (pressure : Std.TreeMap HostId Pressure)
    (idle : Std.TreeMap VmId Duration) (highWatermark : Pressure)
    (compat : Std.TreeMap HostId CompatClass) : Option Rebalance := do
  let hottest ← hottestHost pressure
  if (pressureOf pressure hottest).value ≤ highWatermark.value then
    none -- nothing is overloaded
  else
    let sourceClass ← compat[hottest]?
    let coolest ← coolestCompatibleHost pressure hottest sourceClass compat
    if (pressureOf pressure coolest).value ≥ (pressureOf pressure hottest).value then
      none -- no compatible host is cooler
    else
      let vm ← mostIdleVm (placement.vmsOn hottest) idle
      return { vm, fromHost := hottest, toHost := coolest }

/-! ## What each selection returns -/

section Selection

variable {pressure : Std.TreeMap HostId Pressure} {compat : Std.TreeMap HostId CompatClass}
  {idle : Std.TreeMap VmId Duration} {host except : HostId} {p : Pressure}

instance : Std.TransCmp byHeat :=
  inferInstanceAs (Std.TransCmp (compareLex (compareOn Prod.snd) fun a b =>
    compareOn Prod.fst b a))

instance : Std.TransCmp byCoolness :=
  inferInstanceAs (Std.TransCmp (compareLex (compareOn Prod.snd) (compareOn Prod.fst)))

instance : Std.TransCmp (byIdleness idle) :=
  inferInstanceAs (Std.TransCmp (compareLex (compareOn fun vm => idle.getD vm ⟨0⟩) fun a b =>
    compareOn id b a))

instance : Std.LawfulEqCmp byHeat where
  eq_of_compare {a b} h := by
    obtain ⟨hp, hh⟩ := Ordering.then_eq_eq.mp h
    exact Prod.ext (compare_eq_iff_eq.mp hh).symm (compare_eq_iff_eq.mp hp)

instance : Std.LawfulEqCmp byCoolness where
  eq_of_compare {a b} h := by
    obtain ⟨hp, hh⟩ := Ordering.then_eq_eq.mp h
    exact Prod.ext (compare_eq_iff_eq.mp hh) (compare_eq_iff_eq.mp hp)

instance : Std.LawfulEqCmp (byIdleness idle) where
  eq_of_compare {a b} h := by
    obtain ⟨-, hvm⟩ := Ordering.then_eq_eq.mp h
    exact (compare_eq_iff_eq.mp hvm).symm

theorem pressureOf_eq (h : pressure[host]? = some p) : pressureOf pressure host = p := by
  rw [pressureOf, Std.TreeMap.getD_eq_getD_getElem?, h, Option.getD_some]

/-- The hottest host of a pressure map: every other reading is lower, or equal and of a host with a
greater id. -/
def IsHottest (pressure : Std.TreeMap HostId Pressure) (host : HostId) : Prop :=
  ∃ p, pressure[host]? = some p ∧
    ∀ other q, pressure[other]? = some q → q < p ∨ q = p ∧ host ≤ other

theorem hottestHost_eq_some_iff : hottestHost pressure = some host ↔ IsHottest pressure host := by
  have horder : ∀ (e : HostId × Pressure) (p : Pressure),
      (byHeat e (host, p)).isLE ↔ e.2 < p ∨ e.2 = p ∧ host ≤ e.1 := by
    intro e p
    rw [byHeat, Ordering.isLE_then_iff_or, compare_lt_iff_lt, compare_eq_iff_eq,
      Extremum.isLE_compare_iff]
  constructor
  · intro h
    obtain ⟨⟨_, p⟩, hmax, rfl⟩ := Option.map_eq_some_iff.mp h
    obtain ⟨hmem, hmax⟩ := Extremum.maxBy_eq_some_iff.mp hmax
    refine ⟨p, Std.TreeMap.mem_toList_iff_getElem?_eq_some.mp hmem, fun other q hq => ?_⟩
    exact (horder (other, q) p).mp (hmax _ (Std.TreeMap.mem_toList_iff_getElem?_eq_some.mpr hq))
  · rintro ⟨p, hp, hmax⟩
    refine Option.map_eq_some_iff.mpr ⟨(host, p), Extremum.maxBy_eq_some_iff.mpr ⟨?_, ?_⟩, rfl⟩
    · exact Std.TreeMap.mem_toList_iff_getElem?_eq_some.mpr hp
    · rintro ⟨other, q⟩ hq
      exact (horder (other, q) p).mpr
        (hmax other q (Std.TreeMap.mem_toList_iff_getElem?_eq_some.mp hq))

/-- Only an empty map has no hottest host. -/
theorem exists_hottestHost (h : pressure[host]? = some p) :
    ∃ hottest, hottestHost pressure = some hottest := by
  have hmem := Std.TreeMap.mem_toList_iff_getElem?_eq_some.mpr h
  rw [hottestHost]
  cases hmax : Extremum.maxBy byHeat pressure.toList with
  | none =>
    rw [Extremum.maxBy_eq_none_iff.mp hmax] at hmem
    cases hmem
  | some e => exact ⟨e.1, rfl⟩

/-- A host other than `except` with a reading and a class that can restore a snapshot of
`sourceClass`. -/
def Candidate (pressure : Std.TreeMap HostId Pressure) (except : HostId)
    (sourceClass : CompatClass) (compat : Std.TreeMap HostId CompatClass) (host : HostId)
    (q : Pressure) : Prop :=
  pressure[host]? = some q ∧ host ≠ except ∧
    ∃ target, compat[host]? = some target ∧ sourceClass.compatibleWith target = true

variable {sourceClass : CompatClass}

theorem mem_candidates_iff {q : Pressure} :
    (host, q) ∈ ((pressure.toList.filter fun e => e.1 ≠ except).filter fun e =>
        (compat[e.1]?).any sourceClass.compatibleWith) ↔
      Candidate pressure except sourceClass compat host q := by
  rw [List.mem_filter, List.mem_filter, Std.TreeMap.mem_toList_iff_getElem?_eq_some, Candidate,
    and_assoc]
  simp [Option.any_eq_true]

/-- The coolest candidate: every other one reads higher, or the same and has a greater id. -/
theorem coolestCompatibleHost_eq_some_iff :
    coolestCompatibleHost pressure except sourceClass compat = some host ↔
      ∃ q, Candidate pressure except sourceClass compat host q ∧
        ∀ other r, Candidate pressure except sourceClass compat other r →
          q < r ∨ q = r ∧ host ≤ other := by
  have horder : ∀ (e : HostId × Pressure) (q : Pressure),
      (byCoolness (host, q) e).isLE ↔ q < e.2 ∨ q = e.2 ∧ host ≤ e.1 := by
    intro e q
    rw [byCoolness, Ordering.isLE_then_iff_or, compare_lt_iff_lt, compare_eq_iff_eq,
      Extremum.isLE_compare_iff]
  constructor
  · intro h
    -- What `min_by` keeps is no worse than anything it meets, in the order of pressure and id.
    obtain ⟨⟨_, q⟩, hmin, rfl⟩ := Option.map_eq_some_iff.mp h
    obtain ⟨hmem, hmin⟩ := Extremum.minBy_eq_some_iff.mp hmin
    refine ⟨q, mem_candidates_iff.mp hmem, fun other r hr => ?_⟩
    exact (horder (other, r) q).mp (hmin _ (mem_candidates_iff.mpr hr))
  · rintro ⟨q, hq, hmin⟩
    refine Option.map_eq_some_iff.mpr ⟨(host, q), Extremum.minBy_eq_some_iff.mpr ⟨?_, ?_⟩, rfl⟩
    · exact mem_candidates_iff.mpr hq
    · rintro ⟨other, r⟩ hr
      exact (horder (other, r) q).mpr (hmin other r (mem_candidates_iff.mp hr))

theorem exists_coolestCompatibleHost {q : Pressure}
    (h : Candidate pressure except sourceClass compat host q) :
    ∃ coolest, coolestCompatibleHost pressure except sourceClass compat = some coolest := by
  rw [coolestCompatibleHost]
  have hmem := mem_candidates_iff.mpr h
  cases hmin : Extremum.minBy byCoolness ((pressure.toList.filter fun e => e.1 ≠ except).filter
      fun e => (compat[e.1]?).any sourceClass.compatibleWith) with
  | none =>
    rw [Extremum.minBy_eq_none_iff.mp hmin] at hmem
    cases hmem
  | some e => exact ⟨e.1, rfl⟩

theorem mem_of_mostIdleVm {vms : List VmId} {vm : VmId} (h : mostIdleVm vms idle = some vm) :
    vm ∈ vms :=
  (Extremum.maxBy_spec h).1

theorem exists_mostIdleVm (idle : Std.TreeMap VmId Duration) {vms : List VmId} {vm : VmId}
    (h : vm ∈ vms) : ∃ victim, mostIdleVm vms idle = some victim := by
  rw [mostIdleVm]
  cases hmax : Extremum.maxBy (byIdleness idle) vms with
  | none =>
    rw [Extremum.maxBy_eq_none_iff.mp hmax] at h
    cases h
  | some victim => exact ⟨victim, rfl⟩

end Selection

/-! ## What is picked -/

section PickVictim

variable {placement : Placement} {pressure : Std.TreeMap HostId Pressure}
  {idle : Std.TreeMap VmId Duration} {highWatermark : Pressure}
  {compat : Std.TreeMap HostId CompatClass} {mv : Rebalance}

/-- A move of `vm` from `a` to `b` relieves an overloaded host: `a` reads above the watermark and
runs the VM, both classes are known and compatible, and `b` reads strictly below `a`. -/
structure Relieves (placement : Placement) (pressure : Std.TreeMap HostId Pressure)
    (highWatermark : Pressure) (compat : Std.TreeMap HostId CompatClass) (a b : HostId)
    (vm : VmId) : Prop where
  lives : vm ∈ placement.vmsOn a
  compatible : ∃ source target, compat[a]? = some source ∧ compat[b]? = some target ∧
    source.compatibleWith target = true
  cooler : ∃ p q, pressure[a]? = some p ∧ pressure[b]? = some q ∧
    highWatermark.value < p.value ∧ q.value < p.value

/-- The guards of `pickVictim`, in order. -/
theorem pickVictim_eq_some_iff :
    pickVictim placement pressure idle highWatermark compat = some mv ↔
      ∃ sourceClass, hottestHost pressure = some mv.fromHost ∧
        highWatermark.value < (pressureOf pressure mv.fromHost).value ∧
        compat[mv.fromHost]? = some sourceClass ∧
        coolestCompatibleHost pressure mv.fromHost sourceClass compat = some mv.toHost ∧
        (pressureOf pressure mv.toHost).value < (pressureOf pressure mv.fromHost).value ∧
        mostIdleVm (placement.vmsOn mv.fromHost) idle = some mv.vm := by
  obtain ⟨vm, fromHost, toHost⟩ := mv
  simp only [pickVictim, Option.bind_eq_bind, Option.bind_eq_some_iff]
  constructor
  · rintro ⟨hottest, hhot, h⟩
    split at h
    · cases h
    case isFalse hover =>
      obtain ⟨sourceClass, hclass, coolest, hcool, h⟩ := by
        simpa only [Option.bind_eq_some_iff] using h
      split at h
      · cases h
      case isFalse hcooler =>
        obtain ⟨victim, hvictim, h⟩ := Option.bind_eq_some_iff.mp h
        obtain ⟨rfl, rfl, rfl⟩ := Rebalance.mk.inj (Option.some_inj.mp h)
        exact ⟨sourceClass, hhot, not_le.mp hover, hclass, hcool, not_le.mp hcooler, hvictim⟩
  · rintro ⟨sourceClass, hhot, hover, hclass, hcool, hcooler, hvictim⟩
    refine ⟨fromHost, hhot, ?_⟩
    simp only [if_neg (not_le.mpr hover), hclass, hcool, Option.bind_some, ge_iff_le,
      if_neg (not_le.mpr hcooler), hvictim]
    rfl

theorem relieves_of_pickVictim
    (h : pickVictim placement pressure idle highWatermark compat = some mv) :
    Relieves placement pressure highWatermark compat mv.fromHost mv.toHost mv.vm := by
  obtain ⟨sourceClass, hhot, hover, hclass, hcool, hcooler, hvictim⟩ :=
    pickVictim_eq_some_iff.mp h
  obtain ⟨p, hp, -⟩ := hottestHost_eq_some_iff.mp hhot
  obtain ⟨q, ⟨hq, -, target, htarget, hcompatible⟩, -⟩ :=
    coolestCompatibleHost_eq_some_iff.mp hcool
  rw [pressureOf_eq hp] at hover hcooler
  rw [pressureOf_eq hq] at hcooler
  exact ⟨mem_of_mostIdleVm hvictim, ⟨sourceClass, target, hclass, htarget, hcompatible⟩,
    ⟨p, q, hp, hq, hover, hcooler⟩⟩

/-- Something is picked exactly if the hottest host has a relieving move. -/
theorem exists_pickVictim_iff :
    (∃ mv, pickVictim placement pressure idle highWatermark compat = some mv) ↔
      ∃ hottest, IsHottest pressure hottest ∧
        ∃ b vm, Relieves placement pressure highWatermark compat hottest b vm := by
  constructor
  · rintro ⟨mv, h⟩
    obtain ⟨sourceClass, hhot, -⟩ := pickVictim_eq_some_iff.mp h
    exact ⟨mv.fromHost, hottestHost_eq_some_iff.mp hhot, mv.toHost, mv.vm,
      relieves_of_pickVictim h⟩
  · rintro ⟨hottest, hhot, b, vm, hlives, ⟨source, target, hsource, htarget, hcompatible⟩,
      ⟨p, q, hp, hq, hover, hcooler⟩⟩
    have hne : b ≠ hottest := by
      rintro rfl
      obtain rfl : p = q := Option.some_inj.mp (hp.symm.trans hq)
      exact lt_irrefl _ hcooler
    -- The coolest candidate reads no higher than `b`, so it is cooler than the hottest host too.
    have hcandidate : Candidate pressure hottest source compat b q :=
      ⟨hq, hne, target, htarget, hcompatible⟩
    obtain ⟨coolest, hcool⟩ := exists_coolestCompatibleHost hcandidate
    obtain ⟨r, ⟨hr, -⟩, hmin⟩ := coolestCompatibleHost_eq_some_iff.mp hcool
    have hrq : r ≤ q := by
      rcases hmin b q hcandidate with hlt | ⟨rfl, -⟩
      · exact hlt.le
      · exact le_rfl
    obtain ⟨victim, hvictim⟩ := exists_mostIdleVm idle hlives
    refine ⟨⟨victim, hottest, coolest⟩, pickVictim_eq_some_iff.mpr ⟨source,
      hottestHost_eq_some_iff.mpr hhot, ?_, hsource, hcool, ?_, hvictim⟩⟩
    · rwa [pressureOf_eq hp]
    · rw [pressureOf_eq hp, pressureOf_eq hr]
      exact (Pressure.value_le hrq).trans_lt hcooler

/-! ## The frequencies of a picked move -/

/-- A picked move goes between hosts of known classes whose TSC frequencies differ by at most the
tolerance, relative to the larger of the two. No product of that check saturates, whatever the
frequencies. -/
theorem picked_within_tolerance :
    (∀ placement pressure idle highWatermark compat mv,
      pickVictim placement pressure idle highWatermark compat = some mv →
        ∃ source target, compat[mv.fromHost]? = some source ∧ compat[mv.toHost]? = some target ∧
          |(source.tscKhz.toNat : ℤ) - target.tscKhz.toNat| * 1000000 ≤
            250 * max source.tscKhz.toNat target.tscKhz.toNat) ∧
    ∀ hi lo : UInt32, lo ≤ hi →
      (saturatingMul (hi - lo).toUInt64 1000000).toNat = (hi.toNat - lo.toNat) * 1000000 ∧
        (saturatingMul hi.toUInt64 TSC_TOLERANCE_PPM).toNat = hi.toNat * 250 := by
  constructor
  · intro placement pressure idle highWatermark compat mv hpick
    obtain ⟨source, target, hsource, htarget, hcompatible⟩ :=
      (relieves_of_pickVictim hpick).compatible
    obtain ⟨-, -, -, htsc⟩ := CompatClass.compatibleWith_iff.mp hcompatible
    exact ⟨source, target, hsource, htarget, tscWithinTolerance_iff_abs.mp htsc⟩
  · intro hi lo hle
    refine ⟨?_, (toNat_saturatingMul_million hi).2⟩
    rw [(toNat_saturatingMul_million _).1, UInt32.toNat_sub_of_le _ _ hle]

/-- A VM on a hot host, and a cool host of a frequency 250 ppm below: the move is picked. -/
theorem picked_within_tolerance_at_bound :
    let host (tscKhz : UInt32) : CompatClass := ⟨"GenuineIntel", "Xeon", tscKhz, "6.1.155"⟩
    let compat :=
      ({} : Std.TreeMap HostId CompatClass).insert ⟨"a"⟩ (host 4000) |>.insert ⟨"b"⟩ (host 3999)
    ∃ source target, compat[(⟨"a"⟩ : HostId)]? = some source ∧
      compat[(⟨"b"⟩ : HostId)]? = some target ∧
      |(source.tscKhz.toNat : ℤ) - target.tscKhz.toNat| * 1000000 ≤
        250 * max source.tscKhz.toNat target.tscKhz.toNat := by
  intro host compat
  exact picked_within_tolerance.1 (Placement.new.assign ⟨"a"⟩ ⟨1⟩)
    (({} : Std.TreeMap HostId Pressure).insert ⟨"a"⟩ (.new (.finite (19 / 20)))
      |>.insert ⟨"b"⟩ (.new (.finite (1 / 10))))
    ∅ (.new (.finite (4 / 5))) compat ⟨⟨1⟩, ⟨"a"⟩, ⟨"b"⟩⟩ (by decide +kernel)

/-- A VM on a hot host at 3.999 MHz, and a cool host at 4 MHz. The move is picked, and the deviation
is within 250 ppm of the target's frequency but not of the source's. -/
theorem picked_beyond_source_tolerance :
    let host (tscKhz : UInt32) : CompatClass := ⟨"GenuineIntel", "Xeon", tscKhz, "6.1.155"⟩
    let pressure :=
      ({} : Std.TreeMap HostId Pressure).insert ⟨"a"⟩ (.new (.finite (19 / 20)))
        |>.insert ⟨"b"⟩ (.new (.finite (1 / 10)))
    let compat :=
      ({} : Std.TreeMap HostId CompatClass).insert ⟨"a"⟩ (host 3999) |>.insert ⟨"b"⟩ (host 4000)
    pickVictim (Placement.new.assign ⟨"a"⟩ ⟨1⟩) pressure ∅ (.new (.finite (4 / 5))) compat =
        some ⟨⟨1⟩, ⟨"a"⟩, ⟨"b"⟩⟩ ∧
      compat[(⟨"a"⟩ : HostId)]? = some (host 3999) ∧
      compat[(⟨"b"⟩ : HostId)]? = some (host 4000) ∧
      ¬ |((host 3999).tscKhz.toNat : ℤ) - (host 4000).tscKhz.toNat| * 1000000 ≤
        250 * (host 3999).tscKhz.toNat := by
  refine ⟨by decide +kernel, by decide +kernel, by decide +kernel, by decide +kernel⟩

end PickVictim

end Sleepwalk.Rebalancer
