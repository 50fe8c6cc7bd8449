import Mathlib.Algebra.Order.Field.Rat
import Sleepwalk.Hostd.Telemetry
import Sleepwalk.Lib.Scan
import Sleepwalk.Rebalancer.Placement

/-!
# What a daemon reports of its host

`memory_pressure` of `sysmem.rs`, which reads the fraction of memory in use from `/proc/meminfo`,
and the status that a registry reports with it.
-/

namespace Sleepwalk.Hostd.Status

open Proto Scan Serde

/-! ## Memory pressure -/

/-- How a number is rounded to an `f64`, as far as it is used. -/
structure Rounding where
  round : ℚ → ℚ
  mono : Monotone round
  zero : round 0 = 0
  one : round 1 = 1

/-- The quotient of two `u64` as `f64`. -/
def Rounding.quotient (r : Rounding) (a b : ℕ) : ℚ := r.round (r.round a / r.round b)

/-- The kB value of a meminfo line. -/
def parseKb (cs : List Char) : Option ℕ := number (2 ^ 64) cs

/-- What is read of the lines so far: the total, and what is available. -/
abbrev Fields := Option ℕ × Option ℕ

/-- Read one more line. A line that has the field and no number takes it back. -/
def Fields.read (fields : Fields) (line : List Char) : Fields :=
  match line.dropPrefix? "MemTotal:".toList with
  | some rest => (parseKb rest, fields.2)
  | none =>
    match line.dropPrefix? "MemAvailable:".toList with
    | some rest => (fields.1, parseKb rest)
    | none => fields

/-- Parse the in-use fraction from `/proc/meminfo` contents. -/
def parsePressure (r : Rounding) (meminfo : String) : Option ℚ := do
  let (total, available) := (lines meminfo.toList).foldl Fields.read (none, none)
  let total ← total
  let available ← available
  if total = 0 then none else some (r.quotient (total - available) total)

/-- The fraction of host memory in use, if the file can be read. -/
def memoryPressure (r : Rounding) (meminfo : Option String) : ℚ :=
  (meminfo.bind (parsePressure r)).getD 0

section Pressure

variable {r : Rounding} {meminfo : String} {a b total available : ℕ}

/-- A fraction is rounded to one from 0 to 1. -/
theorem quotient_bounds (r : Rounding) (hle : a ≤ b) (hpos : b ≠ 0) :
    0 ≤ r.quotient a b ∧ r.quotient a b ≤ 1 := by
  have ha : 0 ≤ r.round a := r.zero ▸ r.mono (Nat.cast_nonneg a)
  have hb : 1 ≤ r.round b := by
    have hone : (1 : ℚ) ≤ b := by exact_mod_cast Nat.one_le_iff_ne_zero.mpr hpos
    calc (1 : ℚ) = r.round 1 := r.one.symm
      _ ≤ r.round b := r.mono hone
  have hab : r.round a ≤ r.round b := r.mono (by exact_mod_cast hle)
  have hfraction : 0 ≤ r.round a / r.round b := div_nonneg ha (zero_le_one.trans hb)
  have hsmall : r.round a / r.round b ≤ 1 := (div_le_one (zero_lt_one.trans_le hb)).mpr hab
  constructor
  · calc (0 : ℚ) = r.round 0 := r.zero.symm
      _ ≤ r.quotient a b := r.mono hfraction
  · calc r.quotient a b ≤ r.round 1 := r.mono hsmall
      _ = 1 := r.one

/-- A line is of one field at most. -/
theorem dropPrefix?_available {line rest : List Char}
    (htotal : line.dropPrefix? "MemTotal:".toList = some rest) :
    line.dropPrefix? "MemAvailable:".toList = none := by
  rw [Option.eq_none_iff_forall_ne_some]
  intro rest' havailable
  obtain ⟨p, rfl, hp⟩ := List.dropPrefix?_eq_some_iff.mp htotal
  obtain ⟨p', hline, hp'⟩ := List.dropPrefix?_eq_some_iff.mp havailable
  rw [eq_of_beq hp, eq_of_beq hp'] at hline
  have hfourth := congrArg (·[3]?) hline
  simp at hfourth

/-- The lines tell what the last line of each field tells. -/
theorem foldl_read (ls : List (List Char)) :
    ls.foldl Fields.read (none, none) = (lastNumber (2 ^ 64) "MemTotal:".toList ls,
      lastNumber (2 ^ 64) "MemAvailable:".toList ls) := by
  induction ls using List.reverseRecOn with
  | nil => rfl
  | append_singleton ls line ih =>
    rw [List.foldl_append, ih, List.foldl_cons, List.foldl_nil, lastNumber_concat,
      lastNumber_concat, Fields.read]
    cases htotal : line.dropPrefix? "MemTotal:".toList with
    | some rest =>
      rw [dropPrefix?_available htotal]
      rfl
    | none =>
      cases line.dropPrefix? "MemAvailable:".toList with
      | some rest => rfl
      | none => rfl

theorem parsePressure_eq_some_iff {p : ℚ} : parsePressure r meminfo = some p ↔
    ∃ total available, lastNumber (2 ^ 64) "MemTotal:".toList (lines meminfo.toList) = some total ∧
      lastNumber (2 ^ 64) "MemAvailable:".toList (lines meminfo.toList) = some available ∧
      total ≠ 0 ∧ r.quotient (total - available) total = p := by
  rw [parsePressure, foldl_read]
  cases lastNumber (2 ^ 64) "MemTotal:".toList (lines meminfo.toList) with
  | none => simp
  | some total =>
    cases lastNumber (2 ^ 64) "MemAvailable:".toList (lines meminfo.toList) with
    | none => simp
    | some available => simp [ite_eq_iff]

/-- Whatever the file holds, the pressure is a fraction. -/
theorem memoryPressure_bounds (r : Rounding) (contents : Option String) :
    0 ≤ memoryPressure r contents ∧ memoryPressure r contents ≤ 1 := by
  rw [memoryPressure]
  cases hparsed : contents.bind (parsePressure r) with
  | none => exact ⟨le_rfl, zero_le_one⟩
  | some p =>
    obtain ⟨meminfo, -, hpressure⟩ := Option.bind_eq_some_iff.mp hparsed
    obtain ⟨total, available, -, -, hne, rfl⟩ := parsePressure_eq_some_iff.mp hpressure
    exact quotient_bounds r (Nat.sub_le total available) hne

/-- A field of `/proc/meminfo` as the kernel writes it: most are in kB, and counts of pages have no
unit. -/
def IsField (row : Row) : Prop :=
  ':' ∉ row.name ∧ '\n' ∉ row.name ∧ row.number < 2 ^ 64 ∧ row.unit ∈ [[], " kB".toList]

instance (row : Row) : Decidable (IsField row) := inferInstanceAs (Decidable (_ ∧ _))

/-- `/proc/meminfo`: one field on each line. -/
def meminfoText (rows : List Row) : String :=
  .ofList (rows.flatMap fun row => row.text ++ ['\n'])

theorem lines_meminfoText {rows : List Row} (hrows : ∀ row ∈ rows, IsField row) :
    lines (meminfoText rows).toList = rows.map Row.text := by
  rw [meminfoText, String.toList_ofList]
  refine lines_text rows fun row hrow => ?_
  obtain ⟨-, hname, -, hunit⟩ := hrows row hrow
  refine ⟨hname, ?_⟩
  rcases List.mem_pair.mp hunit with hunit | hunit
  · simp [hunit]
  · rw [hunit]
    decide

theorem isWhitespace_unit {row : Row} (hrow : IsField row) :
    ∀ c ∈ row.unit.head?, Text.isWhitespace c = true := by
  intro c hc
  rcases List.mem_pair.mp hrow.2.2.2 with hunit | hunit
  · rw [hunit] at hc
    cases hc
  · rw [hunit] at hc
    obtain rfl : ' ' = c := Option.some_inj.mp hc
    decide

/-- Of a file as the kernel writes it, the last total and the last available memory tell the
pressure, wherever they stand and whatever else there is. Without one of them there is none. -/
theorem memoryPressure_meminfo (r : Rounding) (rows : List Row)
    (hrows : ∀ row ∈ rows, IsField row) :
    memoryPressure r (some (meminfoText rows)) =
      match (rows.filter fun row => row.name = "MemTotal".toList).getLast?,
        (rows.filter fun row => row.name = "MemAvailable".toList).getLast? with
      | some total, some available =>
        if total.number = 0 then 0
        else r.quotient (total.number - available.number) total.number
      | _, _ => 0 := by
  have hnumbers : ∀ row ∈ rows, ':' ∉ row.name ∧ row.number < 2 ^ 64 ∧
      ∀ c ∈ row.unit.head?, Text.isWhitespace c = true := fun row hrow =>
    ⟨(hrows row hrow).1, (hrows row hrow).2.2.1, isWhitespace_unit (hrows row hrow)⟩
  have htotal : lastNumber (2 ^ 64) "MemTotal:".toList (rows.map Row.text) = _ :=
    lastNumber_text (show ':' ∉ "MemTotal".toList by decide) rows hnumbers
  have havailable : lastNumber (2 ^ 64) "MemAvailable:".toList (rows.map Row.text) = _ :=
    lastNumber_text (show ':' ∉ "MemAvailable".toList by decide) rows hnumbers
  rw [memoryPressure, Option.bind_some, parsePressure, foldl_read, lines_meminfoText hrows, htotal,
    havailable]
  cases (rows.filter fun row => row.name = "MemTotal".toList).getLast? with
  | none => rfl
  | some total =>
    cases (rows.filter fun row => row.name = "MemAvailable".toList).getLast? with
    | none => rfl
    | some available =>
      by_cases hzero : total.number = 0
      · simp [hzero]
      · simp [hzero]

/-- No rounding. -/
def exactly : Rounding := ⟨id, monotone_id, rfl, rfl⟩

/-- Neither the free memory counts nor a number of pages. -/
theorem memoryPressure_sample :
    let rows : List Row := [⟨"MemTotal".toList, 8, 1000000, " kB".toList⟩,
      ⟨"MemFree".toList, 10, 100000, " kB".toList⟩,
      ⟨"MemAvailable".toList, 5, 250000, " kB".toList⟩, ⟨"HugePages_Total".toList, 7, 0, []⟩]
    memoryPressure exactly (some (meminfoText rows)) = 3 / 4 := by
  intro rows
  have hrows : ∀ row ∈ rows, IsField row := by decide
  rw [memoryPressure_meminfo exactly rows hrows]
  decide +kernel

end Pressure

/-! ## The status of a host -/

/-- The set of VMs running on one host. -/
structure VmRegistry where
  vms : Std.TreeMap VmId RunningVm
  host : HostId
  compat : CompatClass

/-- Register an already-running VM. -/
def VmRegistry.insert (registry : VmRegistry) (vm : RunningVm) : VmRegistry :=
  { registry with vms := registry.vms.insert vm.id vm }

theorem VmRegistry.getElem?_insert (registry : VmRegistry) (vm : RunningVm) (id : VmId) :
    (registry.insert vm).vms[id]? = if id = vm.id then some vm else registry.vms[id]? := by
  rw [VmRegistry.insert, Std.TreeMap.getElem?_insert]
  simp only [compare_eq_iff_eq, @eq_comm _ id]

/-- What is left when a VM is deregistered and handed back to the caller. -/
def VmRegistry.take (registry : VmRegistry) (id : VmId) : VmRegistry :=
  { registry with vms := registry.vms.erase id }

theorem VmRegistry.getElem?_take (registry : VmRegistry) (taken id : VmId) :
    (registry.take taken).vms[id]? = if id = taken then none else registry.vms[id]? := by
  rw [VmRegistry.take, Std.TreeMap.getElem?_erase]
  simp only [compare_eq_iff_eq, @eq_comm _ id]

/-- A host's load, as reported to the rebalancer. -/
structure HostStatus where
  /-- This host's id. -/
  host : String
  /-- The VMs running here. -/
  vms : List String
  /-- Live host memory pressure. -/
  pressure : ℚ
  /-- This host's CPU/TSC compatibility class. -/
  compat : CompatClass

/-- This host's current load. A VM id is written as its UUID. -/
def VmRegistry.status (registry : VmRegistry) (showUuid : BitVec 128 → String) (r : Rounding)
    (meminfo : Option String) : HostStatus where
  host := registry.host.name
  vms := registry.vms.keys.map fun id => showUuid id.uuid
  pressure := memoryPressure r meminfo
  compat := registry.compat

/-- A class as it is written. -/
def encodeCompat (c : CompatClass) : Json :=
  .object [("vendor", .string c.vendor), ("model", .string c.model),
    ("tsc_khz", .uint c.tscKhz.toUInt64), ("kernel", .string c.kernel)]

/-- A status as it is written. -/
def HostStatus.encode (number : ℚ → String) (status : HostStatus) : Json :=
  .object [("host", .string status.host), ("vms", .array (status.vms.map .string)),
    ("pressure", .number (number status.pressure)), ("compat", encodeCompat status.compat)]

end Sleepwalk.Hostd.Status
