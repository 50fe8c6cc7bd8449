import Mathlib.Data.Set.Card
import Sleepwalk.Hostd.Addresses

/-!
# Addresses under churn

`NET_SEQ` only ever goes up: a networked spawn takes the next index whether or not it goes through,
and nothing gives one back. So what the next spawn of a daemon finds depends on how many networked
spawns came before it, and on nothing that became of them (`out_of_range_iff`). The counter is cut
to 32 bits, so after `2 ^ 32` spawns the indices begin again.
-/

namespace Sleepwalk.Hostd.Overlay

open Daemon Proto Transfer

/-! ## When an index is out of range -/

section Create

variable {plumbing : Plumbing} {idx i : UInt32} {taps : List String}

theorem ofIndex_eq_none_iff : NetId.ofIndex idx = none ↔ 252 < idx.toNat := by
  rw [Option.eq_none_iff_forall_ne_some]
  constructor
  · intro hnone
    by_contra hlow
    exact hnone _ (NetId.ofIndex_eq_some_iff.mpr ⟨by omega, rfl⟩)
  · intro hhigh net hnet
    have hle := (NetId.ofIndex_eq_some_iff.mp hnet).1
    omega

/-- A tap fails otherwise, so the only index that is ever called out of range is one that is. -/
theorem create_outOfRange_iff :
    (create plumbing idx taps).1 = .error (.outOfRange i) ↔ i = idx ∧ 252 < idx.toNat := by
  rw [← ofIndex_eq_none_iff, create]
  cases hnet : NetId.ofIndex idx with
  | none => simp [eq_comm]
  | some net =>
    simp only [reduceCtorEq, and_false, iff_false]
    unfold createTap
    by_cases hmem : net.tap ∈ taps
    · simp [hmem]
    · cases plumbing <;> simp [hmem]

end Create

/-! ## The counter -/

/-- The networked spawns of a host among some requests. -/
def networkedSpawns (host : HostId) (ops : List Op) : ℕ :=
  ops.countP fun
    | .spawn h s => h = host && s.networked
    | .remove _ _ _ | .migrate _ _ _ _ => false

section Counter

variable {d : Daemon} {s : Spawn} {vm : SizedVm} {m : Transit} {works : Bool} {id : VmId}

theorem netSeq_spawn :
    (spawn s d).2.netSeq = if s.networked then d.netSeq + 1 else d.netSeq := by
  have hplumb : (plumb s d).2.netSeq = if s.networked then d.netSeq + 1 else d.netSeq := by
    unfold plumb
    split
    · rcases create s.plumbing d.nextIndex d.taps with ⟨_ | net, taps⟩ <;> rfl
    · rfl
  rw [← hplumb, spawn]
  rcases plumb s d with ⟨_ | net, d₁⟩
  · rfl
  · cases s.boots <;> rfl

@[simp]
theorem netSeq_teardown : (teardown works vm d).netSeq = d.netSeq := by
  unfold teardown
  split <;> rfl

theorem netSeq_remove : (remove works id d).2.netSeq = d.netSeq := by
  rw [remove, take]
  cases d.vms id with
  | none => rfl
  | some vm => exact netSeq_teardown

theorem netSeq_launch : (launch m vm d).2.netSeq = d.netSeq := by
  unfold launch
  rcases replumb m.plumbing vm.net d.taps with ⟨_ | _, taps⟩
  · rfl
  · cases m.load with
    | abandoned => rfl
    | failed untapped => exact netSeq_teardown
    | resumed => rfl

variable {hasher : Hasher} {codec : Codec} {stream : List UInt8}

theorem netSeq_receive : (receive hasher codec m stream d).2.netSeq = d.netSeq := by
  rw [receive]
  rcases recvFiles hasher (fun _ => .ok ()) ⟨stream, fun _ => none⟩ with ⟨_ | names, r⟩
  · rfl
  · dsimp only
    cases rebuild codec m names r.disk with
    | none => rfl
    | some vm =>
      have hlaunch : (launch m vm d).2.netSeq = d.netSeq := netSeq_launch
      rw [← hlaunch]
      dsimp only
      rw [register]
      rcases launch m vm d with ⟨_ | _, d'⟩ <;> rfl

end Counter

section Runs

variable {hasher : Hasher} {codec : Codec} {σ : Daemons} {host : HostId}

theorem netSeq_update {d : Daemon} (h : d.netSeq = (σ host).netSeq) (h' : HostId) :
    (Function.update σ host d h').netSeq = (σ h').netSeq := by
  by_cases hh : h' = host
  · subst hh
    rwa [Function.update_self]
  · rw [Function.update_of_ne hh]

/-- A move takes no index, whatever becomes of it. -/
theorem netSeq_migrate {source target : HostId} {id : VmId} {m : Transit} (h : HostId) :
    ((migrate hasher codec source target id m σ).2 h).netSeq = (σ h).netSeq := by
  cases hvm : (σ source).vms id with
  | none => simp only [migrate, take, hvm]
  | some vm =>
    simp only [migrate, take, hvm]
    cases m.drains with
    | false => rfl
    | true =>
      have hleft : ∀ h, (Function.update σ source (teardown m.untapped vm
          { σ source with vms := Function.update (σ source).vms id none }) h).netSeq =
            (σ h).netSeq :=
        netSeq_update netSeq_teardown
      simp only [if_true]
      cases send hasher vm m with
      | none => exact hleft h
      | some stream => exact (netSeq_update netSeq_receive h).trans (hleft h)

theorem netSeq_perform (op : Op) (h : HostId) :
    ((perform hasher codec op σ).2 h).netSeq = (σ h).netSeq + .ofNat (networkedSpawns h [op]) := by
  cases op with
  | spawn host s =>
    simp only [perform, networkedSpawns, List.countP_singleton]
    by_cases hh : h = host
    · subst hh
      rw [Function.update_self, netSeq_spawn]
      by_cases hnetworked : s.networked = true <;> simp [hnetworked]
    · simp [Function.update_of_ne hh, Ne.symm hh]
  | remove host id untapped =>
    simp [perform, networkedSpawns, netSeq_update netSeq_remove]
  | migrate source target id m =>
    simp [perform, networkedSpawns, netSeq_migrate]

theorem netSeq_run (ops : List Op) (h : HostId) :
    (run hasher codec σ ops h).netSeq = (σ h).netSeq + .ofNat (networkedSpawns h ops) := by
  induction ops using List.reverseRecOn with
  | nil => simp [run, networkedSpawns]
  | append_singleton ops op ih =>
    rw [run_append_singleton, netSeq_perform, ih]
    simp only [networkedSpawns, List.countP_append, UInt64.ofNat_add, UInt64.add_assoc]

/-- The index a daemon is at tells how many networked spawns it has seen. -/
theorem nextIndex_run (hstart : Started σ) (ops : List Op) (h : HostId) :
    (run hasher codec σ ops h).nextIndex.toNat = networkedSpawns h ops % 2 ^ 32 := by
  rw [nextIndex, netSeq_run, hstart.netSeq, UInt64.zero_add, UInt64.toNat_toUInt32,
    UInt64.toNat_ofNat', Nat.mod_mod_of_dvd _ (by decide)]

theorem plumb_outOfRange_iff {d : Daemon} {s : Spawn} (hnetworked : s.networked = true) :
    (∃ idx, (plumb s d).1 = .error (.outOfRange idx)) ↔ 252 < d.nextIndex.toNat := by
  have hcreate : ∀ i, (create s.plumbing d.nextIndex d.taps).1 = .error (.outOfRange i) ↔
      i = d.nextIndex ∧ 252 < d.nextIndex.toNat := fun i => create_outOfRange_iff
  rw [plumb, if_pos hnetworked]
  rcases hresult : create s.plumbing d.nextIndex d.taps with ⟨e | net, taps⟩
  · simp only [hresult, Except.error.injEq] at hcreate ⊢
    simp [hcreate]
  · simpa [hresult] using hcreate d.nextIndex

/-- Among the networked spawns of a daemon the first 253 of every `2 ^ 32` find an index, and no
others do, whichever of the VMs are still there. -/
theorem out_of_range_iff (hasher : Hasher) (codec : Codec) {σ : Daemons} (hstart : Started σ)
    (ops : List Op) (host : HostId) (s : Spawn) (hnetworked : s.networked = true) :
    (∃ idx, (plumb s (run hasher codec σ ops host)).1 = .error (.outOfRange idx)) ↔
      252 < networkedSpawns host ops % 2 ^ 32 := by
  rw [plumb_outOfRange_iff hnetworked, nextIndex_run hstart]

/-- A VM whose Firecracker never boots, 253 times over. -/
theorem out_of_range_after_failures :
    ∃ idx, (plumb (networkedVm 0) (run crc32 GuestLink.nilCodec idle
      (.replicate 253 (.spawn ⟨"a"⟩ { networkedVm 0 with boots := false })) ⟨"a"⟩)).1 =
        .error (.outOfRange idx) := by
  refine (out_of_range_iff crc32 GuestLink.nilCodec started_idle _ ⟨"a"⟩ (networkedVm 0) rfl).mpr ?_
  rw [networkedSpawns, List.countP_replicate]
  decide

end Runs

/-! ## How many there are -/

/-- The networked VMs of all daemons. -/
def fleet (σ : Daemons) : Set (HostId × VmId) := {p | ∃ net, (σ p.1).Has p.2 net}

/-- The requests that may add a VM to a daemon. -/
def arrivals (ops : List Op) : ℕ :=
  ops.countP fun
    | .remove _ _ _ => false
    | .spawn _ _ | .migrate _ _ _ _ => true

section Fleet

variable {hasher : Hasher} {codec : Codec} {σ σ' : Daemons} {op : Op} {new : Option VmId}
  {host : HostId} {d' : Daemon}

theorem fleet_update_subset (h : ∀ {id net}, d'.Has id net → (σ host).Has id net) :
    fleet (Function.update σ host d') ⊆ fleet σ := by
  rintro ⟨h', id⟩ ⟨net, hhas⟩
  rcases has_update.mp hhas with ⟨rfl, hnow⟩ | ⟨-, hnow⟩
  · exact ⟨net, h hnow⟩
  · exact ⟨net, hnow⟩

theorem fleet_update_subset_insert {vm : SizedVm} (h : Registers (σ host) d' vm) :
    fleet (Function.update σ host d') ⊆ insert (host, vm.id) (fleet σ) := by
  rintro ⟨h', id⟩ ⟨net, hhas⟩
  rcases has_update.mp hhas with ⟨rfl, hnow⟩ | ⟨-, hnow⟩
  · rcases h.has_iff.mp hnow with ⟨rfl, -⟩ | ⟨-, hold⟩
    · exact Set.mem_insert _ _
    · exact Set.mem_insert_of_mem _ ⟨net, hold⟩
  · exact Set.mem_insert_of_mem _ ⟨net, hnow⟩

/-- A request adds one VM at most, and a removal none. -/
theorem Performed.encard_fleet_le (hperformed : Performed σ op new σ') :
    (fleet σ').encard ≤ (fleet σ).encard + arrivals [op] := by
  have hsame : ∀ {τ : Daemons}, fleet τ ⊆ fleet σ →
      (fleet τ).encard ≤ (fleet σ).encard + arrivals [op] := fun hsub =>
    (Set.encard_le_encard hsub).trans le_self_add
  cases hperformed with
  | keeps hkeeps => exact hsame (fleet_update_subset hkeeps.has_iff.mp)
  | spawned _ hregisters =>
    exact (Set.encard_le_encard (fleet_update_subset_insert hregisters)).trans
      (Set.encard_insert_le _ _)
  | removed hdrops => exact hsame (fleet_update_subset fun hhas => (hdrops.has_iff.mp hhas).2)
  | lost _ _ hdrops hkeeps =>
    have hleft := fleet_update_subset (σ := σ) fun hhas => (hdrops.has_iff.mp hhas).2
    exact hsame ((fleet_update_subset hkeeps.has_iff.mp).trans hleft)
  | arrives _ _ hdrops hregisters =>
    have hleft := fleet_update_subset (σ := σ) fun hhas => (hdrops.has_iff.mp hhas).2
    refine (Set.encard_le_encard (fleet_update_subset_insert hregisters)).trans ?_
    exact (Set.encard_insert_le _ _).trans (add_le_add_left (Set.encard_le_encard hleft) 1)

/-- There are never more VMs than spawns and moves so far. -/
theorem encard_fleet_run_le (hcodec : ∀ net : NetId, codec.Reads net.encode) (hstart : Started σ)
    (ops : List Op) : (fleet (run hasher codec σ ops)).encard ≤ arrivals ops := by
  induction ops using List.reverseRecOn with
  | nil =>
    have hempty : fleet σ = ∅ := by
      rw [Set.eq_empty_iff_forall_notMem]
      rintro ⟨h, id⟩ ⟨net, vm, hvm, -⟩
      rw [hstart.vms h id] at hvm
      cases hvm
    rw [run, List.foldl_nil, hempty, Set.encard_empty]
    exact zero_le
  | append_singleton ops op ih =>
    rw [run_append_singleton]
    refine (performed hasher hcodec _ op).encard_fleet_le.trans ?_
    rw [show arrivals (ops ++ [op]) = arrivals ops + arrivals [op] from List.countP_append]
    push_cast
    exact add_le_add_left ih _

end Fleet

/-- 253 networked VMs on one host, and then none: all of them are removed. -/
def comeAndGone : List Op :=
  (List.range 253).map (fun k => .spawn ⟨"a"⟩ (networkedVm k)) ++
    (List.range 253).map fun k => .remove ⟨"a"⟩ ⟨.ofNat 128 k⟩ true

/-- There are never more than 253 networked VMs, and the next one finds no index. -/
theorem exhausted_by_churn :
    (∀ before, before <+: comeAndGone →
      (fleet (run crc32 GuestLink.nilCodec idle before)).encard ≤ 253) ∧
    ∃ idx, (plumb (networkedVm 253)
      (run crc32 GuestLink.nilCodec idle comeAndGone ⟨"a"⟩)).1 = .error (.outOfRange idx) := by
  constructor
  · intro before hbefore
    have hcount : arrivals before ≤ 253 := by
      have hall : arrivals comeAndGone = 253 := by
        simp [arrivals, comeAndGone, List.countP_map, Function.comp_def]
      rw [← hall]
      exact hbefore.sublist.countP_le
    exact (encard_fleet_run_le reads_encode started_idle before).trans (by exact_mod_cast hcount)
  · rw [plumb_outOfRange_iff rfl, nextIndex_run started_idle]
    simp [networkedSpawns, networkedVm, comeAndGone, List.countP_map, Function.comp_def]

end Sleepwalk.Hostd.Overlay
