import Sleepwalk.Hostd.Addresses

/-!
# Identity over moves

What a VM is known by takes three routes through a move, and two of them lead somewhere: its
network identity and its memory size are at the target what they were at the source, over any chain
of moves (`Follows.kept`). Its id is not. The target mints a new one, so a VM keeps its id exactly
as long as it does not get through a move (`stableIdentity_iff`).

The ids that are minted are random. Here they are taken to be different, as such ids are.
-/

namespace Sleepwalk.Hostd.Overlay

open Daemon Proto Transfer

/-- The id that is minted for a request. -/
def Op.minted : Op → Option VmId
  | .spawn _ s => some s.id
  | .remove .. => none
  | .migrate _ _ _ m => some m.id

/-- A request that takes this VM from its host. -/
def Op.Takes (h : HostId) (id : VmId) : Op → Prop
  | .spawn .. => False
  | .remove host id' _ => host = h ∧ id' = id
  | .migrate source _ id' m => source = h ∧ id' = id ∧ m.drains = true

/-- The ids that are registered on the overlay. -/
def registered (σ : Daemons) : Set VmId := {id | ∃ h vm, (σ h).vms id = some vm}

/-- Where a VM that was somewhere after some requests is after more of them, and the moves by which
it got there. -/
inductive Follows (hasher : Hasher) (codec : Codec) (σ : Daemons) (before : List Op) (h : HostId)
    (id : VmId) : List Op → List Transit → HostId → VmId → Prop where
  /-- It is where it was. -/
  | start : Follows hasher codec σ before h id before [] h id
  /-- A request does not take it. -/
  | stays {ops moves h' id' op} (hfollows : Follows hasher codec σ before h id ops moves h' id')
      (hstays : ¬ op.Takes h' id') : Follows hasher codec σ before h id (ops ++ [op]) moves h' id'
  /-- A move gets it through to its target. -/
  | moves {ops moves source target id' m new}
      (hfollows : Follows hasher codec σ before h id ops moves source id')
      (hnew : (migrate hasher codec source target id' m (run hasher codec σ ops)).1 = some new) :
      Follows hasher codec σ before h id (ops ++ [.migrate source target id' m]) (moves ++ [m])
        target new

/-- A VM has kept its network identity over some moves, and its memory size if its dumps had it. -/
structure Alike (vm vm' : SizedVm) (moves : List Transit) : Prop where
  net : vm'.net = vm.net
  mib : (∀ m ∈ moves, m.mem.length = vm.mib.toNat * 2 ^ 20) → vm'.mib = vm.mib

/-- Wherever moves take a VM it is the same VM, and no move that gets through changes which ids are
registered. -/
structure StableIdentity (hasher : Hasher) (codec : Codec) (σ : Daemons) (ops : List Op) :
    Prop where
  kept : ∀ before after h id vm moves h' id', after <+: ops →
    (run hasher codec σ before h).vms id = some vm →
    Follows hasher codec σ before h id after moves h' id' →
    id' = id ∧ ∃ vm', (run hasher codec σ after h').vms id' = some vm' ∧ Alike vm vm' moves
  registered : ∀ before source target id m new, before ++ [.migrate source target id m] <+: ops →
    (migrate hasher codec source target id m (run hasher codec σ before)).1 = some new →
    registered (run hasher codec σ (before ++ [.migrate source target id m])) =
      registered (run hasher codec σ before)

section Steps

variable {σ σ' : Daemons} {op : Op} {new : Option VmId} {new' : VmId}
  {host h source target : HostId}
  {d' : Daemon} {id : VmId} {vm : SizedVm} {m : Transit}

theorem vms_update (hd : h = host → d'.vms id = (σ host).vms id) :
    (Function.update σ host d' h).vms id = (σ h).vms id := by
  by_cases hh : h = host
  · subst hh
    rw [Function.update_self, hd rfl]
  · rw [Function.update_of_ne hh]

theorem vms_of_registers {d : Daemon} (hregisters : Registers d d' vm) (hne : id ≠ vm.id) :
    d'.vms id = d.vms id := by
  rw [hregisters.vms_eq, Function.update_of_ne hne]

theorem vms_update_of_drops {id' : VmId} (hdrops : Drops (σ host) d' id' vm) :
    (Function.update σ host d' h).vms id = if h = host ∧ id' = id then none else (σ h).vms id := by
  split
  case isTrue hsame =>
    obtain ⟨rfl, rfl⟩ := hsame
    rw [Function.update_self, hdrops.vms_eq, Function.update_self]
  case isFalse hother =>
    apply vms_update
    intro hh
    have hne : id ≠ id' := fun heq => hother ⟨hh, heq.symm⟩
    rw [hdrops.vms_eq, Function.update_of_ne hne]

/-- A VM whose id is not minted again is as it was, or has been taken. -/
theorem Performed.vms (hperformed : Performed σ op new σ') (hminted : op.minted ≠ some id) :
    (σ' h).vms id = (σ h).vms id ∨ op.Takes h id ∧ (σ' h).vms id = none := by
  cases hperformed with
  | keeps hkeeps =>
    left
    exact vms_update fun _ => congrFun hkeeps.vms_eq id
  | @spawned host s _ _ hregisters =>
    have hne : id ≠ s.id := fun heq => hminted (congrArg some heq.symm)
    left
    exact vms_update fun _ => vms_of_registers hregisters hne
  | @removed host id' _ _ _ hdrops =>
    -- The VM of this id on this host is the one that goes, or it is not concerned.
    rw [vms_update_of_drops hdrops]
    split
    case isTrue hsame => exact Or.inr ⟨⟨hsame.1.symm, hsame.2⟩, rfl⟩
    case isFalse => exact Or.inl rfl
  | @lost source target id' m _ d _ hdrains _ hdrops hkeeps =>
    rw [vms_update fun _ => congrFun hkeeps.vms_eq id, vms_update_of_drops hdrops]
    split
    case isTrue hsame => exact Or.inr ⟨⟨hsame.1.symm, hsame.2, hdrains⟩, rfl⟩
    case isFalse => exact Or.inl rfl
  | @arrives source target id' m _ d _ hdrains _ hdrops hregisters =>
    have hne : id ≠ m.id := fun heq => hminted (congrArg some heq.symm)
    rw [vms_update fun _ => vms_of_registers hregisters hne, vms_update_of_drops hdrops]
    split
    case isTrue hsame => exact Or.inr ⟨⟨hsame.1.symm, hsame.2, hdrains⟩, rfl⟩
    case isFalse => exact Or.inl rfl

/-- A VM that a move gets through is at the target as it is restored there. -/
theorem Performed.vms_target
    (hperformed : Performed σ (.migrate source target id m) (some new') σ')
    (hvm : (σ source).vms id = some vm) :
    (σ' target).vms new' = some (restored vm m) := by
  cases hperformed with
  | @arrives _ _ _ _ vm' d d' _ _ hdrops hregisters =>
    obtain rfl : vm = vm' := Option.some.inj (hvm.symm.trans hdrops.found)
    rw [Function.update_self, hregisters.vms_eq]
    exact Function.update_self m.id _ _

/-- A move registers a VM if it completes, and then under the id that the target mints. -/
theorem Performed.eq_some_iff (hperformed : Performed σ (.migrate source target id m) new σ') :
    new = some new' ↔ Completes σ source target id m ∧ new' = m.id := by
  cases hperformed with
  | keeps _ hfails => simp [hfails _ _ _ _ rfl]
  | lost _ hfails => simp [hfails]
  | arrives _ hcompletes => simp [hcompletes, eq_comm]

/-- The id that a move registers is the one the target mints. -/
theorem migrate_eq_some_iff {hasher : Hasher} {codec : Codec}
    (hcodec : ∀ net : NetId, codec.Reads net.encode) :
    (migrate hasher codec source target id m σ).1 = some new' ↔
      Completes σ source target id m ∧ new' = m.id :=
  (performed_migrate hasher hcodec σ source target id m).eq_some_iff

/-- What is registered was registered before, or has been minted. -/
theorem Performed.registered (hperformed : Performed σ op new σ') (hid : id ∈ registered σ') :
    id ∈ registered σ ∨ op.minted = some id := by
  obtain ⟨h, vm, hvm⟩ := hid
  by_cases hminted : op.minted = some id
  · exact Or.inr hminted
  · rcases hperformed.vms (h := h) hminted with hsame | ⟨-, hnone⟩
    · exact Or.inl ⟨h, vm, hsame.symm.trans hvm⟩
    · exact nomatch hnone.symm.trans hvm

theorem memMib_eq {mib : UInt32} {mem : List UInt8} (h : mem.length = mib.toNat * 2 ^ 20) :
    memMib (some mem) = mib := by
  rw [memMib, Option.map_some, Option.getD_some, h]
  norm_num

theorem alike_restored {moves : List Transit} {vm' : SizedVm} (h : Alike vm vm' moves) :
    Alike vm (restored vm' m) (moves ++ [m]) where
  net := h.net
  mib hsizes := memMib_eq (hsizes m (by simp))

end Steps

section Runs

variable {hasher : Hasher} {codec : Codec} {σ : Daemons} {ops : List Op}

theorem registered_run (hcodec : ∀ net : NetId, codec.Reads net.encode) (hstart : Started σ)
    {id : VmId} (hid : id ∈ registered (run hasher codec σ ops)) :
    id ∈ ops.filterMap Op.minted := by
  induction ops using List.reverseRecOn with
  | nil =>
    obtain ⟨h, vm, hvm⟩ := hid
    exact nomatch (hstart.vms h id).symm.trans hvm
  | append_singleton ops op ih =>
    rw [run_append_singleton] at hid
    rw [List.filterMap_append, List.mem_append]
    rcases (performed hasher hcodec _ op).registered hid with hbefore | hminted
    · exact Or.inl (ih hbefore)
    · exact Or.inr (List.mem_filterMap.mpr ⟨op, List.mem_singleton_self op, hminted⟩)

/-- An id that is minted is not registered yet. -/
theorem minted_ne (hcodec : ∀ net : NetId, codec.Reads net.encode) (hstart : Started σ)
    (hminted : (ops.filterMap Op.minted).Nodup) {before : List Op} {op : Op} {id : VmId}
    (hbefore : before ++ [op] <+: ops) (hid : id ∈ registered (run hasher codec σ before)) :
    op.minted ≠ some id := by
  intro hop
  have hmem : id ∈ [op].filterMap Op.minted :=
    List.mem_filterMap.mpr ⟨op, List.mem_singleton_self op, hop⟩
  have hnodup := ((hbefore.sublist).filterMap Op.minted).nodup hminted
  rw [List.filterMap_append] at hnodup
  exact (List.nodup_append.mp hnodup).2.2 id (registered_run hcodec hstart hid) id hmem rfl

/-- Wherever moves take a VM, it is registered there with its network identity and its size. -/
theorem Follows.kept (hcodec : ∀ net : NetId, codec.Reads net.encode) (hstart : Started σ)
    (hminted : (ops.filterMap Op.minted).Nodup) {before after : List Op} {h h' : HostId}
    {id id' : VmId} {vm : SizedVm} {moves : List Transit}
    (hfollows : Follows hasher codec σ before h id after moves h' id') (hafter : after <+: ops)
    (hvm : (run hasher codec σ before h).vms id = some vm) :
    ∃ vm', (run hasher codec σ after h').vms id' = some vm' ∧ Alike vm vm' moves := by
  induction hfollows with
  | start => exact ⟨vm, hvm, rfl, fun _ => rfl⟩
  | @stays after moves h' id' op _ hstays ih =>
    obtain ⟨vm', hvm', halike⟩ := ih ((List.prefix_append after [op]).trans hafter)
    -- Its id is not minted again, so nothing takes its place in the registry.
    have hne := minted_ne hcodec hstart hminted hafter ⟨h', vm', hvm'⟩
    refine ⟨vm', ?_, halike⟩
    rw [run_append_singleton]
    rcases (performed hasher hcodec _ op).vms (h := h') hne with hsame | ⟨htakes, -⟩
    · exact hsame.trans hvm'
    · exact absurd htakes hstays
  | @moves after moves source target id' m new _ hnew ih =>
    obtain ⟨vm', hvm', halike⟩ := ih ((List.prefix_append after _).trans hafter)
    have hperformed :=
      performed_migrate hasher hcodec (run hasher codec σ after) source target id' m
    rw [hnew] at hperformed
    refine ⟨restored vm' m, ?_, alike_restored halike⟩
    rw [run_append_singleton]
    exact hperformed.vms_target hvm'

/-- A VM that no move gets through keeps its id. -/
theorem Follows.id_eq (hcodec : ∀ net : NetId, codec.Reads net.encode)
    (hfails : ∀ before source target id m, before ++ [.migrate source target id m] <+: ops →
      ¬ Completes (run hasher codec σ before) source target id m)
    {before after : List Op} {h h' : HostId} {id id' : VmId} {moves : List Transit}
    (hfollows : Follows hasher codec σ before h id after moves h' id') (hafter : after <+: ops) :
    id' = id := by
  induction hfollows with
  | start => rfl
  | @stays after _ _ _ op _ _ ih => exact ih ((List.prefix_append after [op]).trans hafter)
  | @moves after _ source target id' m _ _ hnew =>
    exact absurd ((migrate_eq_some_iff hcodec).mp hnew).1 (hfails _ _ _ _ _ hafter)

/-- A VM keeps its id throughout a run, and moves leave the registered ids alone, exactly if no move
gets through. Its network identity and its memory size it keeps over any chain of moves. -/
theorem stableIdentity_iff (hasher : Hasher) (codec : Codec)
    (hcodec : ∀ net : NetId, codec.Reads net.encode) {σ : Daemons} (hstart : Started σ)
    (ops : List Op) (hminted : (ops.filterMap Op.minted).Nodup) :
    (StableIdentity hasher codec σ ops ↔
      ∀ before source target id m, before ++ [.migrate source target id m] <+: ops →
        ¬ Completes (run hasher codec σ before) source target id m) ∧
    ∀ before after h id vm moves h' id', after <+: ops →
      (run hasher codec σ before h).vms id = some vm →
      Follows hasher codec σ before h id after moves h' id' →
      ∃ vm', (run hasher codec σ after h').vms id' = some vm' ∧ Alike vm vm' moves := by
  have hkept : ∀ before after h id vm moves h' id', after <+: ops →
      (run hasher codec σ before h).vms id = some vm →
      Follows hasher codec σ before h id after moves h' id' →
      ∃ vm', (run hasher codec σ after h').vms id' = some vm' ∧ Alike vm vm' moves :=
    fun _ _ _ _ _ _ _ _ hafter hvm hfollows => hfollows.kept hcodec hstart hminted hafter hvm
  refine ⟨⟨?_, ?_⟩, hkept⟩
  · intro hstable before source target id m hafter hcompletes
    have hnew : (migrate hasher codec source target id m (run hasher codec σ before)).1 =
        some m.id := (migrate_eq_some_iff hcodec).mpr ⟨hcompletes, rfl⟩
    obtain ⟨vm, hvm, -⟩ := hcompletes
    -- A single move that gets through would have to keep the id, but the target mints another.
    have hsame : m.id = id :=
      (hstable.kept _ _ _ _ _ _ _ _ hafter hvm (.moves .start hnew)).1
    exact minted_ne hcodec hstart hminted hafter ⟨source, vm, hvm⟩ (congrArg some hsame)
  · intro hfails
    constructor
    · intro before after h id vm moves h' id' hafter hvm hfollows
      exact ⟨hfollows.id_eq hcodec hfails hafter, hkept _ _ _ _ _ _ _ _ hafter hvm hfollows⟩
    · intro before source target id m new hafter hnew
      exact absurd ((migrate_eq_some_iff hcodec).mp hnew).1 (hfails _ _ _ _ _ hafter)

end Runs

/-! ## One move -/

/-- A move that goes well, of a VM of 128 MiB. -/
def wholeMove (k : ℕ) : Transit where
  drains := true
  mem := List.replicate (128 * 2 ^ 20) 0
  state := [0]
  reads := fun _ => 4096
  untapped := true
  id := ⟨.ofNat 128 k⟩
  proc := k
  plumbing := .works
  load := .resumed

/-- A VM is booted on one host and moved to another. -/
def bootAndMove : List Op :=
  [.spawn ⟨"a"⟩ (networkedVm 0), .migrate ⟨"a"⟩ ⟨"b"⟩ ⟨0⟩ (wholeMove 1)]

theorem vms_first : (run crc32 GuestLink.nilCodec idle [.spawn ⟨"a"⟩ (networkedVm 0)] ⟨"a"⟩).vms
    ⟨0⟩ = some (spawnVm (idle ⟨"a"⟩) (networkedVm 0)) := by
  rw [run_spawn, Function.update_self, (spawn_goes (goes_idle ⟨"a"⟩ 0)).2.vms_eq]
  exact Function.update_self (spawnVm (idle ⟨"a"⟩) (networkedVm 0)).id _ _

theorem completes_wholeMove :
    Completes (run crc32 GuestLink.nilCodec idle [.spawn ⟨"a"⟩ (networkedVm 0)]) ⟨"a"⟩ ⟨"b"⟩ ⟨0⟩
      (wholeMove 1) := by
  have hnet : (spawnVm (idle ⟨"a"⟩) (networkedVm 0)).net = some firstNet := ofIndex_idle ⟨"a"⟩
  refine ⟨_, vms_first, rfl, ?_, rfl, ?_⟩
  · have hvsock : (Bytes.ofText "vsock.sock").length < 2 ^ 64 := by decide +kernel
    have hjson : (Bytes.ofText firstNet.encode.text).length < 2 ^ 64 := by decide +kernel
    rw [files, hnet]
    intro f hf
    simp only [List.mem_append, List.mem_cons, List.not_mem_nil, or_false] at hf
    rcases hf with (rfl | rfl | rfl) | rfl
    · rw [wholeMove, List.length_replicate]
      norm_num
    · norm_num [wholeMove]
    · exact hvsock
    · exact hjson
  · intro net _
    rw [run_spawn, Function.update_of_ne (by decide), Function.update_of_ne (by decide)]
    exact ⟨rfl, List.not_mem_nil⟩

theorem migrate_wholeMove : (migrate crc32 GuestLink.nilCodec ⟨"a"⟩ ⟨"b"⟩ ⟨0⟩ (wholeMove 1)
    (run crc32 GuestLink.nilCodec idle [.spawn ⟨"a"⟩ (networkedVm 0)])).1 = some ⟨1⟩ :=
  (migrate_eq_some_iff reads_encode).mpr ⟨completes_wholeMove, rfl⟩

/-- The VM has its address and its size after the move. -/
theorem stableIdentity_bootAndMove :
    ∃ vm', (run crc32 GuestLink.nilCodec idle bootAndMove ⟨"b"⟩).vms ⟨1⟩ = some vm' ∧
      vm'.net = some firstNet ∧ vm'.mib = 128 := by
  obtain ⟨vm', hvm', halike⟩ :=
    (stableIdentity_iff crc32 GuestLink.nilCodec reads_encode started_idle bootAndMove
      (by decide)).2 _ _ _ _ _ _ _ _ List.prefix_rfl vms_first (.moves .start migrate_wholeMove)
  refine ⟨vm', hvm', halike.net.trans (ofIndex_idle ⟨"a"⟩), halike.mib ?_⟩
  intro m hm
  obtain rfl := List.mem_singleton.mp hm
  exact List.length_replicate

/-- The VM has another id after the move. -/
theorem not_stableIdentity_bootAndMove :
    ¬ StableIdentity crc32 GuestLink.nilCodec idle bootAndMove := by
  intro hstable
  have hsame : (⟨1⟩ : VmId) = ⟨0⟩ :=
    (hstable.kept _ _ _ _ _ _ _ _ List.prefix_rfl vms_first
      (.moves .start migrate_wholeMove)).1
  exact absurd hsame (by decide)

end Sleepwalk.Hostd.Overlay
