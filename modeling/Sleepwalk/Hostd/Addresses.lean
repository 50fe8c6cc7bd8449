import Sleepwalk.Hostd.Framing
import Sleepwalk.Hostd.Overlay

/-!
# Addresses on one overlay

Each daemon counts its own networked VMs from zero, and the count is all an address is made of. So
two daemons give out the same addresses, and the addresses of the VMs on an overlay are distinct
exactly as long as no networked spawn gets the index of a VM that is live on another host
(`addresses_distinct_iff`).

Within a host nothing worse than a failure happens: a tap that is there cannot be made again, so
what a daemon registers never shares its tap with a VM it has (`Intact.distinct`).
-/

namespace Sleepwalk.Hostd.Overlay

open Daemon Proto Transfer

/-- Every live VM has the identity of an index, its tap is there, and no other VM of its host has
the same identity. -/
structure Intact (d : Daemon) : Prop where
  indexed : ∀ {id net}, d.Has id net → ∃ idx, NetId.ofIndex idx = some net
  tapped : ∀ {id net}, d.Has id net → net.tap ∈ d.taps
  distinct : ∀ {id id' net}, d.Has id net → d.Has id' net → id = id'

/-- No two VMs of the overlay have the same identity. -/
def Unshared (σ : Daemons) : Prop :=
  ∀ h id h' id' net, (σ h).Has id net → (σ h').Has id' net → h = h' ∧ id = id'

/-- Addresses are distinct over the overlay, taps on each host, and the tap of a VM that may come
in is no resident VM's. -/
structure Distinct (σ : Daemons) : Prop where
  addresses : ∀ h id net h' id' net', (σ h).Has id net → (σ h').Has id' net' →
    (h, id) ≠ (h', id') → net.ip ≠ net'.ip ∧ net.mac ≠ net'.mac
  taps : ∀ h id net id' net', (σ h).Has id net → (σ h).Has id' net' → id ≠ id' →
    net.tap ≠ net'.tap
  incoming : ∀ h id net h' id' net', (σ h).Has id net → h ≠ h' → (σ h').Has id' net' →
    net.tap ≠ net'.tap

/-- A VM of this index is live somewhere on the overlay. -/
def InUse (σ : Daemons) (idx : UInt32) : Prop :=
  ∃ h id net, NetId.ofIndex idx = some net ∧ (σ h).Has id net

/-! ## What one daemon keeps -/

section Daemon

variable {d d' : Daemon} {id : VmId} {vm : SizedVm}

theorem Intact.keeps (hd : Intact d) (h : Keeps d d') : Intact d' where
  indexed hhas := hd.indexed (h.has_iff.mp hhas)
  tapped hhas := h.taps_subset (hd.tapped (h.has_iff.mp hhas))
  distinct hhas hhas' := hd.distinct (h.has_iff.mp hhas) (h.has_iff.mp hhas')

theorem Intact.registers (hd : Intact d) (h : Registers d d' vm)
    (hindexed : ∀ net, vm.net = some net → ∃ idx, NetId.ofIndex idx = some net) : Intact d' where
  indexed hhas := by
    rcases h.has_iff.mp hhas with ⟨-, hnet⟩ | ⟨-, hhas⟩
    · exact hindexed _ hnet
    · exact hd.indexed hhas
  tapped hhas := by
    rcases h.has_iff.mp hhas with ⟨-, hnet⟩ | ⟨-, hhas⟩
    · exact (h.tap_new _ hnet).2
    · exact h.taps_subset (hd.tapped hhas)
  distinct hhas hhas' := by
    rcases h.has_iff.mp hhas with ⟨rfl, hnet⟩ | ⟨-, hhas⟩
    · rcases h.has_iff.mp hhas' with ⟨rfl, -⟩ | ⟨-, hhas'⟩
      · rfl
      · exact absurd (hd.tapped hhas') (h.tap_new _ hnet).1
    · rcases h.has_iff.mp hhas' with ⟨rfl, hnet⟩ | ⟨-, hhas'⟩
      · exact absurd (hd.tapped hhas) (h.tap_new _ hnet).1
      · exact hd.distinct hhas hhas'

/-- The tap that goes with a VM is no other VM's. -/
theorem Intact.drops (hd : Intact d) (h : Drops d d' id vm) : Intact d' where
  indexed hhas := hd.indexed (h.has_iff.mp hhas).2
  tapped hhas := by
    obtain ⟨hother, hhas⟩ := h.has_iff.mp hhas
    refine h.taps_subset _ (hd.tapped hhas) fun net hnet htap => hother ?_
    -- A tap names its index, so a VM with the same tap would be the one that goes.
    have hvm : d.Has id net := ⟨vm, h.found, hnet⟩
    obtain ⟨i, hi⟩ := hd.indexed hhas
    obtain ⟨j, hj⟩ := hd.indexed hvm
    obtain rfl := NetId.eq_of_part_eq hi hj (Or.inl htap)
    exact hd.distinct hhas hvm
  distinct hhas hhas' := hd.distinct (h.has_iff.mp hhas).2 (h.has_iff.mp hhas').2

end Daemon

/-! ## What the overlay keeps -/

section Overlay

variable {σ : Daemons} {host : HostId} {d' : Daemon} {id : VmId} {vm : SizedVm}

theorem intact_update (hσ : ∀ h, Intact (σ h)) (hd : Intact d') (h : HostId) :
    Intact (Function.update σ host d' h) := by
  by_cases hh : h = host
  · subst hh
    rwa [Function.update_self]
  · rw [Function.update_of_ne hh]
    exact hσ h

theorem has_update {h : HostId} {net : NetId} :
    (Function.update σ host d' h).Has id net ↔
      (h = host ∧ d'.Has id net) ∨ (h ≠ host ∧ (σ h).Has id net) := by
  by_cases hh : h = host
  · subst hh
    simp
  · simp [hh]

/-- What is live after a change that adds nothing was live before. -/
theorem Unshared.of_has (hσ : Unshared σ)
    (h : ∀ {id net}, d'.Has id net → (σ host).Has id net) :
    Unshared (Function.update σ host d') := by
  have hbefore : ∀ {h id net}, (Function.update σ host d' h).Has id net → (σ h).Has id net := by
    intro h' id net hhas
    rcases has_update.mp hhas with ⟨rfl, hnow⟩ | ⟨-, hnow⟩
    · exact h hnow
    · exact hnow
  exact fun h id h' id' net hhas hhas' => hσ h id h' id' net (hbefore hhas) (hbefore hhas')

theorem Unshared.registers (hσ : Unshared σ) (h : Registers (σ host) d' vm)
    (hfree : ∀ net, vm.net = some net → ∀ h' id', ¬ (σ h').Has id' net) :
    Unshared (Function.update σ host d') := by
  have hcases : ∀ {h' id' net}, (Function.update σ host d' h').Has id' net →
      (h' = host ∧ id' = vm.id ∧ vm.net = some net) ∨ (σ h').Has id' net := by
    intro h' id' net hhas
    rcases has_update.mp hhas with ⟨rfl, hnow⟩ | ⟨-, hnow⟩
    · rcases h.has_iff.mp hnow with ⟨rfl, hnet⟩ | ⟨-, hold⟩
      · exact Or.inl ⟨rfl, rfl, hnet⟩
      · exact Or.inr hold
    · exact Or.inr hnow
  intro h₁ id₁ h₂ id₂ net hhas₁ hhas₂
  rcases hcases hhas₁ with ⟨rfl, rfl, hnet⟩ | hold₁
  · rcases hcases hhas₂ with ⟨rfl, rfl, -⟩ | hold₂
    · exact ⟨rfl, rfl⟩
    · exact absurd hold₂ (hfree net hnet h₂ id₂)
  · rcases hcases hhas₂ with ⟨rfl, rfl, hnet⟩ | hold₂
    · exact absurd hold₁ (hfree net hnet h₁ id₁)
    · exact hσ h₁ id₁ h₂ id₂ net hold₁ hold₂

/-- The identity of a VM that is dropped is free. -/
theorem Unshared.free_of_drops (hσ : Unshared σ) (h : Drops (σ host) d' id vm) :
    ∀ net, vm.net = some net → ∀ h' id', ¬ (Function.update σ host d' h').Has id' net := by
  intro net hnet h' id' hhas
  have hvm : (σ host).Has id net := ⟨vm, h.found, hnet⟩
  rcases has_update.mp hhas with ⟨rfl, hnow⟩ | ⟨hne, hnow⟩
  · obtain ⟨hother, hold⟩ := h.has_iff.mp hnow
    exact hother (hσ h' id' h' id net hold hvm).2
  · exact hne (hσ h' id' host id net hnow hvm).1

/-- On daemons that are intact, distinct addresses are unshared identities. -/
theorem distinct_iff (hσ : ∀ h, Intact (σ h)) : Distinct σ ↔ Unshared σ := by
  -- Each part of an identity gives its index away, and with it the other parts.
  have heq : ∀ {h id net h' id' net'}, (σ h).Has id net → (σ h').Has id' net' →
      (net.tap = net'.tap ∨ net.mac = net'.mac ∨ net.ip = net'.ip) → net = net' := by
    intro h id net h' id' net' hhas hhas' hpart
    obtain ⟨i, hi⟩ := (hσ h).indexed hhas
    obtain ⟨j, hj⟩ := (hσ h').indexed hhas'
    exact NetId.eq_of_part_eq hi hj hpart
  constructor
  · intro hdistinct h id h' id' net hhas hhas'
    by_contra hne
    have hkeys : (h, id) ≠ (h', id') := fun hsame => hne (Prod.mk.inj hsame)
    exact (hdistinct.addresses h id net h' id' net hhas hhas' hkeys).1 rfl
  · intro hunshared
    constructor
    · intro h id net h' id' net' hhas hhas' hkeys
      constructor
      · intro hip
        obtain rfl := heq hhas hhas' (Or.inr (Or.inr hip))
        obtain ⟨rfl, rfl⟩ := hunshared h id h' id' net hhas hhas'
        exact hkeys rfl
      · intro hmac
        obtain rfl := heq hhas hhas' (Or.inr (Or.inl hmac))
        obtain ⟨rfl, rfl⟩ := hunshared h id h' id' net hhas hhas'
        exact hkeys rfl
    · intro h id net id' net' hhas hhas' hids htap
      obtain rfl := heq hhas hhas' (Or.inl htap)
      exact hids (hunshared h id h id' net hhas hhas').2
    · intro h id net h' id' net' hhas hhosts hhas' htap
      obtain rfl := heq hhas hhas' (Or.inl htap)
      exact hhosts (hunshared h id h' id' net hhas hhas').1

end Overlay

/-! ## Steps and runs -/

section Runs

variable {hasher : Hasher} {codec : Codec} {σ σ' : Daemons} {op : Op} {new : Option VmId}

theorem indexed_spawnVm {d : Daemon} {s : Spawn} {net : NetId}
    (h : (spawnVm d s).net = some net) :
    s.networked = true ∧ NetId.ofIndex d.nextIndex = some net := by
  have hnet : spawnNet d s = some net := h
  cases hnetworked : s.networked with
  | true => exact ⟨rfl, by simpa [spawnNet, hnetworked] using hnet⟩
  | false => simp [spawnNet, hnetworked] at hnet

theorem Performed.intact (hperformed : Performed σ op new σ') (hσ : ∀ h, Intact (σ h)) :
    ∀ h, Intact (σ' h) := by
  cases hperformed with
  | @keeps _ host _ hkeeps => exact intact_update hσ ((hσ host).keeps hkeeps)
  | @spawned host _ _ _ hregisters =>
    apply intact_update hσ
    apply (hσ host).registers hregisters
    exact fun net hnet => ⟨_, (indexed_spawnVm hnet).2⟩
  | @removed host _ _ _ _ hdrops => exact intact_update hσ ((hσ host).drops hdrops)
  | @lost source target _ _ _ d _ _ _ hdrops hkeeps =>
    have hleft : ∀ h, Intact (Function.update σ source d h) :=
      intact_update hσ ((hσ source).drops hdrops)
    exact intact_update hleft ((hleft target).keeps hkeeps)
  | @arrives source target _ _ _ d _ _ _ hdrops hregisters =>
    have hleft : ∀ h, Intact (Function.update σ source d h) :=
      intact_update hσ ((hσ source).drops hdrops)
    apply intact_update hleft
    apply (hleft target).registers hregisters
    exact fun net hnet => (hσ source).indexed ⟨_, hdrops.found, hnet⟩

/-- A step shares an identity only by a spawn that goes through with an index in use. -/
theorem Performed.unshared (hperformed : Performed σ op new σ') (hσ : Unshared σ)
    (hspawn : ∀ host s, op = .spawn host s → s.networked = true → Goes (σ host) s →
      ¬ InUse σ (σ host).nextIndex) : Unshared σ' := by
  cases hperformed with
  | keeps hkeeps => exact hσ.of_has hkeeps.has_iff.mp
  | @spawned host s _ hgoes hregisters =>
    -- What is registered has the next index, which no live VM has.
    refine hσ.registers hregisters fun net hnet h' id' hhas => ?_
    obtain ⟨hnetworked, hindex⟩ := indexed_spawnVm hnet
    exact hspawn host s rfl hnetworked hgoes ⟨h', id', net, hindex, hhas⟩
  | removed hdrops => exact hσ.of_has fun hhas => (hdrops.has_iff.mp hhas).2
  | lost _ _ hdrops hkeeps =>
    have hleft := hσ.of_has fun hhas => (hdrops.has_iff.mp hhas).2
    exact hleft.of_has hkeeps.has_iff.mp
  | arrives _ _ hdrops hregisters =>
    -- The identity that comes in is the one that has just gone.
    have hleft := hσ.of_has fun hhas => (hdrops.has_iff.mp hhas).2
    exact hleft.registers hregisters fun net hnet => hσ.free_of_drops hdrops net hnet

theorem intact_run (hcodec : ∀ net : NetId, codec.Reads net.encode)
    (hσ : ∀ h, Intact (σ h)) (ops : List Op) : ∀ h, Intact (run hasher codec σ ops h) := by
  induction ops using List.reverseRecOn with
  | nil => exact hσ
  | append_singleton ops op ih =>
    rw [run_append_singleton]
    exact (performed hasher hcodec _ op).intact ih

/-- A run shares no identity if none of its spawns does. -/
theorem unshared_run (hcodec : ∀ net : NetId, codec.Reads net.encode) (hσ : Unshared σ)
    (hspawn : ∀ before host s, before ++ [.spawn host s] <+: ops → s.networked = true →
      Goes (run hasher codec σ before host) s →
      ¬ InUse (run hasher codec σ before) (run hasher codec σ before host).nextIndex) :
    Unshared (run hasher codec σ ops) := by
  -- From the back, since the condition on a spawn is about the state that the run before it led to.
  induction ops using List.reverseRecOn with
  | nil => exact hσ
  | append_singleton ops op ih =>
    rw [run_append_singleton]
    apply (performed hasher hcodec _ op).unshared
    · apply ih
      intro before host s hbefore
      exact hspawn before host s (hbefore.trans (List.prefix_append ops [op]))
    · rintro host s rfl
      exact hspawn ops host s List.prefix_rfl

/-- A spawn that gets an index in use shares an identity with a VM on another host. -/
theorem not_unshared_spawn {host : HostId} {s : Spawn} (hσ : ∀ h, Intact (σ h))
    (hnetworked : s.networked = true) (hgoes : Goes (σ host) s)
    (hused : InUse σ (σ host).nextIndex) :
    ¬ Unshared (perform hasher codec (.spawn host s) σ).2 := by
  intro hunshared
  obtain ⟨h, id, net, hindex, hhas⟩ := hused
  obtain ⟨-, net', hindex', hnew⟩ := hgoes.2 hnetworked
  obtain rfl : net = net' := Option.some.inj (hindex.symm.trans hindex')
  -- On the spawning host itself the tap of that VM would have stood in the way.
  have hhost : h ≠ host := by
    rintro rfl
    exact hnew ((hσ h).tapped hhas)
  have hnet : (spawnVm (σ host) s).net = some net := by
    simpa [spawnVm, spawnNet, hnetworked] using hindex
  have hspawned : (spawn s (σ host)).2.Has s.id net :=
    (spawn_goes hgoes).2.has_iff.mpr (Or.inl ⟨rfl, hnet⟩)
  exact hhost (hunshared h id host s.id net (has_update.mpr (Or.inr ⟨hhost, hhas⟩))
    (has_update.mpr (Or.inl ⟨rfl, hspawned⟩))).1

theorem Started.intact (hstart : Started σ) (h : HostId) : Intact (σ h) := by
  have hnone : ∀ {id net}, ¬ (σ h).Has id net := by
    rintro id net ⟨vm, hvm, -⟩
    rw [hstart.vms h id] at hvm
    cases hvm
  exact ⟨fun hhas => absurd hhas hnone, fun hhas => absurd hhas hnone,
    fun hhas => absurd hhas hnone⟩

theorem Started.unshared (hstart : Started σ) : Unshared σ := by
  rintro h id h' id' net ⟨vm, hvm, -⟩
  rw [hstart.vms h id] at hvm
  cases hvm

/-- Addresses are distinct throughout a run exactly if no networked spawn goes through with the
index of a VM that is live, be it on this host or on another. -/
theorem addresses_distinct_iff (hasher : Hasher) (codec : Codec)
    (hcodec : ∀ net : NetId, codec.Reads net.encode) {σ : Daemons} (hstart : Started σ)
    (ops : List Op) :
    (∀ before, before <+: ops → Distinct (run hasher codec σ before)) ↔
      ∀ before host s, before ++ [.spawn host s] <+: ops → s.networked = true →
        Goes (run hasher codec σ before host) s →
        ¬ InUse (run hasher codec σ before) (run hasher codec σ before host).nextIndex := by
  have hintact : ∀ before h, Intact (run hasher codec σ before h) :=
    intact_run hcodec hstart.intact
  constructor
  · intro hdistinct before host s hbefore hnetworked hgoes hused
    have hafter := (distinct_iff (hintact _)).mp (hdistinct _ hbefore)
    rw [run_append_singleton] at hafter
    exact not_unshared_spawn (hintact before) hnetworked hgoes hused hafter
  · intro hspawn before hbefore
    apply (distinct_iff (hintact before)).mpr
    apply unshared_run hcodec hstart.unshared
    intro before' host s hbefore'
    exact hspawn before' host s (hbefore'.trans hbefore)

end Runs

/-! ## Two daemons -/

/-- Daemons on clean hosts. -/
def idle : Daemons := fun _ => { netSeq := 0, taps := [], vms := fun _ => none }

theorem started_idle : Started idle := ⟨fun _ => rfl, fun _ _ => rfl⟩

theorem reads_encode (net : NetId) : GuestLink.nilCodec.Reads net.encode := by
  have hjson : GuestLink.nilCodec.json = Serde.Json.ofText := rfl
  rw [Codec.Reads, hjson]
  exact net.readable_encode.ofText_text

/-- A networked VM that boots. -/
def networkedVm (k : ℕ) : Spawn where
  id := ⟨.ofNat 128 k⟩
  proc := k
  vsockUds := "vsock.sock"
  mib := 128
  networked := true
  plumbing := .works
  boots := true

/-- The identity of the first networked VM of a daemon. -/
def firstNet : NetId := ⟨"sw-tap0", "02:00:00:00:00:02", "10.200.0.2"⟩

theorem ofIndex_idle (host : HostId) : NetId.ofIndex (idle host).nextIndex = some firstNet := by
  have hzero : NetId.ofIndex 0 = some firstNet := by decide
  exact hzero

theorem goes_idle (host : HostId) (k : ℕ) : Goes (idle host) (networkedVm k) :=
  ⟨rfl, fun _ => ⟨rfl, firstNet, ofIndex_idle host, List.not_mem_nil⟩⟩

/-- The overlay after the first networked VM of one host. -/
theorem has_first {hasher : Hasher} {codec : Codec} {host : HostId} {k : ℕ} {h : HostId}
    {id : VmId} {net : NetId} :
    (run hasher codec idle [.spawn host (networkedVm k)] h).Has id net ↔
      h = host ∧ id = ⟨.ofNat 128 k⟩ ∧ net = firstNet := by
  have hnone : ∀ {h id net}, ¬ (idle h).Has id net := by
    rintro h id net ⟨vm, ⟨⟩, -⟩
  have hnet : (spawnVm (idle host) (networkedVm k)).net = some firstNet := ofIndex_idle host
  rw [run_spawn, has_update, (spawn_goes (goes_idle host k)).2.has_iff, hnet]
  simp only [hnone, and_false, or_false, Option.some.injEq, eq_comm (a := firstNet)]
  rfl

/-- A networked spawn uses up an index, whether or not it goes through. -/
theorem nextIndex_spawn {d : Daemon} {s : Spawn} (h : s.networked = true) :
    (spawn s d).2.nextIndex = (d.netSeq + 1).toUInt32 := by
  have hseq : (plumb s d).2.netSeq = d.netSeq + 1 := by
    rw [plumb, if_pos h]
    rcases create s.plumbing d.nextIndex d.taps with ⟨_ | _, _⟩ <;> rfl
  rw [Daemon.nextIndex, spawn, ← hseq]
  rcases plumb s d with ⟨_ | _, _⟩
  · rfl
  · cases s.boots <;> rfl

/-- Two networked VMs of one daemon get two addresses. -/
theorem addresses_distinct_one_host :
    Distinct (run crc32 GuestLink.nilCodec idle
      [.spawn ⟨"a"⟩ (networkedVm 0), .spawn ⟨"a"⟩ (networkedVm 1)]) := by
  refine (addresses_distinct_iff crc32 GuestLink.nilCodec reads_encode started_idle _).mpr ?_ _
    List.prefix_rfl
  rintro before host s ⟨after, hops⟩ _ _ ⟨h, id, net, hindex, hhas⟩
  match before with
  | [] =>
    obtain ⟨vm, hvm, -⟩ := hhas
    cases hvm
  | [first] =>
    simp only [List.cons_append, List.nil_append, List.cons.injEq, Op.spawn.injEq] at hops
    obtain ⟨rfl, ⟨rfl, rfl⟩, rfl⟩ := hops
    obtain ⟨-, -, rfl⟩ := has_first.mp hhas
    have hsecond : (run crc32 GuestLink.nilCodec idle [.spawn ⟨"a"⟩ (networkedVm 0)]
        ⟨"a"⟩).nextIndex = 1 := by
      rw [run_spawn, Function.update_self]
      exact nextIndex_spawn rfl
    rw [hsecond] at hindex
    exact absurd (NetId.index_of_tap hindex (ofIndex_idle ⟨"a"⟩) rfl) (by decide)
  | first :: second :: before => simp at hops

/-- The first networked VMs of two daemons get the same address. -/
theorem addresses_shared :
    ¬ Distinct (run crc32 GuestLink.nilCodec idle
      [.spawn ⟨"a"⟩ (networkedVm 0), .spawn ⟨"b"⟩ (networkedVm 1)]) := by
  have hintact : ∀ ops h, Intact (run crc32 GuestLink.nilCodec idle ops h) :=
    intact_run reads_encode started_idle.intact
  have hidle : run crc32 GuestLink.nilCodec idle [.spawn ⟨"a"⟩ (networkedVm 0)] ⟨"b"⟩ =
      idle ⟨"b"⟩ := by
    rw [run_spawn, Function.update_of_ne (by decide)]
  have hgoes : Goes (idle ⟨"b"⟩) (networkedVm 1) := goes_idle ⟨"b"⟩ 1
  have hused : InUse (run crc32 GuestLink.nilCodec idle [.spawn ⟨"a"⟩ (networkedVm 0)])
      (idle ⟨"b"⟩).nextIndex :=
    ⟨⟨"a"⟩, ⟨.ofNat 128 0⟩, firstNet, ofIndex_idle ⟨"b"⟩, has_first.mpr ⟨rfl, rfl, rfl⟩⟩
  rw [← hidle] at hgoes hused
  rw [distinct_iff (hintact _)]
  exact not_unshared_spawn (hintact [.spawn ⟨"a"⟩ (networkedVm 0)]) rfl hgoes hused

end Sleepwalk.Hostd.Overlay
