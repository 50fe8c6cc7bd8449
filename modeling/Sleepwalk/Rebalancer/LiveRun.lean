import Sleepwalk.Rebalancer.Live
import Sleepwalk.Rebalancer.Receivers

/-!
# The loop over live daemons

Passes of the loop against daemons where everything works: statuses are answered, the VM that is
asked for is shipped, and its restore is registered before the next pass, which the loop waits for.
A pass is a step of the abstract fleet (`pass_moves`, `size_relocate`), up to the id of the VM that
has moved, which is a new one. So the loop makes as many moves as there are VMs above the watermark,
and stops (`live_converges`).
-/

namespace Sleepwalk.Rebalancer.ControlPlane

open Exec Proto Descent
open Hostd (RunningVm)
open Hostd.Routes
open Hostd.Status (VmRegistry)

/-- What one pass of the loop meets, and the VM that its move is restored as. -/
structure PassEnv where
  get : String → GetEnv
  step : StepEnv
  restored : RunningVm

/-- The daemons: their nodes, and what their registries list. -/
structure Daemons where
  plane : Plane
  registry : Site → VmRegistry

namespace Daemons

/-- The registry of a host. -/
def host (site : HostId → Site) (d : Daemons) (h : HostId) : VmRegistry := d.registry (site h)

/-- The number of VMs on a host. -/
def size (site : HostId → Site) (d : Daemons) (h : HostId) : ℕ := (d.host site h).vms.size

/-- The plane after a move whose VM has been restored. -/
def moved (site : HostId → Site) (d : Daemons) (plane : Plane) (mv : Rebalance) (listen : String)
    (vm : RunningVm) : Daemons :=
  let taken := Function.update d.registry (site mv.fromHost)
    ((d.registry (site mv.fromHost)).take mv.vm)
  { plane := plane.ended (site mv.toHost, listen) (some vm)
    registry := Function.update taken (site mv.toHost) ((taken (site mv.toHost)).insert vm) }

variable (net : Net) (codec : Codec) (cfg : Config) (site : HostId → Site)

/-- What a pass reads. -/
def read (env : PassEnv) (d : Daemons) : Except LoopError Reading :=
  cfg.poll (parseVm net) ⟨fetchStatus net codec env.get fun at' => some (d.registry at'),
    ⟨fun _ _ => .ok (), fun _ _ _ => .ok ()⟩⟩

/-- One pass, if it makes a move. -/
def pass (env : PassEnv) (d : Daemons) : Option Daemons :=
  match d.read net codec cfg env with
  | .error _ => none
  | .ok r =>
    match exec (rebalanceOnce net env.step r cfg.highWatermark cfg.fleet) d.plane with
    | (.ok (some mv), plane) =>
      match cfg.fleet.endpoint mv.toHost with
      | .ok target => some (d.moved site plane mv target.dataListen env.restored)
      | .error _ => none
    | _ => none

/-- The passes, one after the other. -/
def next (envs : ℕ → PassEnv) : ℕ × Daemons → Option (ℕ × Daemons)
  | (i, d) => (d.pass net codec cfg site (envs i)).map fun d => (i + 1, d)

end Daemons

/-- Everything works in a pass. What is read of a host's memory depends on the number of its VMs. -/
structure Works (net : Net) (codec : Codec) (cfg : Config) (site : HostId → Site) (gauge : ℕ → F64)
    (env : PassEnv) (d : Daemons) : Prop where
  live : Live net codec env.get cfg site (fun at' => some (d.registry at')) (d.host site)
    fun h => gauge (d.size site h)
  answered : env.step.recv.fault = none ∧ env.step.send.fault = none
  artifacts : env.step.recv.recv.artifacts = true
  binds : env.step.recv.recv.binds = true
  workDir : env.step.recv.recv.workDir = true
  ships : ∀ h ∈ cfg.hosts, ∀ id running, d.plane.vm (site ⟨h.id⟩) id = some running →
    ships net.parsers env.step.send.send.src running = true
  transfer : env.step.send.send.src.transfer = .ok ()
  /-- The restored VM has a new id. -/
  fresh : ∀ h ∈ cfg.hosts, d.plane.vm (site ⟨h.id⟩) env.restored.id = none

/-- The registries are those of the nodes, nothing is being restored, and a VM of any host can be
restored on any other. -/
structure Settled (cfg : Config) (site : HostId → Site) (d : Daemons) : Prop where
  shows : Shows d.plane site cfg (d.host site)
  free : ∀ h ∈ cfg.hosts, d.plane.listener (site ⟨h.id⟩, h.dataListen) = none
  compat : ∀ a ∈ cfg.hosts, ∀ b ∈ cfg.hosts,
    (d.host site ⟨a.id⟩).compat.compatibleWith (d.host site ⟨b.id⟩).compat = true

section Pass

variable {net : Net} {codec : Codec} {cfg : Config} {site : HostId → Site} {gauge : ℕ → F64}
  {env : PassEnv} {d d' : Daemons}

/-- The fleet as it is read where the number of VMs tells the pressure. -/
def counted (cfg : Config) (site : HostId → Site) (gauge : ℕ → F64) (d : Daemons)
    (nodup : (cfg.hosts.map HostCfg.id).Nodup) : Cluster :=
  { cluster cfg (d.host site) (fun h => gauge (d.size site h)) nodup with
    pressure := fun world host => .new (gauge (world host).length) }

theorem length_world (site : HostId → Site) (d : Daemons) (h : HostId) :
    (world (d.host site) h).length = d.size site h :=
  Std.TreeMap.length_keys

/-- It is the fleet that the daemons are. -/
theorem read_counted (nodup : (cfg.hosts.map HostCfg.id).Nodup) :
    (counted cfg site gauge d nodup).read (world (d.host site)) =
      (cluster cfg (d.host site) (fun h => gauge (d.size site h)) nodup).read
        (world (d.host site)) := by
  have hread : (counted cfg site gauge d nodup).readHost (world (d.host site)) =
      (cluster cfg (d.host site) (fun h => gauge (d.size site h)) nodup).readHost
        (world (d.host site)) := by
    funext r host
    simp only [Cluster.readHost, counted, length_world]
    rfl
  rw [Cluster.read, Cluster.read, hread]
  rfl

/-- No daemon is configured as two hosts. -/
def Apart (cfg : Config) (site : HostId → Site) : Prop :=
  ∀ a ∈ cfg.hosts, ∀ b ∈ cfg.hosts, site ⟨a.id⟩ = site ⟨b.id⟩ → a.id = b.id

variable {plane : Plane} {mv : Rebalance} {listen : String} {vm : RunningVm}

theorem registry_moved (hne : site mv.toHost ≠ site mv.fromHost) (at' : Site) :
    (d.moved site plane mv listen vm).registry at' =
      if at' = site mv.toHost then (d.registry (site mv.toHost)).insert vm
      else if at' = site mv.fromHost then (d.registry (site mv.fromHost)).take mv.vm
      else d.registry at' := by
  simp only [Daemons.moved, Function.update_apply, if_neg hne]

theorem compat_moved (hne : site mv.toHost ≠ site mv.fromHost) (h : HostId) :
    ((d.moved site plane mv listen vm).host site h).compat = (d.host site h).compat := by
  rw [Daemons.host, registry_moved hne, Daemons.host]
  split_ifs with hto hfrom
  · rw [hto]
    rfl
  · rw [hfrom]
    rfl
  · rfl

/-- A move takes one VM off its source and puts one on its target, and no other host changes. -/
theorem size_moved (hne : site mv.toHost ≠ site mv.fromHost)
    (hlisted : mv.vm ∈ (d.host site mv.fromHost).vms)
    (hfresh : vm.id ∉ (d.host site mv.toHost).vms) (h : HostId) :
    (d.moved site plane mv listen vm).size site h =
      if site h = site mv.toHost then d.size site mv.toHost + 1
      else if site h = site mv.fromHost then d.size site mv.fromHost - 1
      else d.size site h := by
  rw [Daemons.size, Daemons.host, registry_moved hne]
  split_ifs with hto hfrom
  · exact (Std.TreeMap.size_insert ..).trans (if_neg hfresh)
  · exact (Std.TreeMap.size_erase ..).trans (if_pos hlisted)
  · rfl

/-- The hosts of the fleet as it is read are those that are configured. -/
theorem mem_hosts {nodup : (cfg.hosts.map HostCfg.id).Nodup} {h : HostId} :
    h ∈ (counted cfg site gauge d nodup).hosts ↔ ∃ a ∈ cfg.hosts, h = ⟨a.id⟩ := by
  constructor
  · intro hmem
    obtain ⟨id, hid, rfl⟩ := List.mem_map.mp hmem
    obtain ⟨a, ha, rfl⟩ := List.mem_map.mp hid
    exact ⟨a, ha, rfl⟩
  · rintro ⟨a, ha, rfl⟩
    exact List.mem_map_of_mem (List.mem_map_of_mem ha)

/-- The hosts of a picked move are two daemons. -/
theorem site_ne (hapart : Apart cfg site) {nodup : (cfg.hosts.map HostCfg.id).Nodup}
    (hpicked : (counted cfg site gauge d nodup).Picked (world (d.host site)) mv) :
    site mv.toHost ≠ site mv.fromHost := by
  obtain ⟨b, hb, hto⟩ := mem_hosts.mp hpicked.to_mem
  obtain ⟨a, ha, hfrom⟩ := mem_hosts.mp hpicked.from_mem
  intro hsame
  rw [hto, hfrom] at hsame
  exact hpicked.ne ((hto.trans (congrArg HostId.mk (hapart b hb a ha hsame))).trans hfrom.symm)

/-- After a move each host has as many VMs as it has in the abstract fleet. -/
theorem size_relocate (hapart : Apart cfg site) {nodup : (cfg.hosts.map HostCfg.id).Nodup}
    (hpicked : (counted cfg site gauge d nodup).Picked (world (d.host site)) mv)
    (hfresh : vm.id ∉ (d.host site mv.toHost).vms) {h : HostId}
    (hmem : h ∈ (counted cfg site gauge d nodup).hosts) :
    (d.moved site plane mv listen vm).size site h =
      ((world (d.host site)).relocate mv h).length := by
  obtain ⟨hsource, htarget, hother⟩ := Cluster.length_relocate hpicked
  simp only [length_world] at hsource htarget hother
  have hsite : ∀ x ∈ (counted cfg site gauge d nodup).hosts, (site h = site x ↔ h = x) := by
    intro x hx
    obtain ⟨c, hc, rfl⟩ := mem_hosts.mp hmem
    obtain ⟨y, hy, rfl⟩ := mem_hosts.mp hx
    exact ⟨fun hsame => congrArg HostId.mk (hapart c hc y hy hsame), fun hsame => by rw [hsame]⟩
  have hlisted : mv.vm ∈ (d.host site mv.fromHost).vms := Std.TreeMap.mem_keys.mp hpicked.runs
  rw [size_moved (site_ne hapart hpicked) hlisted hfresh]
  by_cases hto : h = mv.toHost
  · rw [if_pos ((hsite _ hpicked.to_mem).mpr hto), hto, htarget]
  · rw [if_neg fun hsame => hto ((hsite _ hpicked.to_mem).mp hsame)]
    by_cases hfrom : h = mv.fromHost
    · rw [if_pos ((hsite _ hpicked.from_mem).mpr hfrom), hfrom]
      omega
    · rw [if_neg fun hsame => hfrom ((hsite _ hpicked.from_mem).mp hsame), hother h hfrom hto]

/-- What a move that has been restored leaves behind. -/
theorem settled_moved (hsettled : Settled cfg site d)
    (hsites : site mv.toHost ≠ site mv.fromHost) {b : HostCfg} (hb : b ∈ cfg.hosts)
    (hto : mv.toHost = ⟨b.id⟩)
    (hnodes : ∀ h ∈ cfg.hosts, plane.nodes (site ⟨h.id⟩) ≠ none)
    (hvms : ∀ at' id, plane.vm at' id =
      if at' = site mv.fromHost ∧ id = mv.vm then none else d.plane.vm at' id)
    (hlistener : plane.listener =
      Function.update d.plane.listener (site mv.toHost, b.dataListen) (some .restoring)) :
    Settled cfg site (d.moved site plane mv b.dataListen vm) := by
  have htarget : plane.nodes (site mv.toHost) ≠ none := hto ▸ hnodes b hb
  have hkept : ∀ h ∈ cfg.hosts, ∀ id, d.plane.vm (site ⟨h.id⟩) id =
      (d.registry (site ⟨h.id⟩)).vms[id]? := hsettled.shows.vms
  refine ⟨⟨fun h hmem => nodes_modifyNode (hnodes h hmem), fun h hmem id => ?_⟩,
    fun h hmem => ?_, fun h hmem h' hmem' => ?_⟩
  · have hended : (d.moved site plane mv b.dataListen vm).plane.vm (site ⟨h.id⟩) id =
        if site ⟨h.id⟩ = site mv.toHost ∧ id = vm.id then some vm
        else plane.vm (site ⟨h.id⟩) id := vm_ended htarget _ id
    rw [hended, Daemons.host, registry_moved hsites, hvms, hkept h hmem]
    by_cases hat : site ⟨h.id⟩ = site mv.toHost
    · -- The target lists the VM that it has restored, and is not the source.
      rw [hat, if_pos rfl, VmRegistry.getElem?_insert]
      simp [hsites]
    · by_cases hsource : site ⟨h.id⟩ = site mv.fromHost
      · -- The source does not list the VM any more.
        rw [hsource, if_neg hsites.symm, if_pos rfl, VmRegistry.getElem?_take]
        simp [hsites.symm]
      · simp [hat, hsource]
  · have hbound : plane.listener (site mv.toHost, b.dataListen) ≠ none := by
      rw [hlistener, Function.update_self]
      simp
    have hended : (d.moved site plane mv b.dataListen vm).plane.listener =
        Function.update plane.listener (site mv.toHost, b.dataListen) none := listener_ended hbound
    rw [hended, hlistener, Function.update_idem, Function.update_apply]
    split_ifs
    · rfl
    · exact hsettled.free h hmem
  · rw [compat_moved hsites, compat_moved hsites]
    exact hsettled.compat h hmem h' hmem'

/-- What is read is the fleet that the daemons are. -/
theorem read_eq (hworks : Works net codec cfg site gauge env d) : d.read net codec cfg env =
    .ok ((counted cfg site gauge d hworks.live.nodup).read (world (d.host site))) := by
  rw [read_counted]
  exact poll_live hworks.live _

/-- A pass that ends the loop: nothing is picked, and nothing changes. -/
def Balanced (net : Net) (codec : Codec) (cfg : Config) (env : PassEnv) (d : Daemons) : Prop :=
  ∃ r, d.read net codec cfg env = .ok r ∧
    exec (rebalanceOnce net env.step r cfg.highWatermark cfg.fleet) d.plane = (.ok none, d.plane)

/-- Without a pick the loop ends. -/
theorem pass_balanced (hworks : Works net codec cfg site gauge env d)
    (hpick : (counted cfg site gauge d hworks.live.nodup).pick (world (d.host site)) = none) :
    d.pass net codec cfg site env = none ∧ Balanced net codec cfg env d := by
  have hread := read_eq hworks
  generalize hr : (counted cfg site gauge d hworks.live.nodup).read (world (d.host site)) = r
    at hread
  rw [Cluster.pick, hr] at hpick
  have hnone : r.pick cfg.highWatermark = none := hpick
  have hexec : exec (rebalanceOnce net env.step r cfg.highWatermark cfg.fleet) d.plane =
      (.ok none, d.plane) := by
    rw [rebalanceOnce, hnone]
    rfl
  refine ⟨?_, r, hread, hexec⟩
  rw [Daemons.pass, hread]
  dsimp only
  rw [hexec]

/-- A pick is carried out. -/
theorem pass_moves (hworks : Works net codec cfg site gauge env d) (hapart : Apart cfg site)
    (hsettled : Settled cfg site d)
    (hpick : (counted cfg site gauge d hworks.live.nodup).pick (world (d.host site)) = some mv) :
    ∃ plane listen, d.pass net codec cfg site env =
        some (d.moved site plane mv listen env.restored) ∧
      Settled cfg site (d.moved site plane mv listen env.restored) := by
  have hread := read_eq hworks
  have hsites := site_ne hapart (Cluster.picked hpick)
  rw [read_counted] at hread
  rw [Cluster.pick, read_counted] at hpick
  obtain ⟨target, source, running, hasks⟩ := asks_live hworks.live hsettled.shows hpick
  generalize (cluster cfg (d.host site) (fun h => gauge (d.size site h)) hworks.live.nodup).read
    (world (d.host site)) = r at hread hasks
  obtain ⟨a, ha, hfrom⟩ := hasks.source
  obtain ⟨b, hb, hto, hlisten⟩ := hasks.target
  -- Everything works, so the move completes.
  have hfree : d.plane.listener (site mv.toHost, target.dataListen) = none := by
    rw [hto, hlisten]
    exact hsettled.free b hb
  have hships := hworks.ships a ha mv.vm running (hfrom ▸ hasks.running)
  have hmoved := (reports_iff hworks.live.toWired hasks.asks).mpr ⟨rfl, hworks.answered, hasks.node,
    hworks.artifacts, hworks.binds, hfree, running, hasks.running, hships, hworks.transfer⟩
  obtain ⟨hvms, hlistener⟩ := moved_effect hworks.live.toWired hasks.asks hmoved
  have hrestoring := hlistener hworks.workDir
  have hnodes : ∀ h ∈ cfg.hosts,
      (exec (rebalanceOnce net env.step r cfg.highWatermark cfg.fleet) d.plane).2.nodes
        (site ⟨h.id⟩) ≠ none := fun h hmem =>
    keeps_rebalanceOnce env.step r (site ⟨h.id⟩) d.plane (hsettled.shows.node h hmem)
  rcases hexec : exec (rebalanceOnce net env.step r cfg.highWatermark cfg.fleet) d.plane with
    ⟨result, plane⟩
  rw [hexec] at hmoved hvms hrestoring hnodes
  obtain rfl : result = .ok (some mv) := hmoved
  refine ⟨plane, b.dataListen, ?_, ?_⟩
  · rw [Daemons.pass, hread]
    dsimp only
    rw [hexec]
    dsimp only
    rw [hasks.asks.target, ← hlisten]
  · rw [hlisten] at hrestoring
    exact settled_moved hsettled hsites hb hto hnodes hvms hrestoring

end Pass

/-! ## The whole run -/

/-- The hosts that are configured. -/
def hostIds (cfg : Config) : Finset HostId := ((cfg.hosts.map HostCfg.id).map HostId.mk).toFinset

/-- The number of VMs on all hosts. -/
def Daemons.total (cfg : Config) (site : HostId → Site) (d : Daemons) : ℕ :=
  ∑ h ∈ hostIds cfg, d.size site h

/-- The number of VMs above a watermark of `w` VMs. -/
def Daemons.excess (cfg : Config) (site : HostId → Site) (w : ℕ) (d : Daemons) : ℕ :=
  ∑ h ∈ hostIds cfg, (d.size site h - w)

theorem mem_hostIds {cfg : Config} {h : HostCfg} (hmem : h ∈ cfg.hosts) :
    (⟨h.id⟩ : HostId) ∈ hostIds cfg :=
  List.mem_toFinset.mpr (List.mem_map_of_mem (List.mem_map_of_mem hmem))

/-- Up to a number of VMs, pressures compare as the numbers do, and the watermark as `w` VMs. -/
structure Gauges (gauge : ℕ → F64) (highWatermark : Pressure) (w most : ℕ) : Prop where
  hosts : ∀ m ≤ most, ∀ n ≤ most,
    ((Pressure.new (gauge m)).value ≤ (Pressure.new (gauge n)).value ↔ m ≤ n)
  watermark : ∀ n ≤ most, ((Pressure.new (gauge n)).value ≤ highWatermark.value ↔ n ≤ w)

section Run

variable {net : Net} {codec : Codec} {cfg : Config} {site : HostId → Site} {gauge : ℕ → F64}
  {env : PassEnv} {envs : ℕ → PassEnv} {d d' start : Daemons} {w n : ℕ}

theorem size_le_total {h : HostCfg} (hmem : h ∈ cfg.hosts) :
    d.size site ⟨h.id⟩ ≤ d.total cfg site :=
  Finset.single_le_sum (f := fun h => d.size site h) (fun _ _ => Nat.zero_le _) (mem_hostIds hmem)

theorem size_le_of_excess (hexcess : d.excess cfg site w = 0) :
    ∀ h ∈ cfg.hosts, d.size site ⟨h.id⟩ ≤ w := fun _ hmem =>
  Nat.sub_eq_zero_iff_le.mp (Finset.sum_eq_zero_iff.mp hexcess _ (mem_hostIds hmem))

theorem sum_world (nodup : (cfg.hosts.map HostCfg.id).Nodup) :
    ∑ h ∈ (counted cfg site gauge d nodup).hosts.toFinset, (world (d.host site) h).length =
      d.total cfg site :=
  Finset.sum_congr rfl fun h _ => length_world site d h

theorem excess_world (nodup : (cfg.hosts.map HostCfg.id).Nodup) :
    (counted cfg site gauge d nodup).excess w (world (d.host site)) = d.excess cfg site w :=
  Finset.sum_congr rfl fun h _ => by rw [length_world]

/-- No host of the abstract fleet ever has more VMs than there are, so its pressures compare. -/
theorem comparesCounts (nodup : (cfg.hosts.map HostCfg.id).Nodup)
    (hgauges : Gauges gauge cfg.highWatermark w (d.total cfg site)) :
    (counted cfg site gauge d nodup).ComparesCounts (world (d.host site)) w := by
  have hle : ∀ n w', iter (counted cfg site gauge d nodup).next n (world (d.host site)) = some w' →
      ∀ a ∈ (counted cfg site gauge d nodup).hosts, (w' a).length ≤ d.total cfg site := by
    intro n w' hiter a ha
    have htotal := Cluster.total_iter hiter fun _ => 1
    simp only [Cluster.load_one] at htotal
    rw [← sum_world nodup, ← htotal]
    exact Finset.single_le_sum (f := fun h => (w' h).length) (fun _ _ => Nat.zero_le _)
      (List.mem_toFinset.mpr ha)
  exact ⟨fun n w' hiter a ha b hb => hgauges.hosts _ (hle n w' hiter a ha) _ (hle n w' hiter b hb),
    fun n w' hiter a ha => hgauges.watermark _ (hle n w' hiter a ha)⟩

/-- A pass that moves takes one VM off the excess, and the loop ends exactly without one. -/
theorem excess_pass (hworks : Works net codec cfg site gauge env d) (hapart : Apart cfg site)
    (hsettled : Settled cfg site d)
    (hgauges : Gauges gauge cfg.highWatermark w (d.total cfg site))
    (hroom : d.total cfg site ≤ cfg.hosts.length * w) :
    (d.pass net codec cfg site env = none ↔ d.excess cfg site w = 0) ∧
    (d.pass net codec cfg site env = none → Balanced net codec cfg env d) ∧
    ∀ d', d.pass net codec cfg site env = some d' →
      Settled cfg site d' ∧ d'.total cfg site = d.total cfg site ∧
        d'.excess cfg site w + 1 = d.excess cfg site w := by
  have hcounts := comparesCounts hworks.live.nodup hgauges
  generalize hc : counted cfg site gauge d hworks.live.nodup = c at hcounts
  have hcompat : ∀ a ∈ c.hosts, ∀ b ∈ c.hosts,
      (c.compat a).compatibleWith (c.compat b) = true := by
    rw [← hc]
    intro a ha b hb
    obtain ⟨a', ha', rfl⟩ := mem_hosts.mp ha
    obtain ⟨b', hb', rfl⟩ := mem_hosts.mp hb
    exact hsettled.compat a' ha' b' hb'
  have hsum : ∑ h ∈ c.hosts.toFinset, (world (d.host site) h).length = d.total cfg site := by
    rw [← hc, sum_world]
  have htotal : ∑ h ∈ c.hosts.toFinset, (world (d.host site) h).length ≤ c.hosts.length * w := by
    have hlength : c.hosts.length = cfg.hosts.length := by simp [← hc, counted, cluster]
    rw [hlength, hsum]
    exact hroom
  have hexcess : c.excess w (world (d.host site)) = d.excess cfg site w := by
    rw [← hc, excess_world]
  have hend := Cluster.pick_eq_none_iff (n := 0) hcompat hcounts htotal rfl
  rw [hexcess, Cluster.next_eq_none_iff] at hend
  cases hpick : c.pick (world (d.host site)) with
  | none =>
    obtain ⟨hpass, hbalanced⟩ := pass_balanced hworks (hc ▸ hpick)
    refine ⟨⟨fun _ => hend.mp hpick, fun _ => hpass⟩, fun _ => hbalanced, fun d' hsome => ?_⟩
    rw [hpass] at hsome
    cases hsome
  | some mv =>
    obtain ⟨plane, listen, hpass, hsettled'⟩ := pass_moves hworks hapart hsettled (hc ▸ hpick)
    have hpicked := Cluster.picked hpick
    have hfresh : env.restored.id ∉ (d.host site mv.toHost).vms := by
      obtain ⟨b, hb, hto⟩ := mem_hosts.mp (hc ▸ hpicked.to_mem)
      rw [hto, Std.TreeMap.mem_iff_isSome_getElem?, ← hsettled.shows.vms b hb, hworks.fresh b hb]
      simp
    generalize hd' : d.moved site plane mv listen env.restored = d' at hpass hsettled'
    have hsizes : ∀ h ∈ c.hosts,
        d'.size site h = ((world (d.host site)).relocate mv h).length := by
      intro h hmem
      rw [← hd']
      exact size_relocate hapart (hc ▸ hpicked) hfresh (hc ▸ hmem)
    have hnext : c.next (world (d.host site)) = some ((world (d.host site)).relocate mv) :=
      Cluster.next_eq_some_iff.mpr ⟨mv, hpick, rfl⟩
    have hstays := Cluster.total_iter (n := 1) hnext fun _ => 1
    have hdrops := Cluster.excess_next (n := 0) hcompat hcounts htotal rfl hnext
    simp only [Cluster.load_one] at hstays
    have hids : hostIds cfg = c.hosts.toFinset := by rw [← hc]; rfl
    have htotal' : d'.total cfg site = d.total cfg site := by
      rw [← hsum, ← hstays, Daemons.total, hids]
      exact Finset.sum_congr rfl fun h hmem => hsizes h (List.mem_toFinset.mp hmem)
    have hexcess' : d'.excess cfg site w = c.excess w ((world (d.host site)).relocate mv) := by
      rw [Daemons.excess, hids]
      exact Finset.sum_congr rfl fun h hmem => by rw [hsizes h (List.mem_toFinset.mp hmem)]
    rw [hexcess] at hdrops
    have hover : d.excess cfg site w ≠ 0 := by omega
    have hsome : d.pass net codec cfg site env ≠ none := by
      rw [hpass]
      simp
    refine ⟨⟨fun hnone => absurd hnone hsome, fun hzero => absurd hzero hover⟩,
      fun hnone => absurd hnone hsome, fun d'' hsome => ?_⟩
    · obtain rfl := Option.some_inj.mp (hpass.symm.trans hsome)
      exact ⟨hsettled', htotal', hexcess' ▸ hdrops⟩

/-- In a run, passes are counted, what holds of settled daemons goes on to hold, and no VM is
created or lost. -/
theorem run_kept (hapart : Apart cfg site) (hsettled : Settled cfg site start)
    (hgauges : Gauges gauge cfg.highWatermark w (start.total cfg site))
    (hroom : start.total cfg site ≤ cfg.hosts.length * w)
    (hworks : ∀ n d, iter (Daemons.next net codec cfg site envs) n (0, start) = some (n, d) →
      Works net codec cfg site gauge (envs n) d) {i : ℕ}
    (hiter : iter (Daemons.next net codec cfg site envs) n (0, start) = some (i, d)) :
    i = n ∧ Settled cfg site d ∧ d.total cfg site = start.total cfg site := by
  induction n generalizing i d with
  | zero =>
    obtain ⟨rfl, rfl⟩ := Prod.mk.inj (Option.some_inj.mp hiter)
    exact ⟨rfl, hsettled, rfl⟩
  | succ n ih =>
    obtain ⟨⟨j, d₁⟩, hiter₁, hnext⟩ := iter_succ_eq_some_iff.mp hiter
    obtain ⟨rfl, hsettled₁, htotal₁⟩ := ih hiter₁
    obtain ⟨d₂, hpass, heq⟩ := Option.map_eq_some_iff.mp hnext
    obtain ⟨rfl, rfl⟩ := Prod.mk.inj heq
    rw [← htotal₁] at hgauges hroom
    obtain ⟨-, -, hmoves⟩ := excess_pass (hworks _ _ hiter₁) hapart hsettled₁ hgauges hroom
    obtain ⟨hsettled₂, htotal₂, -⟩ := hmoves d₂ hpass
    exact ⟨rfl, hsettled₂, htotal₂.trans htotal₁⟩

/-- Daemons on which everything works, of compatible hosts with room for all VMs, whose pressures
tell their numbers of VMs: after as many passes as there are VMs above the watermark, nothing is
picked. -/
theorem run_end (hapart : Apart cfg site) (hsettled : Settled cfg site start)
    (hgauges : Gauges gauge cfg.highWatermark w (start.total cfg site))
    (hroom : start.total cfg site ≤ cfg.hosts.length * w)
    (hworks : ∀ n d, iter (Daemons.next net codec cfg site envs) n (0, start) = some (n, d) →
      Works net codec cfg site gauge (envs n) d) :
    ∃ final, iter (Daemons.next net codec cfg site envs) (start.excess cfg site w) (0, start) =
        some (start.excess cfg site w, final) ∧
      Balanced net codec cfg (envs (start.excess cfg site w)) final ∧
      final.excess cfg site w = 0 ∧ final.total cfg site = start.total cfg site := by
  have hstep : ∀ n i d, iter (Daemons.next net codec cfg site envs) n (0, start) = some (i, d) →
      (d.pass net codec cfg site (envs i) = none ↔ d.excess cfg site w = 0) ∧
      (d.pass net codec cfg site (envs i) = none → Balanced net codec cfg (envs i) d) ∧
      ∀ d', d.pass net codec cfg site (envs i) = some d' →
        d'.excess cfg site w + 1 = d.excess cfg site w := by
    intro n i d hiter
    obtain ⟨rfl, hsettled', htotal⟩ := run_kept hapart hsettled hgauges hroom hworks hiter
    rw [← htotal] at hgauges hroom
    obtain ⟨hend, hbalanced, hmoves⟩ :=
      excess_pass (hworks _ _ hiter) hapart hsettled' hgauges hroom
    exact ⟨hend, hbalanced, fun d' hpass => (hmoves d' hpass).2.2⟩
  have hdrop : ∀ n (b c : ℕ × Daemons),
      iter (Daemons.next net codec cfg site envs) n (0, start) = some b →
      Daemons.next net codec cfg site envs b = some c →
      c.2.excess cfg site w + 1 = b.2.excess cfg site w := by
    intro n b c hb hnext
    obtain ⟨d', hpass, rfl⟩ := Option.map_eq_some_iff.mp hnext
    exact (hstep n b.1 b.2 hb).2.2 d' hpass
  have hlast : ∀ n (b : ℕ × Daemons),
      iter (Daemons.next net codec cfg site envs) n (0, start) = some b →
      (Daemons.next net codec cfg site envs b = none ↔ b.2.excess cfg site w = 0) := by
    intro n b hb
    rw [← (hstep n b.1 b.2 hb).1]
    exact Option.map_eq_none_iff
  obtain ⟨⟨i, final⟩, hfinal, hnone⟩ := exists_end_at hdrop hlast
  have hpass : final.pass net codec cfg site (envs i) = none := Option.map_eq_none_iff.mp hnone
  obtain ⟨hend, hbalanced, -⟩ := hstep _ i final hfinal
  obtain ⟨rfl, -, htotal⟩ := run_kept hapart hsettled hgauges hroom hworks hfinal
  exact ⟨final, hfinal, hbalanced hpass, hend.mp hpass, htotal⟩

/-- The loop makes exactly as many moves as there are VMs above the watermark, and stops. No host is
above the watermark then, and no VM has been created or lost. -/
theorem live_converges (hapart : Apart cfg site) (hsettled : Settled cfg site start)
    (hgauges : Gauges gauge cfg.highWatermark w (start.total cfg site))
    (hroom : start.total cfg site ≤ cfg.hosts.length * w)
    (hworks : ∀ n d, iter (Daemons.next net codec cfg site envs) n (0, start) = some (n, d) →
      Works net codec cfg site gauge (envs n) d) :
    ∃ final, iter (Daemons.next net codec cfg site envs) (start.excess cfg site w) (0, start) =
        some (start.excess cfg site w, final) ∧
      Balanced net codec cfg (envs (start.excess cfg site w)) final ∧
      (∀ h ∈ cfg.hosts, final.size site ⟨h.id⟩ ≤ w) ∧
      final.total cfg site = start.total cfg site := by
  obtain ⟨final, hfinal, hbalanced, hexcess, htotal⟩ :=
    run_end hapart hsettled hgauges hroom hworks
  exact ⟨final, hfinal, hbalanced, size_le_of_excess hexcess, htotal⟩

end Run

/-! ### Two VMs on one of two hosts -/

/-- Where the hosts listen. -/
abbrev liveSite : HostId → Site := fun h => (h.name, 8080)

/-- A VM without a network. -/
def bare (id : ℕ) : RunningVm := { Hostd.plainVm with id := ⟨.ofNat 128 id⟩ }

/-- The registries. -/
def crowded (host : HostId) : VmRegistry where
  vms := if host = ⟨"a"⟩ then
    ((∅ : Std.TreeMap VmId RunningVm).insert ⟨1⟩ (bare 1)).insert ⟨2⟩ (bare 2) else ∅
  host := host
  compat := ⟨"GenuineIntel", "Xeon", 2000000, "6.1.155"⟩

/-- The daemons. -/
def crowdedStart : Daemons where
  plane := ⟨fun at' => if at' = ("a", 8080) ∨ at' = ("b", 8080) then
    some ⟨⟨fun id => (crowded ⟨at'.1⟩).vms[id]?, {}⟩, fun _ => none⟩ else none⟩
  registry at' := crowded ⟨at'.1⟩

/-- The memory of the first is scarce until a VM has moved. -/
def crowdedEnv (i : ℕ) : PassEnv where
  get url := ⟨none,
    some (memoryOf (if i = 0 then if url = "http://a:8080" then 5 else 90 else 50)), ""⟩
  step := ⟨.fine idleGuest, .fine idleGuest⟩
  restored := bare (3 + i)

/-- Their pressure for a number of VMs. -/
def crowdedGauge (n : ℕ) : F64 :=
  .finite (if n = 0 then 1 / 10 else if n = 1 then 1 / 2 else 19 / 20)

/-- The pressures as they are written. -/
def twoDecimals (q : ℚ) : String :=
  if q = 19 / 20 then "0.95" else if q = 1 / 2 then "0.5" else "0.1"

/-- The statuses that are read. -/
def crowdedStatuses : List Serde.Json :=
  [(crowded ⟨"a"⟩, 5), (crowded ⟨"b"⟩, 90), ((crowded ⟨"a"⟩).take ⟨1⟩, 50),
    ((crowded ⟨"b"⟩).insert (bare 3), 50)].map fun entry =>
      (entry.1.status twoNodes.showUuid Hostd.Status.exactly (some (memoryOf entry.2))).encode
        twoDecimals

/-- They are read back, and the pressures in them. -/
def crowdedCodec : Codec where
  rounding := Hostd.Status.exactly
  number := twoDecimals
  f64 text := some (.finite
    (if text = "0.95" then 19 / 20 else if text = "0.5" then 1 / 2 else 1 / 10))
  uint n := .finite n.toNat
  json text := crowdedStatuses.find? fun status => text = status.text ++ "\n"

/-- A status is found by its text. -/
theorem find?_text {statuses : List Serde.Json}
    (hnodup : (statuses.map fun status => status.text ++ "\n").Nodup) {status : Serde.Json}
    (hmem : status ∈ statuses) :
    statuses.find? (fun other => status.text ++ "\n" = other.text ++ "\n") = some status := by
  induction statuses with
  | nil => cases hmem
  | cons first rest ih =>
    obtain ⟨hnew, hnodup⟩ := List.nodup_cons.mp hnodup
    rcases List.mem_cons.mp hmem with rfl | hrest
    · exact List.find?_cons_of_pos (decide_eq_true rfl)
    · have hne : ¬ status.text ++ "\n" = first.text ++ "\n" := by
        intro hsame
        have hin := List.mem_map_of_mem (f := fun status => status.text ++ "\n") hrest
        rw [hsame] at hin
        exact hnew hin
      rw [List.find?_cons_of_neg (by simpa using hne)]
      exact ih hnodup hrest

theorem nodup_crowded : (crowdedStatuses.map fun status => status.text ++ "\n").Nodup := by
  decide +kernel

/-- Everything works, if the statuses are among those that are read. -/
theorem works_crowded {d : Daemons} {i : ℕ}
    (hjson : ∀ h ∈ liveConfig.hosts, ((d.host liveSite ⟨h.id⟩).status
      twoNodes.showUuid Hostd.Status.exactly ((crowdedEnv i).get h.controlUrl).meminfo).encode
        twoDecimals ∈ crowdedStatuses)
    (hseen : ∀ h ∈ liveConfig.hosts, crowdedCodec.f64 (crowdedCodec.number
      (Hostd.Status.memoryPressure crowdedCodec.rounding ((crowdedEnv i).get h.controlUrl).meminfo))
        = some (crowdedGauge (d.size liveSite ⟨h.id⟩)))
    (hsettled : Settled liveConfig liveSite d)
    (hbare : ∀ h ∈ liveConfig.hosts, ∀ entry ∈ (d.host liveSite ⟨h.id⟩).vms.toList,
      entry.2.net = none)
    (hfresh : ∀ h ∈ liveConfig.hosts,
      (d.host liveSite ⟨h.id⟩).vms[(bare (3 + i)).id]? = none) :
    Works twoNodes crowdedCodec liveConfig liveSite crowdedGauge (crowdedEnv i)
      d where
  live := {
    toWired := wired_twoHosts
    nodup := by decide
    up := fun _ _ => rfl
    answered := fun _ _ => rfl
    statusUri := live_twoHosts.statusUri
    statusPath := live_twoHosts.statusPath
    json := by
      intro h hmem
      have htable : ∀ body, crowdedCodec.json body =
          crowdedStatuses.find? fun status => body = status.text ++ "\n" := fun _ => rfl
      dsimp only
      rw [htable]
      exact find?_text nodup_crowded (hjson h hmem)
    seen := hseen }
  answered := ⟨rfl, rfl⟩
  artifacts := rfl
  binds := rfl
  workDir := rfl
  ships := by
    rintro h hmem id ⟨vm, proc, uds, net⟩ hrunning
    have hlisted := hsettled.shows.vms h hmem id
    rw [hrunning, eq_comm, ← Std.TreeMap.mem_toList_iff_getElem?_eq_some] at hlisted
    obtain rfl : net = none := hbare h hmem _ hlisted
    rfl
  transfer := rfl
  fresh h hmem := (hsettled.shows.vms h hmem _).trans (hfresh h hmem)

/-- The first host, and the second. -/
theorem forall_hosts {P : HostCfg → Prop} (ha : P ⟨"a", "http://a:8080", "0.0.0.0:9000", "a:9000"⟩)
    (hb : P ⟨"b", "http://b:8080", "0.0.0.0:9000", "b:9000"⟩) : ∀ h ∈ liveConfig.hosts, P h := by
  intro h hmem
  rcases List.mem_cons.mp hmem with rfl | hmem
  · exact ha
  · obtain rfl := List.mem_singleton.mp hmem
    exact hb

theorem settled_crowded : Settled liveConfig liveSite crowdedStart where
  shows := ⟨forall_hosts (by decide) (by decide), forall_hosts (fun _ => rfl) fun _ => rfl⟩
  free := forall_hosts rfl rfl
  compat := forall_hosts (forall_hosts (by decide) (by decide))
    (forall_hosts (by decide) (by decide))

theorem apart_live : Apart liveConfig liveSite :=
  fun _ _ _ _ hsame => congrArg Prod.fst hsame

theorem works_start : Works twoNodes crowdedCodec liveConfig liveSite crowdedGauge
    (crowdedEnv 0) crowdedStart := by
  refine works_crowded ?_ ?_ settled_crowded ?_ ?_
  · exact forall_hosts List.mem_cons_self (List.mem_cons_of_mem _ List.mem_cons_self)
  · exact forall_hosts (by decide +kernel) (by decide +kernel)
  · exact forall_hosts (by decide +kernel) (by decide +kernel)
  · exact forall_hosts (by decide +kernel) (by decide +kernel)

/-- After the first VM has moved. -/
theorem works_moved {d : Daemons} (hsettled : Settled liveConfig liveSite d)
    (ha : d.host liveSite ⟨"a"⟩ = (crowded ⟨"a"⟩).take ⟨1⟩)
    (hb : d.host liveSite ⟨"b"⟩ = (crowded ⟨"b"⟩).insert (bare 3)) :
    Works twoNodes crowdedCodec liveConfig liveSite crowdedGauge (crowdedEnv 1)
      d := by
  refine works_crowded (forall_hosts ?_ ?_) (forall_hosts ?_ ?_) hsettled (forall_hosts ?_ ?_)
    (forall_hosts ?_ ?_)
  · rw [ha]
    exact List.mem_cons_of_mem _ (List.mem_cons_of_mem _ List.mem_cons_self)
  · rw [hb]
    exact List.mem_cons_of_mem _ (List.mem_cons_of_mem _ (List.mem_cons_of_mem _
      List.mem_cons_self))
  · rw [Daemons.size, ha]
    decide +kernel
  · rw [Daemons.size, hb]
    decide +kernel
  · rw [ha]
    decide +kernel
  · rw [hb]
    decide +kernel
  · rw [ha]
    decide +kernel
  · rw [hb]
    decide +kernel

theorem nodup_live : (liveConfig.hosts.map HostCfg.id).Nodup := by decide

theorem pick_crowded : (counted liveConfig liveSite crowdedGauge crowdedStart nodup_live).pick
    (world (crowdedStart.host liveSite)) = some ⟨⟨1⟩, ⟨"a"⟩, ⟨"b"⟩⟩ := by
  decide +kernel

theorem gauges_crowded : Gauges crowdedGauge liveConfig.highWatermark 1 2 where
  hosts := by decide +kernel
  watermark := by decide +kernel

theorem total_crowded : crowdedStart.total liveConfig liveSite = 2 := by decide +kernel

theorem excess_crowded : crowdedStart.excess liveConfig liveSite 1 = 1 := by decide +kernel

theorem gauges_start : Gauges crowdedGauge liveConfig.highWatermark 1
    (crowdedStart.total liveConfig liveSite) := by
  rw [total_crowded]
  exact gauges_crowded

theorem room_start :
    crowdedStart.total liveConfig liveSite ≤ liveConfig.hosts.length * 1 := by
  rw [total_crowded]
  decide

/-- Everything works in each pass. -/
theorem works_run (n : ℕ) (d : Daemons) (hiter : iter (Daemons.next twoNodes crowdedCodec liveConfig
    liveSite crowdedEnv) n (0, crowdedStart) = some (n, d)) :
    Works twoNodes crowdedCodec liveConfig liveSite crowdedGauge (crowdedEnv n) d := by
  obtain ⟨plane, listen, hpass, hsettled⟩ :=
    pass_moves works_start apart_live settled_crowded pick_crowded
  obtain ⟨-, -, hmoves⟩ :=
    excess_pass works_start apart_live settled_crowded gauges_start room_start
  obtain ⟨-, htotal₁, hexcess₁⟩ := hmoves _ hpass
  rw [excess_crowded] at hexcess₁
  generalize hd₁ : crowdedStart.moved liveSite plane ⟨⟨1⟩, ⟨"a"⟩, ⟨"b"⟩⟩ listen
    (crowdedEnv 0).restored = d₁ at hpass hsettled htotal₁ hexcess₁
  have hworks₁ := works_moved hsettled (by rw [← hd₁]; rfl) (by rw [← hd₁]; rfl)
  -- There is no pass after the next one.
  have hlast : d₁.pass twoNodes crowdedCodec liveConfig liveSite (crowdedEnv 1) = none := by
    have hgauges := gauges_start
    have hroom := room_start
    rw [← htotal₁] at hgauges hroom
    refine (excess_pass hworks₁ apart_live hsettled hgauges hroom).1.mpr ?_
    omega
  have hnext : Daemons.next twoNodes crowdedCodec liveConfig liveSite crowdedEnv (0, crowdedStart) =
      some (1, d₁) := by
    rw [Daemons.next, hpass, Option.map_some]
  have hend : Daemons.next twoNodes crowdedCodec liveConfig liveSite crowdedEnv (1, d₁) = none := by
    rw [Daemons.next, hlast, Option.map_none]
  have hfirst : iter (Daemons.next twoNodes crowdedCodec liveConfig liveSite crowdedEnv) 1
      (0, crowdedStart) = some (1, d₁) :=
    iter_succ_eq_some_iff.mpr ⟨_, rfl, hnext⟩
  have hsecond : iter (Daemons.next twoNodes crowdedCodec liveConfig liveSite crowdedEnv) (1 + 1)
      (0, crowdedStart) = none := by
    rw [iter, hfirst, Option.bind_some, hend]
  cases n with
  | zero =>
    obtain rfl := congrArg Prod.snd (Option.some_inj.mp hiter)
    exact works_start
  | succ n =>
    cases n with
    | zero =>
      obtain rfl := congrArg Prod.snd (Option.some_inj.mp (hfirst.symm.trans hiter))
      exact hworks₁
    | succ n =>
      rw [iter_eq_none hsecond (Nat.le_add_left 2 n)] at hiter
      cases hiter

/-- One of the two VMs moves, and the loop stops. -/
theorem live_converges_crowded :
    ∃ final, iter (Daemons.next twoNodes crowdedCodec liveConfig liveSite crowdedEnv)
        1 (0, crowdedStart) = some (1, final) ∧
      Balanced twoNodes crowdedCodec liveConfig (crowdedEnv 1) final ∧
      (∀ h ∈ liveConfig.hosts, final.size liveSite ⟨h.id⟩ ≤ 1) ∧
      final.total liveConfig liveSite = 2 := by
  have hconverges := live_converges apart_live settled_crowded gauges_start room_start works_run
  rw [excess_crowded] at hconverges
  obtain ⟨final, hiter, hbalanced, hwithin, htotal⟩ := hconverges
  exact ⟨final, hiter, hbalanced, hwithin, htotal.trans total_crowded⟩

end Sleepwalk.Rebalancer.ControlPlane
