import Sleepwalk.Hostd.Status
import Sleepwalk.Rebalancer.Converge
import Sleepwalk.Rebalancer.Step

/-!
# A pass over live daemons

The loop of `bin/rebalance.rs` reads the status of every daemon over HTTP, and a move that it picks
goes back to the daemons. What a pass reads is what the registries hold (`poll_live`), so a VM that
it asks for runs on the host that it asks (`pass_live`).
-/

namespace Sleepwalk.Rebalancer.ControlPlane

open Exec Proto Serde
open Hostd (RunningVm)
open Hostd.Routes
open Hostd.Status (VmRegistry Rounding memoryPressure encodeCompat)

/-! ## Reading a status -/

/-- How numbers and text are written and read. -/
structure Codec where
  rounding : Rounding
  /-- Write an `f64`. -/
  number : ℚ → String
  /-- Read a number that is not an integer as an `f64`. -/
  f64 : String → Option F64
  /-- Read an integer as an `f64`. -/
  uint : UInt64 → F64
  /-- Parse a text as JSON. -/
  json : String → Option Json

/-- A number as it is read. -/
def Codec.decodeF64 (codec : Codec) : Json → Option F64
  | .uint n => some (codec.uint n)
  | .number text => codec.f64 text
  | _ => none

/-- A 32-bit number as it is read. -/
def decodeU32 : Json → Option UInt32
  | .uint n => if n.toNat < 2 ^ 32 then some n.toUInt32 else none
  | _ => none

/-- A list of strings as it is read. -/
def decodeStrings : Json → Option (List String)
  | .array items => items.mapM decodeString
  | _ => none

/-- A class as it is read. -/
def decodeCompat : Json → Option CompatClass
  | .object entries => do
    let vendor ← (Serde.Field.required "vendor" decodeString).fromMap entries
    let model ← (Serde.Field.required "model" decodeString).fromMap entries
    let tscKhz ← (Serde.Field.required "tsc_khz" decodeU32).fromMap entries
    let kernel ← (Serde.Field.required "kernel" decodeString).fromMap entries
    return { vendor, model, tscKhz, kernel }
  | .array [vendor, model, tscKhz, kernel] => do
    return { vendor := ← decodeString vendor, model := ← decodeString model
             tscKhz := ← decodeU32 tscKhz, kernel := ← decodeString kernel }
  | _ => none

/-- A status as it is read. The host it names is not looked at. -/
def Codec.decodeStatus (codec : Codec) : Json → Option StatusResp
  | .object entries => do
    let _ ← (Serde.Field.required "host" decodeString).fromMap entries
    let vms ← (Serde.Field.required "vms" decodeStrings).fromMap entries
    let pressure ← (Serde.Field.required "pressure" codec.decodeF64).fromMap entries
    let compat ← (Serde.Field.required "compat" decodeCompat).fromMap entries
    return { vms, pressure, compat }
  | .array [host, vms, pressure, compat] => do
    let _ ← decodeString host
    return { vms := ← decodeStrings vms, pressure := ← codec.decodeF64 pressure
             compat := ← decodeCompat compat }
  | _ => none

/-! ## Fetching it -/

/-- Why a request for a status gets no answer. -/
inductive GetFault where
  | connect (e : String)
  | handshake (e : String)
  | build
  | send
  | body
deriving DecidableEq, Repr

/-- What a request for a status meets. -/
structure GetEnv where
  fault : Option GetFault
  /-- What `/proc/meminfo` holds there, if it can be read. -/
  meminfo : Option String
  /-- What `/metrics` is answered with. -/
  metrics : String

/-- What a daemon answers. -/
def answer (net : Net) (codec : Codec) (env : GetEnv) (target : String) (registry : VmRegistry) :
    String :=
  match route .get (net.path target) with
  | .healthz => "ok\n"
  | .metrics => env.metrics
  | .status =>
    ((registry.status net.showUuid codec.rounding env.meminfo).encode codec.number).text ++ "\n"
  | _ => "not found\n"

/-- GET `url`/status and parse the body. Its status code is not looked at. -/
def fetchStatus (net : Net) (codec : Codec) (env : String → GetEnv)
    (registries : Site → Option VmRegistry) (controlUrl : String) : Except String StatusResp :=
  let url := controlUrl ++ "/status"
  match net.parseUri url with
  | .error _ => .error ("bad url " ++ url)
  | .ok uri =>
    match uri.host with
    | none => .error (PostError.text (.noHost url))
    | some host =>
      let port := uri.port.getD 80
      match registries (host, port), (env controlUrl).fault with
      | none, _ => .error (PostError.text (.connect host port "connection refused"))
      | some _, some (.connect e) => .error (PostError.text (.connect host port e))
      | some _, some (.handshake e) => .error (PostError.text (.handshake e))
      | some _, some .build => .error "build request"
      | some _, some .send => .error "send"
      | some _, some .body => .error "body"
      | some registry, none =>
        let body := answer net codec (env controlUrl) (uri.pathAndQuery.getD "/") registry
        match (codec.json body).bind codec.decodeStatus with
        | some st => .ok st
        | none => .error "parse status json"

section Statuses

variable {codec : Codec} {meminfo : Option String} {seen : F64}

theorem decodeStrings_strings (texts : List String) :
    decodeStrings (.array (texts.map .string)) = some texts := by
  rw [decodeStrings]
  induction texts with
  | nil => rfl
  | cons text texts ih =>
    rw [List.map_cons, List.mapM_cons, ih]
    rfl

/-- A class is read back. -/
theorem decodeCompat_encode (c : CompatClass) : decodeCompat (encodeCompat c) = some c := by
  have htsc : decodeU32 (.uint c.tscKhz.toUInt64) = some c.tscKhz := by
    rw [decodeU32, if_pos (by simpa using c.tscKhz.toNat_lt)]
    simp
  simp [decodeCompat, encodeCompat, Serde.Field.required, Serde.Field.fromMap, decodeString, htsc]

/-- A status is read back, its pressure as the number that its text is read as. -/
theorem decodeStatus_encode (net : Net) (registry : VmRegistry) (hseen : codec.f64
    (codec.number (memoryPressure codec.rounding meminfo)) = some seen) :
    codec.decodeStatus
      ((registry.status net.showUuid codec.rounding meminfo).encode codec.number) =
      some ⟨registry.vms.keys.map fun id => net.showUuid id.uuid, seen, registry.compat⟩ := by
  have hvms := decodeStrings_strings (registry.vms.keys.map fun id => net.showUuid id.uuid)
  have hcompat := decodeCompat_encode registry.compat
  simp only [Codec.decodeStatus, Hostd.Status.HostStatus.encode, VmRegistry.status]
  simp [Serde.Field.required, Serde.Field.fromMap, decodeString, Codec.decodeF64, hseen, hcompat,
    hvms, -List.map_map]

end Statuses

/-! ## Reading the fleet -/

/-- The text of a VM id as it is read. -/
def parseVm (net : Net) (text : String) : Option VmId := (net.parsers.uuid text).map VmId.mk

/-- The daemons that are configured are up, and what they answer gets through and is read. -/
structure Live (net : Net) (codec : Codec) (env : String → GetEnv) (cfg : Config)
    (site : HostId → Site) (registries : Site → Option VmRegistry)
    (registry : HostId → VmRegistry) (seen : HostId → F64) : Prop
    extends Wired net cfg.fleet site where
  /-- No host is configured twice. -/
  nodup : (cfg.hosts.map HostCfg.id).Nodup
  up : ∀ h ∈ cfg.hosts, registries (site ⟨h.id⟩) = some (registry ⟨h.id⟩)
  answered : ∀ h ∈ cfg.hosts, (env h.controlUrl).fault = none
  statusUri : ∀ h ∈ cfg.hosts, net.parseUri (h.controlUrl ++ "/status") =
    .ok ⟨some (site ⟨h.id⟩).1, some (site ⟨h.id⟩).2, some "/status"⟩
  statusPath : net.path "/status" = "/status"
  json : ∀ h ∈ cfg.hosts,
    let status := (registry ⟨h.id⟩).status net.showUuid codec.rounding (env h.controlUrl).meminfo
    codec.json ((status.encode codec.number).text ++ "\n") = some (status.encode codec.number)
  seen : ∀ h ∈ cfg.hosts, codec.f64
    (codec.number (memoryPressure codec.rounding (env h.controlUrl).meminfo)) = some (seen ⟨h.id⟩)

section Poll

variable {net : Net} {codec : Codec} {env : String → GetEnv} {cfg : Config} {site : HostId → Site}
  {registries : Site → Option VmRegistry} {registry : HostId → VmRegistry} {seen : HostId → F64}

/-- The status of a configured host is fetched. -/
theorem fetchStatus_ok (hlive : Live net codec env cfg site registries registry seen) {h : HostCfg}
    (hmem : h ∈ cfg.hosts) : fetchStatus net codec env registries h.controlUrl =
      .ok ⟨(registry ⟨h.id⟩).vms.keys.map fun id => net.showUuid id.uuid, seen ⟨h.id⟩,
        (registry ⟨h.id⟩).compat⟩ := by
  have hdecode := decodeStatus_encode net (registry ⟨h.id⟩) (hlive.seen h hmem)
  have hjson := hlive.json h hmem
  have hanswer : answer net codec (env h.controlUrl) "/status" (registry ⟨h.id⟩) =
      (((registry ⟨h.id⟩).status net.showUuid codec.rounding (env h.controlUrl).meminfo).encode
        codec.number).text ++ "\n" := by
    rw [answer, hlive.statusPath]
    rfl
  simp only [fetchStatus, hlive.statusUri h hmem, Option.getD_some, hlive.up h hmem,
    hlive.answered h hmem, hanswer, hjson, Option.bind_some, hdecode]

/-- The VMs of a host are read one by one. -/
theorem foldlM_addVm (hnet : net.Documented) (host : HostId) (ids : List VmId) (r : Reading) :
    (ids.map fun id => net.showUuid id.uuid).foldlM (Reading.addVm (parseVm net) host) r =
      .ok { r with
        placement := ids.foldl (fun placement vm => placement.assign host vm) r.placement
        idle := ids.foldl (fun idle vm => idle.insert vm ⟨60 * 10 ^ 9⟩) r.idle } := by
  induction ids generalizing r with
  | nil => rfl
  | cons id ids ih =>
    have hparse : parseVm net (net.showUuid id.uuid) = some id := by
      rw [parseVm, hnet.uuid]
      rfl
    rw [List.map_cons, List.foldlM_cons, Reading.addVm, hparse]
    exact ih _

/-- The fleet that the daemons are, as far as the loop reads it. -/
def cluster (cfg : Config) (registry : HostId → VmRegistry) (seen : HostId → F64)
    (nodup : (cfg.hosts.map HostCfg.id).Nodup) : Cluster where
  hosts := (cfg.hosts.map HostCfg.id).map HostId.mk
  nodup := nodup.map fun _ _ h => HostId.mk.inj h
  pressure _ host := .new (seen host)
  -- There is no live idle signal.
  idle _ := ⟨60 * 10 ^ 9⟩
  compat host := (registry host).compat
  highWatermark := cfg.highWatermark

/-- The VMs of the registries. -/
def world (registry : HostId → VmRegistry) : World := fun host => (registry host).vms.keys

/-- What a pass reads is what the registries hold. -/
theorem poll_live (hlive : Live net codec env cfg site registries registry seen)
    (api : DaemonApi) :
    cfg.poll (parseVm net) ⟨fetchStatus net codec env registries, api⟩ =
      .ok ((cluster cfg registry seen hlive.nodup).read (world registry)) := by
  have hadd : ∀ h ∈ cfg.hosts, ∀ r,
      Reading.addHost (parseVm net) (fetchStatus net codec env registries) r h =
        .ok ((cluster cfg registry seen hlive.nodup).readHost (world registry) r ⟨h.id⟩) := by
    intro h hmem r
    rw [Reading.addHost, fetchStatus_ok hlive hmem]
    simp only [Except.mapError, bind, Except.bind]
    have hvms := foldlM_addVm hlive.toDocumented ⟨h.id⟩ (registry ⟨h.id⟩).vms.keys
      { r with pressure := r.pressure.insert ⟨h.id⟩ (.new (seen ⟨h.id⟩)) }
    rw [hvms]
    rfl
  have hfold : ∀ (hosts : List HostCfg) (r : Reading), (∀ h ∈ hosts, h ∈ cfg.hosts) →
      hosts.foldlM (Reading.addHost (parseVm net) (fetchStatus net codec env registries)) r =
        .ok (((hosts.map HostCfg.id).map HostId.mk).foldl
          ((cluster cfg registry seen hlive.nodup).readHost (world registry)) r) := by
    intro hosts
    induction hosts with
    | nil => exact fun _ _ => rfl
    | cons h hosts ih =>
      intro r hmem
      rw [List.foldlM_cons, hadd h (hmem h List.mem_cons_self)]
      exact ih _ fun h' hh' => hmem h' (List.mem_cons_of_mem _ hh')
  exact hfold cfg.hosts .empty fun _ h => h

end Poll

/-! ## A pass -/

/-- The registries are those of the plane's nodes. -/
structure Shows (plane : Plane) (site : HostId → Site) (cfg : Config)
    (registry : HostId → VmRegistry) : Prop where
  node : ∀ h ∈ cfg.hosts, plane.nodes (site ⟨h.id⟩) ≠ none
  vms : ∀ h ∈ cfg.hosts, ∀ id, plane.vm (site ⟨h.id⟩) id = (registry ⟨h.id⟩).vms[id]?

section Pass

variable {net : Net} {codec : Codec} {env : String → GetEnv} {cfg : Config} {site : HostId → Site}
  {registries : Site → Option VmRegistry} {registry : HostId → VmRegistry} {seen : HostId → F64}
  {plane : Plane}

/-- A configured host has its endpoints. -/
theorem endpoint_fleet {hosts : List HostCfg} (hnodup : (hosts.map HostCfg.id).Nodup) {h : HostCfg}
    (hmem : h ∈ hosts) (fleet : Fleet) :
    (hosts.foldl (fun fleet h => fleet.add ⟨h.id⟩ ⟨h.controlUrl, h.dataListen, h.dataAddr⟩)
      fleet).endpoint ⟨h.id⟩ = .ok ⟨h.controlUrl, h.dataListen, h.dataAddr⟩ := by
  have hkept : ∀ (hosts : List HostCfg) (fleet : Fleet), h.id ∉ hosts.map HostCfg.id →
      (hosts.foldl (fun fleet h => fleet.add ⟨h.id⟩ ⟨h.controlUrl, h.dataListen, h.dataAddr⟩)
        fleet).endpoint ⟨h.id⟩ = fleet.endpoint ⟨h.id⟩ := by
    intro hosts
    induction hosts with
    | nil => exact fun _ _ => rfl
    | cons h' hosts ih =>
      intro fleet hnot
      obtain ⟨hne, hnot⟩ : h.id ≠ h'.id ∧ h.id ∉ hosts.map HostCfg.id := by simpa using hnot
      have hcompare : ¬ compare (HostId.mk h'.id) ⟨h.id⟩ = .eq :=
        fun he => hne (HostId.mk.inj (compare_eq_iff_eq.mp he)).symm
      rw [List.foldl_cons, ih _ hnot]
      simp [Fleet.endpoint, Fleet.add, Std.TreeMap.getElem?_insert, hcompare]
  induction hosts generalizing fleet with
  | nil => cases hmem
  | cons h' hosts ih =>
    obtain ⟨hnew, hnodup⟩ := List.nodup_cons.mp hnodup
    rw [List.foldl_cons]
    rcases List.mem_cons.mp hmem with rfl | hrest
    · rw [hkept hosts _ hnew]
      simp [Fleet.endpoint, Fleet.add]
    · exact ih hnodup hrest _

/-- What a pass over live daemons asks for: two hosts that are configured and up, and a VM that its
source runs. -/
structure AsksLive (cfg : Config) (site : HostId → Site) (registry : HostId → VmRegistry)
    (plane : Plane) (r : Reading) (mv : Rebalance) (target source : HostEndpoint)
    (running : RunningVm) : Prop where
  asks : Asks r cfg.highWatermark cfg.fleet mv.toHost mv target source
  source : ∃ a ∈ cfg.hosts, mv.fromHost = ⟨a.id⟩
  target : ∃ b ∈ cfg.hosts, mv.toHost = ⟨b.id⟩ ∧ target.dataListen = b.dataListen
  listed : (registry mv.fromHost).vms[mv.vm]? = some running
  running : plane.vm (site mv.fromHost) mv.vm = some running
  node : plane.nodes (site mv.toHost) ≠ none

theorem asks_live (hlive : Live net codec env cfg site registries registry seen)
    (hshows : Shows plane site cfg registry) {mv : Rebalance}
    (hpick : ((cluster cfg registry seen hlive.nodup).read (world registry)).pick cfg.highWatermark
      = some mv) :
    ∃ target source running, AsksLive cfg site registry plane
      ((cluster cfg registry seen hlive.nodup).read (world registry)) mv target source running := by
  have hpicked := Cluster.picked (c := cluster cfg registry seen hlive.nodup) hpick
  have hconfigured : ∀ host ∈ (cluster cfg registry seen hlive.nodup).hosts,
      ∃ h ∈ cfg.hosts, host = ⟨h.id⟩ := by
    intro host hmem
    obtain ⟨id, hid, rfl⟩ := List.mem_map.mp hmem
    obtain ⟨h, hh, rfl⟩ := List.mem_map.mp hid
    exact ⟨h, hh, rfl⟩
  obtain ⟨a, ha, hfrom⟩ := hconfigured _ hpicked.from_mem
  obtain ⟨b, hb, hto⟩ := hconfigured _ hpicked.to_mem
  have hsource : cfg.fleet.endpoint mv.fromHost = .ok ⟨a.controlUrl, a.dataListen, a.dataAddr⟩ :=
    hfrom ▸ endpoint_fleet hlive.nodup ha .new
  have htarget : cfg.fleet.endpoint mv.toHost = .ok ⟨b.controlUrl, b.dataListen, b.dataAddr⟩ :=
    hto ▸ endpoint_fleet hlive.nodup hb .new
  -- The VM was listed, so the registry has it.
  obtain ⟨running, hrunning⟩ : ∃ running, (registry mv.fromHost).vms[mv.vm]? = some running := by
    have hkey : mv.vm ∈ (registry mv.fromHost).vms.keys := hpicked.runs
    rw [Std.TreeMap.mem_keys] at hkey
    exact ⟨_, Std.TreeMap.getElem?_eq_some_getElem hkey⟩
  have hvm : plane.vm (site mv.fromHost) mv.vm = some running := by
    rw [hfrom] at hrunning ⊢
    rw [hshows.vms a ha, hrunning]
  exact ⟨_, _, running, ⟨hpick, rfl, htarget, hsource⟩, ⟨a, ha, hfrom⟩, ⟨b, hb, hto, rfl⟩, hrunning,
    hvm, hto ▸ hshows.node b hb⟩

/-- A reading holds what the registries of the configured hosts hold. -/
structure Holds (cfg : Config) (registry : HostId → VmRegistry) (seen : HostId → F64)
    (r : Reading) : Prop where
  vms : ∀ h ∈ cfg.hosts, r.placement.vmsOn ⟨h.id⟩ = (registry ⟨h.id⟩).vms.keys
  pressure : ∀ h ∈ cfg.hosts, r.pressure[(⟨h.id⟩ : HostId)]? = some (.new (seen ⟨h.id⟩))
  compat : ∀ h ∈ cfg.hosts, r.compat[(⟨h.id⟩ : HostId)]? = some (registry ⟨h.id⟩).compat

theorem holds_read (nodup : (cfg.hosts.map HostCfg.id).Nodup) :
    Holds cfg registry seen ((cluster cfg registry seen nodup).read (world registry)) := by
  have hhosts : ∀ h ∈ cfg.hosts, (⟨h.id⟩ : HostId) ∈ (cluster cfg registry seen nodup).hosts :=
    fun h hmem => List.mem_map_of_mem (List.mem_map_of_mem hmem)
  constructor
  · intro h hmem
    rw [Cluster.read_vmsOn, if_pos (hhosts h hmem), world]
  · exact fun h hmem => Cluster.read_pressure_eq_some_iff.mpr ⟨hhosts h hmem, rfl⟩
  · exact fun h hmem => Cluster.read_compat_eq_some_iff.mpr ⟨hhosts h hmem, rfl⟩

/-- A pass over live daemons reads what their registries hold. It asks for a VM that its source
runs, from the hottest host to the coolest compatible one. It reports the move exactly if the
requests are answered, the target finds its artifacts and can bind its address, and the source ships
the VM to the end: neither daemon can be unknown, and the VM cannot be missing. -/
theorem pass_live (hlive : Live net codec env cfg site registries registry seen)
    (hshows : Shows plane site cfg registry) (step : StepEnv) (api : DaemonApi) :
    let c := cluster cfg registry seen hlive.nodup
    let r := c.read (world registry)
    cfg.poll (parseVm net) ⟨fetchStatus net codec env registries, api⟩ = .ok r ∧
      Holds cfg registry seen r ∧
      match r.pick cfg.highWatermark with
      | none =>
        exec (rebalanceOnce net step r cfg.highWatermark cfg.fleet) plane = (.ok none, plane)
      | some mv =>
        c.Picked (world registry) mv ∧
        ∃ running target, (registry mv.fromHost).vms[mv.vm]? = some running ∧
          cfg.fleet.endpoint mv.toHost = .ok target ∧
          ((exec (rebalanceOnce net step r cfg.highWatermark cfg.fleet) plane).1 = .ok (some mv) ↔
            (step.recv.fault = none ∧ step.send.fault = none) ∧
            step.recv.recv.artifacts = true ∧ step.recv.recv.binds = true ∧
            plane.listener (site mv.toHost, target.dataListen) = none ∧
            ships net.parsers step.send.send.src running = true ∧
            step.send.send.src.transfer = .ok ()) := by
  intro c r
  refine ⟨poll_live hlive api, holds_read hlive.nodup, ?_⟩
  cases hpick : r.pick cfg.highWatermark with
  | none =>
    dsimp only
    rw [rebalanceOnce, hpick]
    rfl
  | some mv =>
    have hpicked := Cluster.picked (c := c) hpick
    obtain ⟨target, source, running, hasks⟩ := asks_live hlive hshows hpick
    refine ⟨hpicked, running, target, hasks.listed, hasks.asks.target, ?_⟩
    rw [reports_iff hlive.toWired hasks.asks]
    constructor
    · rintro ⟨-, hcompletes⟩
      obtain ⟨running', hvm', hships, htransfer⟩ := hcompletes.shipped
      obtain rfl := Option.some_inj.mp (hasks.running.symm.trans hvm')
      exact ⟨hcompletes.answered, hcompletes.artifacts, hcompletes.binds, hcompletes.free, hships,
        htransfer⟩
    · rintro ⟨hanswered, hartifacts, hbinds, hfree, hships, htransfer⟩
      exact ⟨rfl, hanswered, hasks.node, hartifacts, hbinds, hfree, running, hasks.running, hships,
        htransfer⟩

end Pass

/-! ### Two daemons and one VM -/

/-- Two hosts, configured. -/
def liveConfig : Config where
  watermark := .finite (4 / 5)
  maxSteps := 10
  hosts := [⟨"a", "http://a:8080", "0.0.0.0:9000", "a:9000"⟩,
    ⟨"b", "http://b:8080", "0.0.0.0:9000", "b:9000"⟩]

/-- The first of them runs the VM. -/
def liveRegistry (host : HostId) : VmRegistry where
  vms := if host = ⟨"a"⟩ then
    (∅ : Std.TreeMap VmId RunningVm).insert ⟨1⟩ { Hostd.plainVm with id := ⟨1⟩ } else ∅
  host := host
  compat := ⟨"GenuineIntel", "Xeon", 2000000, "6.1.155"⟩

/-- Where they listen. -/
def liveRegistries : Site → Option VmRegistry := fun at' =>
  if at' = ("a", 8080) then some (liveRegistry ⟨"a"⟩)
  else if at' = ("b", 8080) then some (liveRegistry ⟨"b"⟩) else none

/-- The memory of a host of 100 kB. -/
def memoryOf (available : ℕ) : String := Hostd.Status.meminfoText
  [⟨"MemTotal".toList, 8, 100, " kB".toList⟩, ⟨"MemAvailable".toList, 5, available, " kB".toList⟩]

/-- The memory of the first is scarce. -/
def liveEnv (url : String) : GetEnv where
  fault := none
  meminfo := some (memoryOf (if url = "http://a:8080" then 5 else 90))
  metrics := ""

/-- The status of a host as it is written. -/
def liveStatus (number : ℚ → String) (h : HostCfg) : Json :=
  ((liveRegistry ⟨h.id⟩).status twoNodes.showUuid Hostd.Status.exactly
    (liveEnv h.controlUrl).meminfo).encode number

/-- Two decimals, and the statuses of the two hosts. -/
def liveCodec : Codec where
  rounding := Hostd.Status.exactly
  number q := if q = 19 / 20 then "0.95" else "0.1"
  f64 text := some (.finite (if text = "0.95" then 19 / 20 else 1 / 10))
  uint n := .finite n.toNat
  json text := (liveConfig.hosts.map
    (liveStatus fun q => if q = 19 / 20 then "0.95" else "0.1")).find? fun status =>
      text = status.text ++ "\n"

/-- What is read of their memory. -/
def liveSeen (host : HostId) : F64 := .finite (if host = ⟨"a"⟩ then 19 / 20 else 1 / 10)

theorem live_twoHosts : Live twoNodes liveCodec liveEnv liveConfig (fun h => (h.name, 8080))
    liveRegistries liveRegistry liveSeen where
  toWired := wired_twoHosts
  nodup := by decide
  up := by
    intro h hmem
    rcases List.mem_cons.mp hmem with rfl | hmem
    · rfl
    · obtain rfl := List.mem_singleton.mp hmem
      rfl
  answered _ _ := rfl
  statusUri := by
    intro h hmem
    rcases List.mem_cons.mp hmem with rfl | hmem
    · decide
    · obtain rfl := List.mem_singleton.mp hmem
      decide
  statusPath := by decide
  json := by
    intro h hmem
    have htable : ∀ body, liveCodec.json body =
        (liveConfig.hosts.map (liveStatus liveCodec.number)).find? fun status =>
          body = status.text ++ "\n" := fun _ => rfl
    show liveCodec.json ((liveStatus liveCodec.number h).text ++ "\n")
      = some (liveStatus liveCodec.number h)
    rw [htable]
    rcases List.mem_cons.mp hmem with rfl | hmem
    · exact List.find?_cons_of_pos (decide_eq_true rfl)
    · obtain rfl := List.mem_singleton.mp hmem
      -- The status of the first host is another one.
      refine (List.find?_cons_of_neg ?_).trans (List.find?_cons_of_pos (decide_eq_true rfl))
      decide +kernel
  seen := by
    intro h hmem
    rcases List.mem_cons.mp hmem with rfl | hmem
    · decide +kernel
    · obtain rfl := List.mem_singleton.mp hmem
      decide +kernel

theorem shows_oneVm : Shows oneVm (fun h => (h.name, 8080)) liveConfig liveRegistry where
  node := by
    intro h hmem
    rcases List.mem_cons.mp hmem with rfl | hmem
    · decide
    · obtain rfl := List.mem_singleton.mp hmem
      decide
  vms := by
    intro h hmem id
    rcases List.mem_cons.mp hmem with rfl | hmem
    · have hnode : oneVm.vm ("a", 8080) id =
          Function.update (fun _ => none) ⟨1⟩ (some { Hostd.plainVm with id := ⟨1⟩ }) id := rfl
      rw [hnode, liveRegistry, if_pos rfl, Std.TreeMap.getElem?_insert, Function.update_apply]
      by_cases hid : id = ⟨1⟩
      · simp [hid]
      · have hcompare : ¬ compare (VmId.mk 1) id = .eq :=
          fun he => hid (compare_eq_iff_eq.mp he).symm
        rw [if_neg hid, if_neg hcompare]
        simp
    · obtain rfl := List.mem_singleton.mp hmem
      have hnode : oneVm.vm ("b", 8080) id = none := rfl
      have hregistry : (liveRegistry ⟨"b"⟩).vms = ∅ := rfl
      rw [hnode, hregistry]
      simp

/-- The VM of the host that is short of memory moves. -/
theorem pass_oneVm :
    ∃ r, liveConfig.poll (parseVm twoNodes)
        ⟨fetchStatus twoNodes liveCodec liveEnv liveRegistries,
          ⟨fun _ _ => .ok (), fun _ _ _ => .ok ()⟩⟩ = .ok r ∧
      (exec (rebalanceOnce twoNodes ⟨.fine idleGuest, .fine idleGuest⟩ r liveConfig.highWatermark
        liveConfig.fleet) oneVm).1 = .ok (some ⟨⟨1⟩, ⟨"a"⟩, ⟨"b"⟩⟩) := by
  obtain ⟨hpoll, -, hpass⟩ := pass_live live_twoHosts shows_oneVm
    ⟨.fine idleGuest, .fine idleGuest⟩ ⟨fun _ _ => .ok (), fun _ _ _ => .ok ()⟩
  have hpick : ((cluster liveConfig liveRegistry liveSeen live_twoHosts.nodup).read
      (world liveRegistry)).pick liveConfig.highWatermark = some ⟨⟨1⟩, ⟨"a"⟩, ⟨"b"⟩⟩ := by
    decide +kernel
  rw [hpick] at hpass
  obtain ⟨-, running, target, hrunning, htarget, hiff⟩ := hpass
  refine ⟨_, hpoll, hiff.mpr ⟨⟨rfl, rfl⟩, rfl, rfl, ?_, ?_, rfl⟩⟩
  · obtain rfl := Except.ok.inj (htarget.symm.trans (endpoint_fleet live_twoHosts.nodup
      (List.mem_cons_of_mem _ (List.mem_singleton.mpr rfl)) .new))
    decide
  · obtain rfl : { Hostd.plainVm with id := ⟨1⟩ } = running := Option.some_inj.mp hrunning
    decide

end Sleepwalk.Rebalancer.ControlPlane
