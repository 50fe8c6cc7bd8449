import Sleepwalk.Hostd.Routes
import Sleepwalk.Lib.Uuid
import Sleepwalk.Rebalancer.Control

/-!
# The control plane

`rebalance_once` with its HTTP client against the daemons it drives. A step posts two requests, and
the daemons keep what they did with them. Requests and answers can be lost, and a sender's
connection reaches the listener that its address leads to.
-/

namespace Sleepwalk.Rebalancer.ControlPlane

open Exec Proto
open Hostd (Parsers RunningVm)
open Hostd.Routes

/-! ## The HTTP client -/

/-- A URL, as far as it is used. -/
structure Uri where
  host : Option String
  port : Option UInt16
  pathAndQuery : Option String
deriving DecidableEq, Repr

/-- What a client connects to. -/
abbrev Site := String × UInt16

/-- What the nodes share: the libraries they are built on, and the network. -/
structure Net where
  /-- Parse a URL. -/
  parseUri : String → Except String Uri
  /-- The path of a request target. -/
  path : String → String
  /-- Its query. -/
  query : String → Option String
  /-- A VM id as text. -/
  showUuid : BitVec 128 → String
  parsers : Parsers
  /-- The node and the listener that an address leads to. -/
  reaches : String → Option (Site × String)

/-- Why a request gets no answer. -/
inductive Fault where
  | connect (e : String)
  | handshake (e : String)
  | build (e : String)
  /-- The request is lost, or the answer to it. -/
  | send (e : String) (handled : Bool)
deriving DecidableEq, Repr

/-- What a request meets. -/
structure PostEnv where
  fault : Option Fault
  recv : RecvEnv
  send : SendEnv
  /-- What `/vms/spawn` does. -/
  spawn : Node → StatusCode × Node

/-- The nodes, by where they listen for requests. -/
structure Plane where
  nodes : Site → Option Node

/-- A failure of a request. -/
inductive PostError where
  | badUrl (url e : String)
  | noHost (url : String)
  | connect (host : String) (port : UInt16) (e : String)
  | handshake (e : String)
  | build (e : String)
  | send (e : String)
  | http (status : StatusCode)
deriving DecidableEq, Repr

/-- A failure as text. -/
def PostError.text : PostError → String
  | .badUrl url e => "bad url " ++ url ++ ": " ++ e
  | .noHost url => "no host in " ++ url
  | .connect host port e => "connect " ++ host ++ ":" ++ toString port.toNat ++ ": " ++ e
  | .handshake e => "handshake: " ++ e
  | .build e => "build request: " ++ e
  | .send e => "send: " ++ e
  | .http status => "HTTP " ++ status.text

/-- A node handles a posted request: its answer, what becomes of it, and the address it dials. -/
def serve (net : Net) (env : PostEnv) (target : String) (node : Node) :
    Option StatusCode × Node × Option String :=
  let param := queryParam (net.query target)
  match route .post (net.path target) with
  | .migrateRecv =>
    let (status, node) := node.migrateRecv env.recv (param "listen")
    (some status, node, none)
  | .migrateSend => node.migrateSend net.parsers.uuid net.parsers env.send (param "vm") (param "to")
  | .vmsSpawn =>
    let (status, node) := env.spawn node
    (some status, node, none)
  | _ => (some .notFound, node, none)

namespace Plane

/-- Set a node. -/
def setNode (plane : Plane) (site : Site) (node : Node) : Plane :=
  ⟨Function.update plane.nodes site (some node)⟩

/-- Change a node, if there is one. -/
def modifyNode (plane : Plane) (site : Site) (f : Node → Node) : Plane :=
  match plane.nodes site with
  | some node => plane.setNode site (f node)
  | none => plane

/-- A sender connects to an address. -/
def dial (net : Net) (plane : Plane) (addr : Option String) : Plane :=
  match addr.bind net.reaches with
  | some (site, listen) => plane.modifyNode site (·.connected listen)
  | none => plane

/-- A node handles a request. -/
def handle (net : Net) (env : PostEnv) (site : Site) (target : String) (node : Node)
    (plane : Plane) : Option StatusCode × Plane :=
  let (status, node, dialed) := serve net env target node
  (status, (plane.setNode site node).dial net dialed)

end Plane

/-- A computation of the client. -/
abbrev PlaneM (ε : Type) := ExceptT (Stop ε) (StateM Plane)

/-- What a request comes to that has been handled or not. -/
def respond : Option Fault → String → UInt16 → Option StatusCode → Except (Stop PostError) Unit
  | some (.connect e), host, port, _ => .error (.failed (.connect host port e))
  | some (.handshake e), _, _, _ => .error (.failed (.handshake e))
  | some (.build e), _, _, _ => .error (.failed (.build e))
  | some (.send e _), _, _, _ => .error (.failed (.send e))
  | none, _, _, some status =>
    if status.isSuccess then .ok () else .error (.failed (.http status))
  | none, _, _, none => .error .stuck

/-- The request gets to the node. -/
def Fault.handled : Option Fault → Bool
  | none => true
  | some (.send _ handled) => handled
  | _ => false

/-- POST with an empty body: success on a 2xx, and else a failure. -/
def post (net : Net) (env : PostEnv) (url : String) : PlaneM PostError Unit := fun plane =>
  match net.parseUri url with
  | .error e => (.error (.failed (.badUrl url e)), plane)
  | .ok uri =>
    match uri.host with
    | none => (.error (.failed (.noHost url)), plane)
    | some host =>
      let port := uri.port.getD 80
      match plane.nodes (host, port) with
      | none => (.error (.failed (.connect host port "connection refused")), plane)
      | some node =>
        let (status, after) := plane.handle net env (host, port) (uri.pathAndQuery.getD "/") node
        (respond env.fault host port status, if Fault.handled env.fault then after else plane)

/-- Tell a daemon to receive a migration. -/
def migrateRecv (net : Net) (env : PostEnv) (controlUrl listen : String) : PlaneM String Unit :=
  mapFailed PostError.text
    (post net env (controlUrl ++ ("/migrate/recv" ++ "?" ++ ("listen=" ++ listen))))

/-- Tell a daemon to send its registered VM. -/
def migrateSend (net : Net) (env : PostEnv) (controlUrl : String) (vm : VmId) (addr : String) :
    PlaneM String Unit :=
  mapFailed PostError.text (post net env (controlUrl ++
    ("/migrate/send" ++ "?" ++ ("vm=" ++ net.showUuid vm.uuid ++ "&to=" ++ addr))))

/-! ## A step -/

/-- What the two requests of a step meet. -/
structure StepEnv where
  recv : PostEnv
  send : PostEnv

/-- A lookup in the fleet. -/
def endpoint (fleet : Fleet) (host : HostId) : PlaneM CtlError HostEndpoint :=
  outcome ((fleet.endpoint host).mapError .failed)

/-- Run one rebalance step: pick the best move and execute it, or do nothing. -/
def rebalanceOnce (net : Net) (env : StepEnv) (r : Reading) (highWatermark : Pressure)
    (fleet : Fleet) : PlaneM CtlError (Option Rebalance) :=
  match r.pick highWatermark with
  | none => return none
  | some mv => do
    let target ← endpoint fleet mv.toHost
    let source ← endpoint fleet mv.fromHost
    -- Receiver first, then the sender connects.
    mapFailed (CtlError.daemon mv.toHost "recv")
      (migrateRecv net env.recv target.controlUrl target.dataListen)
    mapFailed (CtlError.daemon mv.fromHost "send")
      (migrateSend net env.send source.controlUrl mv.vm target.dataAddr)
    return some mv

/-! ## What the daemons are asked -/

/-- A character that stands for itself in a URL: a letter, a digit, or one of `.:-_[]`. -/
def addrChar (c : Char) : Bool := c.isAlphanum || ['.', ':', '-', '_', '[', ']'].contains c

/-- An address, or an id. -/
def AddrText (s : String) : Prop := ∀ c ∈ s.toList, addrChar c = true

/-- A path from the root that needs no escaping. -/
def PathText (s : String) : Prop :=
  s.toList.head? = some '/' ∧ ∀ c ∈ s.toList, addrChar c = true ∨ c = '/'

/-- Parameters that need no escaping. -/
def QueryText (s : String) : Prop := ∀ c ∈ s.toList, addrChar c = true ∨ c = '=' ∨ c = '&'

/-- How the libraries read what needs no escaping. -/
structure Net.Documented (net : Net) : Prop where
  path : ∀ path query, PathText path → QueryText query → net.path (path ++ "?" ++ query) = path
  query : ∀ path query, PathText path → QueryText query →
    net.query (path ++ "?" ++ query) = some query
  uuid : ∀ id, net.parsers.uuid (net.showUuid id) = some id
  uuid_text : ∀ id, AddrText (net.showUuid id)

/-- The endpoints lead where they should: a control URL is the base of its daemon's, a data address
leads to the listener of its host, and no two hosts share one. -/
structure Wired (net : Net) (fleet : Fleet) (site : HostId → Site) : Prop extends net.Documented
    where
  uri : ∀ h e, fleet.endpoint h = .ok e → ∀ path query, PathText path → QueryText query →
    net.parseUri (e.controlUrl ++ (path ++ "?" ++ query)) =
      .ok ⟨some (site h).1, some (site h).2, some (path ++ "?" ++ query)⟩
  listen : ∀ h e, fleet.endpoint h = .ok e → AddrText e.dataListen
  addr : ∀ h e, fleet.endpoint h = .ok e → AddrText e.dataAddr
  reaches : ∀ h e, fleet.endpoint h = .ok e → net.reaches e.dataAddr = some (site h, e.dataListen)
  apart : ∀ h h' e e', fleet.endpoint h = .ok e → fleet.endpoint h' = .ok e' →
    (site h, e.dataListen) = (site h', e'.dataListen) → h = h'

section Requests

variable {net : Net} {fleet : Fleet} {site : HostId → Site} {env : PostEnv} {plane : Plane}
  {h : HostId} {e : HostEndpoint}

theorem AddrText.queryText {s : String} (hs : AddrText s) : QueryText s :=
  fun c hc => .inl (hs c hc)

theorem AddrText.amp_notMem {s : String} (hs : AddrText s) : '&' ∉ s.toList := by
  intro hmem
  have hchar := hs _ hmem
  revert hchar
  decide

theorem QueryText.append {s t : String} (hs : QueryText s) (ht : QueryText t) :
    QueryText (s ++ t) := by
  intro c hc
  rw [String.toList_append, List.mem_append] at hc
  exact hc.elim (hs c) (ht c)

theorem forall_mem_of_all {P : Char → Prop} [DecidablePred P] {s : String}
    (h : s.toList.all (P ·) = true) : ∀ c ∈ s.toList, P c :=
  fun c hc => by simpa using List.all_eq_true.mp h c hc

theorem pathText_recv : PathText "/migrate/recv" := ⟨rfl, forall_mem_of_all (by decide)⟩

theorem pathText_send : PathText "/migrate/send" := ⟨rfl, forall_mem_of_all (by decide)⟩

theorem queryText_listen : QueryText "listen=" := forall_mem_of_all (by decide)

theorem queryText_vm : QueryText "vm=" := forall_mem_of_all (by decide)

theorem queryText_to : QueryText "&to=" := forall_mem_of_all (by decide)

/-- Nothing is cut off an address. -/
theorem AddrText.ofList_cut {s : String} (hs : AddrText s) :
    String.ofList (Query.cut s.toList) = s := by
  rw [Query.cut_eq_self_iff.mpr hs.amp_notMem, String.ofList_toList]

/-- A daemon that is told to receive gets the address it is told to listen on. -/
theorem serve_recv (hnet : net.Documented) {listen : String} (hlisten : AddrText listen)
    (node : Node) :
    serve net env ("/migrate/recv" ++ "?" ++ ("listen=" ++ listen)) node =
      (some (node.migrateRecv env.recv (some listen)).1,
        (node.migrateRecv env.recv (some listen)).2, none) := by
  have hquery : QueryText ("listen=" ++ listen) := queryText_listen.append hlisten.queryText
  unfold serve
  rw [hnet.path _ _ pathText_recv hquery, hnet.query _ _ pathText_recv hquery]
  simp only [route]
  rw [queryParam_listen, hlisten.ofList_cut]

/-- A daemon that is told to send gets the VM and the address. -/
theorem serve_send (hnet : net.Documented) {addr : String} (haddr : AddrText addr)
    (id : BitVec 128) (node : Node) :
    serve net env ("/migrate/send" ++ "?" ++ ("vm=" ++ net.showUuid id ++ "&to=" ++ addr)) node =
      node.migrateSend net.parsers.uuid net.parsers env.send (some (net.showUuid id))
        (some addr) := by
  have hvm := hnet.uuid_text id
  have hquery : QueryText ("vm=" ++ net.showUuid id ++ "&to=" ++ addr) :=
    ((queryText_vm.append hvm.queryText).append queryText_to).append haddr.queryText
  unfold serve
  rw [hnet.path _ _ pathText_send hquery, hnet.query _ _ pathText_send hquery]
  simp only [route]
  obtain ⟨hfirst, hsecond⟩ := queryParam_send hvm.amp_notMem addr
  rw [hfirst, hsecond, haddr.ofList_cut]

end Requests

/-! ## What the requests do -/

namespace Plane

/-- What is bound at an address of a node. -/
def listener (plane : Plane) (key : Site × String) : Option Receiving :=
  (plane.nodes key.1).bind fun node => node.listeners key.2

/-- The VM a node has under an id. -/
def vm (plane : Plane) (site : Site) (id : VmId) : Option RunningVm :=
  (plane.nodes site).bind fun node => node.daemon.vms id

end Plane

/-- A listener is bound by the request. -/
structure Binds (env : PostEnv) (plane : Plane) (key : Site × String) : Prop where
  handled : Fault.handled env.fault = true
  node : plane.nodes key.1 ≠ none
  artifacts : env.recv.artifacts = true
  binds : env.recv.binds = true
  free : plane.listener key = none
  workDir : env.recv.workDir = true

/-- The request makes its daemon connect to the target. -/
structure Connects (net : Net) (env : PostEnv) (plane : Plane) (site : Site) (id : VmId) :
    Prop where
  handled : Fault.handled env.fault = true
  ships : ∃ running, plane.vm site id = some running ∧
    ships net.parsers env.send.src running = true
  dialed : env.send.dialed = true

section Effects

variable {net : Net} {fleet : Fleet} {site : HostId → Site} {env : PostEnv} {plane : Plane}
  {h : HostId} {e : HostEndpoint}

theorem listener_setNode (plane : Plane) (at' : Site) (node : Node) (key : Site × String) :
    (plane.setNode at' node).listener key =
      if key.1 = at' then node.listeners key.2 else plane.listener key := by
  unfold Plane.listener Plane.setNode
  by_cases hsite : key.1 = at'
  · rw [if_pos hsite, hsite]
    simp
  · rw [if_neg hsite]
    simp [Function.update_of_ne hsite]

theorem vm_setNode (plane : Plane) (at' : Site) (node : Node) (at'' : Site) (id : VmId) :
    (plane.setNode at' node).vm at'' id =
      if at'' = at' then node.daemon.vms id else plane.vm at'' id := by
  unfold Plane.vm Plane.setNode
  by_cases hsite : at'' = at'
  · rw [if_pos hsite, hsite]
    simp
  · rw [if_neg hsite]
    simp [Function.update_of_ne hsite]

/-- A node that keeps its VMs. -/
theorem vm_setNode_of_eq {at' : Site} {node node' : Node} (hnode : plane.nodes at' = some node)
    (hvms : node'.daemon.vms = node.daemon.vms) : (plane.setNode at' node').vm = plane.vm := by
  funext at'' id
  rw [vm_setNode, hvms]
  split
  · rename_i hsite
    simp [Plane.vm, hsite, hnode]
  · rfl

/-- The request to receive, at the node of its host. -/
theorem exec_migrateRecv (hwired : Wired net fleet site) (he : fleet.endpoint h = .ok e)
    {node : Node} (hnode : plane.nodes (site h) = some node) :
    exec (migrateRecv net env e.controlUrl e.dataListen) plane =
      let received := node.migrateRecv env.recv (some e.dataListen)
      ((respond env.fault (site h).1 (site h).2 (some received.1)).mapError
          (Stop.map PostError.text),
        if Fault.handled env.fault then plane.setNode (site h) received.2 else plane) := by
  have hlisten := hwired.listen h e he
  have hquery : QueryText ("listen=" ++ e.dataListen) := queryText_listen.append hlisten.queryText
  have huri := hwired.uri h e he _ _ pathText_recv hquery
  have hpost : post net env
      (e.controlUrl ++ ("/migrate/recv" ++ "?" ++ ("listen=" ++ e.dataListen))) plane =
      let received := node.migrateRecv env.recv (some e.dataListen)
      (respond env.fault (site h).1 (site h).2 (some received.1),
        if Fault.handled env.fault then plane.setNode (site h) received.2 else plane) := by
    unfold post
    simp only [huri, Option.getD_some, hnode, Plane.handle,
      serve_recv hwired.toDocumented hlisten node, Plane.dial, Option.bind_none]
  rw [migrateRecv, exec_mapFailed]
  change (Except.mapError _ (post net env _ plane).1, (post net env _ plane).2) = _
  rw [hpost]

/-- The request to send, at the node of its host. -/
theorem exec_migrateSend (hwired : Wired net fleet site) (he : fleet.endpoint h = .ok e)
    {addr : String} (haddr : AddrText addr) (id : VmId) {node : Node}
    (hnode : plane.nodes (site h) = some node) :
    exec (migrateSend net env e.controlUrl id addr) plane =
      let sent := node.migrateSend net.parsers.uuid net.parsers env.send
        (some (net.showUuid id.uuid)) (some addr)
      ((respond env.fault (site h).1 (site h).2 sent.1).mapError (Stop.map PostError.text),
        if Fault.handled env.fault then (plane.setNode (site h) sent.2.1).dial net sent.2.2
        else plane) := by
  have hquery : QueryText ("vm=" ++ net.showUuid id.uuid ++ "&to=" ++ addr) :=
    ((queryText_vm.append (hwired.uuid_text id.uuid).queryText).append queryText_to).append
      haddr.queryText
  have huri := hwired.uri h e he _ _ pathText_send hquery
  have hpost : post net env (e.controlUrl ++
      ("/migrate/send" ++ "?" ++ ("vm=" ++ net.showUuid id.uuid ++ "&to=" ++ addr))) plane =
      let sent := node.migrateSend net.parsers.uuid net.parsers env.send
        (some (net.showUuid id.uuid)) (some addr)
      (respond env.fault (site h).1 (site h).2 sent.1,
        if Fault.handled env.fault then (plane.setNode (site h) sent.2.1).dial net sent.2.2
        else plane) := by
    unfold post
    simp only [huri, Option.getD_some, hnode, Plane.handle,
      serve_send hwired.toDocumented haddr id.uuid node]
  rw [migrateSend, exec_mapFailed]
  change (Except.mapError _ (post net env _ plane).1, (post net env _ plane).2) = _
  rw [hpost]

/-- A request to a node that is not there fails. -/
theorem exec_unreachable (hwired : Wired net fleet site) (he : fleet.endpoint h = .ok e)
    (hnode : plane.nodes (site h) = none) {path query : String} (hpath : PathText path)
    (hquery : QueryText query) :
    ∃ text, exec (mapFailed PostError.text (post net env (e.controlUrl ++ (path ++ "?" ++ query))))
      plane = (.error (.failed text), plane) := by
  have hpost : post net env (e.controlUrl ++ (path ++ "?" ++ query)) plane =
      (.error (.failed (.connect (site h).1 (site h).2 "connection refused")), plane) := by
    unfold post
    simp only [hwired.uri h e he _ _ hpath hquery, Option.getD_some, hnode]
  refine ⟨PostError.text (.connect (site h).1 (site h).2 "connection refused"), ?_⟩
  rw [exec_mapFailed]
  change (Except.mapError _ (post net env _ plane).1, (post net env _ plane).2) = _
  rw [hpost]
  rfl

/-- What a request to receive does to the listeners of its node, and to its VMs. -/
theorem listeners_migrateRecv (env : PostEnv) (node : Node) (listen : String) :
    (((node.migrateRecv env.recv (some listen)).2.listeners =
        Function.update node.listeners listen (some (.waiting env.recv.now)) ∧
      env.recv.artifacts = true ∧ env.recv.binds = true ∧ node.listeners listen = none ∧
      env.recv.workDir = true) ∨
    ((node.migrateRecv env.recv (some listen)).2.listeners = node.listeners ∧
      ¬ (env.recv.artifacts = true ∧ env.recv.binds = true ∧ node.listeners listen = none ∧
        env.recv.workDir = true))) ∧
    (node.migrateRecv env.recv (some listen)).2.daemon.vms = node.daemon.vms := by
  simp only [Node.migrateRecv]
  split_ifs with hartifacts hbinds hwork
  · exact ⟨.inr ⟨rfl, by simp [hartifacts]⟩, rfl⟩
  · refine ⟨.inr ⟨rfl, ?_⟩, rfl⟩
    rintro ⟨-, hb, hfree, -⟩
    rcases hbinds with hb' | hbound
    · simp [hb] at hb'
    · exact hbound hfree
  · obtain ⟨hb, hfree⟩ := not_or.mp hbinds
    exact ⟨.inl ⟨rfl, by simpa using hartifacts, by simpa using hb, not_not.mp hfree, hwork⟩, rfl⟩
  · exact ⟨.inr ⟨rfl, fun h => hwork h.2.2.2⟩, rfl⟩

/-- A request to receive binds a listener that waits, or changes none. -/
theorem listener_recv (env : PostEnv) (plane : Plane) (hwired : Wired net fleet site)
    (he : fleet.endpoint h = .ok e) :
    (Binds env plane (site h, e.dataListen) →
      (exec (migrateRecv net env e.controlUrl e.dataListen) plane).2.listener =
        Function.update plane.listener (site h, e.dataListen) (some (.waiting env.recv.now))) ∧
    (¬ Binds env plane (site h, e.dataListen) →
      (exec (migrateRecv net env e.controlUrl e.dataListen) plane).2.listener = plane.listener) ∧
    (exec (migrateRecv net env e.controlUrl e.dataListen) plane).2.vm = plane.vm := by
  cases hnode : plane.nodes (site h) with
  | none =>
    have hquery : QueryText ("listen=" ++ e.dataListen) :=
      queryText_listen.append (hwired.listen h e he).queryText
    obtain ⟨text, hexec⟩ := exec_unreachable hwired he hnode pathText_recv hquery
    rw [migrateRecv, hexec]
    exact ⟨fun hbinds => absurd hnode hbinds.node, fun _ => rfl, rfl⟩
  | some node =>
    rw [exec_migrateRecv hwired he hnode]
    dsimp only
    obtain ⟨heffect, hvms⟩ := listeners_migrateRecv env node e.dataListen
    have hfree : plane.listener (site h, e.dataListen) = node.listeners e.dataListen := by
      simp [Plane.listener, hnode]
    by_cases hhandled : Fault.handled env.fault = true
    · rw [if_pos hhandled]
      refine ⟨fun hbinds => ?_, fun hnot => ?_, vm_setNode_of_eq hnode hvms⟩
      · obtain ⟨hlisteners, -⟩ | ⟨-, hnot⟩ := heffect
        · funext key
          rw [listener_setNode, hlisteners]
          by_cases hkey : key = (site h, e.dataListen)
          · rw [hkey]
            simp
          · rw [Function.update_of_ne hkey]
            by_cases hsite : key.1 = site h
            · have hlisten : key.2 ≠ e.dataListen := fun hl => hkey (Prod.ext hsite hl)
              rw [if_pos hsite, Function.update_of_ne hlisten]
              simp [Plane.listener, hsite, hnode]
            · rw [if_neg hsite]
        · exact absurd ⟨hbinds.artifacts, hbinds.binds, hfree ▸ hbinds.free, hbinds.workDir⟩ hnot
      · obtain ⟨-, ha, hb, hf, hw⟩ | ⟨hlisteners, -⟩ := heffect
        · exact absurd ⟨hhandled, by simp [hnode], ha, hb, hfree.trans hf, hw⟩ hnot
        · funext key
          rw [listener_setNode, hlisteners]
          split
          · rename_i hsite
            simp [Plane.listener, hsite, hnode]
          · rfl
    · rw [if_neg hhandled]
      exact ⟨fun hbinds => absurd hbinds.handled hhandled, fun _ => rfl, rfl⟩

/-- The task behind a listener takes up a sender that connects, if it waits for one. -/
def taken (listener : Site × String → Option Receiving) (key : Site × String) :
    Site × String → Option Receiving :=
  match listener key with
  | some (.waiting _) => Function.update listener key (some .restoring)
  | _ => listener

/-- A connection is taken up by the listener that its address leads to. -/
theorem listener_dial {addr : String} {key : Site × String}
    (hreaches : net.reaches addr = some key) :
    (plane.dial net (some addr)).listener = taken plane.listener key := by
  obtain ⟨at', listen⟩ := key
  simp only [Plane.dial, Option.bind_some, hreaches]
  cases hnode : plane.nodes at' with
  | none =>
    have hsame : plane.modifyNode at' (·.connected listen) = plane := by
      simp [Plane.modifyNode, hnode]
    have hfree : plane.listener (at', listen) = none := by simp [Plane.listener, hnode]
    rw [hsame, taken, hfree]
  | some node =>
    have hset : plane.modifyNode at' (·.connected listen) =
        plane.setNode at' (node.connected listen) := by simp [Plane.modifyNode, hnode]
    have hat : plane.listener (at', listen) = node.listeners listen := by
      simp [Plane.listener, hnode]
    have hkept : ∀ key : Site × String, key.1 = at' →
        plane.listener key = node.listeners key.2 := by
      intro key hkey
      simp [Plane.listener, hkey, hnode]
    funext key
    rw [hset, listener_setNode, taken, hat]
    -- The node takes the connection up exactly if its listener waits.
    have hquiet : ∀ node' : Node, node' = node → (if key.1 = at' then node'.listeners key.2
        else plane.listener key) = plane.listener key := by
      rintro node' rfl
      split
      · rename_i hsite
        exact (hkept key hsite).symm
      · rfl
    rcases hlistener : node.listeners listen with _ | _ | _
    · exact hquiet _ (by simp [Node.connected, hlistener])
    · have hconnected : (node.connected listen).listeners
          = Function.update node.listeners listen (some .restoring) := by
        simp [Node.connected, hlistener, Node.setListener]
      dsimp only
      by_cases hkey : key = (at', listen)
      · rw [hkey]
        simp [hconnected]
      · rw [Function.update_of_ne hkey]
        split
        · rename_i hsite
          have hlisten : key.2 ≠ listen := fun hl => hkey (Prod.ext hsite hl)
          rw [hconnected, Function.update_of_ne hlisten, hkept key hsite]
        · rfl
    · exact hquiet _ (by simp [Node.connected, hlistener])

/-- A request to send leaves the listeners as they are, unless its daemon connects to the target. -/
theorem listener_send (env : PostEnv) (plane : Plane) (hwired : Wired net fleet site)
    (he : fleet.endpoint h = .ok e) {t : HostId} {et : HostEndpoint}
    (ht : fleet.endpoint t = .ok et) (id : VmId) :
    (Connects net env plane (site h) id →
      (exec (migrateSend net env e.controlUrl id et.dataAddr) plane).2.listener =
        taken plane.listener (site t, et.dataListen)) ∧
    (¬ Connects net env plane (site h) id →
      (exec (migrateSend net env e.controlUrl id et.dataAddr) plane).2.listener
        = plane.listener) := by
  have haddr := hwired.addr t et ht
  cases hnode : plane.nodes (site h) with
  | none =>
    have hquery : QueryText ("vm=" ++ net.showUuid id.uuid ++ "&to=" ++ et.dataAddr) :=
      ((queryText_vm.append (hwired.uuid_text id.uuid).queryText).append queryText_to).append
        haddr.queryText
    obtain ⟨text, hexec⟩ := exec_unreachable hwired he hnode pathText_send hquery
    rw [migrateSend, hexec]
    refine ⟨fun hconnects => ?_, fun _ => rfl⟩
    obtain ⟨running, hvm, -⟩ := hconnects.ships
    simp [Plane.vm, hnode] at hvm
  | some node =>
    rw [exec_migrateSend hwired he haddr id hnode]
    have hvm : plane.vm (site h) id = node.daemon.vms id := by simp [Plane.vm, hnode]
    have hid := hwired.uuid id.uuid
    -- The send itself binds and frees nothing.
    have hkept : ∀ {node' : Node}, node'.listeners = node.listeners →
        (plane.setNode (site h) node').listener = plane.listener := by
      intro node' hlisteners
      funext key
      rw [listener_setNode, hlisteners]
      split
      · rename_i hsite
        simp [Plane.listener, hsite, hnode]
      · rfl
    by_cases hhandled : Fault.handled env.fault = true
    · dsimp only
      rw [if_pos hhandled]
      cases hrunning : node.daemon.vms id with
      | none =>
        rw [migrateSend_of_unregistered hid hrunning]
        refine ⟨fun hconnects => ?_, fun _ => hkept rfl⟩
        obtain ⟨running, hsome, -⟩ := hconnects.ships
        simp [hvm, hrunning] at hsome
      | some running =>
        rw [dialed_migrateSend hid hrunning]
        by_cases hdials : (ships net.parsers env.send.src running && env.send.dialed) = true
        · rw [if_pos hdials]
          obtain ⟨hships, hdialed⟩ := Bool.and_eq_true_iff.mp hdials
          refine ⟨fun _ => ?_, fun hnot => ?_⟩
          · rw [listener_dial (hwired.reaches t et ht), hkept (listeners_migrateSend ..)]
          · exact absurd ⟨hhandled, ⟨running, hvm.trans hrunning, hships⟩, hdialed⟩ hnot
        · rw [if_neg hdials]
          refine ⟨fun hconnects => ?_, fun _ => hkept (listeners_migrateSend ..)⟩
          obtain ⟨running', hsome, hships⟩ := hconnects.ships
          obtain rfl := Option.some_inj.mp (hrunning.symm.trans (hvm.symm.trans hsome))
          exact absurd (Bool.and_eq_true_iff.mpr ⟨hships, hconnects.dialed⟩) hdials
    · dsimp only
      rw [if_neg hhandled]
      exact ⟨fun hconnects => absurd hconnects.handled hhandled, fun _ => rfl⟩

/-- A target accepts exactly if the request and its answer get through and the address can be
bound. -/
theorem recv_ok_iff (env : PostEnv) (plane : Plane) (hwired : Wired net fleet site)
    (he : fleet.endpoint h = .ok e) :
    (exec (migrateRecv net env e.controlUrl e.dataListen) plane).1 = .ok () ↔
      env.fault = none ∧ plane.nodes (site h) ≠ none ∧ env.recv.artifacts = true ∧
        env.recv.binds = true ∧ plane.listener (site h, e.dataListen) = none := by
  cases hnode : plane.nodes (site h) with
  | none =>
    have hquery : QueryText ("listen=" ++ e.dataListen) :=
      queryText_listen.append (hwired.listen h e he).queryText
    obtain ⟨text, hexec⟩ := exec_unreachable hwired he hnode pathText_recv hquery
    rw [migrateRecv, hexec]
    simp
  | some node =>
    rw [exec_migrateRecv hwired he hnode]
    dsimp only
    have hat : plane.listener (site h, e.dataListen) = node.listeners e.dataListen := by
      simp [Plane.listener, hnode]
    rw [hat]
    cases hfault : env.fault with
    | some fault => cases fault <;> simp [respond, Except.mapError]
    | none =>
      simp only [Node.migrateRecv]
      split_ifs with hartifacts hbinds hwork
      · simp [respond, StatusCode.isSuccess, Except.mapError, hartifacts]
      · simp only [respond, StatusCode.isSuccess, Except.mapError]
        simp only [Bool.false_eq_true, if_false, reduceCtorEq, false_iff]
        rintro ⟨-, -, -, hb, hfree⟩
        rcases hbinds with hb' | hbound
        · simp [hb] at hb'
        · exact hbound hfree
      · obtain ⟨hb, hfree⟩ := not_or.mp hbinds
        simp [respond, StatusCode.isSuccess, Except.mapError, hartifacts, hb, not_not.mp hfree]
      · obtain ⟨hb, hfree⟩ := not_or.mp hbinds
        simp [respond, StatusCode.isSuccess, Except.mapError, hartifacts, hb, not_not.mp hfree]

/-- An address that has a listener is not bound again, and nothing else happens. -/
theorem recv_refused (hwired : Wired net fleet site) (he : fleet.endpoint h = .ok e)
    (hbound : plane.listener (site h, e.dataListen) ≠ none) :
    ∃ text, exec (migrateRecv net env e.controlUrl e.dataListen) plane
      = (.error (.failed text), plane) := by
  cases hnode : plane.nodes (site h) with
  | none =>
    exfalso
    refine hbound ?_
    simp [Plane.listener, hnode]
  | some node =>
    have hlisteners : node.listeners e.dataListen ≠ none := by
      simpa [Plane.listener, hnode] using hbound
    have hrefused : node.migrateRecv env.recv (some e.dataListen)
        = (.internalServerError, node) := by
      simp only [Node.migrateRecv]
      split_ifs with hartifacts hbinds
      · rfl
      · rfl
      · exact absurd (.inr hlisteners) hbinds
      · exact absurd (.inr hlisteners) hbinds
    have hsame : plane.setNode (site h) node = plane := by
      unfold Plane.setNode
      rw [← hnode, Function.update_eq_self]
    rw [exec_migrateRecv hwired he hnode, hrefused]
    dsimp only
    rw [hsame, ite_self]
    cases env.fault with
    | none => exact ⟨_, rfl⟩
    | some fault =>
      cases fault with
      | connect e | handshake e | build e | send e handled => exact ⟨_, rfl⟩

end Effects

end Sleepwalk.Rebalancer.ControlPlane
