import Sleepwalk.Rebalancer.ControlPlane

/-!
# A rebalance step on the control plane

What a step does to the listeners of its target, and what it reports. A step reports a move exactly
if both requests are answered and the VM is shipped to the end (`moved_iff`). The target's restore
is in progress then, and nothing says how it ends.

The control loop sees a step only through the answers of its two calls (`exists_api`).
-/

namespace Sleepwalk.Rebalancer.ControlPlane

open Exec Proto
open Hostd (Parsers RunningVm)
open Hostd.Routes

/-! ## What a step does -/

/-- What a step asks a host for: the move it picks is to that host, and both ends are known. -/
structure Asks (r : Reading) (highWatermark : Pressure) (fleet : Fleet) (h : HostId)
    (mv : Rebalance) (target source : HostEndpoint) : Prop where
  pick : r.pick highWatermark = some mv
  toHost : mv.toHost = h
  target : fleet.endpoint h = .ok target
  source : fleet.endpoint mv.fromHost = .ok source

/-- A step has its target bind a listener that no sender connects to. -/
def Strands (net : Net) (env : StepEnv) (r : Reading) (highWatermark : Pressure) (fleet : Fleet)
    (site : HostId → Site) (plane : Plane) (h : HostId) : Prop :=
  ∃ mv target source, Asks r highWatermark fleet h mv target source ∧
    Binds env.recv plane (site h, target.dataListen) ∧
    ¬ (env.recv.fault = none ∧ Connects net env.send plane (site mv.fromHost) mv.vm)

section Steps

variable {net : Net} {fleet : Fleet} {site : HostId → Site} {env : StepEnv} {plane : Plane}
  {h : HostId} {e : HostEndpoint} {r : Reading} {highWatermark : Pressure} {mv : Rebalance}
  {target source : HostEndpoint}

/-- A step without a move, or with a host that is not in the fleet, does nothing. -/
theorem exec_step_idle (net : Net) (env : StepEnv) (plane : Plane) (hnone : ∀ mv target source,
    ¬ Asks r highWatermark fleet mv.toHost mv target source) :
    (exec (rebalanceOnce net env r highWatermark fleet) plane).2 = plane ∧
      ∀ mv, (exec (rebalanceOnce net env r highWatermark fleet) plane).1 ≠ .ok (some mv) := by
  unfold rebalanceOnce
  cases hpick : r.pick highWatermark with
  | none => exact ⟨rfl, fun mv h => by cases h⟩
  | some mv =>
    dsimp only
    rw [exec_bind, endpoint, exec_outcome]
    cases htarget : fleet.endpoint mv.toHost with
    | error err => exact ⟨rfl, fun mv h => by cases h⟩
    | ok target =>
      simp only [Except.mapError]
      rw [exec_bind, endpoint, exec_outcome]
      cases hsource : fleet.endpoint mv.fromHost with
      | error err => exact ⟨rfl, fun mv h => by cases h⟩
      | ok source => exact absurd ⟨hpick, rfl, htarget, hsource⟩ (hnone mv target source)

/-- A step that asks a host. -/
theorem exec_step (hasks : Asks r highWatermark fleet h mv target source) :
    exec (rebalanceOnce net env r highWatermark fleet) plane =
      match exec (migrateRecv net env.recv target.controlUrl target.dataListen) plane with
      | (.error err, plane) => (.error (err.map (CtlError.daemon mv.toHost "recv")), plane)
      | (.ok (), plane) =>
        match exec (migrateSend net env.send source.controlUrl mv.vm target.dataAddr) plane with
        | (.error err, plane) => (.error (err.map (CtlError.daemon mv.fromHost "send")), plane)
        | (.ok (), plane) => (.ok (some mv), plane) := by
  obtain ⟨hpick, rfl, htarget, hsource⟩ := hasks
  unfold rebalanceOnce
  rw [hpick]
  dsimp only
  rw [exec_bind, endpoint, exec_outcome, htarget]
  simp only [Except.mapError]
  rw [exec_bind, endpoint, exec_outcome, hsource]
  simp only [Except.mapError]
  rw [exec_bind, exec_mapFailed]
  rcases exec (migrateRecv net env.recv target.controlUrl target.dataListen) plane with
    ⟨err | _, plane'⟩
  · rfl
  · simp only [Except.mapError]
    rw [exec_bind, exec_mapFailed]
    rcases exec (migrateSend net env.send source.controlUrl mv.vm target.dataAddr) plane' with
      ⟨err | _, plane''⟩
    · rfl
    · rfl

/-- A step that asks for a move and returns no error reports it. -/
theorem some_of_step_ok {result : Option Rebalance}
    (hasks : Asks r highWatermark fleet h mv target source)
    (hok : (exec (rebalanceOnce net env r highWatermark fleet) plane).1 = .ok result) :
    result = some mv := by
  rw [exec_step hasks] at hok
  revert hok
  rcases exec (migrateRecv net env.recv target.controlUrl target.dataListen) plane with
    ⟨err | _, plane'⟩
  · exact fun hok => by cases hok
  · dsimp only
    rcases exec (migrateSend net env.send source.controlUrl mv.vm target.dataAddr) plane' with
      ⟨err | _, plane''⟩
    · exact fun hok => by cases hok
    · exact fun hok => (Except.ok.inj hok).symm

/-- A step does nothing or asks for a move. -/
theorem idle_or_asks (net : Net) (env : StepEnv) (r : Reading) (highWatermark : Pressure)
    (fleet : Fleet) (plane : Plane) :
    (exec (rebalanceOnce net env r highWatermark fleet) plane).2 = plane ∨
      ∃ mv target source, Asks r highWatermark fleet mv.toHost mv target source := by
  by_cases hnone : ∀ mv target source, ¬ Asks r highWatermark fleet mv.toHost mv target source
  · exact .inl (exec_step_idle net env plane hnone).1
  · exact .inr (by simpa using hnone)

/-- After a target that accepts, a step goes on with the source. -/
theorem exec_step_snd (hasks : Asks r highWatermark fleet h mv target source)
    (hok : (exec (migrateRecv net env.recv target.controlUrl target.dataListen) plane).1 = .ok ()) :
    (exec (rebalanceOnce net env r highWatermark fleet) plane).2 =
      (exec (migrateSend net env.send source.controlUrl mv.vm target.dataAddr)
        (exec (migrateRecv net env.recv target.controlUrl target.dataListen) plane).2).2 := by
  rw [exec_step hasks]
  rcases hrecv : exec (migrateRecv net env.recv target.controlUrl target.dataListen) plane with
    ⟨err | _, plane'⟩
  · rw [hrecv] at hok
    cases hok
  · dsimp only
    rcases exec (migrateSend net env.send source.controlUrl mv.vm target.dataAddr) plane' with
      ⟨err | _, plane''⟩
    · rfl
    · rfl

theorem Connects.congr {plane' : Plane} {env : PostEnv} {at' : Site} {id : VmId}
    (hvm : plane'.vm = plane.vm) :
    Connects net env plane' at' id ↔ Connects net env plane at' id := by
  constructor
  · rintro ⟨hhandled, hships, hdialed⟩
    exact ⟨hhandled, hvm ▸ hships, hdialed⟩
  · rintro ⟨hhandled, hships, hdialed⟩
    exact ⟨hhandled, hvm.symm ▸ hships, hdialed⟩

/-- The listeners after a step that asks a host. -/
theorem listener_step (env : StepEnv) (plane : Plane) (hwired : Wired net fleet site)
    (hasks : Asks r highWatermark fleet h mv target source) :
    ∃ bound, (Binds env.recv plane (site h, target.dataListen) →
        bound = Function.update plane.listener (site h, target.dataListen)
          (some (.waiting env.recv.recv.now))) ∧
      (¬ Binds env.recv plane (site h, target.dataListen) → bound = plane.listener) ∧
      ((exec (migrateRecv net env.recv target.controlUrl target.dataListen) plane).1 = .ok () ∧
          Connects net env.send plane (site mv.fromHost) mv.vm →
        (exec (rebalanceOnce net env r highWatermark fleet) plane).2.listener =
          taken bound (site h, target.dataListen)) ∧
      (¬ ((exec (migrateRecv net env.recv target.controlUrl target.dataListen) plane).1 = .ok () ∧
          Connects net env.send plane (site mv.fromHost) mv.vm) →
        (exec (rebalanceOnce net env r highWatermark fleet) plane).2.listener = bound) := by
  obtain ⟨hbinds, hnot, hvm⟩ := listener_recv env.recv plane hwired hasks.target
  refine ⟨_, hbinds, hnot, ?_⟩
  by_cases hok : (exec (migrateRecv net env.recv target.controlUrl target.dataListen) plane).1
      = .ok ()
  · rw [exec_step_snd hasks hok]
    obtain ⟨hconnects, hquiet⟩ := listener_send env.send
      (exec (migrateRecv net env.recv target.controlUrl target.dataListen) plane).2 hwired
      hasks.source hasks.target mv.vm
    rw [Connects.congr hvm] at hconnects hquiet
    exact ⟨fun h => hconnects h.2, fun h => hquiet fun hc => h ⟨hok, hc⟩⟩
  · refine ⟨fun h => absurd h.1 hok, fun _ => ?_⟩
    rw [exec_step hasks]
    rcases hrecv : exec (migrateRecv net env.recv target.controlUrl target.dataListen) plane with
      ⟨err | _, plane'⟩
    · rfl
    · rw [hrecv] at hok
      exact absurd rfl hok

/-- Nothing is taken up but by a listener that waits. -/
theorem taken_of_ne {listener : Site × String → Option Receiving} {key key' : Site × String}
    (hne : key' ≠ key) : taken listener key key' = listener key' := by
  unfold taken
  rcases listener key with _ | _ | _
  · rfl
  · exact Function.update_of_ne hne ..
  · rfl

/-- A listener waits after a step exactly if it waited before, or the step strands it. -/
theorem waiting_step (hwired : Wired net fleet site) (he : fleet.endpoint h = .ok e)
    (since : ℕ) :
    (exec (rebalanceOnce net env r highWatermark fleet) plane).2.listener (site h, e.dataListen)
        = some (.waiting since) ↔
      plane.listener (site h, e.dataListen) = some (.waiting since) ∨
        (env.recv.recv.now = since ∧ Strands net env r highWatermark fleet site plane h) := by
  by_cases hnone : ∀ mv target source, ¬ Asks r highWatermark fleet mv.toHost mv target source
  · rw [(exec_step_idle net env plane hnone).1]
    refine ⟨.inl, fun h => h.resolve_right ?_⟩
    rintro ⟨-, mv, target, source, hasks, -⟩
    exact hnone mv target source (hasks.toHost ▸ hasks)
  obtain ⟨mv, target, source, hasks⟩ : ∃ mv target source,
      Asks r highWatermark fleet mv.toHost mv target source := by
    simpa using hnone
  obtain ⟨bound, hbinds, hunbound, htaken, hleft⟩ := listener_step env plane hwired hasks
  rw [recv_ok_iff env.recv plane hwired hasks.target] at htaken hleft
  by_cases hhost : mv.toHost = h
  · subst hhost
    obtain rfl : target = e := Except.ok.inj (hasks.target.symm.trans he)
    have hstrands : Strands net env r highWatermark fleet site plane mv.toHost ↔
        Binds env.recv plane (site mv.toHost, target.dataListen) ∧
          ¬ (env.recv.fault = none ∧ Connects net env.send plane (site mv.fromHost) mv.vm) := by
      refine ⟨?_, fun h => ⟨mv, target, source, hasks, h⟩⟩
      rintro ⟨mv', target', source', hasks', h⟩
      obtain rfl := Option.some_inj.mp (hasks.pick.symm.trans hasks'.pick)
      obtain rfl := Except.ok.inj (hasks.target.symm.trans hasks'.target)
      exact h
    rw [hstrands]
    by_cases hb : Binds env.recv plane (site mv.toHost, target.dataListen)
    · -- The listener is new. It waits on unless the answer gets back and the sender connects.
      have hfree : plane.listener (site mv.toHost, target.dataListen) = none := hb.free
      by_cases hc : env.recv.fault = none ∧ Connects net env.send plane (site mv.fromHost) mv.vm
      · rw [htaken ⟨⟨hc.1, hb.node, hb.artifacts, hb.binds, hb.free⟩, hc.2⟩, hbinds hb, taken,
          Function.update_self]
        simp [hfree, hc]
      · rw [hleft fun h => hc ⟨h.1.1, h.2⟩, hbinds hb, Function.update_self, hfree]
        simp [hb, hc]
    · by_cases hok : (env.recv.fault = none ∧ plane.nodes (site mv.toHost) ≠ none ∧
          env.recv.recv.artifacts = true ∧ env.recv.recv.binds = true ∧
          plane.listener (site mv.toHost, target.dataListen) = none) ∧
          Connects net env.send plane (site mv.fromHost) mv.vm
      -- What waited before is refused, so no sender is asked.
      · rw [htaken hok, hunbound hb, taken, hok.1.2.2.2.2]
        simp [hb, hok.1.2.2.2.2]
      · rw [hleft hok, hunbound hb]
        simp [hb]
  · have hne : (site h, e.dataListen) ≠ (site mv.toHost, target.dataListen) :=
      fun hsame => hhost (hwired.apart _ _ _ _ he hasks.target hsame).symm
    have hstrands : ¬ Strands net env r highWatermark fleet site plane h := by
      rintro ⟨mv', target', source', hasks', -⟩
      obtain rfl := Option.some_inj.mp (hasks.pick.symm.trans hasks'.pick)
      exact hhost hasks'.toHost
    have hbound : bound (site h, e.dataListen) = plane.listener (site h, e.dataListen) := by
      by_cases hb : Binds env.recv plane (site mv.toHost, target.dataListen)
      · rw [hbinds hb, Function.update_of_ne hne]
      · rw [hunbound hb]
    have hafter : (exec (rebalanceOnce net env r highWatermark fleet) plane).2.listener
        (site h, e.dataListen) = plane.listener (site h, e.dataListen) := by
      by_cases hok : (env.recv.fault = none ∧ plane.nodes (site mv.toHost) ≠ none ∧
          env.recv.recv.artifacts = true ∧ env.recv.recv.binds = true ∧
          plane.listener (site mv.toHost, target.dataListen) = none) ∧
          Connects net env.send plane (site mv.fromHost) mv.vm
      · rw [htaken hok, taken_of_ne hne, hbound]
      · rw [hleft hok, hbound]
    rw [hafter]
    simp [hstrands]

/-- While it has a listener, a host refuses every step towards it, and nothing else happens. -/
theorem step_refused (hwired : Wired net fleet site)
    (hasks : Asks r highWatermark fleet h mv target source)
    (hbound : plane.listener (site h, target.dataListen) ≠ none) :
    ∃ text, exec (rebalanceOnce net env r highWatermark fleet) plane =
      (.error (.failed (.daemon h "recv" text)), plane) := by
  obtain ⟨text, hrefused⟩ := recv_refused hwired hasks.target hbound
  refine ⟨text, ?_⟩
  rw [exec_step hasks, hrefused, hasks.toHost]
  rfl

end Steps

/-! ## What a step reports -/

section Reports

variable {net : Net} {fleet : Fleet} {site : HostId → Site} {env : StepEnv} {plane : Plane}
  {h : HostId} {e : HostEndpoint} {r : Reading} {highWatermark : Pressure} {mv : Rebalance}

/-- A connection leaves the VMs as they are. -/
theorem vm_dial (plane : Plane) (addr : Option String) : (plane.dial net addr).vm = plane.vm := by
  unfold Plane.dial
  split
  · rename_i at' listen _
    unfold Plane.modifyNode
    split
    · rename_i node hnode
      refine vm_setNode_of_eq hnode ?_
      show (node.connected listen).daemon.vms = _
      unfold Node.connected
      split <;> rfl
    · rfl
  · rfl

/-- The client reports what it is answered. -/
theorem respond_ok_iff (reply : Hostd.Telemetry.Reply) (host : String) (port : UInt16) :
    (respond none host port (Reply.status reply)).mapError (Stop.map PostError.text) = .ok () ↔
      Reply.status reply = some .ok := by
  cases hstatus : Reply.status reply with
  | none => simp [respond, Except.mapError]
  | some status =>
    have hsuccess := isSuccess_status hstatus
    by_cases hok : status.isSuccess = true
    · obtain rfl := hsuccess.mp hok
      simp [respond, StatusCode.isSuccess, Except.mapError]
    · have hne : status ≠ .ok := fun h => hok (hsuccess.mpr h)
      simp [respond, hok, Except.mapError, hne]

/-- A source reports success exactly if the request and its answer get through and its VM is shipped
to the end. That VM is gone from it then, and no other. -/
theorem send_ok_iff (env : PostEnv) (plane : Plane) (hwired : Wired net fleet site)
    (he : fleet.endpoint h = .ok e) {addr : String} (haddr : AddrText addr) (id : VmId) :
    ((exec (migrateSend net env e.controlUrl id addr) plane).1 = .ok () ↔
      env.fault = none ∧ ∃ running, plane.vm (site h) id = some running ∧
        ships net.parsers env.send.src running = true ∧ env.send.src.transfer = .ok ()) ∧
    ((exec (migrateSend net env e.controlUrl id addr) plane).1 = .ok () → ∀ at' id',
      (exec (migrateSend net env e.controlUrl id addr) plane).2.vm at' id' =
        if at' = site h ∧ id' = id then none else plane.vm at' id') := by
  cases hnode : plane.nodes (site h) with
  | none =>
    have hquery : QueryText ("vm=" ++ net.showUuid id.uuid ++ "&to=" ++ addr) :=
      ((queryText_vm.append (hwired.uuid_text id.uuid).queryText).append queryText_to).append
        haddr.queryText
    obtain ⟨text, hexec⟩ := exec_unreachable hwired he hnode pathText_send hquery
    rw [migrateSend, hexec]
    simp [Plane.vm, hnode]
  | some node =>
    have hvm : plane.vm (site h) id = node.daemon.vms id := by simp [Plane.vm, hnode]
    have hid := hwired.uuid id.uuid
    rw [exec_migrateSend hwired he haddr id hnode, hvm]
    dsimp only
    cases hfault : env.fault with
    | some fault => cases fault <;> simp [respond, Except.mapError]
    | none =>
      rw [if_pos (show Fault.handled none = true from rfl)]
      cases hrunning : node.daemon.vms id with
      | none =>
        rw [migrateSend_of_unregistered hid hrunning]
        simp [respond, StatusCode.isSuccess, Except.mapError]
      | some running =>
        obtain ⟨hok, hgone⟩ := status_migrateSend env.send net.parsers addr hid hrunning
        have hreport := respond_ok_iff (Hostd.Telemetry.migrateSend net.parsers.uuid net.parsers
          (env.send.request (some (net.showUuid id.uuid)) (some addr)) node.daemon).1
          (site h).1 (site h).2
        refine ⟨hreport.trans (hok.trans ?_), fun hsent at' id' => ?_⟩
        · simp
        · rw [vm_dial, vm_setNode, hgone (hreport.mp hsent), Function.update_apply]
          by_cases hsite : at' = site h
          · have hkept : plane.vm (site h) id' = node.daemon.vms id' := by
              simp [Plane.vm, hnode]
            rw [hsite, hkept]
            simp
          · simp [hsite]

/-- A step that asks a host reports that move, if both answer with success. -/
theorem step_ok_iff {mv' : Rebalance} {target source : HostEndpoint}
    (hasks : Asks r highWatermark fleet h mv target source) :
    (exec (rebalanceOnce net env r highWatermark fleet) plane).1 = .ok (some mv') ↔
      mv = mv' ∧
      (exec (migrateRecv net env.recv target.controlUrl target.dataListen) plane).1 = .ok () ∧
      (exec (migrateSend net env.send source.controlUrl mv.vm target.dataAddr)
        (exec (migrateRecv net env.recv target.controlUrl target.dataListen) plane).2).1
          = .ok () := by
  rw [exec_step hasks]
  rcases exec (migrateRecv net env.recv target.controlUrl target.dataListen) plane with
    ⟨err | _, plane'⟩
  · simp
  · dsimp only
    rcases exec (migrateSend net env.send source.controlUrl mv.vm target.dataAddr) plane' with
      ⟨err | _, plane''⟩
    · simp
    · simp

/-- What a move takes that a step reports: the target binds its address, the source has the VM and
ships it to the end, and both answers get back. -/
structure Completes (net : Net) (env : StepEnv) (site : HostId → Site) (plane : Plane)
    (mv : Rebalance) (target : HostEndpoint) : Prop where
  answered : env.recv.fault = none ∧ env.send.fault = none
  node : plane.nodes (site mv.toHost) ≠ none
  artifacts : env.recv.recv.artifacts = true
  binds : env.recv.recv.binds = true
  free : plane.listener (site mv.toHost, target.dataListen) = none
  shipped : ∃ running, plane.vm (site mv.fromHost) mv.vm = some running ∧
    ships net.parsers env.send.send.src running = true ∧ env.send.send.src.transfer = .ok ()

/-- A step that asks for a move reports it exactly if it completes. -/
theorem reports_iff (hwired : Wired net fleet site) {mv' : Rebalance} {target source : HostEndpoint}
    (hasks : Asks r highWatermark fleet mv.toHost mv target source) :
    (exec (rebalanceOnce net env r highWatermark fleet) plane).1 = .ok (some mv') ↔
      mv = mv' ∧ Completes net env site plane mv target := by
  have hkept := (listener_recv env.recv plane hwired hasks.target).2.2
  have hrecv : (exec (migrateRecv net env.recv target.controlUrl target.dataListen) plane).1
      = .ok () ↔ _ := recv_ok_iff env.recv plane hwired hasks.target
  obtain ⟨hsend, -⟩ := send_ok_iff env.send
    (exec (migrateRecv net env.recv target.controlUrl target.dataListen) plane).2 hwired
    hasks.source (hwired.addr _ _ hasks.target) mv.vm
  rw [hkept] at hsend
  rw [step_ok_iff hasks, hrecv, hsend]
  refine and_congr_right fun _ => ⟨?_, ?_⟩
  · rintro ⟨⟨hfault, hnode, hartifacts, hbinds, hfree⟩, hfault', hshipped⟩
    exact ⟨⟨hfault, hfault'⟩, hnode, hartifacts, hbinds, hfree, hshipped⟩
  · rintro ⟨⟨hfault, hfault'⟩, hnode, hartifacts, hbinds, hfree, hshipped⟩
    exact ⟨⟨hfault, hnode, hartifacts, hbinds, hfree⟩, hfault', hshipped⟩

/-- After a step that reports a move, its VM is gone from the source and no other is, and the target
restores it, if it has got a directory to work in. -/
theorem moved_effect (hwired : Wired net fleet site) {target source : HostEndpoint}
    (hasks : Asks r highWatermark fleet mv.toHost mv target source)
    (hmoved : (exec (rebalanceOnce net env r highWatermark fleet) plane).1 = .ok (some mv)) :
    (∀ at' id, (exec (rebalanceOnce net env r highWatermark fleet) plane).2.vm at' id =
      if at' = site mv.fromHost ∧ id = mv.vm then none else plane.vm at' id) ∧
    (env.recv.recv.workDir = true →
      (exec (rebalanceOnce net env r highWatermark fleet) plane).2.listener =
        Function.update plane.listener (site mv.toHost, target.dataListen) (some .restoring)) := by
  obtain ⟨-, hcompletes⟩ := (reports_iff hwired hasks).mp hmoved
  obtain ⟨-, hrecvOk, hsendOk⟩ := (step_ok_iff hasks).mp hmoved
  constructor
  · intro at' id
    have hkept := (listener_recv env.recv plane hwired hasks.target).2.2
    obtain ⟨-, hgone⟩ := send_ok_iff env.send
      (exec (migrateRecv net env.recv target.controlUrl target.dataListen) plane).2 hwired
      hasks.source (hwired.addr _ _ hasks.target) mv.vm
    rw [exec_step_snd hasks hrecvOk, hgone hsendOk, hkept]
  · intro hwork
    obtain ⟨running, hrunning, hships, htransfer⟩ := hcompletes.shipped
    have hconnects : Connects net env.send plane (site mv.fromHost) mv.vm :=
      ⟨by rw [hcompletes.answered.2]; rfl, ⟨running, hrunning, hships⟩,
        env.send.send.dialed_of_ok htransfer⟩
    have hbinds : Binds env.recv plane (site mv.toHost, target.dataListen) :=
      ⟨by rw [hcompletes.answered.1]; rfl, hcompletes.node, hcompletes.artifacts,
        hcompletes.binds, hcompletes.free, hwork⟩
    obtain ⟨bound, hbound, -, htaken, -⟩ := listener_step env plane hwired hasks
    rw [htaken ⟨hrecvOk, hconnects⟩, hbound hbinds, taken, Function.update_self]
    exact Function.update_idem ..

/-- A step reports a move exactly if it asks for it and the move completes. The source has given up
the VM then, and the target is restoring it if it has a work dir: nothing says how that ends. -/
theorem moved_iff (hwired : Wired net fleet site) :
    ((exec (rebalanceOnce net env r highWatermark fleet) plane).1 = .ok (some mv) ↔
      ∃ target source, Asks r highWatermark fleet mv.toHost mv target source ∧
        Completes net env site plane mv target) ∧
    ((exec (rebalanceOnce net env r highWatermark fleet) plane).1 = .ok (some mv) →
      (exec (rebalanceOnce net env r highWatermark fleet) plane).2.vm (site mv.fromHost) mv.vm
          = none ∧
        (env.recv.recv.workDir = true → ∀ target, fleet.endpoint mv.toHost = .ok target →
          (exec (rebalanceOnce net env r highWatermark fleet) plane).2.listener
            (site mv.toHost, target.dataListen) = some .restoring)) := by
  by_cases hnone : ∀ mv target source, ¬ Asks r highWatermark fleet mv.toHost mv target source
  · have hnever := (exec_step_idle net env plane hnone).2 mv
    refine ⟨⟨fun h => absurd h hnever, ?_⟩, fun h => absurd h hnever⟩
    rintro ⟨target, source, hasks, -⟩
    exact absurd hasks (hnone mv target source)
  obtain ⟨mv', target, source, hasks⟩ : ∃ mv target source,
      Asks r highWatermark fleet mv.toHost mv target source := by
    simpa using hnone
  have hiff : (exec (rebalanceOnce net env r highWatermark fleet) plane).1 = .ok (some mv) ↔
      mv' = mv ∧ Completes net env site plane mv' target := reports_iff hwired hasks
  refine ⟨hiff.trans ⟨?_, ?_⟩, fun hmoved => ?_⟩
  · rintro ⟨rfl, hcompletes⟩
    exact ⟨target, source, hasks, hcompletes⟩
  · rintro ⟨target', source', hasks', hcompletes⟩
    obtain rfl := Option.some_inj.mp (hasks.pick.symm.trans hasks'.pick)
    obtain rfl := Except.ok.inj (hasks.target.symm.trans hasks'.target)
    exact ⟨rfl, hcompletes⟩
  · obtain ⟨rfl, -⟩ := hiff.mp hmoved
    obtain ⟨hvms, hlistener⟩ := moved_effect hwired hasks hmoved
    refine ⟨by rw [hvms, if_pos ⟨rfl, rfl⟩], fun hwork target' htarget' => ?_⟩
    obtain rfl := Except.ok.inj (hasks.target.symm.trans htarget')
    rw [hlistener hwork, Function.update_self]

end Reports

/-! ## Two hosts -/

/-- What a URL of a host and a port and the rest is read as. -/
def parseHttp (url : String) : Except String Uri :=
  let rest := url.toList.drop "http://".toList.length
  let authority := rest.takeWhile (· ≠ '/')
  let port := (authority.dropWhile (· ≠ ':')).tail.foldl (fun n c => n * 10 + (c.toNat - 48)) 0
  .ok ⟨some (.ofList (authority.takeWhile (· ≠ ':'))), some (.ofNat port),
    some (.ofList (rest.dropWhile (· ≠ '/')))⟩

/-- What is read in the lines of a guest without a turn. -/
def guestLines (text : String) : Option Serde.Json :=
  if text = "hello" then
    some (.object [("type", .string "Hello"),
      ("vm_id", .string "00000000-0000-0000-0000-000000000001"),
      ("guestd_version", .string "0.1.0")])
  else if text = "idle" then some (.object [("type", .string "DrainAck"), ("in_flight", .null)])
  else none

/-- Two hosts on the network. -/
def twoNodes : Net where
  parseUri := parseHttp
  path target := .ofList (target.toList.takeWhile (· ≠ '?'))
  query target := (target.toList.dropWhile (· ≠ '?')).tail?.map .ofList
  showUuid := Uuid.text
  parsers := ⟨guestLines, Uuid.parse⟩
  reaches addr :=
    if addr = "a:9000" then some (("a", 8080), "0.0.0.0:9000")
    else if addr = "b:9000" then some (("b", 8080), "0.0.0.0:9000") else none

/-- Their endpoints. -/
def twoHosts : Fleet :=
  (Fleet.new.add ⟨"a"⟩ ⟨"http://a:8080", "0.0.0.0:9000", "a:9000"⟩).add ⟨"b"⟩
    ⟨"http://b:8080", "0.0.0.0:9000", "b:9000"⟩

theorem endpoint_twoHosts {h : HostId} {e : HostEndpoint} (he : twoHosts.endpoint h = .ok e) :
    (h = ⟨"a"⟩ ∧ e = ⟨"http://a:8080", "0.0.0.0:9000", "a:9000"⟩) ∨
      (h = ⟨"b"⟩ ∧ e = ⟨"http://b:8080", "0.0.0.0:9000", "b:9000"⟩) := by
  unfold Fleet.endpoint at he
  split at he
  · rename_i e' hlookup
    obtain rfl := Except.ok.inj he
    simp only [twoHosts, Fleet.add, Fleet.new, Std.TreeMap.getElem?_insert] at hlookup
    split_ifs at hlookup with hb ha
    · obtain rfl := Std.LawfulEqCmp.eq_of_compare hb
      exact .inr ⟨rfl, (Option.some_inj.mp hlookup).symm⟩
    · obtain rfl := Std.LawfulEqCmp.eq_of_compare ha
      exact .inl ⟨rfl, (Option.some_inj.mp hlookup).symm⟩
    · simp at hlookup
  · cases he

theorem takeWhile_text {s : String} {sep : Char} (h : sep ∉ s.toList) (rest : List Char) :
    (s.toList ++ sep :: rest).takeWhile (· ≠ sep) = s.toList ∧
      (s.toList ++ sep :: rest).dropWhile (· ≠ sep) = sep :: rest := by
  have hall : ∀ c ∈ s.toList, (decide (c ≠ sep)) = true := by
    intro c hc
    have hne : c ≠ sep := by
      rintro rfl
      exact h hc
    simpa using hne
  rw [List.takeWhile_append_of_pos hall, List.dropWhile_append_of_pos hall]
  simp

theorem question_notMem {path : String} (hpath : PathText path) : '?' ∉ path.toList := by
  intro hmem
  have hchar := hpath.2 _ hmem
  revert hchar
  decide

theorem documented_twoNodes : twoNodes.Documented where
  path path query hpath _ := by
    show String.ofList ((path ++ "?" ++ query).toList.takeWhile (· ≠ '?')) = path
    have hsplit : (path ++ "?" ++ query).toList = path.toList ++ '?' :: query.toList := by simp
    rw [hsplit, (takeWhile_text (question_notMem hpath) _).1, String.ofList_toList]
  query path query hpath _ := by
    show ((path ++ "?" ++ query).toList.dropWhile (· ≠ '?')).tail?.map String.ofList = some query
    have hsplit : (path ++ "?" ++ query).toList = path.toList ++ '?' :: query.toList := by simp
    rw [hsplit, (takeWhile_text (question_notMem hpath) _).2]
    simp
  uuid id := by
    have hparse : twoNodes.parsers.uuid = Uuid.parse := rfl
    have hshow : twoNodes.showUuid = Uuid.text := rfl
    rw [hparse, hshow, Uuid.parse_text]
  uuid_text id c hc := by
    have hshow : twoNodes.showUuid = Uuid.text := rfl
    rw [hshow] at hc
    have hdigits : ∀ d < 16, addrChar (Uuid.digit d) = true := by decide
    rcases Uuid.mem_text hc with rfl | ⟨d, hd, rfl⟩
    · decide
    · exact hdigits d hd

/-- A URL of a host and a port, without a path of its own. -/
theorem parseHttp_base (authority : String) (hauthority : '/' ∉ authority.toList) {path : String}
    (hpath : PathText path) (query : String) :
    parseHttp ("http://" ++ authority ++ (path ++ "?" ++ query)) =
      .ok ⟨some (.ofList (authority.toList.takeWhile (· ≠ ':'))),
        some (.ofNat ((authority.toList.dropWhile (· ≠ ':')).tail.foldl
          (fun n c => n * 10 + (c.toNat - 48)) 0)), some (path ++ "?" ++ query)⟩ := by
  obtain ⟨cs, hcs⟩ : ∃ cs, path.toList = '/' :: cs := by
    obtain ⟨hhead, -⟩ := hpath
    cases hlist : path.toList with
    | nil => simp [hlist] at hhead
    | cons c cs =>
      obtain rfl : c = '/' := by simpa [hlist] using hhead
      exact ⟨cs, rfl⟩
  have hsplit : ("http://" ++ authority ++ (path ++ "?" ++ query)).toList.drop
      "http://".toList.length = authority.toList ++ '/' :: (cs ++ '?' :: query.toList) := by
    simp [hcs]
  have hrest : '/' :: (cs ++ '?' :: query.toList) = (path ++ "?" ++ query).toList := by simp [hcs]
  obtain ⟨htake, hdrop⟩ := takeWhile_text hauthority (cs ++ '?' :: query.toList)
  unfold parseHttp
  simp only [hsplit, htake, hdrop]
  rw [hrest, String.ofList_toList]

theorem wired_twoHosts : Wired twoNodes twoHosts fun h => (h.name, 8080) where
  toDocumented := documented_twoNodes
  uri h e he path query hpath _ := by
    obtain ⟨rfl, rfl⟩ | ⟨rfl, rfl⟩ := endpoint_twoHosts he
    · exact parseHttp_base "a:8080" (by decide) hpath query
    · exact parseHttp_base "b:8080" (by decide) hpath query
  listen h e he := by
    obtain ⟨rfl, rfl⟩ | ⟨rfl, rfl⟩ := endpoint_twoHosts he
    · exact forall_mem_of_all (by decide)
    · exact forall_mem_of_all (by decide)
  addr h e he := by
    obtain ⟨rfl, rfl⟩ | ⟨rfl, rfl⟩ := endpoint_twoHosts he
    · exact forall_mem_of_all (by decide)
    · exact forall_mem_of_all (by decide)
  reaches h e he := by
    obtain ⟨rfl, rfl⟩ | ⟨rfl, rfl⟩ := endpoint_twoHosts he
    · decide
    · decide
  apart h h' e e' he he' hsame := by
    have hname : h.name = h'.name := congrArg (·.1.1) hsame
    cases h
    cases h'
    exact congrArg HostId.mk hname

/-- A request that gets through and finds everything in place. -/
def PostEnv.fine (send : SendEnv) : PostEnv where
  fault := none
  recv := ⟨0, true, true, true⟩
  send := send
  spawn := fun node => (.ok, node)

/-- A migration that stands down, since the guest cannot be reached. -/
def unreachableGuest : SendEnv where
  artifacts := true
  src := { Hostd.sourceSaying ["idle"] with
    vsock := [⟨.error (.failed (.os "connection refused")), .ok (), .ok ""⟩] }
  boot := ⟨.ok (), .ok (), fun _ => .ok (), .ok ()⟩
  timing := ⟨⟨0⟩, ⟨0⟩, 0⟩
  dialed := true
  dialed_of_ok _ := rfl

/-- One VM on the hotter of two hosts, and the other has no listener. -/
def oneVm : Plane where
  nodes := fun at' =>
    if at' = ("a", 8080) then
      some ⟨⟨Function.update (fun _ => none) ⟨1⟩ (some { Hostd.plainVm with id := ⟨1⟩ }), {}⟩,
        fun _ => none⟩
    else if at' = ("b", 8080) then some ⟨⟨fun _ => none, {}⟩, fun _ => none⟩ else none

/-- What the rebalancer reads of them. -/
def oneVmRead : Reading :=
  let xeon : CompatClass := ⟨"GenuineIntel", "Xeon", 2000000, "6.1.155"⟩
  { placement := Placement.new.assign ⟨"a"⟩ ⟨1⟩
    pressure := (∅ : Std.TreeMap HostId Pressure).insert ⟨"a"⟩ (.new (.finite (19 / 20))) |>.insert
      ⟨"b"⟩ (.new (.finite (1 / 10)))
    idle := (∅ : Std.TreeMap VmId Duration).insert ⟨1⟩ ⟨60 * 10 ^ 9⟩
    compat := (∅ : Std.TreeMap HostId CompatClass).insert ⟨"a"⟩ xeon |>.insert ⟨"b"⟩ xeon }

theorem asks_oneVm : Asks oneVmRead (.new (.finite (4 / 5))) twoHosts ⟨"b"⟩ ⟨⟨1⟩, ⟨"a"⟩, ⟨"b"⟩⟩
    ⟨"http://b:8080", "0.0.0.0:9000", "b:9000"⟩ ⟨"http://a:8080", "0.0.0.0:9000", "a:9000"⟩ where
  pick := by decide +kernel
  toHost := rfl
  target := by rfl
  source := by rfl

/-- A migration on which everything works. -/
def idleGuest : SendEnv := { unreachableGuest with
  src := Hostd.sourceSaying ["idle"], dialed_of_ok := fun _ => rfl }

/-- The guest drains, and its VM moves. -/
theorem moved_idle :
    (exec (rebalanceOnce twoNodes ⟨.fine idleGuest, .fine idleGuest⟩ oneVmRead
      (.new (.finite (4 / 5))) twoHosts) oneVm).1 = .ok (some ⟨⟨1⟩, ⟨"a"⟩, ⟨"b"⟩⟩) := by
  refine (moved_iff wired_twoHosts).1.mpr ⟨_, _, asks_oneVm, ?_⟩
  exact ⟨⟨rfl, rfl⟩, by decide, rfl, rfl, by decide, _, rfl, by decide, rfl⟩

/-! ## The control loop's view of a step -/

section View

variable {net : Net} {fleet : Fleet} {env : StepEnv} {plane : Plane} {r : Reading}
  {highWatermark : Pressure}

/-- A result as the control loop gets it. -/
def reported : Except (Stop String) Unit → Except String Unit
  | .ok () => .ok ()
  | .error (.failed e) => .error e
  | .error .stuck => .error ""

/-- A step that returns is one of the control loop: some answers of its two calls give what the
daemons gave. -/
theorem exists_api (hreturns : (exec (rebalanceOnce net env r highWatermark fleet) plane).1
    ≠ .error .stuck) :
    ∃ api, (Rebalancer.rebalanceOnce r highWatermark fleet api).mapError Stop.failed =
      (exec (rebalanceOnce net env r highWatermark fleet) plane).1 := by
  revert hreturns
  cases hpick : r.pick highWatermark with
  | none =>
    intro _
    refine ⟨⟨fun _ _ => .ok (), fun _ _ _ => .ok ()⟩, ?_⟩
    rw [rebalanceOnce_eq_none_iff.mpr hpick, rebalanceOnce, hpick]
    rfl
  | some mv =>
    have hsome : pickVictim r.placement r.pressure r.idle highWatermark r.compat = some mv := hpick
    intro hreturns
    -- The answers are those of the daemons, the second one after what the first call did.
    refine ⟨⟨fun url listen => reported (exec (migrateRecv net env.recv url listen) plane).1,
      fun url vm addr => match fleet.endpoint mv.toHost with
        | .ok target => reported (exec (migrateSend net env.send url vm addr)
            (exec (migrateRecv net env.recv target.controlUrl target.dataListen) plane).2).1
        | .error _ => .ok ()⟩, ?_⟩
    rw [Rebalancer.rebalanceOnce, hsome]
    cases htarget : fleet.endpoint mv.toHost with
    | error err =>
      rw [rebalanceOnce, hpick]
      dsimp only
      rw [exec_bind, endpoint, exec_outcome, htarget]
      rfl
    | ok target =>
      cases hsource : fleet.endpoint mv.fromHost with
      | error err =>
        rw [rebalanceOnce, hpick]
        dsimp only
        rw [exec_bind, endpoint, exec_outcome, htarget]
        simp only [Except.mapError]
        rw [exec_bind, endpoint, exec_outcome, hsource]
        rfl
      | ok source =>
        have hasks : Asks r highWatermark fleet mv.toHost mv target source :=
          ⟨hpick, rfl, htarget, hsource⟩
        rw [exec_step hasks] at hreturns ⊢
        simp only [htarget, hsource, bind, Except.bind]
        rcases hrecv : exec (migrateRecv net env.recv target.controlUrl target.dataListen)
          plane with ⟨(err | _) | _, plane'⟩
        · rfl
        · rw [hrecv] at hreturns
          exact absurd rfl hreturns
        · rw [hrecv] at hreturns
          dsimp only at hreturns ⊢
          rcases hsend : exec (migrateSend net env.send source.controlUrl mv.vm target.dataAddr)
            plane' with ⟨(err | _) | _, plane''⟩
          · rfl
          · rw [hsend] at hreturns
            exact absurd rfl hreturns
          · rfl

end View

end Sleepwalk.Rebalancer.ControlPlane
