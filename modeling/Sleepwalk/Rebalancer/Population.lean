import Sleepwalk.Lib.Handover
import Sleepwalk.Rebalancer.Receivers

/-!
# The population

How many VMs the daemons have, with those whose restore is in progress. Whatever is lost on the way
(requests, answers, connections, restores), no run of the rebalancer's steps makes two VMs out of
one, and one is lost only in a step that returns an error or in a restore that fails (`held_run`).
-/

namespace Sleepwalk.Rebalancer.ControlPlane

open Exec Proto
open Hostd (RunningVm)
open Hostd.Routes

namespace Plane

/-- The VMs that are registered. -/
def running (plane : Plane) : Set (Site × VmId) := {p | plane.vm p.1 p.2 ≠ none}

/-- The listeners that restore one. -/
def restoring (plane : Plane) : Set (Site × String) := {key | plane.listener key = some .restoring}

/-- How many VMs there are. -/
noncomputable def held (plane : Plane) : ℕ∞ := plane.running.encard + plane.restoring.encard

end Plane

section Requests

variable {net : Net} {fleet : Fleet} {site : HostId → Site} {plane plane' : Plane}
  {h : HostId} {e : HostEndpoint} {env : PostEnv}

theorem running_congr (hvm : plane'.vm = plane.vm) : plane'.running = plane.running := by
  rw [Plane.running, Plane.running, hvm]

theorem restoring_congr (hlistener : plane'.listener = plane.listener) :
    plane'.restoring = plane.restoring := by
  rw [Plane.restoring, Plane.restoring, hlistener]

/-- A VM is gone. -/
theorem running_erase {p : Site × VmId}
    (hvm : ∀ at' id, plane'.vm at' id = if at' = p.1 ∧ id = p.2 then none else plane.vm at' id) :
    plane'.running = plane.running \ {p} := by
  ext q
  have hsame : q = p ↔ q.1 = p.1 ∧ q.2 = p.2 := Prod.ext_iff
  show plane'.vm q.1 q.2 ≠ none ↔ plane.vm q.1 q.2 ≠ none ∧ ¬ q = p
  rw [hvm, hsame]
  split_ifs with h
  · simp [h]
  · simp [h]

/-- A VM is registered. -/
theorem running_insert {p : Site × VmId} {vm : RunningVm} (hvm : ∀ at' id, plane'.vm at' id =
      if at' = p.1 ∧ id = p.2 then some vm else plane.vm at' id) :
    plane'.running = insert p plane.running := by
  ext q
  have hsame : q = p ↔ q.1 = p.1 ∧ q.2 = p.2 := Prod.ext_iff
  show plane'.vm q.1 q.2 ≠ none ↔ q = p ∨ plane.vm q.1 q.2 ≠ none
  rw [hvm, hsame]
  split_ifs with h
  · simp [h]
  · simp [h]

/-- The VMs when a node has taken or registered one. -/
theorem vm_setNode_update {node' : Node} {vms : VmId → Option RunningVm} {id : VmId}
    {r : Option RunningVm} (hvms : node'.daemon.vms = Function.update vms id r)
    (hrest : ∀ id, plane.vm (site h) id = vms id) (at' : Site) (id' : VmId) :
    (plane.setNode (site h) node').vm at' id' =
      if at' = site h ∧ id' = id then r else plane.vm at' id' := by
  rw [vm_setNode, hvms, Function.update_apply]
  by_cases hsite : at' = site h
  · simp [hsite, hrest]
  · simp [hsite]

/-- One that it has taken and put back. -/
theorem running_setNode_back {node' : Node} {vms : VmId → Option RunningVm} {id : VmId}
    {vm : RunningVm}
    (hvms : node'.daemon.vms = Function.update (Function.update vms id none) vm.id (some vm))
    (hrest : ∀ id, plane.vm (site h) id = vms id) :
    (plane.setNode (site h) node').running =
      insert (site h, vm.id) (plane.running \ {(site h, id)}) := by
  let taken : Node :=
    { node' with daemon := { node'.daemon with vms := Function.update vms id none } }
  have herased : (plane.setNode (site h) taken).running = plane.running \ {(site h, id)} :=
    running_erase (vm_setNode_update rfl hrest)
  have hinserted : ∀ at' id', (plane.setNode (site h) node').vm at' id' =
      if at' = site h ∧ id' = vm.id then some vm
      else (plane.setNode (site h) taken).vm at' id' := by
    intro at' id'
    rw [vm_setNode, vm_setNode, hvms, Function.update_apply]
    by_cases hsite : at' = site h
    · simp [hsite, taken]
    · simp [hsite]
  rw [← herased]
  exact running_insert hinserted

/-- A request to receive registers nothing, and nothing is restored for it yet. -/
theorem held_recv (env : PostEnv) (plane : Plane) (hwired : Wired net fleet site)
    (he : fleet.endpoint h = .ok e) :
    (exec (migrateRecv net env e.controlUrl e.dataListen) plane).2.held = plane.held := by
  obtain ⟨hbound, hkept, hvm⟩ := listener_recv env plane hwired he
  rw [Plane.held, Plane.held, running_congr hvm]
  congr 2
  by_cases hbinds : Binds env plane (site h, e.dataListen)
  · ext key
    show (exec (migrateRecv net env e.controlUrl e.dataListen) plane).2.listener key = _ ↔
      plane.listener key = _
    rw [hbound hbinds, Function.update_apply]
    split_ifs with hkey
    · simp [hkey, hbinds.free]
    · rfl
  · exact restoring_congr (hkept hbinds)

/-- A request to send has at most the listener of the target take up a sender. -/
theorem restoring_send (env : PostEnv) (plane : Plane) (hwired : Wired net fleet site)
    (he : fleet.endpoint h = .ok e) {t : HostId} {et : HostEndpoint}
    (ht : fleet.endpoint t = .ok et) (id : VmId) :
    let sent := (exec (migrateSend net env e.controlUrl id et.dataAddr) plane).2
    sent.restoring ⊆ insert (site t, et.dataListen) plane.restoring ∧
      (¬ Connects net env plane (site h) id → sent.restoring = plane.restoring) := by
  intro sent
  obtain ⟨hconnected, hkept⟩ := listener_send env plane hwired he ht id
  refine ⟨?_, fun hnot => restoring_congr (hkept hnot)⟩
  by_cases hconnects : Connects net env plane (site h) id
  · intro key hkey
    change sent.listener key = some .restoring at hkey
    by_cases hsame : key = (site t, et.dataListen)
    · exact .inl hsame
    · rw [hconnected hconnects, taken_of_ne hsame] at hkey
      exact .inr hkey
  · rw [restoring_congr (hkept hconnects)]
    exact Set.subset_insert ..

/-- The VMs after a request to send that gets through. -/
theorem vm_send (hwired : Wired net fleet site) (he : fleet.endpoint h = .ok e) {addr : String}
    (haddr : AddrText addr) (id : VmId) {node : Node} (hnode : plane.nodes (site h) = some node)
    (hhandled : Fault.handled env.fault = true) :
    (exec (migrateSend net env e.controlUrl id addr) plane).2.vm =
      (plane.setNode (site h) (node.migrateSend net.parsers.uuid net.parsers env.send
        (some (net.showUuid id.uuid)) (some addr)).2.1).vm := by
  rw [exec_migrateSend hwired he haddr id hnode]
  dsimp only
  rw [if_pos hhandled, vm_dial]

/-- A request to send makes no VM: one that is taken is put back, or is shipped to a listener, or is
lost. -/
theorem held_send (env : PostEnv) (plane : Plane) (hwired : Wired net fleet site)
    (he : fleet.endpoint h = .ok e) {t : HostId} {et : HostEndpoint}
    (ht : fleet.endpoint t = .ok et) (id : VmId) :
    (exec (migrateSend net env e.controlUrl id et.dataAddr) plane).2.held ≤ plane.held := by
  obtain ⟨hgrows, hquiet⟩ := restoring_send env plane hwired he ht id
  have haddr := hwired.addr t et ht
  cases hnode : plane.nodes (site h) with
  | none =>
    have hquery : QueryText ("vm=" ++ net.showUuid id.uuid ++ "&to=" ++ et.dataAddr) :=
      ((queryText_vm.append (hwired.uuid_text id.uuid).queryText).append queryText_to).append
        haddr.queryText
    obtain ⟨text, hexec⟩ := exec_unreachable hwired he hnode pathText_send hquery
    rw [migrateSend, hexec]
  | some node =>
    have hvm : ∀ id, plane.vm (site h) id = node.daemon.vms id := by
      intro id
      simp [Plane.vm, hnode]
    by_cases hhandled : Fault.handled env.fault = true
    · have hid := hwired.uuid id.uuid
      have hafter := vm_send hwired he haddr id hnode hhandled
      cases hregistered : node.daemon.vms id with
      | none =>
        have hnot : ¬ Connects net env plane (site h) id := by
          rintro ⟨-, ⟨vm, hsome, -⟩, -⟩
          simp [hvm, hregistered] at hsome
        rw [migrateSend_of_unregistered hid hregistered] at hafter
        rw [Plane.held, Plane.held, hquiet hnot, running_congr (hafter.trans
          (vm_setNode_of_eq hnode rfl))]
      | some vm =>
        have hmem : (site h, id) ∈ plane.running := by
          show plane.vm (site h) id ≠ none
          rw [hvm, hregistered]
          simp
        rw [Plane.held, Plane.held]
        obtain hgone | ⟨hships, hback⟩ :=
          vms_migrateSend env.send net.parsers et.dataAddr hid hregistered
        · refine Handover.encard_sent_le hmem ?_ hgrows
          have herased := running_erase (p := (site h, id)) (vm_setNode_update hgone hvm)
          rw [running_congr hafter, herased]
        · -- It was not shipped, so no listener has taken it up.
          have hnot : ¬ Connects net env plane (site h) id := by
            rintro ⟨-, ⟨vm', hsome, hships'⟩, -⟩
            obtain rfl := Option.some_inj.mp (hregistered.symm.trans ((hvm id).symm.trans hsome))
            simp [hships] at hships'
          rw [hquiet hnot]
          refine add_le_add ?_ le_rfl
          refine Handover.encard_back_le (b := (site h, vm.id)) hmem ?_
          rw [running_congr hafter, running_setNode_back hback hvm]
    · rw [exec_migrateSend hwired he haddr id hnode]
      dsimp only
      rw [if_neg hhandled]

end Requests

section Steps

variable {net : Net} {fleet : Fleet} {site : HostId → Site} {highWatermark : Pressure}
  {plane : Plane} {w w' : World} {ls : List Label}

/-- A step makes no VM. -/
theorem held_step (hwired : Wired net fleet site) (env : StepEnv) (r : Reading) (plane : Plane) :
    (exec (rebalanceOnce net env r highWatermark fleet) plane).2.held ≤ plane.held := by
  obtain hidle | ⟨mv, target, source, hasks⟩ :=
    idle_or_asks net env r highWatermark fleet plane
  · rw [hidle]
  have hrecv := held_recv env.recv plane hwired hasks.target
  have hsend := held_send env.send
    (exec (migrateRecv net env.recv target.controlUrl target.dataListen) plane).2 hwired
    hasks.source hasks.target mv.vm
  rw [hrecv] at hsend
  rw [exec_step hasks]
  rcases hrecv' : exec (migrateRecv net env.recv target.controlUrl target.dataListen) plane with
    ⟨err | _, plane'⟩
  · rw [hrecv'] at hrecv
    exact hrecv.le
  · rw [hrecv'] at hsend
    dsimp only at hsend ⊢
    rcases hsent : exec (migrateSend net env.send source.controlUrl mv.vm target.dataAddr) plane'
      with ⟨err | _, plane''⟩
    · rwa [hsent] at hsend
    · rwa [hsent] at hsend

/-- A step that returns no error loses none, if its target has got a directory to work in: the VM is
gone from its source, and its restore is in progress. -/
theorem held_step_ok (hwired : Wired net fleet site) {env : StepEnv} {r : Reading}
    {result : Option Rebalance} (hwork : env.recv.recv.workDir = true)
    (hok : (exec (rebalanceOnce net env r highWatermark fleet) plane).1 = .ok result) :
    (exec (rebalanceOnce net env r highWatermark fleet) plane).2.held = plane.held := by
  obtain hidle | ⟨mv, target, source, hasks⟩ :=
    idle_or_asks net env r highWatermark fleet plane
  · rw [hidle]
  obtain rfl := some_of_step_ok hasks hok
  obtain ⟨-, hcompletes⟩ := (reports_iff hwired hasks).mp hok
  obtain ⟨hvms, hlistener⟩ := moved_effect hwired hasks hok
  obtain ⟨vm, hvm, -⟩ := hcompletes.shipped
  have hmem : (site mv.fromHost, mv.vm) ∈ plane.running := by
    show plane.vm (site mv.fromHost) mv.vm ≠ none
    rw [hvm]
    simp
  have hfree : (site mv.toHost, target.dataListen) ∉ plane.restoring := by
    show ¬ plane.listener _ = some .restoring
    rw [hcompletes.free]
    simp
  have hrestoring : (exec (rebalanceOnce net env r highWatermark fleet) plane).2.restoring =
      insert (site mv.toHost, target.dataListen) plane.restoring := by
    ext key
    show (exec (rebalanceOnce net env r highWatermark fleet) plane).2.listener key = _ ↔
      key = _ ∨ plane.listener key = _
    rw [hlistener hwork, Function.update_apply]
    split_ifs with hkey
    · simp [hkey]
    · simp [hkey]
  rw [Plane.held, Plane.held, running_erase (p := (site mv.fromHost, mv.vm)) hvms, hrestoring]
  exact Handover.encard_sent hmem hfree

/-- Nobody else brings in a VM or takes one away. -/
def Label.Quiet : Label → Prop
  | .changed _ _ => False
  | _ => True

/-- Nothing is lost: a step returns no error and its target has got a directory to work in, and a
restore registers its VM under an id that is new to its host. -/
def World.Lossless (net : Net) (highWatermark : Pressure) (fleet : Fleet) (w : World) :
    Label → Prop
  | .step env r => env.recv.recv.workDir = true ∧ ∃ result,
      (exec (rebalanceOnce net (env.startedAt w.now) r highWatermark fleet) w.plane).1 = .ok result
  | .restored key vm => ∃ registered, vm = some registered ∧ w.plane.vm key.1 registered.id = none
  | _ => True

/-- The listeners that restore when one of them is done. -/
theorem restoring_ended {key : Site × String} {vm : Option RunningVm}
    (hbound : plane.listener key ≠ none) :
    (plane.ended key vm).restoring = plane.restoring \ {key} := by
  ext key'
  show (plane.ended key vm).listener key' = _ ↔ plane.listener key' = _ ∧ ¬ key' = key
  rw [listener_ended hbound, Function.update_apply]
  split_ifs with hkey
  · simp [hkey]
  · simp [hkey]

/-- What one label does to the number of VMs. -/
theorem held_next (hwired : Wired net fleet site) {l : Label} (hquiet : l.Quiet)
    (hnext : w.next net highWatermark fleet l = some w') :
    w'.plane.held ≤ w.plane.held ∧
      (w.Lossless net highWatermark fleet l → w'.plane.held = w.plane.held) := by
  cases l with
  | step env r =>
    obtain rfl := Option.some_inj.mp hnext
    refine ⟨held_step hwired (env.startedAt w.now) r w.plane, ?_⟩
    rintro ⟨hwork, result, hok⟩
    exact held_step_ok hwired hwork hok
  | restored key vm =>
    simp only [World.next] at hnext
    split_ifs at hnext with hwas
    obtain rfl := Option.some_inj.mp hnext
    have hmem : key ∈ w.plane.restoring := hwas
    have hends : (w.plane.ended key vm).restoring = w.plane.restoring \ {key} :=
      restoring_ended (by simp [hwas])
    simp only [Plane.held, hends]
    cases vm with
    | none =>
      rw [running_congr (vm_ended_none key)]
      refine ⟨add_le_add le_rfl (Set.encard_le_encard Set.sdiff_subset), ?_⟩
      rintro ⟨vm, hsome, -⟩
      cases hsome
    | some vm =>
      have hnode : w.plane.nodes key.1 ≠ none := by
        intro hnone
        simp [Plane.listener, hnone] at hwas
      rw [running_insert (p := (key.1, vm.id)) (vm_ended hnode)]
      refine ⟨Handover.encard_arrived_le hmem subset_rfl, ?_⟩
      rintro ⟨vm', hsome, hnew⟩
      obtain rfl := Option.some_inj.mp hsome
      exact Handover.encard_arrived (fun hold => hold hnew) hmem
  | gaveUp key =>
    simp only [World.next] at hnext
    rcases hwas : w.plane.listener key with _ | since | _
    · simp [hwas] at hnext
    · simp only [hwas] at hnext
      split_ifs at hnext
      obtain rfl := Option.some_inj.mp hnext
      -- It was waiting, so nothing was on its way there.
      have hnot : key ∉ w.plane.restoring := by
        show ¬ w.plane.listener key = some .restoring
        simp [hwas]
      have hsame : (w.plane.ended key none).held = w.plane.held := by
        rw [Plane.held, Plane.held, running_congr (vm_ended_none key),
          restoring_ended (by simp [hwas]), Set.sdiff_singleton_eq_self hnot]
      exact ⟨hsame.le, fun _ => hsame⟩
    · simp [hwas] at hnext
  | changed at' daemon => exact hquiet.elim
  | passed d =>
    obtain rfl := Option.some_inj.mp hnext
    exact ⟨le_rfl, fun _ => rfl⟩

/-- In every run, whatever is lost, there are never more VMs than before: none is made into two.
There are as many as before if no step returns an error and every restore registers its VM. -/
theorem held_run (hwired : Wired net fleet site) (hquiet : ∀ l ∈ ls, l.Quiet)
    (hrun : w.run net highWatermark fleet ls = some w') :
    w'.plane.held ≤ w.plane.held ∧
      ((∀ before l after w₁, ls = before ++ l :: after →
          w.run net highWatermark fleet before = some w₁ →
          w₁.Lossless net highWatermark fleet l) →
        w'.plane.held = w.plane.held) := by
  revert hquiet
  refine Runs.run_invariant (motive := fun ls w' => (∀ l ∈ ls, l.Quiet) →
    w'.plane.held ≤ w.plane.held ∧
      ((∀ before l after w₁, ls = before ++ l :: after →
          w.run net highWatermark fleet before = some w₁ →
          w₁.Lossless net highWatermark fleet l) →
        w'.plane.held = w.plane.held)) ?_ ?_ hrun
  · exact fun _ => ⟨le_rfl, fun _ => rfl⟩
  · intro ls w₁ l w₂ hrun₁ ih hnext hquiet
    obtain ⟨hle₁, heq₁⟩ := ih fun l' hmem => hquiet l' (List.mem_append_left _ hmem)
    obtain ⟨hle, heq⟩ := held_next hwired (hquiet l (List.mem_append_right _
      List.mem_cons_self)) hnext
    refine ⟨hle.trans hle₁, fun hlossless => ?_⟩
    have hlast := hlossless ls l [] w₁ rfl hrun₁
    rw [heq hlast]
    refine heq₁ fun before l' after w₀ hsplit hrun₀ => ?_
    refine hlossless before l' (after ++ [l]) w₀ ?_ hrun₀
    rw [hsplit, List.append_assoc, List.cons_append]

end Steps

/-- The one VM moves, and is restored under a new id: there is one as before. -/
theorem held_moved :
    ∃ w, (World.mk oneVm 0).run twoNodes (.new (.finite (4 / 5))) twoHosts
        [.step ⟨.fine idleGuest, .fine idleGuest⟩ oneVmRead, .restored (("b", 8080), "0.0.0.0:9000")
          (some { Hostd.plainVm with id := ⟨2⟩ })] = some w ∧
      w.plane.held = oneVm.held := by
  obtain ⟨hvms, hlistener⟩ := moved_effect wired_twoHosts asks_oneVm moved_idle
  have hrestoring := hlistener rfl
  generalize hplane : (exec (rebalanceOnce twoNodes ⟨.fine idleGuest, .fine idleGuest⟩ oneVmRead
    (.new (.finite (4 / 5))) twoHosts) oneVm).2 = plane at hvms hrestoring
  have hfirst : (World.mk oneVm 0).next twoNodes (.new (.finite (4 / 5))) twoHosts
      (.step ⟨.fine idleGuest, .fine idleGuest⟩ oneVmRead) = some ⟨plane, 0⟩ := by
    rw [← hplane]
    rfl
  have hrestores : plane.listener (("b", 8080), "0.0.0.0:9000") = some .restoring := by
    rw [hrestoring]
    exact Function.update_self ..
  have hsecond : (World.mk plane 0).next twoNodes (.new (.finite (4 / 5))) twoHosts
      (.restored (("b", 8080), "0.0.0.0:9000") (some { Hostd.plainVm with id := ⟨2⟩ })) =
        some ⟨plane.ended (("b", 8080), "0.0.0.0:9000")
          (some { Hostd.plainVm with id := ⟨2⟩ }), 0⟩ := by
    simp only [World.next, hrestores, if_true]
  have hrun := Runs.run_cons_eq_some_iff.mpr ⟨_, hfirst, Runs.run_cons_eq_some_iff.mpr
    ⟨_, hsecond, Runs.run_nil⟩⟩
  refine ⟨_, hrun, (held_run wired_twoHosts ?_ hrun).2 ?_⟩
  · intro l hl
    rcases List.mem_cons.mp hl with rfl | hl
    · exact trivial
    · obtain rfl := List.mem_singleton.mp hl
      exact trivial
  · intro before l after w₁ hsplit hbefore
    cases before with
    | nil =>
      obtain ⟨rfl, -⟩ := List.cons.inj hsplit
      obtain rfl := Option.some_inj.mp hbefore
      exact ⟨rfl, _, moved_idle⟩
    | cons l₁ before =>
      obtain ⟨rfl, hrest⟩ := List.cons.inj hsplit
      cases before with
      | nil =>
        obtain ⟨rfl, -⟩ := List.cons.inj hrest
        obtain ⟨w₂, hw₂, hnil⟩ := Runs.run_cons_eq_some_iff.mp hbefore
        obtain rfl := Option.some_inj.mp (hfirst.symm.trans hw₂)
        obtain rfl := Option.some_inj.mp hnil
        refine ⟨_, rfl, ?_⟩
        show plane.vm ("b", 8080) ⟨2⟩ = none
        rw [hvms]
        decide
      | cons l₂ before =>
        obtain ⟨-, hnone⟩ := List.cons.inj hrest
        simp at hnone

end Sleepwalk.Rebalancer.ControlPlane
