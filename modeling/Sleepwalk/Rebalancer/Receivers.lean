import Sleepwalk.Lib.Runs
import Sleepwalk.Rebalancer.Step

/-!
# How long a receiver holds its port

Runs of the control plane in time: steps of the rebalancer, restores that end, listeners that give
up.

The target binds its listener before the source is asked to send. If no sender connects, because the
source does not have the VM, or stands down, or a request is lost, the listener waits on. It holds
the port until `ACCEPT_TIMEOUT` is over, and every step towards its host is refused until then
(`refuses_iff`).
-/

namespace Sleepwalk.Rebalancer.ControlPlane

open Exec Proto
open Hostd (Parsers RunningVm)
open Hostd.Routes

/-! ## Runs -/

/-- The plane at a time, in nanoseconds. -/
structure World where
  plane : Plane
  now : ℕ

/-- What happens to the plane. -/
inductive Label where
  /-- A step of the rebalancer. -/
  | step (env : StepEnv) (r : Reading)
  /-- The restore behind a listener ends. -/
  | restored (key : Site × String) (vm : Option RunningVm)
  /-- No sender has connected to a listener in time, and it is given up. -/
  | gaveUp (key : Site × String)
  /-- The VMs of a node come and go. -/
  | changed (site : Site) (daemon : Hostd.Telemetry.Daemon)
  /-- Time passes. -/
  | passed (d : Duration)

/-- A step that starts at a time. -/
def StepEnv.startedAt (env : StepEnv) (now : ℕ) : StepEnv :=
  { env with recv := { env.recv with recv := { env.recv.recv with now } } }

/-- Free a listener whose task ends. -/
def Plane.ended (plane : Plane) (key : Site × String) (vm : Option RunningVm) : Plane :=
  plane.modifyNode key.1 (·.restored key.2 vm)

section Runs

variable (net : Net) (highWatermark : Pressure) (fleet : Fleet)

/-- What a label makes of the plane, if it can happen. -/
def World.next (w : World) : Label → Option World
  | .step env r => some { w with plane :=
      (exec (rebalanceOnce net (env.startedAt w.now) r highWatermark fleet) w.plane).2 }
  | .restored key vm =>
    if w.plane.listener key = some .restoring then some { w with plane := w.plane.ended key vm }
    else none
  | .gaveUp key =>
    match w.plane.listener key with
    | some (.waiting since) =>
      if since + ACCEPT_TIMEOUT.nanos ≤ w.now then some { w with plane := w.plane.ended key none }
      else none
    | _ => none
  | .changed site daemon =>
    some { w with plane := w.plane.modifyNode site ({ · with daemon }) }
  | .passed d => some { w with now := w.now + d.nanos }

/-- A run. -/
abbrev World.run (w : World) (ls : List Label) : Option World :=
  Runs.run (World.next net highWatermark fleet) w ls

/-- A step of the run strands a listener on the host at a time. -/
def World.Stranded (site : HostId → Site) (w : World) (h : HostId) (ls : List Label) (since : ℕ) :
    Prop :=
  ∃ before env r after w₁, ls = before ++ .step env r :: after ∧
    w.run net highWatermark fleet before = some w₁ ∧ w₁.now = since ∧
    Strands net (env.startedAt since) r highWatermark fleet site w₁.plane h

variable {net highWatermark fleet} {site : HostId → Site} {plane : Plane} {w w' : World}
  {h : HostId} {e : HostEndpoint} {ls : List Label} {since : ℕ}

theorem listener_modifyNode {at' : Site} {f : Node → Node}
    (hkept : ∀ node, (f node).listeners = node.listeners) :
    (plane.modifyNode at' f).listener = plane.listener := by
  funext key
  cases hnode : plane.nodes at' with
  | none => simp [Plane.modifyNode, hnode]
  | some node =>
    have hset : plane.modifyNode at' f = plane.setNode at' (f node) := by
      simp [Plane.modifyNode, hnode]
    rw [hset, listener_setNode, hkept]
    split
    · rename_i hsite
      simp [Plane.listener, hsite, hnode]
    · rfl

/-- A task that ends frees its listener, and no other. -/
theorem listener_ended {key : Site × String} {vm : Option RunningVm}
    (hbound : plane.listener key ≠ none) :
    (plane.ended key vm).listener = Function.update plane.listener key none := by
  cases hnode : plane.nodes key.1 with
  | none => exact absurd (by simp [Plane.listener, hnode]) hbound
  | some node =>
    have hset : plane.ended key vm = plane.setNode key.1 (node.restored key.2 vm) := by
      simp [Plane.ended, Plane.modifyNode, hnode]
    have hlisteners : (node.restored key.2 vm).listeners =
        Function.update node.listeners key.2 none := rfl
    funext key'
    rw [hset, listener_setNode, hlisteners]
    by_cases hkey : key' = key
    · rw [hkey]
      simp
    · rw [Function.update_of_ne hkey]
      split
      · rename_i hsite
        have hlisten : key'.2 ≠ key.2 := fun hl => hkey (Prod.ext hsite hl)
        rw [Function.update_of_ne hlisten]
        simp [Plane.listener, hsite, hnode]
      · rfl

/-- The VM that a task registers as it ends. -/
theorem vm_ended {key : Site × String} {vm : RunningVm}
    (hnode : plane.nodes key.1 ≠ none) (at' : Site) (id : VmId) :
    (plane.ended key (some vm)).vm at' id =
      if at' = key.1 ∧ id = vm.id then some vm else plane.vm at' id := by
  obtain ⟨node, hsome⟩ := Option.ne_none_iff_exists'.mp hnode
  have hset : plane.ended key (some vm) = plane.setNode key.1 (node.restored key.2 (some vm)) := by
    simp [Plane.ended, Plane.modifyNode, hsome]
  have hvms : (node.restored key.2 (some vm)).daemon.vms =
      Function.update node.daemon.vms vm.id (some vm) := rfl
  rw [hset, vm_setNode, hvms, Function.update_apply]
  by_cases hsite : at' = key.1
  · have hkept : plane.vm key.1 id = node.daemon.vms id := by simp [Plane.vm, hsome]
    rw [hsite, hkept]
    simp
  · simp [hsite]

/-- A task that fails registers none. -/
theorem vm_ended_none (key : Site × String) : (plane.ended key none).vm = plane.vm := by
  cases hnode : plane.nodes key.1 with
  | none => simp [Plane.ended, Plane.modifyNode, hnode]
  | some node =>
    have hset : plane.ended key none = plane.setNode key.1 (node.restored key.2 none) := by
      simp [Plane.ended, Plane.modifyNode, hnode]
    rw [hset]
    exact vm_setNode_of_eq hnode rfl

/-- What a label does to the time and the listeners. -/
inductive Effect (net : Net) (highWatermark : Pressure) (fleet : Fleet) (w : World) :
    Label → World → Prop where
  | step (env : StepEnv) (r : Reading) : Effect net highWatermark fleet w (.step env r)
    ⟨(exec (rebalanceOnce net (env.startedAt w.now) r highWatermark fleet) w.plane).2, w.now⟩
  | restored {w' : World} (key : Site × String) (vm : Option RunningVm) (hnow : w'.now = w.now)
    (hwas : w.plane.listener key = some .restoring)
    (hfrees : w'.plane.listener = Function.update w.plane.listener key none) :
    Effect net highWatermark fleet w (.restored key vm) w'
  | gaveUp {w' : World} (key : Site × String) (since : ℕ) (hnow : w'.now = w.now)
    (hwas : w.plane.listener key = some (.waiting since))
    (hdue : since + ACCEPT_TIMEOUT.nanos ≤ w.now)
    (hfrees : w'.plane.listener = Function.update w.plane.listener key none) :
    Effect net highWatermark fleet w (.gaveUp key) w'
  | changed {w' : World} (at' : Site) (daemon : Hostd.Telemetry.Daemon) (hnow : w'.now = w.now)
    (hkept : w'.plane.listener = w.plane.listener) :
    Effect net highWatermark fleet w (.changed at' daemon) w'
  | passed (d : Duration) : Effect net highWatermark fleet w (.passed d) ⟨w.plane, w.now + d.nanos⟩

theorem effect {l : Label} (hnext : w.next net highWatermark fleet l = some w') :
    Effect net highWatermark fleet w l w' := by
  cases l with
  | step env r =>
    obtain rfl := Option.some_inj.mp hnext
    exact .step env r
  | restored key vm =>
    simp only [World.next] at hnext
    split_ifs at hnext with hwas
    obtain rfl := Option.some_inj.mp hnext
    exact .restored key vm rfl hwas (listener_ended (by simp [hwas]))
  | gaveUp key =>
    simp only [World.next] at hnext
    rcases hwas : w.plane.listener key with _ | since | _
    · simp [hwas] at hnext
    · simp only [hwas] at hnext
      split_ifs at hnext with hdue
      obtain rfl := Option.some_inj.mp hnext
      exact .gaveUp key since rfl hwas hdue (listener_ended (by simp [hwas]))
    · simp [hwas] at hnext
  | changed at' daemon =>
    obtain rfl := Option.some_inj.mp hnext
    exact .changed at' daemon rfl (listener_modifyNode fun _ => rfl)
  | passed d =>
    obtain rfl := Option.some_inj.mp hnext
    exact .passed d

theorem now_le {l : Label} (hnext : w.next net highWatermark fleet l = some w') :
    w.now ≤ w'.now := by
  cases effect hnext with
  | step => exact le_rfl
  | restored _ _ hnow | gaveUp _ _ hnow | changed _ _ hnow => exact hnow.ge
  | passed d => exact Nat.le_add_right ..

/-- Until its time is up, a listener waits after a label exactly if it waited before, or the label
is a step that strands it. -/
theorem waiting_next (hwired : Wired net fleet site) (he : fleet.endpoint h = .ok e) {l : Label}
    (hnext : w.next net highWatermark fleet l = some w')
    (hlive : w'.now < since + ACCEPT_TIMEOUT.nanos) :
    w'.plane.listener (site h, e.dataListen) = some (.waiting since) ↔
      w.plane.listener (site h, e.dataListen) = some (.waiting since) ∨
        ∃ env r, l = .step env r ∧ w.now = since ∧
          Strands net (env.startedAt since) r highWatermark fleet site w.plane h := by
  cases effect hnext with
  | step env r =>
    rw [waiting_step hwired he]
    refine or_congr_right ⟨?_, ?_⟩
    · rintro ⟨rfl, hstrands⟩
      exact ⟨env, r, rfl, rfl, hstrands⟩
    · rintro ⟨env', r', hl, rfl, hstrands⟩
      obtain ⟨rfl, rfl⟩ : env = env' ∧ r = r' := by simpa using hl
      exact ⟨rfl, hstrands⟩
  | restored key vm hnow hwas hfrees =>
    rw [hfrees]
    by_cases hkey : (site h, e.dataListen) = key
    · rw [hkey, Function.update_self, hwas]
      simp
    · rw [Function.update_of_ne hkey]
      simp
  | gaveUp key since' hnow hwas hdue hfrees =>
    rw [hfrees]
    by_cases hkey : (site h, e.dataListen) = key
    · have hne : since' ≠ since := by
        rintro rfl
        omega
      rw [hkey, Function.update_self, hwas]
      simp [hne]
    · rw [Function.update_of_ne hkey]
      simp
  | changed at' daemon hnow hkept =>
    rw [hkept]
    simp
  | passed d => simp

/-- Until its time is up, a listener waits after a run exactly if it waited before, or some step of
the run stranded it. -/
theorem waiting_run (hwired : Wired net fleet site) (he : fleet.endpoint h = .ok e)
    (hrun : w.run net highWatermark fleet ls = some w')
    (hlive : w'.now < since + ACCEPT_TIMEOUT.nanos) :
    w'.plane.listener (site h, e.dataListen) = some (.waiting since) ↔
      w.plane.listener (site h, e.dataListen) = some (.waiting since) ∨
        w.Stranded net highWatermark fleet site h ls since := by
  induction ls using List.reverseRecOn generalizing w' with
  | nil =>
    rw [World.run, Runs.run_nil, Option.some.injEq] at hrun
    subst hrun
    refine ⟨.inl, fun h => h.resolve_right ?_⟩
    rintro ⟨before, env, r, after, w₁, hls, -⟩
    simp at hls
  | append_singleton ls l ih =>
    obtain ⟨w₁, hbefore, hnext⟩ := Runs.run_concat_eq_some_iff.mp hrun
    have hearlier := ih hbefore ((now_le hnext).trans_lt hlive)
    rw [waiting_next hwired he hnext hlive, hearlier, or_assoc]
    refine or_congr_right ⟨?_, ?_⟩
    · rintro (⟨before, env, r, after, w₂, rfl, hstranded⟩ | ⟨env, r, rfl, hsince, hstrands⟩)
      · exact ⟨before, env, r, after ++ [l], w₂, by simp, hstranded⟩
      · exact ⟨ls, env, r, [], w₁, rfl, hbefore, hsince, hstrands⟩
    -- The step that strands it is the last one, or an earlier one.
    · rintro ⟨before, env, r, after, w₂, hls, hrun₂, hstranded⟩
      rcases List.eq_nil_or_concat after with rfl | ⟨after', last, rfl⟩
      · obtain ⟨rfl, hl⟩ := List.append_inj' hls rfl
        obtain rfl : l = .step env r := by simpa using hl
        obtain rfl := Option.some_inj.mp (hbefore.symm.trans hrun₂)
        exact .inr ⟨env, r, rfl, hstranded⟩
      · have hsplit : ls ++ [l] = (before ++ .step env r :: after') ++ [last] := by simpa using hls
        obtain ⟨rfl, -⟩ := List.append_inj' hsplit rfl
        exact .inl ⟨before, env, r, after', w₂, rfl, hrun₂, hstranded⟩

/-! ### Nodes stay -/

theorem nodes_setNode {at' at'' : Site} {node : Node} (h : plane.nodes at' ≠ none) :
    (plane.setNode at'' node).nodes at' ≠ none := by
  by_cases hsite : at' = at''
  · simp [Plane.setNode, hsite]
  · simpa [Plane.setNode, Function.update_of_ne hsite] using h

theorem nodes_modifyNode {at' at'' : Site} {f : Node → Node} (h : plane.nodes at' ≠ none) :
    (plane.modifyNode at'' f).nodes at' ≠ none := by
  unfold Plane.modifyNode
  split
  · exact nodes_setNode h
  · exact h

/-- There is a node. -/
def Has (at' : Site) (plane : Plane) : Prop := plane.nodes at' ≠ none

theorem keeps_post (env : PostEnv) (url : String) (at' : Site) :
    Keeps (Has at') (post net env url) := by
  intro plane h
  change (post net env url plane).2.nodes at' ≠ none
  change plane.nodes at' ≠ none at h
  unfold post
  split
  · exact h
  split
  · exact h
  dsimp only
  split
  · exact h
  dsimp only
  split
  · unfold Plane.handle Plane.dial
    dsimp only
    split
    · exact nodes_modifyNode (nodes_setNode h)
    · exact nodes_setNode h
  · exact h

theorem keeps_rebalanceOnce (env : StepEnv) (r : Reading) (at' : Site) :
    Keeps (Has at') (rebalanceOnce net env r highWatermark fleet) := by
  unfold rebalanceOnce
  cases r.pick highWatermark with
  | none => exact keeps_pure none
  | some mv =>
    refine (keeps_outcome _).bind fun _ => (keeps_outcome _).bind fun _ => ?_
    have hpost : ∀ (env : PostEnv) (url : String), Keeps (Has at')
        (mapFailed PostError.text (post net env url)) :=
      fun env url plane h => keeps_post env url at' plane h
    refine Keeps.bind (fun plane h => hpost _ _ plane h) fun _ => ?_
    exact Keeps.bind (fun plane h => hpost _ _ plane h) fun _ => keeps_pure _

/-- A node stays. -/
theorem nodes_run {at' : Site} (hnode : w.plane.nodes at' ≠ none)
    (hrun : w.run net highWatermark fleet ls = some w') : w'.plane.nodes at' ≠ none := by
  refine Runs.run_preserves (P := fun w => w.plane.nodes at' ≠ none) hnode ?_ hrun
  intro l _ w₁ w₂ hnode₁ hnext
  cases l with
  | step env r =>
    obtain rfl := Option.some_inj.mp hnext
    exact keeps_rebalanceOnce (env.startedAt w₁.now) r at' w₁.plane hnode₁
  | restored key vm =>
    simp only [World.next] at hnext
    split_ifs at hnext
    obtain rfl := Option.some_inj.mp hnext
    exact nodes_modifyNode hnode₁
  | gaveUp key =>
    simp only [World.next] at hnext
    rcases hwas : w₁.plane.listener key with _ | since | _
    · simp [hwas] at hnext
    · simp only [hwas] at hnext
      split_ifs at hnext
      obtain rfl := Option.some_inj.mp hnext
      exact nodes_modifyNode hnode₁
    · simp [hwas] at hnext
  | changed at'' daemon =>
    obtain rfl := Option.some_inj.mp hnext
    exact nodes_modifyNode hnode₁
  | passed d =>
    obtain rfl := Option.some_inj.mp hnext
    exact hnode₁

/-! ### Hosts that refuse -/

/-- Every step towards the host is refused, and changes nothing. -/
def Refuses (net : Net) (highWatermark : Pressure) (fleet : Fleet) (plane : Plane) (h : HostId) :
    Prop :=
  ∀ env r mv target source, Asks r highWatermark fleet h mv target source →
    ∃ text, exec (rebalanceOnce net env r highWatermark fleet) plane =
      (.error (.failed (.daemon h "recv" text)), plane)

/-- No step towards the host is refused whose request gets through and finds its artifacts and a
free address. -/
def Accepts (net : Net) (highWatermark : Pressure) (fleet : Fleet) (plane : Plane) (h : HostId) :
    Prop :=
  ∀ env r mv target source, Asks r highWatermark fleet h mv target source →
    env.recv.fault = none → env.recv.recv.artifacts = true → env.recv.recv.binds = true → ∀ text,
    (exec (rebalanceOnce net env r highWatermark fleet) plane).1 ≠
      .error (.failed (.daemon h "recv" text))

/-- A free address is bound when asked for. -/
theorem accepts_of_free (hwired : Wired net fleet site) (he : fleet.endpoint h = .ok e)
    (hnode : plane.nodes (site h) ≠ none)
    (hfree : plane.listener (site h, e.dataListen) = none) :
    Accepts net highWatermark fleet plane h := by
  intro env r mv target source hasks hfault hartifacts hbinds text
  obtain rfl : target = e := Except.ok.inj (hasks.target.symm.trans he)
  have hok := (recv_ok_iff env.recv plane hwired hasks.target).mpr
    ⟨hfault, hnode, hartifacts, hbinds, hfree⟩
  rw [exec_step hasks]
  rcases hrecv : exec (migrateRecv net env.recv target.controlUrl target.dataListen) plane
    with ⟨err | _, plane'⟩
  · rw [hrecv] at hok
    cases hok
  · -- Whatever comes of the second call, it is not the first that failed.
    dsimp only
    rcases exec (migrateSend net env.send source.controlUrl mv.vm target.dataAddr) plane'
      with ⟨(err | _) | _, plane''⟩
    · intro hsame
      have hop : "send" = "recv" := by
        have hdaemon := Stop.failed.inj (Except.error.inj hsame)
        exact (CtlError.daemon.inj hdaemon).2.1
      exact absurd hop (by decide)
    · intro hsame
      cases hsame
    · intro hsame
      cases hsame

/-- In every run of the control plane, with no timer due behind the address of a host: the host
refuses every step towards it while it restores a VM there, and while a listener waits there that
some step had it bind, and no sender connected to, less than `ACCEPT_TIMEOUT` ago. Otherwise it
accepts every step whose request gets through and finds its artifacts and a free address. -/
theorem refuses_iff (hwired : Wired net fleet site) (hnode : w.plane.nodes (site h) ≠ none)
    (he : fleet.endpoint h = .ok e) (hfree : w.plane.listener (site h, e.dataListen) = none)
    (hrun : w.run net highWatermark fleet ls = some w')
    (hdue : ∀ since, w'.plane.listener (site h, e.dataListen) = some (.waiting since) →
      w'.now < since + ACCEPT_TIMEOUT.nanos) :
    let busy := w'.plane.listener (site h, e.dataListen) = some .restoring ∨
      ∃ since, w'.now < since + ACCEPT_TIMEOUT.nanos ∧
        w.Stranded net highWatermark fleet site h ls since
    (busy → Refuses net highWatermark fleet w'.plane h) ∧
      (¬ busy → Accepts net highWatermark fleet w'.plane h) := by
  have hwaiting : ∀ {since}, w'.now < since + ACCEPT_TIMEOUT.nanos →
      (w'.plane.listener (site h, e.dataListen) = some (.waiting since) ↔
        w.Stranded net highWatermark fleet site h ls since) := by
    intro since hlive
    rw [waiting_run hwired he hrun hlive, hfree]
    simp
  refine ⟨fun hbusy env r mv target source hasks => ?_, fun hidle => ?_⟩
  · obtain rfl : target = e := Except.ok.inj (hasks.target.symm.trans he)
    refine step_refused hwired hasks ?_
    obtain hrestoring | ⟨since, hlive, hstranded⟩ := hbusy
    · simp [hrestoring]
    · simp [(hwaiting hlive).mpr hstranded]
  · refine accepts_of_free hwired he (nodes_run hnode hrun) ?_
    obtain ⟨hrestoring, hstranded⟩ := not_or.mp hidle
    cases hlistener : w'.plane.listener (site h, e.dataListen) with
    | none => rfl
    | some receiving =>
      cases receiving with
      | waiting since =>
        have hlive := hdue since hlistener
        exact absurd ⟨since, hlive, (hwaiting hlive).mp hlistener⟩ hstranded
      | restoring => exact absurd hlistener hrestoring

end Runs

/-- The guest of the VM cannot be reached, so its migration stands down and the VM runs on. For half
a minute its target takes no VM. -/
theorem refuses_stoodDown :
    ∃ w, (World.mk oneVm 0).run twoNodes (.new (.finite (4 / 5))) twoHosts
        [.step ⟨.fine unreachableGuest, .fine unreachableGuest⟩ oneVmRead, .passed ⟨29 * 10 ^ 9⟩]
        = some w ∧
      Refuses twoNodes (.new (.finite (4 / 5))) twoHosts w.plane ⟨"b"⟩ := by
  have hrun : (World.mk oneVm 0).run twoNodes (.new (.finite (4 / 5))) twoHosts
      [.step ⟨.fine unreachableGuest, .fine unreachableGuest⟩ oneVmRead, .passed ⟨29 * 10 ^ 9⟩]
      = some _ := rfl
  refine ⟨_, hrun, (refuses_iff wired_twoHosts (by decide) asks_oneVm.target (by decide) hrun
    ?_).1 (.inr ⟨0, by decide, ?_⟩)⟩
  · intro since _
    show 0 + 29 * 10 ^ 9 < since + 30 * 10 ^ 9
    omega
  · refine ⟨[], _, _, _, _, rfl, rfl, rfl, _, _, _, asks_oneVm, ?_, ?_⟩
    · exact ⟨rfl, by decide, rfl, rfl, by decide, rfl⟩
    · rintro ⟨-, hconnects⟩
      obtain ⟨running, hrunning, hships⟩ := hconnects.ships
      obtain rfl : { Hostd.plainVm with id := ⟨1⟩ } = running := Option.some_inj.mp hrunning
      exact absurd hships (by decide)

end Sleepwalk.Rebalancer.ControlPlane
