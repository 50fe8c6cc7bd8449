import Sleepwalk.Hostd.Cancel
import Sleepwalk.Lib.Upkeep

/-!
# No orphans

Every Firecracker process whose guest runs is held by one registry slot or handler, and every
registered VM runs, in any run of any number of daemons in which no kill misses (`no_orphans`). Once
all handlers are done, the processes whose guests run are those of the registered VMs, one each.

The failures a program can meet (a boot that fails after the guest has started, a load that fails
after it has resumed, a future that is dropped) all end in a kill. One that misses is ignored by
`FcProcess::kill`, and leaves an orphan.
-/

namespace Sleepwalk.Hostd

open Proto Custody

/-! ## Operations -/

/-- An operation that tends the process of its handler, and leaves registries and handlers
alone. -/
structure Tending (w w' : Fleet) (c c' : Claim ProcId StreamId) : Prop where
  tends : Tends w.procs w'.procs c c'
  claim : w'.claim = w.claim

section Operations

variable {w w' : Fleet} {c c' : Claim ProcId StreamId} {p : ProcId}

/-- An operation outside the model. -/
theorem tending_quiet (hproc : c'.proc = c.proc) (hlive : ∀ p, c' = .live p → c = .live p) :
    Tending w w c c' :=
  ⟨.same hproc hlive, rfl⟩

theorem claim_modifyProc (w : Fleet) (p : ProcId) (f : Process → Process) :
    (w.modifyProc p f).claim = w.claim := by
  unfold Fleet.modifyProc
  split <;> rfl

theorem procs_modifyProc (w : Fleet) {pr : Process} (hpr : w.procs p = some pr)
    (f : Process → Process) :
    (w.modifyProc p f).procs = Function.update w.procs p (some (f pr)) := by
  simp [Fleet.modifyProc, hpr, Fleet.setProc]

/-- A process that a handler pauses or starts stays with it. -/
theorem tending_modifyProc {pr : Process} (hpr : w.procs p = some pr) {f : Process → Process}
    (hc : c.proc = some p) (hc' : c'.proc = some p)
    (hlive : (∃ p, c' = .live p) → (f pr).running = true) :
    Tending w (w.modifyProc p f) c c' := by
  refine ⟨?_, claim_modifyProc w p f⟩
  rw [procs_modifyProc w hpr]
  exact .update hc hc' hlive

/-- A kill that does not miss. -/
theorem tending_kill (hc : c.proc = some p) (hc' : c'.proc = none ∨ c'.proc = some p)
    (hlive : ∀ p, c' ≠ .live p) : Tending w (w.kill p true) c c' := by
  refine ⟨?_, claim_kill w p true⟩
  change Tends w.procs (w.modifyProc p .stop).procs c c'
  cases hpr : w.procs p with
  | none =>
    have hsame : w.modifyProc p .stop = w := by simp [Fleet.modifyProc, hpr]
    rw [hsame]
    refine .stop hc hc' hlive (fun _ _ => rfl) ?_
    rintro ⟨pr, hsome, -⟩
    simp [hpr] at hsome
  | some pr =>
    rw [procs_modifyProc w hpr]
    refine .stop hc hc' hlive (fun p' hp' => Function.update_of_ne hp' ..) ?_
    rintro ⟨pr', hstopped, hrun⟩
    rw [Function.update_self] at hstopped
    obtain rfl := Option.some_inj.mp hstopped
    simp [Custody.Proc.stop] at hrun

theorem tending_launch (hlaunch : w.launch p = some w') (hc : c.proc = none)
    (hc' : c'.proc = some p) (hlive : ∀ p, c' ≠ .live p) : Tending w w' c c' := by
  unfold Fleet.launch at hlaunch
  split at hlaunch
  · rename_i hp
    obtain rfl := Option.some_inj.mp hlaunch
    exact ⟨.launch hp hc hc' hlive, rfl⟩
  · simp at hlaunch

theorem claim_modifyStream (w : Fleet) (σ : StreamId) (f : Stream → Stream) :
    (w.modifyStream σ f).claim = w.claim := by
  unfold Fleet.modifyStream
  split <;> rfl

theorem procs_modifyStream (w : Fleet) (σ : StreamId) (f : Stream → Stream) :
    (w.modifyStream σ f).procs = w.procs := by
  unfold Fleet.modifyStream
  split <;> rfl

/-- Streaming leaves processes alone. -/
theorem Tending.modifyStream (h : Tending w w' c c') (σ : StreamId) (f : Stream → Stream) :
    Tending w (w'.modifyStream σ f) c c' where
  tends := by
    rw [procs_modifyStream]
    exact h.tends
  claim := (claim_modifyStream w' σ f).trans h.claim

/-! ### Sending -/

theorem ShipPhase.claim_proc (phase : ShipPhase) : (phase.claim p).proc = some p := by
  cases phase <;> rfl

theorem ShipNext.claim_proc (next : ShipNext) : (next.claim p).proc = some p := by
  cases next with
  | more phase => exact phase.claim_proc
  | sent | failed => rfl

/-- Nothing is live any more once its `snapshot_and_send` has begun. -/
theorem ShipPhase.next_not_live (phase : ShipPhase) (files : List String) (o : Outcome)
    (p' : ProcId) : (phase.next files o).claim p ≠ .live p' := by
  have hsend : ∀ files, (ShipNext.more (sendNext files)).claim p ≠ .live p' := by
    intro files
    change (sendNext files).claim p ≠ .live p'
    rw [sendNext_claim]
    simp
  cases phase with
  | pausing | snapshotting | finishing => cases o <;> simp [next, ShipNext.claim, claim]
  | dialing =>
    cases o with
    | ok => exact hsend files
    | busy | err => simp [next, ShipNext.claim]
  | sending file rest =>
    cases o with
    | ok => exact hsend rest
    | busy | err => simp [next, ShipNext.claim]

/-- One operation of `snapshot_and_send`. -/
theorem tending_ship (hborn : ∃ pr, w.procs p = some pr) {dest : Addr}
    {body : String → FileBody} {stream stream' : Option StreamId} {e : Event} {phase : ShipPhase}
    (hship : w.ship dest p body stream e phase = some (w', stream')) (files : List String) :
    Tending w w' (phase.claim p) ((phase.next files e.outcome).claim p) := by
  obtain ⟨pr, hpr⟩ := hborn
  have hnever := phase.next_not_live (p := p) files e.outcome
  have hquiet : Tending w w (phase.claim p) ((phase.next files e.outcome).claim p) := by
    refine tending_quiet ?_ fun p' hp' => absurd hp' (hnever p')
    rw [ShipNext.claim_proc, phase.claim_proc]
  cases phase with
  | pausing =>
    obtain ⟨rfl, rfl⟩ : (if e.happened then w.modifyProc p .pause else w) = w' ∧
        stream = stream' := by simpa [Fleet.ship] using hship
    by_cases hhappened : e.happened
    · rw [if_pos hhappened]
      refine tending_modifyProc hpr rfl (ShipNext.claim_proc _) ?_
      rintro ⟨p', hp'⟩
      exact absurd hp' (hnever p')
    · rw [if_neg hhappened]
      exact hquiet
  | snapshotting =>
    obtain ⟨rfl, rfl⟩ : w = w' ∧ stream = stream' := by simpa [Fleet.ship] using hship
    exact hquiet
  | dialing =>
    simp only [Fleet.ship] at hship
    split at hship
    · split at hship
      · obtain ⟨rfl, rfl⟩ : w.setStream e.stream (.dialed dest p) = w' ∧
            some e.stream = stream' := by simpa using hship
        exact ⟨hquiet.tends, rfl⟩
      · simp at hship
    · obtain ⟨rfl, rfl⟩ : w = w' ∧ stream = stream' := by simpa using hship
      exact hquiet
  | sending file rest | finishing =>
    cases stream with
    | none => simp [Fleet.ship] at hship
    | some σ =>
      obtain ⟨rfl, rfl⟩ : w.modifyStream σ _ = w' ∧ some σ = stream' := by
        simpa [Fleet.ship] using hship
      exact hquiet.modifyStream σ _

/-! ### The programs -/

/-- The process a place holds was launched. -/
theorem born_of_claim (hsound : Sound w.custody) {q : Place} (hq : w.claim q = c)
    (hc : c.proc = some p) : ∃ pr, w.procs p = some pr := by
  obtain ⟨L, hfits⟩ := hsound
  have hborn : w.custody.proc p ≠ none := by
    refine (hfits.claims q).born ?_
    change (w.claim q).proc = some p
    rw [hq, hc]
  exact Option.ne_none_iff_exists'.mp hborn

/-- One operation of `VmRegistry::spawn`. -/
theorem tending_spawnStep (hsound : Sound w.custody) {q : Place} {host : HostId}
    {networked : Bool} {id : VmId} {vsockUds : String} {e : Event} {phase : SpawnPhase}
    {task : Task} (hq : w.claim q = phase.claim) (hkilled : e.killed = true)
    (hstep : w.spawnStep host networked id vsockUds e phase = some (w', task)) :
    Tending w w' phase.claim task.claim := by
  -- Without an effect on processes the handler keeps its process, and becomes live at a boot only.
  have hquiet : ∀ next, next = phase.next (e.fresh id vsockUds) networked
      (w.bootSecrets host) e.outcome → next.claim.proc = phase.claim.proc →
      (∀ p, next.claim = .live p → phase.claim = .live p) →
      some (w, Task.spawning networked id vsockUds next) = some (w', task) →
      Tending w w' phase.claim task.claim := by
    rintro next - hproc hlive hsame
    obtain ⟨rfl, rfl⟩ : w = w' ∧ _ = task := by simpa using hsame
    exact tending_quiet hproc hlive
  cases phase with
  | preparing =>
    refine hquiet _ rfl ?_ ?_ hstep
    · cases e.outcome <;> cases networked <;> rfl
    · cases e.outcome <;> cases networked <;> exact fun _ h => h
  | plumbing =>
    refine hquiet _ rfl ?_ ?_ hstep
    · cases e.outcome <;> rfl
    · cases e.outcome <;> exact fun _ h => h
  | launching net =>
    simp only [Fleet.spawnStep] at hstep
    by_cases hok : e.outcome = .ok
    · rw [if_pos hok] at hstep
      obtain ⟨w₁, hlaunch, hsame⟩ := Option.map_eq_some_iff.mp hstep
      obtain ⟨rfl, rfl⟩ : w₁ = w' ∧ _ = task := by simpa using hsame
      rw [hok]
      change Tending w w₁ .nothing (SpawnPhase.configNext e.proc net (configSteps net.isSome)).claim
      rw [SpawnPhase.configNext_claim]
      exact tending_launch hlaunch rfl rfl fun p => by simp
    · rw [if_neg hok] at hstep
      refine hquiet _ rfl ?_ ?_ hstep
      · cases ho : e.outcome with
        | ok => exact absurd ho hok
        | busy | err => rfl
      · cases ho : e.outcome with
        | ok => exact absurd ho hok
        | busy | err => exact fun _ h => h
  | configuring p net step rest =>
    refine hquiet _ rfl ?_ ?_ hstep
    · cases e.outcome with
      | ok => exact congrArg Claim.proc (SpawnPhase.configNext_claim p net rest)
      | busy | err => rfl
    · cases e.outcome with
      | ok =>
        intro p' hlive
        exact absurd ((SpawnPhase.configNext_claim p net rest).symm.trans hlive) (by simp)
      | busy | err => exact fun _ h => by cases h
  | booting p net =>
    simp only [Fleet.spawnStep] at hstep
    have hproc : ((SpawnPhase.booting p net).next (e.fresh id vsockUds) networked
        (w.bootSecrets host) e.outcome).claim.proc = some p := by
      cases e.outcome <;> cases w.bootSecrets host <;> rfl
    by_cases hhappened : e.happened
    · rw [if_pos hhappened] at hstep
      obtain ⟨rfl, rfl⟩ : w.startGuest p p = w' ∧ _ = task := by simpa using hstep
      obtain ⟨pr, hpr⟩ := born_of_claim hsound hq rfl
      exact tending_modifyProc hpr rfl hproc fun _ => rfl
    · rw [if_neg hhappened] at hstep
      refine hquiet _ rfl hproc ?_ hstep
      cases ho : e.outcome with
      | ok => exact absurd (.inl ho) hhappened
      | busy | err => exact fun _ h => by cases h
  | linking p net | delivering p net =>
    refine hquiet _ rfl ?_ ?_ hstep
    · cases e.outcome <;> rfl
    · cases e.outcome with
      | ok => exact fun _ h => h
      | busy | err => exact fun _ h => by cases h
  | dropping p =>
    obtain ⟨rfl, rfl⟩ : w.kill p e.killed = w' ∧ _ = task := by
      simpa [Fleet.spawnStep] using hstep
    rw [hkilled]
    refine tending_kill rfl (.inl ?_) ?_
    · cases e.outcome <;> rfl
    · cases e.outcome <;> exact fun _ h => by cases h
  | returned vm =>
    cases vm with
    | none | some vm =>
      obtain ⟨rfl, rfl⟩ : w = w' ∧ _ = task := by simpa [Fleet.spawnStep] using hstep
      exact tending_quiet rfl fun _ h => h

/-- One operation of `migrate_running`. -/
theorem tending_migrateStep (hsound : Sound w.custody) {q : Place} {dest : Addr} {vm : RunningVm}
    {stream : Option StreamId} {e : Event} {phase : SendPhase} {task : Task}
    (hq : w.claim q = phase.claim vm.proc) (hkilled : e.killed = true)
    (hstep : w.migrateStep dest vm stream e phase = some (w', task)) :
    Tending w w' (phase.claim vm.proc) task.claim := by
  have hquiet : ∀ next, next = phase.next vm e.outcome →
      (next.claim vm.proc).proc = (phase.claim vm.proc).proc →
      (∀ p, next.claim vm.proc = .live p → phase.claim vm.proc = .live p) →
      some (w, Task.migrating dest vm next stream) = some (w', task) →
      Tending w w' (phase.claim vm.proc) task.claim := by
    rintro next - hproc hlive hsame
    obtain ⟨rfl, rfl⟩ : w = w' ∧ _ = task := by simpa using hsame
    exact tending_quiet hproc hlive
  cases phase with
  | connecting | greeting | handingSecrets | requesting | awaitingAck | cancelling =>
    refine hquiet _ rfl ?_ ?_ hstep
    · cases e.outcome <;> rfl
    · cases e.outcome <;> exact fun _ h => h
  | writingVsock =>
    refine hquiet _ rfl ?_ ?_ hstep
    · cases e.outcome <;> cases hnet : vm.net.isSome <;> simp [SendPhase.next, hnet] <;> rfl
    · cases e.outcome with
      | ok => cases hnet : vm.net.isSome <;> simp [SendPhase.next, hnet] <;> exact fun _ h => h
      | busy | err => exact fun _ h => by cases h
  | writingNet =>
    refine hquiet _ rfl ?_ ?_ hstep
    · cases e.outcome <;> rfl
    · cases e.outcome with
      | ok => exact fun _ h => h
      | busy | err => exact fun _ h => by cases h
  | shipping ship =>
    simp only [Fleet.migrateStep] at hstep
    obtain ⟨⟨w₁, stream₁⟩, hship, hsame⟩ := Option.map_eq_some_iff.mp hstep
    obtain ⟨rfl, rfl⟩ : w₁ = w' ∧ _ = task := by simpa using hsame
    have hclaim : ((SendPhase.shipping ship).next vm e.outcome).claim vm.proc =
        (ship.next (snapshotFiles vm.extra) e.outcome).claim vm.proc := by
      simp only [SendPhase.next]
      cases ship.next (snapshotFiles vm.extra) e.outcome <;> rfl
    change Tending w w₁ _ (((SendPhase.shipping ship).next vm e.outcome).claim vm.proc)
    rw [hclaim]
    exact tending_ship (born_of_claim hsound hq ship.claim_proc) hship _
  | tearingDown sent =>
    obtain ⟨rfl, rfl⟩ : w.kill vm.proc e.killed = w' ∧ _ = task := by
      simpa [Fleet.migrateStep] using hstep
    rw [hkilled]
    refine tending_kill rfl (.inl ?_) ?_
    · cases sent <;> rfl
    · cases sent <;> exact fun _ h => by cases h
  | returned result =>
    cases result with
    | moved | failed | stoodDown =>
      obtain ⟨rfl, rfl⟩ : w = w' ∧ _ = task := by simpa [Fleet.migrateStep] using hstep
      exact tending_quiet rfl fun _ h => h

/-- One operation of `migrate_source`. -/
theorem tending_sourceStep (hsound : Sound w.custody) {q : Place} {dest : Addr}
    {stream : Option StreamId} {e : Event} {phase : SourcePhase} {task : Task}
    (hq : w.claim q = phase.claim) (hkilled : e.killed = true)
    (hstep : w.sourceStep dest stream e phase = some (w', task)) :
    Tending w w' phase.claim task.claim := by
  have hquiet : ∀ next, next = phase.next e.proc e.outcome →
      next.claim.proc = phase.claim.proc →
      (∀ p, next.claim = .live p → phase.claim = .live p) →
      some (w, Task.sourcing dest next stream) = some (w', task) →
      Tending w w' phase.claim task.claim := by
    rintro next - hproc hlive hsame
    obtain ⟨rfl, rfl⟩ : w = w' ∧ _ = task := by simpa using hsame
    exact tending_quiet hproc hlive
  cases phase with
  | preparing =>
    refine hquiet _ rfl ?_ ?_ hstep
    · cases e.outcome <;> rfl
    · cases e.outcome <;> exact fun _ h => h
  | launching =>
    simp only [Fleet.sourceStep] at hstep
    by_cases hok : e.outcome = .ok
    · rw [if_pos hok] at hstep
      obtain ⟨w₁, hlaunch, hsame⟩ := Option.map_eq_some_iff.mp hstep
      obtain ⟨rfl, rfl⟩ : w₁ = w' ∧ _ = task := by simpa using hsame
      rw [hok]
      change Tending w w₁ .nothing (SourcePhase.configNext e.proc (configSteps false)).claim
      rw [SourcePhase.configNext_claim]
      exact tending_launch hlaunch rfl rfl fun p => by simp
    · rw [if_neg hok] at hstep
      refine hquiet _ rfl ?_ ?_ hstep
      · cases ho : e.outcome with
        | ok => exact absurd ho hok
        | busy | err => rfl
      · cases ho : e.outcome with
        | ok => exact absurd ho hok
        | busy | err => exact fun _ h => h
  | configuring p step rest =>
    refine hquiet _ rfl ?_ ?_ hstep
    · cases e.outcome with
      | ok => exact congrArg Claim.proc (SourcePhase.configNext_claim p rest)
      | busy | err => rfl
    · cases e.outcome with
      | ok =>
        intro p' hlive
        exact absurd ((SourcePhase.configNext_claim p rest).symm.trans hlive) (by simp)
      | busy | err => exact fun _ h => by cases h
  | booting p =>
    simp only [Fleet.sourceStep] at hstep
    have hproc : ((SourcePhase.booting p).next e.proc e.outcome).claim.proc = some p := by
      cases e.outcome <;> rfl
    by_cases hhappened : e.happened
    · rw [if_pos hhappened] at hstep
      obtain ⟨rfl, rfl⟩ : w.startGuest p p = w' ∧ _ = task := by simpa using hstep
      obtain ⟨pr, hpr⟩ := born_of_claim hsound hq rfl
      exact tending_modifyProc hpr rfl hproc fun _ => rfl
    · rw [if_neg hhappened] at hstep
      refine hquiet _ rfl hproc ?_ hstep
      cases ho : e.outcome with
      | ok => exact absurd (.inl ho) hhappened
      | busy | err => exact fun _ h => by cases h
  | connecting p | greeting p | draining p =>
    refine hquiet _ rfl ?_ ?_ hstep
    · cases e.outcome <;> rfl
    · cases e.outcome with
      | ok => exact fun _ h => h
      | busy | err => exact fun _ h => by cases h
  | shipping p ship =>
    simp only [Fleet.sourceStep] at hstep
    obtain ⟨⟨w₁, stream₁⟩, hship, hsame⟩ := Option.map_eq_some_iff.mp hstep
    obtain ⟨rfl, rfl⟩ : w₁ = w' ∧ _ = task := by simpa using hsame
    have hclaim : ((SourcePhase.shipping p ship).next e.proc e.outcome).claim =
        (ship.next (snapshotFiles []) e.outcome).claim p := by
      simp only [SourcePhase.next]
      cases ship.next (snapshotFiles []) e.outcome <;> rfl
    change Tending w w₁ _ ((SourcePhase.shipping p ship).next e.proc e.outcome).claim
    rw [hclaim]
    exact tending_ship (born_of_claim hsound hq ship.claim_proc) hship _
  | killing p sent =>
    obtain ⟨rfl, rfl⟩ : w.kill p e.killed = w' ∧ _ = task := by
      simpa [Fleet.sourceStep] using hstep
    rw [hkilled]
    exact tending_kill rfl (.inl rfl) fun _ h => by cases h
  | returned sent =>
    cases sent with
    | true | false =>
      obtain ⟨rfl, rfl⟩ : w = w' ∧ _ = task := by simpa [Fleet.sourceStep] using hstep
      exact tending_quiet rfl fun _ h => h

/-- What a receiver holds after the end of the stream has no process. -/
theorem RecvPhase.received_proc (files : Files) (stream : Option StreamId) :
    ((RecvPhase.received files).claim stream).proc = none := by
  unfold RecvPhase.received
  split
  · split <;> cases stream <;> rfl
  · rfl

/-- A claim without a process is not live. -/
theorem not_live_of_proc (hc : c.proc = none) : ∀ p, c ≠ .live p := by
  rintro p rfl
  cases hc

/-- One operation of `receive_and_restore`. -/
theorem tending_recvStep (hsound : Sound w.custody) {q : Place} {listen : Addr}
    {stream : Option StreamId} {e : Event} {phase : RecvPhase} {task : Task}
    (hq : w.claim q = phase.claim stream)
    (htask : (Task.receiving listen phase stream).Genuine w) (hkilled : e.killed = true)
    (hstep : w.recvStep listen stream e phase = some (w', task)) :
    Tending w w' (phase.claim stream) task.claim := by
  -- Up to the launch there is no process, whatever happens to the stream.
  have hnone : ∀ {next stream'}, (phase.claim stream).proc = none →
      (RecvPhase.claim stream' next).proc = none →
      some (w, Task.receiving listen next stream') = some (w', task) →
      Tending w w' (phase.claim stream) task.claim := by
    rintro next stream' hproc hnext hsame
    obtain ⟨rfl, rfl⟩ : w = w' ∧ _ = task := by simpa using hsame
    exact tending_quiet (hnext.trans hproc.symm) fun p h => absurd h (not_live_of_proc hnext p)
  cases phase with
  | preparing =>
    refine hnone rfl ?_ hstep
    cases e.outcome <;> rfl
  | accepting =>
    simp only [Fleet.recvStep] at hstep
    by_cases hok : e.outcome = .ok
    · rw [if_pos hok] at hstep
      split at hstep
      · rename_i st hst
        split at hstep
        · rw [hok] at hstep
          obtain ⟨rfl, rfl⟩ : w.setStream e.stream { st with accepted := true } = w' ∧
              Task.receiving listen (.reading []) (some e.stream) = task := by
            simpa [RecvPhase.next] using hstep
          exact ⟨.same rfl fun p hlive => absurd hlive (not_live_of_proc rfl p), rfl⟩
        · simp at hstep
      · simp at hstep
    · rw [if_neg hok] at hstep
      refine hnone rfl ?_ hstep
      cases ho : e.outcome with
      | ok => exact absurd ho hok
      | busy | err => rfl
  | reading files =>
    obtain ⟨σ, st, rfl, hst, -⟩ := htask files rfl
    cases ho : e.outcome with
    | ok =>
      simp only [Fleet.recvStep, ho, if_true, Option.bind_some, hst] at hstep
      cases hitem : st.item files.length with
      | none => simp [hitem] at hstep
      | some item =>
        rw [hitem] at hstep
        refine hnone rfl ?_ hstep
        cases item with
        | none => exact RecvPhase.received_proc files (some σ)
        | some file => rfl
    | busy | err =>
      simp only [Fleet.recvStep, ho] at hstep
      exact hnone rfl rfl hstep
  | readingNet files =>
    obtain ⟨σ, -, rfl, -⟩ := htask files rfl
    refine hnone rfl ?_ hstep
    cases e.outcome with
    | ok =>
      simp only [RecvPhase.next]
      split <;> rfl
    | busy | err => rfl
  | creatingTap files net | bindingUffd files net =>
    obtain ⟨σ, -, rfl, -⟩ := htask files rfl
    refine hnone rfl ?_ hstep
    cases e.outcome <;> rfl
  | launching files net =>
    obtain ⟨σ, -, rfl, -⟩ := htask files rfl
    simp only [Fleet.recvStep] at hstep
    cases ho : e.outcome with
    | ok =>
      rw [ho, if_pos rfl] at hstep
      obtain ⟨w₁, hlaunch, hsame⟩ := Option.map_eq_some_iff.mp hstep
      obtain ⟨rfl, rfl⟩ : w₁ = w' ∧
          Task.receiving listen (.loading files net e.proc) (some σ) = task := by
        simpa [RecvPhase.next, Event.fresh] using hsame
      exact tending_launch hlaunch rfl rfl fun _ h => by cases h
    | busy | err =>
      rw [ho, if_neg (by simp)] at hstep
      exact hnone rfl rfl hstep
  | loading files net p =>
    obtain ⟨σ, -, rfl, -⟩ := htask files rfl
    simp only [Fleet.recvStep] at hstep
    -- Loaded or not, the process stays with the handler, to be registered or to be cleaned up.
    have hproc : ∀ fresh item, (((RecvPhase.loading files net p).next item fresh
        e.outcome).claim (some σ)).proc = some p := by
      intro fresh item
      cases e.outcome <;> rfl
    have hfailed : e.outcome ≠ .ok →
        some (w, Task.receiving listen ((RecvPhase.loading files net p).next none
          (e.fresh e.vmId "") e.outcome) (some σ)) = some (w', task) →
        Tending w w' ((RecvPhase.loading files net p).claim (some σ)) task.claim := by
      intro hne hsame
      obtain ⟨rfl, rfl⟩ : w = w' ∧ _ = task := by simpa using hsame
      refine tending_quiet (hproc _ _) ?_
      cases ho : e.outcome with
      | ok => exact absurd ho hne
      | busy | err => exact fun _ h => by cases h
    split at hstep
    · by_cases hhappened : e.happened
      · rw [if_pos hhappened] at hstep
        obtain ⟨rfl, rfl⟩ : w.startGuest p _ = w' ∧ _ = task := by simpa using hstep
        obtain ⟨pr, hpr⟩ := born_of_claim hsound hq rfl
        exact tending_modifyProc hpr rfl (hproc _ _) fun _ => rfl
      · rw [if_neg hhappened] at hstep
        exact hfailed (fun hok => hhappened (.inl hok)) hstep
    · split at hstep
      · simp at hstep
      · rename_i hne
        exact hfailed hne hstep
  | cleaningUp p =>
    obtain ⟨rfl, rfl⟩ : w.kill p e.killed = w' ∧ _ = task := by
      simpa [Fleet.recvStep] using hstep
    rw [hkilled]
    exact tending_kill rfl (.inl rfl) fun _ h => by cases h
  | settling vm =>
    obtain ⟨rfl, rfl⟩ : w = w' ∧ _ = task := by simpa [Fleet.recvStep] using hstep
    exact tending_quiet rfl fun _ h => h
  | returned vm =>
    cases vm with
    | none | some vm =>
      obtain ⟨rfl, rfl⟩ : w = w' ∧ _ = task := by simpa [Fleet.recvStep] using hstep
      exact tending_quiet rfl fun _ h => h

end Operations

/-! ## Runs -/

namespace Fleet

/-- No kill of the label misses. -/
def Label.Lands : Label → Prop
  | .request _ _ _ => True
  | .event _ e => e.killed = true
  | .cancel _ killed => killed = true

instance (l : Label) : Decidable l.Lands := by
  cases l <;> unfold Label.Lands <;> infer_instance

end Fleet

section Runs

variable {w w' : Fleet} {h : HandlerId} {host : HostId} {task task' : Task}

/-- A handler that goes on after an operation. -/
theorem Tending.setTask (htended : Tended w.custody) (hsound : Sound w.custody)
    {c : Claim ProcId StreamId} (hq : w.claim (.handler h) = c)
    (htending : Tending w w' c task.claim) : Tended (w'.setTask h host task).custody := by
  rw [Fleet.custody_setTask]
  refine htended.setClaim hsound ?_ htending.claim
  change Tends w.procs w'.procs (w.claim (.handler h)) task.claim
  rw [hq]
  exact htending.tends

/-- `VmRegistry::take` hands the VM of a slot to its handler. -/
theorem tended_take (htended : Tended w.custody) (hsound : Sound w.custody) {id : VmId}
    {dest : Addr} (hq : w.claim (.handler h) = .nothing) :
    Tended ((w.take host id dest).1.setTask h host (w.take host id dest).2).custody := by
  unfold Fleet.take
  cases hslot : w.registry host id with
  | none => exact (tending_quiet rfl fun _ h => h).setTask htended hsound hq
  | some vm =>
    have hclaim : w.custody.claim (.slot host id) = .live vm.proc := by
      simp [Fleet.custody, Fleet.claim, hslot]
    rw [Fleet.custody_setTask, Fleet.custody_setSlot]
    exact htended.give hclaim hq

/-- `VmRegistry::insert` hands the VM of a handler to a slot. A VM that was there is dropped
first. -/
theorem tended_insert (htended : Tended w.custody) (hsound : Sound w.custody) {vm : RunningVm}
    {response : Response} (hq : w.claim (.handler h) = .live vm.proc) :
    Tended ((w.insert host vm true).setTask h host (.finished response)).custody := by
  -- Handing over to a slot that has been emptied.
  have hgive : ∀ w₁ : Fleet, Tended (w₁.custody.setClaim (.slot host vm.id) .nothing) →
      w₁.claim = w.claim →
      Tended ((w₁.setSlot host vm.id (some vm)).setTask h host (.finished response)).custody := by
    intro w₁ hempty hclaim
    have hfrom : (w₁.custody.setClaim (.slot host vm.id) .nothing).claim (.handler h)
        = .live vm.proc := by
      have hne : Place.handler h ≠ .slot host vm.id := by simp
      refine (Function.update_of_ne hne .nothing w₁.claim).trans ?_
      rw [hclaim, hq]
    have hgiven := hempty.give hfrom (Function.update_self ..)
    rw [Fleet.custody_setTask, Fleet.custody_setSlot]
    have hsame : (w₁.custody.setClaim (.slot host vm.id) (.live vm.proc)).setClaim (.handler h)
        .nothing = ((w₁.custody.setClaim (.slot host vm.id) .nothing).setClaim (.handler h)
          .nothing).setClaim (.slot host vm.id) (.live vm.proc) := by
      simp [State.setClaim, Function.update_comm]
    exact hsame ▸ hgiven
  unfold Fleet.insert
  cases hslot : w.registry host vm.id with
  | none =>
    refine hgive w ?_ rfl
    have hclaim : w.custody.claim (.slot host vm.id) = .nothing := by
      simp [Fleet.custody, Fleet.claim, hslot]
    refine htended.setClaim hsound (.same ?_ ?_) rfl
    · rw [hclaim]
    · simp
  | some old =>
    have hclaim : w.custody.claim (.slot host vm.id) = .live old.proc := by
      simp [Fleet.custody, Fleet.claim, hslot]
    have hkill : Tending w (w.kill old.proc true) (.live old.proc) .nothing :=
      tending_kill rfl (.inl rfl) (by simp)
    refine hgive _ (htended.setClaim hsound ?_ hkill.claim) hkill.claim
    rw [hclaim]
    exact hkill.tends

/-- One operation of a handler. -/
theorem tended_taskStep (hinv : Invariant w) (htended : Tended w.custody)
    (hh : w.handlers h = some (host, task)) {e : Event} (hkilled : e.killed = true)
    (hstep : w.taskStep host e task = some (w', task')) :
    Tended (w'.setTask h host task').custody := by
  have hq := claim_handler hh
  have htask := hinv.genuine.tasks h host task hh
  have hsound := hinv.sound
  cases task with
  | spawning => exact (tending_spawnStep hsound hq hkilled hstep).setTask htended hsound hq
  | taking id dest =>
    obtain ⟨rfl, rfl⟩ : (w.take host id dest).1 = w' ∧ (w.take host id dest).2 = task' := by
      simpa [Fleet.taskStep, Prod.ext_iff] using hstep
    exact tended_take htended hsound hq
  | migrating => exact (tending_migrateStep hsound hq hkilled hstep).setTask htended hsound hq
  | sourcing => exact (tending_sourceStep hsound hq hkilled hstep).setTask htended hsound hq
  | receiving => exact (tending_recvStep hsound hq htask hkilled hstep).setTask htended hsound hq
  | registering vm response =>
    obtain ⟨rfl, rfl⟩ : w.insert host vm e.killed = w' ∧ _ = task' := by
      simpa [Fleet.taskStep] using hstep
    rw [hkilled]
    exact tended_insert htended hsound hq
  | finished => simp [Fleet.taskStep] at hstep

/-- The process of a handler is that of its claim. -/
theorem claim_proc_eq (hgen : task.Genuine w) : task.claim.proc = task.proc := by
  cases hp : task.proc with
  | some p => exact Task.claim_proc hgen hp
  | none =>
    cases task with
    | spawning networked id vsockUds phase =>
      cases phase with
      | returned vm =>
        cases vm with
        | none => rfl
        | some vm => cases hp
      | _ => first | rfl | cases hp
    | migrating dest vm phase stream =>
      cases phase with
      | returned result =>
        cases result with
        | stoodDown => cases hp
        | moved | failed => rfl
      | _ => cases hp
    | sourcing dest phase stream =>
      cases phase with
      | _ => first | rfl | cases hp
    | receiving listen phase stream =>
      cases phase with
      | returned vm =>
        cases vm with
        | none => rfl
        | some vm => cases hp
      | loading | cleaningUp | settling => cases hp
      | preparing | accepting => rfl
      | reading | readingNet | creatingTap | bindingUffd | launching => cases stream <;> rfl
    | registering vm response => cases hp
    | taking id dest | finished response => rfl

/-- A cancelled handler drops the process it holds. -/
theorem tending_cancel {c : Claim ProcId StreamId} (σ : Option StreamId) :
    Tending w
      (let w := match c.proc with
        | some p => w.kill p true
        | none => w
      match σ with
      | some σ => w.modifyStream σ fun st => { st with closed := true }
      | none => w) c .nothing := by
  have hkill : Tending w (match c.proc with
      | some p => w.kill p true
      | none => w) c .nothing := by
    cases hp : c.proc with
    | none => exact tending_quiet hp.symm fun _ h => by cases h
    | some p => exact tending_kill hp (.inl rfl) fun _ h => by cases h
  cases σ with
  | none => exact hkill
  | some σ => exact hkill.modifyStream σ _

/-- A label whose kill lands keeps the fleet tended. -/
theorem tended_step (hinv : Invariant w) (htended : Tended w.custody) {l : Fleet.Label}
    (hl : l.Lands) : Tended (w.step l).custody := by
  cases hstep : w.tryStep l with
  | none => simpa [Fleet.step, hstep] using htended
  | some w₂ =>
    simp only [Fleet.step, hstep, Option.getD_some]
    cases l with
    | request h host request =>
      simp only [Fleet.tryStep] at hstep
      split at hstep
      · rename_i hfree
        obtain rfl : w.setTask h host request.start = w₂ := by simpa using hstep
        have hq : w.claim (.handler h) = .nothing := by simp [Fleet.claim, hfree]
        have hidle : request.start.claim = .nothing := by cases request <;> rfl
        refine Tending.setTask htended hinv.sound hq ?_
        rw [hidle]
        exact tending_quiet rfl fun _ h => h
      · simp at hstep
    | event h e =>
      simp only [Fleet.tryStep] at hstep
      split at hstep
      · rename_i host task hh
        obtain ⟨⟨w₁, task'⟩, htask, hset⟩ := Option.map_eq_some_iff.mp hstep
        obtain rfl : w₁.setTask h host task' = w₂ := hset
        exact tended_taskStep hinv htended hh hl htask
      · simp at hstep
    | cancel h killed =>
      obtain rfl : killed = true := hl
      simp only [Fleet.tryStep] at hstep
      split at hstep
      · rename_i host task hh
        obtain rfl := Option.some_inj.mp hstep
        rw [← claim_proc_eq (hinv.genuine.tasks h host task hh)]
        exact (tending_cancel task.stream).setTask htended hinv.sound (claim_handler hh)
      · simp at hstep

theorem tended_run (hinv : Invariant w) (htended : Tended w.custody) {ls : List Fleet.Label}
    (hls : ∀ l ∈ ls, l.Lands) : Tended (w.run ls).custody := by
  induction ls generalizing w with
  | nil => exact htended
  | cons l ls ih =>
    have hstep := tended_step hinv htended (hls l (List.mem_cons_self ..))
    exact ih (hinv.step l) hstep fun l' hl' => hls l' (List.mem_cons_of_mem _ hl')

theorem tended_start (bootSecrets : HostId → Bool) : Tended (Fleet.empty bootSecrets).custody := by
  have hcustody : (Fleet.empty bootSecrets).custody
      = { proc := fun _ => none, parcel := fun _ => none, claim := fun _ => .nothing } := by
    unfold Fleet.custody
    congr 1
    funext q
    cases q <;> rfl
  rw [hcustody]
  exact tended_empty

end Runs

/-! ## No orphans -/

namespace Fleet

/-- A process runs a guest. -/
def Runs (w : Fleet) (p : ProcId) : Prop := Running w.procs p

/-- All handlers are done. -/
def Settled (w : Fleet) : Prop :=
  ∀ h host task, w.handlers h = some (host, task) → ∃ response, task = .finished response

end Fleet

/-- What a process whose guest runs belongs to. -/
structure Fleet.NoOrphans (w : Fleet) : Prop where
  /-- Exactly one registry slot or handler has it. -/
  held : ∀ p, w.Runs p → ∃! q, w.Holds p q
  /-- A registered VM runs. -/
  registered : ∀ host id vm, w.registry host id = some vm → w.Runs vm.proc
  /-- Once the handlers are done, the guests that run are those of what is registered, once. -/
  settled : w.Settled → ∀ p, w.Runs p ↔
    ∃! slot : HostId × VmId, ∃ vm, w.registry slot.1 slot.2 = some vm ∧ vm.proc = p

section

variable {w : Fleet}

/-- A place with a claim on a process has it. -/
theorem holds_of_claim (hinv : Invariant w) {p : ProcId} {q : Place}
    (hq : (w.custody.claim q).proc = some p) : w.Holds p q := by
  change (w.claim q).proc = some p at hq
  cases q with
  | slot host id =>
    cases hvm : w.registry host id with
    | none => simp [Fleet.claim, hvm, Claim.proc] at hq
    | some vm =>
      refine ⟨vm, hvm, ?_⟩
      simpa [Fleet.claim, hvm, Claim.proc] using hq
  | handler h =>
    cases hh : w.handlers h with
    | none => simp [Fleet.claim, hh, Claim.proc] at hq
    | some handler =>
      obtain ⟨host, task⟩ := handler
      refine ⟨host, task, hh, ?_⟩
      rw [← claim_proc_eq (hinv.genuine.tasks h host task hh), ← claim_handler hh]
      exact hq

theorem Invariant.noOrphans (hinv : Invariant w) (htended : Tended w.custody) : w.NoOrphans := by
  have hheld : ∀ p, w.Runs p → ∃! q, w.Holds p q := by
    intro p hrun
    obtain ⟨q, hq⟩ := htended.held p hrun
    have hholds := holds_of_claim hinv hq
    exact ⟨q, hholds, fun q' hq' => hinv.noSplitBrain.one_holder p q' q hq' hholds⟩
  have hregistered : ∀ host id vm, w.registry host id = some vm → w.Runs vm.proc := by
    intro host id vm hvm
    refine htended.live (.slot host id) vm.proc ?_
    simp [Fleet.custody, Fleet.claim, hvm]
  refine ⟨hheld, hregistered, fun hsettled p => ⟨fun hrun => ?_, ?_⟩⟩
  · obtain ⟨q, hq, hunique⟩ := hheld p hrun
    cases q with
    | slot host id =>
      refine ⟨(host, id), hq, fun slot hslot => ?_⟩
      have hsame := hunique (.slot slot.1 slot.2) hslot
      obtain ⟨hhost, hid⟩ : slot.1 = host ∧ slot.2 = id := by simpa using hsame
      exact Prod.ext hhost hid
    | handler h =>
      -- A handler that is done holds nothing.
      obtain ⟨host, task, hh, hp⟩ := hq
      obtain ⟨response, rfl⟩ := hsettled h host task hh
      cases hp
  · rintro ⟨⟨host, id⟩, ⟨vm, hvm, rfl⟩, -⟩
    exact hregistered host id vm hvm

end

/-- In any run of any number of hosts in which no kill misses, every process whose guest runs is
held by exactly one registry slot or handler, and every registered VM runs. -/
theorem no_orphans (bootSecrets : HostId → Bool) {ls : List Fleet.Label}
    (hls : ∀ l ∈ ls, l.Lands) : ((Fleet.empty bootSecrets).run ls).NoOrphans :=
  ((Invariant.empty bootSecrets).run ls).noOrphans
    (tended_run (.empty bootSecrets) (tended_start bootSecrets) hls)

/-- A VM is booted on one host and moves to another. -/
def bootAndMoved : List Fleet.Label :=
  sendRequested ++ [.request 2 ⟨"b"⟩ (.recv "b:9000"), .event 2 .fine] ++
    List.replicate 16 (.event 1 .fine) ++
    List.replicate 12 (.event 2 { Event.fine with proc := 1, vmId := ⟨7⟩ })

/-- After the move the process on the target is the one that runs. -/
theorem no_orphans_moved :
    let w := (Fleet.empty fun _ => false).run bootAndMoved
    w.NoOrphans ∧ w.procs 0 = some (Custody.Proc.started (some 0)).pause ∧
      w.procs 1 = some (.started (some 0)) ∧
      (w.registry ⟨"b"⟩ ⟨7⟩).map RunningVm.proc = some 1 := by
  refine ⟨no_orphans _ (by decide), ?_, ?_, ?_⟩
  · decide +kernel
  · decide +kernel
  · decide +kernel

end Sleepwalk.Hostd
