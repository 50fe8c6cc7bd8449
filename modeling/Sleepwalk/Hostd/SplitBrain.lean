import Mathlib.Data.List.Basic
import Sleepwalk.Hostd.Fleet

/-!
# No split brain

The fleet refines `Custody`: registry slots and handlers are the places, snapshot streams the
parcels, and `Task.claim` says what a handler holds at each point of its program. Every step of the
fleet is a few steps of custody (`steps_taskStep`), so what custody rules out never happens in a
fleet (`no_split_brain`).

A restore takes the guest's name from the files it received, where custody takes it from the
process that shipped them. `Genuine` says that the two agree.
-/

namespace Sleepwalk.Hostd

open Proto Custody

/-! ## What a handler holds -/

/-- What the process of a `snapshot_and_send` is good for. -/
def ShipPhase.claim (p : ProcId) : ShipPhase → Claim ProcId StreamId
  | .pausing => .live p
  | .snapshotting | .dialing => .frozen p
  | .sending _ _ | .finishing => .husk p

/-- What a `VmRegistry::spawn` holds. -/
def SpawnPhase.claim : SpawnPhase → Claim ProcId StreamId
  | .preparing | .plumbing | .launching _ | .returned none => .nothing
  | .configuring p _ _ _ | .booting p _ => .fresh p
  | .linking p _ | .delivering p _ => .live p
  | .dropping p => .husk p
  | .returned (some vm) => .live vm.proc

/-- What a `migrate_running` holds. -/
def SendPhase.claim (p : ProcId) : SendPhase → Claim ProcId StreamId
  | .shipping phase => phase.claim p
  | .tearingDown _ => .husk p
  | .returned .moved | .returned .failed => .nothing
  | _ => .live p

/-- What a `migrate_source` holds. -/
def SourcePhase.claim : SourcePhase → Claim ProcId StreamId
  | .preparing | .launching | .returned _ => .nothing
  | .configuring p _ _ | .booting p => .fresh p
  | .connecting p | .greeting p | .draining p => .live p
  | .shipping p phase => phase.claim p
  | .killing p _ => .husk p

/-- What a `receive_and_restore` holds that accepted this stream. -/
def RecvPhase.claim (stream : Option StreamId) : RecvPhase → Claim ProcId StreamId
  | .preparing | .accepting | .returned none => .nothing
  | .reading _ | .readingNet _ | .creatingTap _ _ | .bindingUffd _ _ | .launching _ _ =>
    stream.elim .nothing .parcel
  | .loading _ _ p => stream.elim .nothing (.loading · p)
  | .cleaningUp p => .husk p
  | .settling vm | .returned (some vm) => .live vm.proc

/-- What a handler holds. -/
def Task.claim : Task → Claim ProcId StreamId
  | .spawning _ _ _ phase => phase.claim
  | .migrating _ vm phase _ => phase.claim vm.proc
  | .sourcing _ phase _ => phase.claim
  | .receiving _ phase stream => phase.claim stream
  | .registering vm _ => .live vm.proc
  | .taking _ _ | .finished _ => .nothing

/-- Where a VM can be held. -/
inductive Place where
  /-- A registry slot. -/
  | slot (host : HostId) (id : VmId)
  /-- A handler. -/
  | handler (h : HandlerId)
deriving DecidableEq, Repr

namespace Fleet

/-- What a place of the fleet holds. -/
def claim (w : Fleet) : Place → Claim ProcId StreamId
  | .slot host id =>
    match w.registry host id with
    | some vm => .live vm.proc
    | none => .nothing
  | .handler h =>
    match w.handlers h with
    | some (_, task) => task.claim
    | none => .nothing

/-- The fleet as custody sees it. -/
def custody (w : Fleet) : Custody.State ProcId StreamId Place where
  proc := w.procs
  parcel σ := (w.streams σ).map fun st => { source := st.source, taken := st.accepted }
  claim := w.claim

section Custody

variable {w : Fleet}

@[simp]
theorem setStream_self (w : Fleet) (σ : StreamId) (st : Stream) :
    (w.setStream σ st).streams σ = some st := Function.update_self ..

theorem setStream_of_ne (w : Fleet) {σ σ' : StreamId} (h : σ' ≠ σ) (st : Stream) :
    (w.setStream σ st).streams σ' = w.streams σ' := Function.update_of_ne h ..

@[simp]
theorem custody_setProc (w : Fleet) (p : ProcId) (pr : Process) :
    (w.setProc p pr).custody = w.custody.setProc p pr := rfl

@[simp]
theorem custody_setStream (w : Fleet) (σ : StreamId) (st : Stream) :
    (w.setStream σ st).custody
      = w.custody.setParcel σ { source := st.source, taken := st.accepted } := by
  unfold custody State.setParcel
  congr 1
  funext σ'
  by_cases hσ : σ' = σ
  · subst hσ
    simp [setStream]
  · simp [setStream, Function.update_of_ne hσ]

@[simp]
theorem custody_setTask (w : Fleet) (h : HandlerId) (host : HostId) (task : Task) :
    (w.setTask h host task).custody = w.custody.setClaim (.handler h) task.claim := by
  unfold custody State.setClaim
  congr 1
  funext q
  rcases q with ⟨host', id⟩ | h'
  · rw [Function.update_of_ne (by simp)]
    rfl
  · by_cases hh : h' = h
    · subst hh
      simp [claim, setTask]
    · rw [Function.update_of_ne (by simpa using hh)]
      simp [claim, setTask, Function.update_of_ne hh]

@[simp]
theorem custody_setSlot (w : Fleet) (host : HostId) (id : VmId) (vm : Option RunningVm) :
    (w.setSlot host id vm).custody = w.custody.setClaim (.slot host id)
      (match vm with
        | some vm => .live vm.proc
        | none => .nothing) := by
  unfold custody State.setClaim
  congr 1
  funext q
  rcases q with ⟨host', id'⟩ | h'
  · by_cases hhost : host' = host
    · subst hhost
      by_cases hid : id' = id
      · subst hid
        rw [Function.update_self]
        cases vm <;> simp [claim, setSlot]
      · rw [Function.update_of_ne (by simpa using hid)]
        simp [claim, setSlot, Function.update_of_ne hid]
    · rw [Function.update_of_ne (by simp [hhost])]
      simp [claim, setSlot, Function.update_of_ne hhost]
  · rw [Function.update_of_ne (by simp)]
    rfl

/-- Streaming bytes is nothing to custody. -/
theorem custody_modifyStream (w : Fleet) (σ : StreamId) {f : Stream → Stream}
    (hf : ∀ st, (f st).source = st.source ∧ (f st).accepted = st.accepted) :
    (w.modifyStream σ f).custody = w.custody := by
  unfold modifyStream
  cases hσ : w.streams σ with
  | none => rfl
  | some st =>
    rw [custody_setStream, (hf st).1, (hf st).2]
    unfold State.setParcel
    rw [Function.update_eq_self_iff.mpr]
    simp [custody, hσ]

/-- A kill stops a process or does nothing. -/
theorem steps_kill (w : Fleet) (p : ProcId) (killed : Bool) :
    Steps w.custody (w.kill p killed).custody := by
  unfold kill modifyProc
  split
  · cases hp : w.procs p with
    | none => exact .refl
    | some pr => exact .single (.stop hp)
  · exact .refl

end Custody

end Fleet

/-! ## Received files are genuine -/

/-- The files a `receive_and_restore` has received. -/
def RecvPhase.files : RecvPhase → Option Files
  | .reading files | .readingNet files | .creatingTap files _ | .bindingUffd files _
  | .launching files _ | .loading files _ _ => some files
  | _ => none

/-- The device state on a stream is that of the guest of its source. -/
def Stream.Genuine (w : Fleet) (st : Stream) : Prop :=
  ∀ f ∈ st.files, ∀ ℓ, f.2 = .state ℓ → ∃ pr, w.procs st.source = some pr ∧ pr.lineage = some ℓ

/-- A sender's stream is from its own process, and a receiver's files are from its stream. -/
def Task.Genuine (w : Fleet) : Task → Prop
  | .migrating _ vm _ stream => ∀ σ, stream = some σ →
      ∃ st, w.streams σ = some st ∧ st.source = vm.proc
  | .sourcing _ (.shipping p _) stream => ∀ σ, stream = some σ →
      ∃ st, w.streams σ = some st ∧ st.source = p
  | .sourcing _ (.killing _ _) _ | .sourcing _ (.returned _) _ => True
  | .sourcing _ _ stream => stream = none
  | .receiving _ phase stream => ∀ files, phase.files = some files →
      ∃ σ st, stream = some σ ∧ w.streams σ = some st ∧ ∀ f ∈ files, f ∈ st.files
  | _ => True

/-- All streams and all handlers are genuine. -/
structure Genuine (w : Fleet) : Prop where
  streams : ∀ σ st, w.streams σ = some st → st.Genuine w
  tasks : ∀ h host task, w.handlers h = some (host, task) → task.Genuine w

/-- Nothing a genuine handler relies on is lost: guests stay named, and streams only grow. The
handlers are where they were. -/
structure Grows (w w' : Fleet) : Prop where
  handlers : w'.handlers = w.handlers
  lineage : ∀ p pr ℓ, w.procs p = some pr → pr.lineage = some ℓ →
    ∃ pr', w'.procs p = some pr' ∧ pr'.lineage = some ℓ
  streams : ∀ σ st, w.streams σ = some st →
    ∃ st', w'.streams σ = some st' ∧ st'.source = st.source ∧ ∀ f ∈ st.files, f ∈ st'.files

section Grows

variable {w w' w'' : Fleet}

theorem Grows.refl (w : Fleet) : Grows w w where
  handlers := rfl
  lineage _ pr _ hpr hℓ := ⟨pr, hpr, hℓ⟩
  streams _ st hst := ⟨st, hst, rfl, fun _ hf => hf⟩

theorem Grows.trans (h : Grows w w') (h' : Grows w' w'') : Grows w w'' where
  handlers := h'.handlers.trans h.handlers
  lineage p pr ℓ hpr hℓ := by
    obtain ⟨pr', hpr', hℓ'⟩ := h.lineage p pr ℓ hpr hℓ
    exact h'.lineage p pr' ℓ hpr' hℓ'
  streams σ st hst := by
    obtain ⟨st', hst', hsource, hfiles⟩ := h.streams σ st hst
    obtain ⟨st'', hst'', hsource', hfiles'⟩ := h'.streams σ st' hst'
    exact ⟨st'', hst'', hsource'.trans hsource, fun f hf => hfiles' f (hfiles f hf)⟩

theorem grows_setProc {p : ProcId} {pr' : Process}
    (h : ∀ pr ℓ, w.procs p = some pr → pr.lineage = some ℓ → pr'.lineage = some ℓ) :
    Grows w (w.setProc p pr') where
  handlers := rfl
  lineage p' pr ℓ hpr hℓ := by
    by_cases hp : p' = p
    · subst hp
      exact ⟨pr', Function.update_self .., h pr ℓ hpr hℓ⟩
    · exact ⟨pr, (Function.update_of_ne hp ..).trans hpr, hℓ⟩
  streams _ st hst := ⟨st, hst, rfl, fun _ hf => hf⟩

theorem grows_setStream {σ : StreamId} {st' : Stream}
    (h : ∀ st, w.streams σ = some st → st'.source = st.source ∧ ∀ f ∈ st.files, f ∈ st'.files) :
    Grows w (w.setStream σ st') where
  handlers := rfl
  lineage _ pr _ hpr hℓ := ⟨pr, hpr, hℓ⟩
  streams σ' st hst := by
    by_cases hσ : σ' = σ
    · subst hσ
      exact ⟨st', Function.update_self .., h st hst⟩
    · exact ⟨st, (Function.update_of_ne hσ ..).trans hst, rfl, fun _ hf => hf⟩

theorem grows_kill (w : Fleet) (p : ProcId) (killed : Bool) : Grows w (w.kill p killed) := by
  unfold Fleet.kill Fleet.modifyProc
  split
  · split
    · rename_i pr hpr
      refine grows_setProc ?_
      intro pr' ℓ hpr' hℓ
      obtain rfl := Option.some_inj.mp (hpr.symm.trans hpr')
      exact hℓ
    · exact .refl w
  · exact .refl w

/-- A genuine stream stays genuine when no file is added. -/
theorem Stream.Genuine.grows {st st' : Stream} (h : st.Genuine w) (hgrows : Grows w w')
    (hsource : st'.source = st.source) (hfiles : ∀ f ∈ st'.files, f ∈ st.files) :
    st'.Genuine w' := by
  intro f hf ℓ hℓ
  obtain ⟨pr, hpr, hlineage⟩ := h f (hfiles f hf) ℓ hℓ
  rw [hsource]
  exact hgrows.lineage _ pr ℓ hpr hlineage

/-- A genuine handler stays genuine. -/
theorem Task.Genuine.grows {task : Task} (h : task.Genuine w) (hgrows : Grows w w') :
    task.Genuine w' := by
  have hstream : ∀ σ p, (∃ st, w.streams σ = some st ∧ st.source = p) →
      ∃ st, w'.streams σ = some st ∧ st.source = p := by
    rintro σ p ⟨st, hst, rfl⟩
    obtain ⟨st', hst', hsource, -⟩ := hgrows.streams σ st hst
    exact ⟨st', hst', hsource⟩
  cases task with
  | migrating dest vm phase stream => exact fun σ hσ => hstream σ _ (h σ hσ)
  | sourcing dest phase stream =>
    cases phase with
    | shipping p ship => exact fun σ hσ => hstream σ _ (h σ hσ)
    | _ => exact h
  | receiving listen phase stream =>
    intro files hfiles
    obtain ⟨σ, st, hσ, hst, hall⟩ := h files hfiles
    obtain ⟨st', hst', -, hmem⟩ := hgrows.streams σ st hst
    exact ⟨σ, st', hσ, hst', fun f hf => hmem f (hall f hf)⟩
  | _ => trivial

end Grows

/-! ## Operations -/

/-- What an operation of a handler does: a few steps of custody that leave it with a claim, while
everything stays genuine. -/
structure Sim (w : Fleet) (q : Place) (w' : Fleet) (c : Claim ProcId StreamId) : Prop where
  steps : Steps w.custody (w'.custody.setClaim q c)
  grows : Grows w w'
  streams : ∀ σ st, w'.streams σ = some st → st.Genuine w'

section Operations

variable {w w' : Fleet} {q : Place} {c : Claim ProcId StreamId} {p : ProcId} {σ : StreamId}

/-- Streams that no file was added to are as genuine as before. -/
theorem Genuine.streams_of_grows (h : Genuine w) (hgrows : Grows w w')
    (hstreams : ∀ σ st', w'.streams σ = some st' → ∃ st, w.streams σ = some st ∧
      st'.source = st.source ∧ ∀ f ∈ st'.files, f ∈ st.files) (σ : StreamId) (st' : Stream)
    (hst' : w'.streams σ = some st') : st'.Genuine w' := by
  obtain ⟨st, hst, hsource, hfiles⟩ := hstreams σ st' hst'
  exact (h.streams σ st hst).grows hgrows hsource hfiles

/-- An operation that changes processes only. -/
theorem Sim.of_procs (h : Genuine w) (hstreams : w'.streams = w.streams) (hgrows : Grows w w')
    (hsteps : Steps w.custody (w'.custody.setClaim q c)) : Sim w q w' c where
  steps := hsteps
  grows := hgrows
  streams := h.streams_of_grows hgrows fun _ st' hst' =>
    ⟨st', by rwa [hstreams] at hst', rfl, fun _ hf => hf⟩

/-- An operation outside the model. -/
theorem sim_quiet (h : Genuine w) (hc : c.Weaker (w.claim q)) : Sim w q w c :=
  .of_procs h rfl (.refl w) (steps_weaker hc)

theorem streams_kill (w : Fleet) (p : ProcId) (killed : Bool) :
    (w.kill p killed).streams = w.streams := by
  unfold Fleet.kill Fleet.modifyProc
  split
  · split <;> rfl
  · rfl

theorem claim_kill (w : Fleet) (p : ProcId) (killed : Bool) :
    (w.kill p killed).claim = w.claim := by
  unfold Fleet.kill Fleet.modifyProc
  split
  · split <;> rfl
  · rfl

theorem sim_kill (h : Genuine w) (p : ProcId) (killed : Bool) (hc : c.Weaker (w.claim q)) :
    Sim w q (w.kill p killed) c := by
  refine .of_procs h (streams_kill w p killed) (grows_kill w p killed) ?_
  refine .trans (w.steps_kill p killed) (steps_weaker ?_)
  change c.Weaker ((w.kill p killed).claim q)
  rwa [claim_kill]

theorem sim_launch (h : Genuine w) (hlaunch : w.launch p = some w') :
    (w.claim q = .nothing → Sim w q w' (.fresh p)) ∧
      ∀ σ, w.claim q = .parcel σ → Sim w q w' (.loading σ p) := by
  unfold Fleet.launch at hlaunch
  split at hlaunch
  · rename_i hp
    obtain rfl := Option.some_inj.mp hlaunch
    have hgrows : Grows w (w.setProc p .idle) := by
      refine grows_setProc ?_
      intro pr ℓ hpr
      simp [hp] at hpr
    exact ⟨fun hq => .of_procs h rfl hgrows (.single (.launch hq hp)),
      fun σ hq => .of_procs h rfl hgrows (.single (.equip hq hp))⟩
  · simp at hlaunch

theorem sim_boot (h : Genuine w) (hsound : Sound w.custody) (hq : w.claim q = .fresh p)
    (hc : c.Weaker (.live p)) : Sim w q (w.startGuest p p) c := by
  obtain ⟨pr, hpr, hidle, -⟩ := hsound.fresh_idle hq
  have hstart : w.startGuest p p = w.setProc p (.started (some p)) := by
    change w.procs p = some pr at hpr
    simp [Fleet.startGuest, Fleet.modifyProc, hpr]
  rw [hstart]
  refine .of_procs h rfl (grows_setProc ?_) (steps_then_weaker (.boot hq) hc)
  intro pr' ℓ hpr' hℓ
  obtain rfl := Option.some_inj.mp (hpr.symm.trans hpr')
  simp [hidle] at hℓ

theorem sim_load (h : Genuine w) (hsound : Sound w.custody) (hq : w.claim q = .loading σ p)
    {st : Stream} (hst : w.streams σ = some st) {pr : Process} {ℓ : ProcId}
    (hpr : w.procs st.source = some pr) (hℓ : pr.lineage = some ℓ) (hc : c.Weaker (.live p)) :
    Sim w q (w.startGuest p ℓ) c := by
  obtain ⟨⟨pr₀, hpr₀, hidle, -⟩, -⟩ := hsound.loading_idle hq
  have hstart : w.startGuest p ℓ = w.setProc p (.started pr.lineage) := by
    change w.procs p = some pr₀ at hpr₀
    simp [Fleet.startGuest, Fleet.modifyProc, hpr₀, hℓ]
  have hparcel : w.custody.parcel σ = some { source := st.source, taken := st.accepted } := by
    simp [Fleet.custody, hst]
  rw [hstart]
  refine .of_procs h rfl (grows_setProc ?_) (steps_then_weaker (.load hq hparcel hpr) hc)
  intro pr' ℓ' hpr' hℓ'
  obtain rfl := Option.some_inj.mp (hpr₀.symm.trans hpr')
  simp [hidle] at hℓ'

theorem sim_pause (h : Genuine w) (hsound : Sound w.custody) (hq : w.claim q = .live p)
    (hc : c.Weaker (.frozen p)) : Sim w q (w.modifyProc p .pause) c := by
  obtain ⟨pr, hpr, -⟩ := hsound.live_not_paused hq
  have hpause : w.modifyProc p .pause = w.setProc p pr.pause := by
    change w.procs p = some pr at hpr
    simp [Fleet.modifyProc, hpr]
  rw [hpause]
  refine .of_procs h rfl (grows_setProc ?_) (steps_then_weaker (.pause hq hpr) hc)
  intro pr' ℓ hpr' hℓ
  obtain rfl := Option.some_inj.mp (hpr.symm.trans hpr')
  exact hℓ

/-- A genuine stream is set among genuine ones. -/
theorem streams_setStream (h : ∀ σ st, w.streams σ = some st → st.Genuine w) {st : Stream}
    (hnew : st.Genuine w) (σ' : StreamId) (st' : Stream)
    (hst' : (w.setStream σ st).streams σ' = some st') : st'.Genuine (w.setStream σ st) := by
  by_cases hσ' : σ' = σ
  · rw [hσ', w.setStream_self] at hst'
    obtain rfl := Option.some_inj.mp hst'
    exact hnew
  · rw [w.setStream_of_ne hσ'] at hst'
    exact h σ' st' hst'

theorem sim_dial (h : Genuine w) (dest : Addr) (hq : w.claim q = .frozen p)
    (hσ : w.streams σ = none) : Sim w q (w.setStream σ (.dialed dest p)) (.husk p) where
  steps := by
    rw [Fleet.custody_setStream]
    exact .single (.ship hq (by simp [Fleet.custody, hσ]))
  grows := grows_setStream fun st hst => by simp [hσ] at hst
  streams := streams_setStream h.streams fun f hf => by simp [Stream.dialed] at hf

theorem sim_accept (h : Genuine w) (hq : w.claim q = .nothing) {st : Stream}
    (hst : w.streams σ = some st) (hfree : st.accepted = false) :
    Sim w q (w.setStream σ { st with accepted := true }) (.parcel σ) where
  steps := by
    rw [Fleet.custody_setStream]
    refine .single (.take hq ?_)
    simp [Fleet.custody, hst, hfree]
  grows := grows_setStream fun st' hst' => by
    obtain rfl := Option.some_inj.mp (hst.symm.trans hst')
    exact ⟨rfl, fun _ hf => hf⟩
  streams := streams_setStream h.streams (h.streams σ st hst)

/-- Writing to a stream, on top of an operation. -/
theorem Sim.modifyStream (hsim : Sim w q w' c) {f : Stream → Stream}
    (hf : ∀ st, (f st).source = st.source ∧ (f st).accepted = st.accepted ∧
      ∀ file ∈ st.files, file ∈ (f st).files)
    (hnew : ∀ st, w'.streams σ = some st → (f st).Genuine w') :
    Sim w q (w'.modifyStream σ f) c := by
  have hcustody := w'.custody_modifyStream σ fun st => ⟨(hf st).1, (hf st).2.1⟩
  cases hσ : w'.streams σ with
  | none => simpa [Fleet.modifyStream, hσ] using hsim
  | some st =>
    have hset : w'.modifyStream σ f = w'.setStream σ (f st) := by simp [Fleet.modifyStream, hσ]
    refine ⟨by rw [hcustody]; exact hsim.steps, ?_, ?_⟩
    · rw [hset]
      refine hsim.grows.trans (grows_setStream fun st' hst' => ?_)
      obtain rfl := Option.some_inj.mp (hσ.symm.trans hst')
      exact ⟨(hf st).1, (hf st).2.2⟩
    · rw [hset]
      exact streams_setStream hsim.streams (hnew st hσ)

/-- A file written to the stream of a process has that process's own guest in it. -/
theorem Genuine.sent (h : Genuine w) (hsound : Sound w.custody) {st : Stream}
    (hst : w.streams σ = some st) {file : String} {b : FileBody}
    (hbody : ∀ ℓ, b = .state ℓ → ℓ = w.lineageOf st.source) :
    Stream.Genuine w { st with files := st.files ++ [(file, b)] } := by
  intro f hf ℓ hℓ
  rcases List.mem_append.mp hf with hf | hf
  · exact h.streams σ st hst f hf ℓ hℓ
  · obtain rfl := List.mem_singleton.mp hf
    have hparcel : w.custody.parcel σ = some { source := st.source, taken := st.accepted } := by
      simp [Fleet.custody, hst]
    -- The custody of the stream is what keeps its source from being reused.
    obtain ⟨pr, ℓ', hpr, hlineage, -⟩ := hsound.source hparcel
    change w.procs st.source = some pr at hpr
    have hof : w.lineageOf st.source = ℓ' := by simp [Fleet.lineageOf, hpr, hlineage]
    exact ⟨pr, hpr, by rw [hlineage, hbody ℓ hℓ, hof]⟩

/-- What a `snapshot_and_send` is left with. -/
def ShipNext.claim (p : ProcId) : ShipNext → Claim ProcId StreamId
  | .more phase => phase.claim p
  | .sent | .failed => .husk p

theorem sendNext_claim (p : ProcId) (files : List String) :
    (ShipPhase.sendNext files).claim p = .husk p := by
  cases files <;> rfl

/-- After a failure `snapshot_and_send` is left with a process and no right. -/
theorem claim_next_of_ne_ok {o : Outcome} (h : o ≠ .ok) (phase : ShipPhase) (files : List String) :
    (phase.next files o).claim p = .husk p := by
  cases o with
  | ok => exact absurd rfl h
  | busy | err => cases phase <;> rfl

/-- A place may keep its process and give up the rest. -/
theorem husk_weaker {c : Claim ProcId StreamId} (h : c.proc = some p) :
    (Claim.husk p : Claim ProcId StreamId).Weaker c := .inr (.inr ⟨p, h, rfl⟩)

/-- One operation of `snapshot_and_send`. -/
theorem sim_ship (h : Genuine w) (hsound : Sound w.custody) {dest : Addr}
    {body : String → FileBody} {stream stream' : Option StreamId} {e : Event} {phase : ShipPhase}
    (hq : w.claim q = phase.claim p)
    (hstream : ∀ σ, stream = some σ → ∃ st, w.streams σ = some st ∧ st.source = p)
    (hbody : ∀ file ℓ, body file = .state ℓ → ℓ = w.lineageOf p)
    (hship : w.ship dest p body stream e phase = some (w', stream')) (files : List String) :
    Sim w q w' ((phase.next files e.outcome).claim p) ∧
      ∀ σ, stream' = some σ → ∃ st, w'.streams σ = some st ∧ st.source = p := by
  have hretire : phase.claim p = .live p ∨ phase.claim p = .frozen p ∨ phase.claim p = .husk p →
      (Claim.husk p : Claim ProcId StreamId).Weaker (w.claim q) := by
    intro hclaim
    rw [hq]
    apply husk_weaker
    rcases hclaim with hclaim | hclaim | hclaim
    all_goals rw [hclaim]; rfl
  have hkeeps : ∀ {w'}, Grows w w' → ∀ σ, stream = some σ →
      ∃ st, w'.streams σ = some st ∧ st.source = p := by
    intro w' hgrows σ hσ
    obtain ⟨st, hst, hsource⟩ := hstream σ hσ
    obtain ⟨st', hst', hsource', -⟩ := hgrows.streams σ st hst
    exact ⟨st', hst', hsource'.trans hsource⟩
  cases phase with
  | pausing =>
    obtain ⟨rfl, rfl⟩ : (if e.happened then w.modifyProc p .pause else w) = w' ∧
        stream = stream' := by simpa [Fleet.ship] using hship
    -- A pause that was reported to fail may still have frozen the guest.
    by_cases hhappened : e.happened
    · rw [if_pos hhappened]
      have hweaker : ((ShipPhase.pausing.next files e.outcome).claim p).Weaker (.frozen p) := by
        by_cases hok : e.outcome = .ok
        · rw [hok]
          exact .refl _
        · rw [claim_next_of_ne_ok hok]
          exact .inr (.inr ⟨p, rfl, rfl⟩)
      have hsim := sim_pause h hsound hq hweaker
      exact ⟨hsim, hkeeps hsim.grows⟩
    · rw [if_neg hhappened, claim_next_of_ne_ok fun hok => hhappened (.inl hok)]
      exact ⟨sim_quiet h (hretire (.inl rfl)), hkeeps (.refl w)⟩
  | snapshotting =>
    obtain ⟨rfl, rfl⟩ : w = w' ∧ stream = stream' := by simpa [Fleet.ship] using hship
    refine ⟨?_, hkeeps (.refl w)⟩
    by_cases hok : e.outcome = .ok
    · rw [hok]
      exact sim_quiet h (.inl hq.symm)
    · rw [claim_next_of_ne_ok hok]
      exact sim_quiet h (hretire (.inr (.inl rfl)))
  | dialing =>
    simp only [Fleet.ship] at hship
    by_cases hok : e.outcome = .ok
    -- The right to run the guest leaves the place with the connection.
    · rw [if_pos hok] at hship
      split at hship
      · rename_i hfree
        obtain ⟨rfl, rfl⟩ : w.setStream e.stream (.dialed dest p) = w' ∧
            some e.stream = stream' := by simpa using hship
        have hnext : (ShipPhase.dialing.next files e.outcome).claim p = .husk p := by
          rw [hok]
          exact sendNext_claim p files
        rw [hnext]
        refine ⟨sim_dial h dest hq hfree, ?_⟩
        rintro σ hσ
        obtain rfl := Option.some_inj.mp hσ
        exact ⟨_, w.setStream_self _ _, rfl⟩
      · simp at hship
    · rw [if_neg hok] at hship
      obtain ⟨rfl, rfl⟩ : w = w' ∧ stream = stream' := by simpa using hship
      rw [claim_next_of_ne_ok hok]
      exact ⟨sim_quiet h (hretire (.inr (.inl rfl))), hkeeps (.refl w)⟩
  | sending file rest =>
    cases stream with
    | none => simp [Fleet.ship] at hship
    | some σ =>
      obtain ⟨rfl, rfl⟩ : w.modifyStream σ _ = w' ∧ some σ = stream' := by
        simpa [Fleet.ship] using hship
      have hnext : ((ShipPhase.sending file rest).next files e.outcome).claim p = .husk p := by
        by_cases hok : e.outcome = .ok
        · rw [hok]
          exact sendNext_claim p rest
        · exact claim_next_of_ne_ok hok _ files
      rw [hnext]
      have hsim := (sim_quiet h (hretire (.inr (.inr rfl)))).modifyStream (σ := σ)
        (f := fun st => if e.outcome = .ok then { st with files := st.files ++ [(file, body file)] }
          else { st with closed := true }) ?_ ?_
      · exact ⟨hsim, hkeeps hsim.grows⟩
      · intro st
        split
        · exact ⟨rfl, rfl, fun _ hf => List.mem_append_left _ hf⟩
        · exact ⟨rfl, rfl, fun _ hf => hf⟩
      · intro st hst
        obtain ⟨st', hst', hsource⟩ := hstream σ rfl
        obtain rfl := Option.some_inj.mp (hst.symm.trans hst')
        split
        · exact h.sent hsound hst fun ℓ hℓ => by rw [hsource, hbody file ℓ hℓ]
        · exact h.streams σ st hst
  | finishing =>
    cases stream with
    | none => simp [Fleet.ship] at hship
    | some σ =>
      obtain ⟨rfl, rfl⟩ : w.modifyStream σ _ = w' ∧ some σ = stream' := by
        simpa [Fleet.ship] using hship
      have hnext : (ShipPhase.finishing.next files e.outcome).claim p = .husk p := by
        cases e.outcome <;> rfl
      rw [hnext]
      have hsim := (sim_quiet h (hretire (.inr (.inr rfl)))).modifyStream (σ := σ)
        (f := fun st => { st with ended := st.ended || decide e.happened, closed := true })
        (fun st => ⟨rfl, rfl, fun _ hf => hf⟩) fun st hst => h.streams σ st hst
      exact ⟨hsim, hkeeps hsim.grows⟩

/-- A new process of a configuration has no guest yet. -/
theorem SpawnPhase.configNext_claim (p : ProcId) (net : Option NetId) (steps : List ConfigStep) :
    (SpawnPhase.configNext p net steps).claim = .fresh p := by
  cases steps <;> rfl

/-- One operation of `VmRegistry::spawn`. -/
theorem sim_spawnStep (h : Genuine w) (hsound : Sound w.custody) {host : HostId} {networked : Bool}
    {id : VmId} {vsockUds : String} {e : Event} {phase : SpawnPhase} {task : Task}
    (hq : w.claim q = phase.claim)
    (hstep : w.spawnStep host networked id vsockUds e phase = some (w', task)) :
    Sim w q w' task.claim ∧ task.Genuine w' := by
  -- Without an effect on processes the next claim must be a weaker one.
  have hquiet : ∀ next, next = phase.next (e.fresh id vsockUds) networked
      (w.bootSecrets host) e.outcome → next.claim.Weaker phase.claim →
      some (w, Task.spawning networked id vsockUds next) = some (w', task) →
      Sim w q w' task.claim ∧ task.Genuine w' := by
    rintro next rfl hweaker hsame
    obtain ⟨rfl, rfl⟩ : w = w' ∧ _ = task := by simpa using hsame
    exact ⟨sim_quiet h (by rw [hq]; exact hweaker), trivial⟩
  cases phase with
  | preparing =>
    refine hquiet _ rfl (.inl ?_) hstep
    cases e.outcome <;> cases networked <;> rfl
  | plumbing =>
    refine hquiet _ rfl (.inl ?_) hstep
    cases e.outcome <;> rfl
  | launching net =>
    simp only [Fleet.spawnStep] at hstep
    by_cases hok : e.outcome = .ok
    · rw [if_pos hok] at hstep
      obtain ⟨w₁, hlaunch, hsame⟩ := Option.map_eq_some_iff.mp hstep
      obtain ⟨rfl, rfl⟩ : w₁ = w' ∧ _ = task := by simpa using hsame
      refine ⟨?_, trivial⟩
      have hsim := (sim_launch h hlaunch).1 hq
      rw [hok]
      change Sim w q w₁ (SpawnPhase.configNext e.proc net (configSteps net.isSome)).claim
      rw [SpawnPhase.configNext_claim]
      exact hsim
    · rw [if_neg hok] at hstep
      refine hquiet _ rfl (.inl ?_) hstep
      cases ho : e.outcome with
      | ok => exact absurd ho hok
      | busy | err => rfl
  | configuring p net step rest =>
    refine hquiet _ rfl ?_ hstep
    cases e.outcome with
    | ok => exact .inl (SpawnPhase.configNext_claim p net rest)
    | busy | err => exact husk_weaker rfl
  | booting p net =>
    simp only [Fleet.spawnStep] at hstep
    by_cases hhappened : e.happened
    · rw [if_pos hhappened] at hstep
      obtain ⟨rfl, rfl⟩ : w.startGuest p p = w' ∧ _ = task := by simpa using hstep
      refine ⟨sim_boot h hsound hq ?_, trivial⟩
      cases e.outcome with
      | ok => cases w.bootSecrets host <;> exact .refl _
      | busy | err => exact husk_weaker rfl
    · rw [if_neg hhappened] at hstep
      refine hquiet _ rfl ?_ hstep
      cases ho : e.outcome with
      | ok => exact absurd (.inl ho) hhappened
      | busy | err => exact husk_weaker rfl
  | linking p net | delivering p net =>
    refine hquiet _ rfl ?_ hstep
    cases e.outcome with
    | ok => exact .refl _
    | busy | err => exact husk_weaker rfl
  | dropping p =>
    obtain ⟨rfl, rfl⟩ : w.kill p e.killed = w' ∧ _ = task := by
      simpa [Fleet.spawnStep] using hstep
    refine ⟨sim_kill h p e.killed (.inr (.inl ?_)), trivial⟩
    cases e.outcome <;> rfl
  | returned vm =>
    cases vm with
    | none =>
      obtain ⟨rfl, rfl⟩ : w = w' ∧ _ = task := by simpa [Fleet.spawnStep] using hstep
      exact ⟨sim_quiet h (.inr (.inl rfl)), trivial⟩
    | some vm =>
      obtain ⟨rfl, rfl⟩ : w = w' ∧ _ = task := by simpa [Fleet.spawnStep] using hstep
      exact ⟨sim_quiet h (.inl hq.symm), trivial⟩

/-- The device state among the files of a snapshot is that of its guest. -/
theorem fileBody_state {lineage ℓ : ProcId} {vsockUds file : String} {net : Option NetId}
    (h : Fleet.fileBody lineage vsockUds net file = .state ℓ) : ℓ = lineage := by
  unfold Fleet.fileBody at h
  split at h
  · simp at h
  · simpa using h.symm
  · simp at h
  · split at h <;> simp at h

/-- One operation of `migrate_running`. -/
theorem sim_migrateStep (h : Genuine w) (hsound : Sound w.custody) {dest : Addr} {vm : RunningVm}
    {stream : Option StreamId} {e : Event} {phase : SendPhase} {task : Task}
    (hq : w.claim q = phase.claim vm.proc)
    (htask : (Task.migrating dest vm phase stream).Genuine w)
    (hstep : w.migrateStep dest vm stream e phase = some (w', task)) :
    Sim w q w' task.claim ∧ task.Genuine w' := by
  -- Up to the snapshot the VM stays live, whether the migration goes on or stands down; a failure
  -- to write the metadata leaves it for the teardown.
  have hquiet : ∀ next, next = phase.next vm e.outcome →
      (next.claim vm.proc).Weaker (phase.claim vm.proc) →
      some (w, Task.migrating dest vm next stream) = some (w', task) →
      Sim w q w' task.claim ∧ task.Genuine w' := by
    rintro next - hweaker hsame
    obtain ⟨rfl, rfl⟩ : w = w' ∧ _ = task := by simpa using hsame
    exact ⟨sim_quiet h (by rw [hq]; exact hweaker), htask⟩
  cases phase with
  | connecting | greeting | handingSecrets | requesting | awaitingAck | cancelling =>
    refine hquiet _ rfl (.inl ?_) hstep
    cases e.outcome <;> rfl
  | writingVsock =>
    refine hquiet _ rfl ?_ hstep
    cases e.outcome with
    | ok => cases hnet : vm.net.isSome <;> simp [SendPhase.next, hnet] <;> exact .refl _
    | busy | err => exact husk_weaker rfl
  | writingNet =>
    refine hquiet _ rfl ?_ hstep
    cases e.outcome with
    | ok => exact .refl _
    | busy | err => exact husk_weaker rfl
  | shipping ship =>
    simp only [Fleet.migrateStep] at hstep
    obtain ⟨⟨w₁, stream₁⟩, hship, hsame⟩ := Option.map_eq_some_iff.mp hstep
    obtain ⟨rfl, rfl⟩ : w₁ = w' ∧ _ = task := by simpa using hsame
    obtain ⟨hsim, hstream⟩ := sim_ship h hsound hq htask (fun file ℓ => fileBody_state) hship
      (snapshotFiles vm.extra)
    refine ⟨?_, hstream⟩
    have hclaim : ((SendPhase.shipping ship).next vm e.outcome).claim vm.proc =
        (ship.next (snapshotFiles vm.extra) e.outcome).claim vm.proc := by
      simp only [SendPhase.next]
      cases ship.next (snapshotFiles vm.extra) e.outcome <;> rfl
    change Sim w q w₁ (((SendPhase.shipping ship).next vm e.outcome).claim vm.proc)
    rw [hclaim]
    exact hsim
  | tearingDown sent =>
    obtain ⟨rfl, rfl⟩ : w.kill vm.proc e.killed = w' ∧ _ = task := by
      simpa [Fleet.migrateStep] using hstep
    refine ⟨sim_kill h vm.proc e.killed (.inr (.inl ?_)),
      (htask.grows (grows_kill w vm.proc e.killed) :)⟩
    cases sent <;> rfl
  | returned result =>
    cases result with
    | moved | failed =>
      obtain ⟨rfl, rfl⟩ : w = w' ∧ _ = task := by simpa [Fleet.migrateStep] using hstep
      exact ⟨sim_quiet h (.inr (.inl rfl)), trivial⟩
    | stoodDown =>
      obtain ⟨rfl, rfl⟩ : w = w' ∧ _ = task := by simpa [Fleet.migrateStep] using hstep
      exact ⟨sim_quiet h (.inl hq.symm), trivial⟩

/-- A new process of a configuration has no guest yet. -/
theorem SourcePhase.configNext_claim (p : ProcId) (steps : List ConfigStep) :
    (SourcePhase.configNext p steps).claim = .fresh p := by
  cases steps <;> rfl

/-- A configuration has not dialed. -/
theorem SourcePhase.configNext_genuine (w : Fleet) (dest : Addr) (p : ProcId)
    (steps : List ConfigStep) : (Task.sourcing dest (configNext p steps) none).Genuine w := by
  cases steps <;> rfl

/-- One operation of `migrate_source`. -/
theorem sim_sourceStep (h : Genuine w) (hsound : Sound w.custody) {dest : Addr}
    {stream : Option StreamId} {e : Event} {phase : SourcePhase} {task : Task}
    (hq : w.claim q = phase.claim) (htask : (Task.sourcing dest phase stream).Genuine w)
    (hstep : w.sourceStep dest stream e phase = some (w', task)) :
    Sim w q w' task.claim ∧ task.Genuine w' := by
  have hquiet : ∀ next, next = phase.next e.proc e.outcome → next.claim.Weaker phase.claim →
      (Task.sourcing dest next stream).Genuine w →
      some (w, Task.sourcing dest next stream) = some (w', task) →
      Sim w q w' task.claim ∧ task.Genuine w' := by
    rintro next - hweaker hgenuine hsame
    obtain ⟨rfl, rfl⟩ : w = w' ∧ _ = task := by simpa using hsame
    exact ⟨sim_quiet h (by rw [hq]; exact hweaker), hgenuine⟩
  -- The handler has no stream until it ships, and keeps nothing but the process once it fails.
  cases phase with
  | preparing =>
    refine hquiet _ rfl (.inl ?_) ?_ hstep
    · cases e.outcome <;> rfl
    · cases e.outcome with
      | ok => exact htask
      | busy | err => trivial
  | launching =>
    obtain rfl : stream = none := htask
    simp only [Fleet.sourceStep] at hstep
    by_cases hok : e.outcome = .ok
    · rw [if_pos hok] at hstep
      obtain ⟨w₁, hlaunch, hsame⟩ := Option.map_eq_some_iff.mp hstep
      obtain ⟨rfl, rfl⟩ : w₁ = w' ∧ _ = task := by simpa using hsame
      have hsim := (sim_launch h hlaunch).1 hq
      rw [hok]
      refine ⟨?_, SourcePhase.configNext_genuine w₁ dest e.proc (configSteps false)⟩
      change Sim w q w₁ (SourcePhase.configNext e.proc (configSteps false)).claim
      rw [SourcePhase.configNext_claim]
      exact hsim
    · rw [if_neg hok] at hstep
      cases ho : e.outcome with
      | ok => exact absurd ho hok
      | busy | err => exact hquiet _ rfl (.inl (by rw [ho]; rfl)) (by rw [ho]; trivial) hstep
  | configuring p step rest =>
    obtain rfl : stream = none := htask
    refine hquiet _ rfl ?_ ?_ hstep
    · cases e.outcome with
      | ok => exact .inl (SourcePhase.configNext_claim p rest)
      | busy | err => exact husk_weaker rfl
    · cases e.outcome with
      | ok => exact SourcePhase.configNext_genuine w dest p rest
      | busy | err => trivial
  | booting p =>
    simp only [Fleet.sourceStep] at hstep
    have hgenuine : ∀ w, (Task.sourcing dest ((SourcePhase.booting p).next e.proc e.outcome)
        stream).Genuine w := by
      intro w
      cases e.outcome with
      | ok => exact htask
      | busy | err => trivial
    by_cases hhappened : e.happened
    · rw [if_pos hhappened] at hstep
      obtain ⟨rfl, rfl⟩ : w.startGuest p p = w' ∧ _ = task := by simpa using hstep
      refine ⟨sim_boot h hsound hq ?_, hgenuine _⟩
      cases e.outcome with
      | ok => exact .refl _
      | busy | err => exact husk_weaker rfl
    · rw [if_neg hhappened] at hstep
      refine hquiet _ rfl ?_ (hgenuine w) hstep
      cases ho : e.outcome with
      | ok => exact absurd (.inl ho) hhappened
      | busy | err => exact husk_weaker rfl
  | connecting p | greeting p =>
    refine hquiet _ rfl ?_ ?_ hstep
    · cases e.outcome with
      | ok => exact .refl _
      | busy | err => exact husk_weaker rfl
    · cases e.outcome with
      | ok => exact htask
      | busy | err => trivial
  | draining p =>
    obtain rfl : stream = none := htask
    refine hquiet _ rfl ?_ ?_ hstep
    · cases e.outcome with
      | ok => exact .refl _
      | busy | err => exact husk_weaker rfl
    · cases e.outcome with
      | ok => exact fun σ hσ => by simp at hσ
      | busy | err => trivial
  | shipping p ship =>
    simp only [Fleet.sourceStep] at hstep
    obtain ⟨⟨w₁, stream₁⟩, hship, hsame⟩ := Option.map_eq_some_iff.mp hstep
    obtain ⟨rfl, rfl⟩ : w₁ = w' ∧ _ = task := by simpa using hsame
    obtain ⟨hsim, hstream⟩ := sim_ship h hsound hq htask (fun file ℓ => fileBody_state) hship
      (snapshotFiles [])
    change Sim w q w₁ ((SourcePhase.shipping p ship).next e.proc e.outcome).claim ∧
      (Task.sourcing dest ((SourcePhase.shipping p ship).next e.proc e.outcome) stream₁).Genuine w₁
    simp only [SourcePhase.next]
    cases hnext : ship.next (snapshotFiles []) e.outcome with
    | more ship =>
      rw [hnext] at hsim
      exact ⟨hsim, hstream⟩
    | sent | failed =>
      rw [hnext] at hsim
      exact ⟨hsim, trivial⟩
  | killing p sent =>
    obtain ⟨rfl, rfl⟩ : w.kill p e.killed = w' ∧ _ = task := by
      simpa [Fleet.sourceStep] using hstep
    exact ⟨sim_kill h p e.killed (.inr (.inl rfl)), trivial⟩
  | returned sent =>
    cases sent with
    | true | false =>
      obtain ⟨rfl, rfl⟩ : w = w' ∧ _ = task := by simpa [Fleet.sourceStep] using hstep
      exact ⟨sim_quiet h (.inr (.inl rfl)), trivial⟩

/-- What is looked up among files is one of them. -/
theorem mem_of_lookup {files : Files} {name : String} {body : FileBody}
    (h : files.lookup name = some body) : (name, body) ∈ files := by
  induction files with
  | nil => simp at h
  | cons file files ih =>
    rw [List.lookup_cons] at h
    by_cases hname : name = file.1
    · obtain rfl : file.2 = body := by simpa [hname] using h
      rw [hname]
      exact List.mem_cons_self ..
    · have hbeq : (name == file.1) = false := by simpa using hname
      rw [hbeq] at h
      exact List.mem_cons_of_mem _ (ih h)

/-- A file that a read finds was streamed. -/
theorem Stream.mem_of_item {st : Stream} {read : ℕ} {file : String × FileBody}
    (h : st.item read = some (some file)) : file ∈ st.files := by
  unfold Stream.item at h
  split at h
  · rename_i file' hfile
    obtain rfl : file' = file := by simpa using h
    exact List.mem_of_getElem? hfile
  · split at h <;> simp at h

/-- What a receiver holds after the end of the stream. -/
theorem RecvPhase.received_claim (files : Files) :
    ((RecvPhase.received files).claim (some σ)).Weaker (.parcel σ) ∧
      ∀ files', (RecvPhase.received files).files = some files' → files' = files := by
  unfold RecvPhase.received
  split
  · split
    · exact ⟨.inl rfl, fun _ h => (Option.some_inj.mp h).symm⟩
    · exact ⟨.inl rfl, fun _ h => (Option.some_inj.mp h).symm⟩
  · exact ⟨.inr (.inl rfl), fun _ h => by simp [RecvPhase.files] at h⟩

/-- One operation of `receive_and_restore`. -/
theorem sim_recvStep (h : Genuine w) (hsound : Sound w.custody) {listen : Addr}
    {stream : Option StreamId} {e : Event} {phase : RecvPhase} {task : Task}
    (hq : w.claim q = phase.claim stream)
    (htask : (Task.receiving listen phase stream).Genuine w)
    (hstep : w.recvStep listen stream e phase = some (w', task)) :
    Sim w q w' task.claim ∧ task.Genuine w' := by
  -- A step that leaves the fleet alone receives no file.
  have hquiet : ∀ {next}, some (w, Task.receiving listen next stream) = some (w', task) →
      (next.claim stream).Weaker (phase.claim stream) →
      (∀ files, next.files = some files → phase.files = some files) →
      Sim w q w' task.claim ∧ task.Genuine w' := by
    rintro next hsame hweaker hfiles
    obtain ⟨rfl, rfl⟩ : w = w' ∧ _ = task := by simpa using hsame
    exact ⟨sim_quiet h (by rw [hq]; exact hweaker), fun files hnext => htask files (hfiles _ hnext)⟩
  have hfail : some (w, Task.receiving listen (.returned none) stream) = some (w', task) →
      Sim w q w' task.claim ∧ task.Genuine w' :=
    fun hsame => hquiet hsame (.inr (.inl rfl)) fun _ hfiles => by cases hfiles
  cases phase with
  | preparing =>
    cases ho : e.outcome with
    | ok =>
      simp only [Fleet.recvStep, RecvPhase.next, ho] at hstep
      exact hquiet hstep (.inl rfl) fun _ hfiles => by cases hfiles
    | busy | err =>
      simp only [Fleet.recvStep, RecvPhase.next, ho] at hstep
      exact hfail hstep
  | accepting =>
    simp only [Fleet.recvStep] at hstep
    by_cases hok : e.outcome = .ok
    · rw [if_pos hok] at hstep
      split at hstep
      · rename_i st hst
        split at hstep
        · rename_i hfree
          rw [hok] at hstep
          obtain ⟨rfl, rfl⟩ : w.setStream e.stream { st with accepted := true } = w' ∧
              Task.receiving listen (.reading []) (some e.stream) = task := by
            simpa [RecvPhase.next] using hstep
          refine ⟨sim_accept h hq hst hfree.2, ?_⟩
          intro files hfiles
          obtain rfl : [] = files := Option.some_inj.mp hfiles
          exact ⟨e.stream, _, rfl, w.setStream_self _ _, fun _ hf => by cases hf⟩
        · simp at hstep
      · simp at hstep
    · rw [if_neg hok] at hstep
      cases ho : e.outcome with
      | ok => exact absurd ho hok
      | busy | err =>
        rw [ho] at hstep
        exact hfail hstep
  | reading files =>
    obtain ⟨σ, st, rfl, hst, hall⟩ := htask files rfl
    cases ho : e.outcome with
    | ok =>
      simp only [Fleet.recvStep, ho, if_true, Option.bind_some, hst] at hstep
      cases hitem : st.item files.length with
      | none => simp [hitem] at hstep
      | some item =>
        rw [hitem] at hstep
        cases item with
        | none =>
          obtain ⟨hweaker, hfiles⟩ := RecvPhase.received_claim (σ := σ) files
          exact hquiet hstep hweaker fun files' hnext => by rw [hfiles files' hnext]; rfl
        | some file =>
          obtain ⟨rfl, rfl⟩ : w = w' ∧ Task.receiving listen (.reading (files ++ [file])) (some σ)
            = task := by simpa [RecvPhase.next] using hstep
          refine ⟨sim_quiet h (.inl hq.symm), ?_⟩
          intro files' hfiles
          obtain rfl : files ++ [file] = files' := Option.some_inj.mp hfiles
          refine ⟨σ, st, rfl, hst, fun f hf => ?_⟩
          rcases List.mem_append.mp hf with hf | hf
          · exact hall f hf
          · rw [List.mem_singleton.mp hf]
            exact Stream.mem_of_item hitem
    | busy | err =>
      simp only [Fleet.recvStep, ho] at hstep
      exact hfail hstep
  | readingNet files =>
    cases ho : e.outcome with
    | ok =>
      simp only [Fleet.recvStep, RecvPhase.next, ho] at hstep
      split at hstep
      · exact hquiet hstep (.inl rfl) fun _ hfiles => hfiles
      · exact hfail hstep
    | busy | err =>
      simp only [Fleet.recvStep, RecvPhase.next, ho] at hstep
      exact hfail hstep
  | creatingTap files net | bindingUffd files net =>
    cases ho : e.outcome with
    | ok =>
      simp only [Fleet.recvStep, RecvPhase.next, ho] at hstep
      exact hquiet hstep (.inl rfl) fun _ hfiles => hfiles
    | busy | err =>
      simp only [Fleet.recvStep, RecvPhase.next, ho] at hstep
      exact hfail hstep
  | launching files net =>
    obtain ⟨σ, st, rfl, hst, hall⟩ := htask files rfl
    cases ho : e.outcome with
    | ok =>
      simp only [Fleet.recvStep, RecvPhase.next, ho, if_true] at hstep
      obtain ⟨w₁, hlaunch, hsame⟩ := Option.map_eq_some_iff.mp hstep
      obtain ⟨rfl, rfl⟩ : w₁ = w' ∧
          Task.receiving listen (.loading files net e.proc) (some σ) = task := by
        simpa [Event.fresh] using hsame
      have hsim := (sim_launch h hlaunch).2 σ hq
      exact ⟨hsim, (htask.grows hsim.grows :)⟩
    | busy | err =>
      simp only [Fleet.recvStep, ho] at hstep
      exact hfail hstep
  | loading files net p =>
    obtain ⟨σ, st, rfl, hst, hall⟩ := htask files rfl
    simp only [Fleet.recvStep] at hstep
    have hnext : ∀ fresh item, ((RecvPhase.loading files net p).next item fresh e.outcome).files
        = none := by
      intro fresh item
      cases e.outcome <;> rfl
    split at hstep
    · rename_i ℓ hfile
      -- The file that names the guest was streamed, so it names that of the source.
      have hgenuine := h.streams σ st hst _ (hall _ (mem_of_lookup hfile)) ℓ rfl
      obtain ⟨pr, hpr, hlineage⟩ := hgenuine
      by_cases hhappened : e.happened
      · rw [if_pos hhappened] at hstep
        obtain ⟨rfl, rfl⟩ : w.startGuest p ℓ = w' ∧ _ = task := by simpa using hstep
        refine ⟨sim_load h hsound hq hst hpr hlineage ?_, ?_⟩
        · cases e.outcome with
          | ok => exact .refl _
          | busy | err => exact husk_weaker rfl
        · intro files' hfiles'
          rw [hnext] at hfiles'
          cases hfiles'
      · rw [if_neg hhappened] at hstep
        cases ho : e.outcome with
        | ok => exact absurd (.inl ho) hhappened
        | busy | err =>
          rw [ho] at hstep
          exact hquiet hstep (husk_weaker rfl) fun _ hfiles => by cases hfiles
    · cases ho : e.outcome with
      | ok => simp [ho] at hstep
      | busy | err =>
        simp only [ho] at hstep
        exact hquiet hstep (husk_weaker rfl) fun _ hfiles => by cases hfiles
  | cleaningUp p =>
    obtain ⟨rfl, rfl⟩ : w.kill p e.killed = w' ∧ _ = task := by
      simpa [Fleet.recvStep] using hstep
    exact ⟨sim_kill h p e.killed (.inr (.inl rfl)), fun _ hfiles => by cases hfiles⟩
  | settling vm =>
    exact hquiet hstep (.inl rfl) fun _ hfiles => by cases hfiles
  | returned vm =>
    cases vm with
    | none =>
      obtain ⟨rfl, rfl⟩ : w = w' ∧ _ = task := by simpa [Fleet.recvStep] using hstep
      exact ⟨sim_quiet h (.inr (.inl rfl)), trivial⟩
    | some vm =>
      obtain ⟨rfl, rfl⟩ : w = w' ∧ _ = task := by simpa [Fleet.recvStep] using hstep
      exact ⟨sim_quiet h (.inl hq.symm), trivial⟩

end Operations

/-! ## Runs -/

/-- What holds of every fleet in a run. -/
structure Invariant (w : Fleet) : Prop where
  sound : Sound w.custody
  genuine : Genuine w

section Runs

variable {w w' : Fleet} {h : HandlerId} {host : HostId} {task : Task}

theorem claim_handler (hh : w.handlers h = some (host, task)) :
    w.claim (.handler h) = task.claim := by
  simp [Fleet.claim, hh]

theorem setTask_self (w : Fleet) (h : HandlerId) (host : HostId) (task : Task) :
    (w.setTask h host task).handlers h = some (host, task) := Function.update_self ..

theorem setTask_of_ne (w : Fleet) {h h' : HandlerId} (hne : h' ≠ h) (host : HostId) (task : Task) :
    (w.setTask h host task).handlers h' = w.handlers h' := Function.update_of_ne hne ..

/-- Everything stays genuine when a handler goes on to a genuine task. -/
theorem Genuine.setTask (hgen : Genuine w) (hgrows : Grows w w')
    (hstreams : ∀ σ st, w'.streams σ = some st → st.Genuine w') (htask : task.Genuine w') :
    Genuine (w'.setTask h host task) where
  streams := hstreams
  tasks h' host' task' hh' := by
    by_cases hne : h' = h
    · rw [hne, setTask_self] at hh'
      obtain ⟨rfl, rfl⟩ : host = host' ∧ task = task' := by simpa using hh'
      exact htask
    · rw [setTask_of_ne w' hne, hgrows.handlers] at hh'
      exact ((hgen.tasks h' host' task' hh').grows hgrows :)

/-- A handler that gives a running VM to another place. -/
theorem steps_give {s : Custody.State ProcId StreamId Place} {q q' : Place} {p : ProcId}
    (hne : q ≠ q') (hq : s.claim q = .live p) :
    Steps s ((s.setClaim q' (.live p)).setClaim q .nothing) := by
  have hcomm : (s.setClaim q' (.live p)).setClaim q .nothing
      = (s.setClaim q .nothing).setClaim q' (.live p) := by
    simp [State.setClaim, Function.update_comm hne]
  rw [hcomm]
  exact .single (.give q' hq)

theorem grows_setSlot (w : Fleet) (host : HostId) (id : VmId) (vm : Option RunningVm) :
    Grows w (w.setSlot host id vm) where
  handlers := rfl
  lineage _ pr _ hpr hℓ := ⟨pr, hpr, hℓ⟩
  streams _ st hst := ⟨st, hst, rfl, fun _ hf => hf⟩

/-- `VmRegistry::insert` hands the VM to a slot. A VM that was there is dropped. -/
theorem sim_insert (hgen : Genuine w) {vm : RunningVm} {killed : Bool}
    (hq : w.claim (.handler h) = .live vm.proc) :
    Sim w (.handler h) (w.insert host vm killed) .nothing := by
  have hslot : ∀ w₁ : Fleet, Steps w.custody w₁.custody → w₁.claim = w.claim →
      w₁.streams = w.streams → Grows w w₁ →
      Sim w (.handler h) (w₁.setSlot host vm.id (some vm)) .nothing := by
    intro w₁ hsteps hclaim hstreams hgrows
    refine .of_procs hgen hstreams (hgrows.trans (grows_setSlot w₁ host vm.id _)) ?_
    rw [Fleet.custody_setSlot]
    refine hsteps.trans (steps_give (by simp) ?_)
    change w₁.claim (.handler h) = .live vm.proc
    rw [hclaim, hq]
  unfold Fleet.insert
  split
  · rename_i old _
    exact hslot _ (w.steps_kill old.proc killed) (claim_kill w _ _) (streams_kill w _ _)
      (grows_kill w _ _)
  · exact hslot w .refl rfl rfl (.refl w)

/-- `VmRegistry::take` hands the VM of a slot to the handler. -/
theorem sim_take (hgen : Genuine w) {id : VmId} {dest : Addr}
    (hq : w.claim (.handler h) = .nothing) :
    Sim w (.handler h) (w.take host id dest).1 (w.take host id dest).2.claim ∧
      (w.take host id dest).2.Genuine (w.take host id dest).1 := by
  unfold Fleet.take
  cases hslot : w.registry host id with
  | none => exact ⟨sim_quiet hgen (.inl hq.symm), trivial⟩
  | some vm =>
    refine ⟨?_, fun σ hσ => by cases hσ⟩
    refine .of_procs hgen rfl (grows_setSlot w host id none) ?_
    rw [Fleet.custody_setSlot]
    have hclaim : w.custody.claim (.slot host id) = .live vm.proc := by
      simp [Fleet.custody, Fleet.claim, hslot]
    exact .single (.give (.handler h) hclaim)

/-- One operation of a handler. -/
theorem sim_taskStep (hinv : Invariant w) (hh : w.handlers h = some (host, task)) {e : Event}
    {task' : Task} (hstep : w.taskStep host e task = some (w', task')) :
    Sim w (.handler h) w' task'.claim ∧ task'.Genuine w' := by
  have hq := claim_handler hh
  have htask := hinv.genuine.tasks h host task hh
  cases task with
  | spawning => exact sim_spawnStep hinv.genuine hinv.sound hq hstep
  | taking id dest =>
    obtain ⟨rfl, rfl⟩ : (w.take host id dest).1 = w' ∧ (w.take host id dest).2 = task' := by
      simpa [Fleet.taskStep, Prod.ext_iff] using hstep
    exact sim_take hinv.genuine hq
  | migrating => exact sim_migrateStep hinv.genuine hinv.sound hq htask hstep
  | sourcing => exact sim_sourceStep hinv.genuine hinv.sound hq htask hstep
  | receiving => exact sim_recvStep hinv.genuine hinv.sound hq htask hstep
  | registering vm response =>
    obtain ⟨rfl, rfl⟩ : w.insert host vm e.killed = w' ∧ _ = task' := by
      simpa [Fleet.taskStep] using hstep
    exact ⟨sim_insert hinv.genuine hq, trivial⟩
  | finished => simp [Fleet.taskStep] at hstep

/-- Closing a stream on top of an operation. -/
theorem Sim.close {q : Place} {c : Claim ProcId StreamId} (hsim : Sim w q w' c) (σ : StreamId) :
    Sim w q (w'.modifyStream σ fun st => { st with closed := true }) c :=
  hsim.modifyStream (fun _ => ⟨rfl, rfl, fun _ hf => hf⟩) fun st hst => hsim.streams σ st hst

/-- A cancelled handler gives up what it holds. -/
theorem sim_cancel (hgen : Genuine w) (q : Place) (p : Option ProcId) (σ : Option StreamId)
    (killed : Bool) :
    Sim w q
      (let w := match p with
        | some p => w.kill p killed
        | none => w
      match σ with
      | some σ => w.modifyStream σ fun st => { st with closed := true }
      | none => w) .nothing := by
  have hkill : Sim w q (match p with
      | some p => w.kill p killed
      | none => w) .nothing := by
    cases p with
    | none => exact sim_quiet hgen (.inr (.inl rfl))
    | some p => exact sim_kill hgen p killed (.inr (.inl rfl))
  cases σ with
  | none => exact hkill
  | some σ => exact hkill.close σ

/-- Whatever happens next in a fleet is a few steps of custody. -/
theorem steps_step (hinv : Invariant w) (l : Fleet.Label) :
    Steps w.custody (w.step l).custody ∧ Genuine (w.step l) := by
  have hsame : Steps w.custody w.custody ∧ Genuine w := ⟨.refl, hinv.genuine⟩
  -- A handler that goes on to a task with what an operation left it.
  have hsim : ∀ {w' h host task}, Sim w (.handler h) w' task.claim → task.Genuine w' →
      Steps w.custody (w'.setTask h host task).custody ∧ Genuine (w'.setTask h host task) := by
    intro w' h host task hsim htask
    rw [Fleet.custody_setTask]
    exact ⟨hsim.steps, hinv.genuine.setTask hsim.grows hsim.streams htask⟩
  cases hstep : w.tryStep l with
  | none => simpa [Fleet.step, hstep] using hsame
  | some w₂ =>
    simp only [Fleet.step, hstep, Option.getD_some]
    cases l with
    | request h host request =>
      simp only [Fleet.tryStep] at hstep
      split at hstep
      · rename_i hfree
        obtain rfl : w.setTask h host request.start = w₂ := by simpa using hstep
        have hidle : request.start.claim = .nothing := by cases request <;> rfl
        refine hsim ?_ ?_
        · rw [hidle]
          exact sim_quiet hinv.genuine (.inr (.inl rfl))
        · cases request with
          | recv => exact fun _ hfiles => by cases hfiles
          | spawn | send => trivial
          | sendFresh => rfl
      · simp at hstep
    | event h e =>
      simp only [Fleet.tryStep] at hstep
      split at hstep
      · rename_i host task hh
        obtain ⟨⟨w₁, task'⟩, htask, hset⟩ := Option.map_eq_some_iff.mp hstep
        obtain rfl : w₁.setTask h host task' = w₂ := hset
        obtain ⟨hop, hgenuine⟩ := sim_taskStep hinv hh htask
        exact hsim hop hgenuine
      · simp at hstep
    | cancel h killed =>
      simp only [Fleet.tryStep] at hstep
      split at hstep
      · rename_i host task hh
        obtain rfl := Option.some_inj.mp hstep
        exact hsim (sim_cancel hinv.genuine _ task.proc task.stream killed) trivial
      · simp at hstep

theorem Invariant.empty (bootSecrets : HostId → Bool) : Invariant (Fleet.empty bootSecrets) where
  sound := by
    have hcustody : (Fleet.empty bootSecrets).custody
        = { proc := fun _ => none, parcel := fun _ => none, claim := fun _ => .nothing } := by
      unfold Fleet.custody
      congr 1
      funext q
      cases q <;> rfl
    rw [hcustody]
    exact sound_empty
  genuine := by
    refine ⟨?_, ?_⟩
    · intro σ st hst
      cases hst
    · intro h host task hh
      cases hh

theorem Invariant.step (hinv : Invariant w) (l : Fleet.Label) : Invariant (w.step l) where
  sound := hinv.sound.steps (steps_step hinv l).1
  genuine := (steps_step hinv l).2

theorem Invariant.run (hinv : Invariant w) (ls : List Fleet.Label) : Invariant (w.run ls) := by
  induction ls generalizing w with
  | nil => exact hinv
  | cons l ls ih => exact ih (hinv.step l)

/-- A run of the fleet is a run of custody. -/
theorem steps_run (hinv : Invariant w) (ls : List Fleet.Label) :
    Steps w.custody (w.run ls).custody := by
  induction ls generalizing w with
  | nil => exact .refl
  | cons l ls ih => exact (steps_step hinv l).1.trans (ih (hinv.step l))

end Runs

/-! ## No split brain -/

namespace Fleet

/-- A process that was paused and does not run. -/
def Paused (w : Fleet) (p : ProcId) : Prop :=
  ∃ pr, w.procs p = some pr ∧ pr.wasPaused = true ∧ pr.running = false

/-- A registry slot or a handler that has a process. -/
def Holds (w : Fleet) (p : ProcId) : Place → Prop
  | .slot host id => ∃ vm, w.registry host id = some vm ∧ vm.proc = p
  | .handler h => ∃ host task, w.handlers h = some (host, task) ∧ task.proc = some p

/-- The VM of a `migrate_running` that returned `StoodDown`, until it is back in the registry. -/
def StoodDown (w : Fleet) (vm : RunningVm) : Prop :=
  ∃ h host, (∃ dest stream,
      w.handlers h = some (host, .migrating dest vm (.returned .stoodDown) stream)) ∨
    w.handlers h = some (host, .registering vm .stoodDown)

/-- No VM is in two places. -/
structure NoSplitBrain (w : Fleet) : Prop where
  /-- No two processes run the guest of one lineage. -/
  one_runner : ∀ p p' pr pr', w.procs p = some pr → w.procs p' = some pr' → pr.running = true →
    pr'.running = true → pr.lineage = pr'.lineage → p = p'
  /-- A snapshot is only streamed from a paused process. -/
  source_paused : ∀ σ st, w.streams σ = some st → w.Paused st.source
  /-- A migration that stood down never paused its VM. -/
  stood_down : ∀ vm, w.StoodDown vm → ¬ w.Paused vm.proc
  /-- At most one registry slot or handler has a process. -/
  one_holder : ∀ p q q', w.Holds p q → w.Holds p q' → q = q'

end Fleet

section

variable {w : Fleet}

theorem paused_iff (hsound : Sound w.custody) (p : ProcId) :
    w.Paused p ↔ w.custody.Paused p :=
  ⟨fun ⟨pr, hpr, hpaused, _⟩ => ⟨pr, hpr, hpaused⟩,
    fun ⟨pr, hpr, hpaused⟩ => ⟨pr, hpr, hpaused, hsound.paused hpr hpaused⟩⟩

/-- What a handler holds is a claim on its process. -/
theorem Task.claim_proc {task : Task} {p : ProcId} (hgen : task.Genuine w)
    (hp : task.proc = some p) : task.claim.proc = some p := by
  cases task with
  | spawning networked id vsockUds phase =>
    cases phase with
    | returned vm => cases vm <;> exact hp
    | _ => exact hp
  | migrating dest vm phase stream =>
    cases phase with
    | shipping phase => cases phase <;> exact hp
    | returned result => cases result <;> exact hp
    | _ => exact hp
  | sourcing dest phase stream =>
    cases phase with
    | shipping p phase => cases phase <;> exact hp
    | _ => exact hp
  | receiving listen phase stream =>
    cases phase with
    | loading files net p =>
      obtain ⟨σ, _, rfl, -⟩ := hgen files rfl
      exact hp
    | returned vm => cases vm <;> exact hp
    | _ => first | exact hp | cases hp
  | registering vm response => exact hp
  | taking id dest | finished response => cases hp

/-- What a slot or a handler has is what it has in custody. -/
theorem claim_of_holds (hinv : Invariant w) {p : ProcId} {q : Place} (hq : w.Holds p q) :
    (w.custody.claim q).proc = some p := by
  change (w.claim q).proc = some p
  cases q with
  | slot host id =>
    obtain ⟨vm, hslot, rfl⟩ := hq
    simp [Fleet.claim, hslot, Claim.proc]
  | handler h =>
    obtain ⟨host, task, hh, hp⟩ := hq
    rw [claim_handler hh]
    exact Task.claim_proc (hinv.genuine.tasks h host task hh) hp

theorem Invariant.noSplitBrain (hinv : Invariant w) : w.NoSplitBrain where
  one_runner _ _ _ _ hp hp' hrun hrun' hsame := hinv.sound.unique hp hp' hrun hrun' hsame
  source_paused σ st hst := by
    have hparcel : w.custody.parcel σ = some { source := st.source, taken := st.accepted } := by
      simp [Fleet.custody, hst]
    obtain ⟨pr, -, hpr, -, hpaused⟩ := hinv.sound.source hparcel
    exact (paused_iff hinv.sound _).mpr ⟨pr, hpr, hpaused⟩
  stood_down vm hstood := by
    rintro ⟨pr, hpr, hpaused, -⟩
    obtain ⟨h, host, hh⟩ := hstood
    have hclaim : w.custody.claim (.handler h) = .live vm.proc := by
      obtain ⟨dest, stream, hh⟩ | hh := hh
      · exact claim_handler hh
      · exact claim_handler hh
    obtain ⟨pr', hpr', hnever⟩ := hinv.sound.live_not_paused hclaim
    obtain rfl := Option.some_inj.mp (hpr.symm.trans hpr')
    simp [hpaused] at hnever
  one_holder p q q' hq hq' :=
    hinv.sound.holder_unique (claim_of_holds hinv hq) (claim_of_holds hinv hq')

end

/-- In no run of any number of hosts is a VM in two places, and once its process is paused, as it
is from before the first streamed byte on, nothing ever resumes that process. -/
theorem no_split_brain (bootSecrets : HostId → Bool) (ls ls' : List Fleet.Label) :
    ((Fleet.empty bootSecrets).run ls).NoSplitBrain ∧
      ∀ p, ((Fleet.empty bootSecrets).run ls).Paused p →
        ((Fleet.empty bootSecrets).run (ls ++ ls')).Paused p := by
  have hinv := (Invariant.empty bootSecrets).run ls
  refine ⟨hinv.noSplitBrain, fun p hpaused => ?_⟩
  have hlater := steps_run hinv ls'
  rw [paused_iff hinv.sound] at hpaused
  rw [Fleet.run, List.foldl_append]
  exact (paused_iff (hinv.run ls').sound p).mpr (hinv.sound.steps_paused hpaused hlater)

end Sleepwalk.Hostd
