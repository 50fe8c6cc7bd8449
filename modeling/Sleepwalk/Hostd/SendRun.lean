import Sleepwalk.Hostd.Overlay
import Sleepwalk.Hostd.Telemetry

/-!
# Running the program of a migration

`migrate_running` is there twice: as the `SendPhase` program, for the models that interleave it with
other programs, and as the computation `migrateRunning`, for those that look at what it says and
returns. Here the program is run with the outcomes that a `Source` gives to its operations. Every
such run goes on until the program returns or waits for good, and the computation ends as the run
does, after the same effects (`runs_migrateRunning`).

On the overlay a move is one step. To the registry of its source that step does what the handler of
`/migrate/send` does, which runs the computation (`vms_migrate`).
-/

namespace Sleepwalk.Hostd

open Exec Proto

/-- How an operation turns out, if it completes. -/
def answer {ε α : Type} : Except (Stop ε) α → Option Outcome
  | .ok _ => some .ok
  | .error (.failed _) => some .err
  | .error .stuck => none

/-- How an operation turns out that always completes. -/
def finished {ε α : Type} : Except ε α → Option Outcome
  | .ok _ => some .ok
  | .error _ => some .err

/-- How the wait for an ack turns out, which has a deadline. -/
def acked : Except LinkError (Option TurnId) → Option Outcome
  | .ok none => some .ok
  | .ok (some _) => some .busy
  | .error _ => some .err

namespace SendPhase

/-- The operations of a transfer but the last one. -/
def beforeEnd : SendPhase → Bool
  | .shipping .dialing | .shipping (.sending _ _) => true
  | _ => false

theorem eq_of_beforeEnd {phase : SendPhase} (h : phase.beforeEnd = true) :
    phase = .shipping .dialing ∨ ∃ file rest, phase = .shipping (.sending file rest) := by
  rcases phase with _ | _ | _ | _ | _ | _ | _ | _ | (_ | _ | _ | ⟨file, rest⟩ | _) | _ | _
  case shipping.dialing => exact Or.inl rfl
  case shipping.sending => exact Or.inr ⟨file, rest, rfl⟩
  all_goals cases h

/-- What a phase does besides waiting. -/
def pass (peer : Peer) (s : SourceState) : SendPhase → SourceState
  | .handingSecrets => { s with delivered := s.delivered ++ peer.secrets.got (.secrets []) }
  | .requesting =>
    { s with delivered := s.delivered ++ peer.request.got (.drainRequest DRAIN_DEADLINE) }
  | .cancelling => { s with delivered := s.delivered ++ peer.cancel.got .drainCancel }
  | .shipping .pausing => { s with paused := true }
  | .tearingDown _ => { s with tornDown := true }
  | _ => s

/-- What `migrate_running` has returned in a phase. In most it waits. -/
inductive Yields (vm : RunningVm) :
    SendPhase → Except (Stop MigrateError) MigrateOutcome → Prop where
  | moved : Yields vm (.returned .moved) (.ok .moved)
  | stoodDown : Yields vm (.returned .stoodDown) (.ok (.stoodDown vm))
  | failed (e : MigrateError) : Yields vm (.returned .failed) (.error (.failed e))
  | waits {phase : SendPhase} (h : ∀ result, phase ≠ .returned result) :
    Yields vm phase (.error .stuck)

end SendPhase

section Runs

variable (parsers : Parsers) (src : Source) (vm : RunningVm)

/-- How the operation of a phase turns out. A transfer is one operation of the source. -/
def Source.outcome : SendPhase → Option Outcome
  | .connecting => answer (connectRetry .noAttempt (src.dials vm))
  | .greeting => src.peer.hello.map fun next =>
    match GuestLink.recv parsers next with
    | .ok (.hello _ _) => .ok
    | _ => .err
  | .handingSecrets => answer src.peer.secrets.result
  | .requesting => answer src.peer.request.result
  | .awaitingAck => acked (GuestLink.awaitAck parsers src.peer.incoming)
  | .cancelling => answer src.peer.cancel.result
  | .writingVsock => finished src.writeVsock
  | .writingNet => finished (src.serializeNet.bind fun _ => src.writeNet)
  | .shipping .pausing => answer src.pause
  | .shipping .snapshotting => answer src.snapshot
  | .shipping _ => answer src.transfer
  | .tearingDown _ => some .ok
  | .returned _ => none

/-- The program can find the operation of a phase to turn out so, or to hang. A transfer that fails
or hangs does so anywhere, and what comes before works. -/
def Source.Answers (phase : SendPhase) (o : Option Outcome) : Prop :=
  o = src.outcome parsers vm phase ∨ (phase.beforeEnd = true ∧ o = some .ok)

/-- A run of the program, with the phases that it goes through and the last of them. -/
inductive Source.Runs : SendPhase → List SendPhase → SendPhase → Prop where
  | last {phase : SendPhase} (h : src.Answers parsers vm phase none) : Runs phase [phase] phase
  | next {phase last : SendPhase} {o : Outcome} {phases : List SendPhase}
    (h : src.Answers parsers vm phase (some o)) (hrest : Runs (phase.next vm o) phases last) :
    Runs phase (phase :: phases) last

variable {parsers src vm} {phase last : SendPhase} {phases : List SendPhase} {o : Outcome}

theorem Source.Runs.stops (h : src.Runs parsers vm phase phases last)
    (hphase : phase.beforeEnd = false) (hnone : src.outcome parsers vm phase = none) :
    phases = [phase] ∧ last = phase := by
  cases h with
  | last => exact ⟨rfl, rfl⟩
  | next h _ =>
    obtain h | ⟨h, -⟩ := h
    · cases h.trans hnone
    · cases h.symm.trans hphase

theorem Source.Runs.goes (h : src.Runs parsers vm phase phases last)
    (hphase : phase.beforeEnd = false) (hsome : src.outcome parsers vm phase = some o) :
    ∃ rest, phases = phase :: rest ∧ src.Runs parsers vm (phase.next vm o) rest last := by
  cases h with
  | last h =>
    obtain h | ⟨h, -⟩ := h
    · cases h.trans hsome
    · cases h.symm.trans hphase
  | next h hrest =>
    obtain h | ⟨h, -⟩ := h
    · obtain rfl := Option.some_inj.mp (h.trans hsome)
      exact ⟨_, rfl, hrest⟩
    · cases h.symm.trans hphase

/-- A program that has returned does not go on. -/
theorem Source.Runs.returned {result : MigrateResult}
    (h : src.Runs parsers vm (.returned result) phases last) :
    phases = [.returned result] ∧ last = .returned result :=
  h.stops rfl rfl

/-- A program that stands down hands the VM back. -/
theorem Source.Runs.stoodDown (h : src.Runs parsers vm (.returned .stoodDown) phases last) :
    phases = [.returned .stoodDown] ∧ last.Yields vm (.ok (.stoodDown vm)) := by
  obtain ⟨rfl, rfl⟩ := h.returned
  exact ⟨rfl, .stoodDown⟩

/-- A run gets as far as it can. -/
theorem exists_runs (parsers : Parsers) (src : Source) (vm : RunningVm) (phase : SendPhase) :
    ∃ phases last, src.Runs parsers vm phase phases last := by
  induction hn : phase.remaining using Nat.strong_induction_on generalizing phase with
  | _ n ih =>
    subst hn
    cases ho : src.outcome parsers vm phase with
    | none => exact ⟨_, _, .last (.inl ho.symm)⟩
    | some o =>
      -- A phase that has an outcome is not the end, and the next one is nearer to it.
      have hphase : ∀ result, phase ≠ .returned result := by
        rintro result rfl
        cases ho
      obtain ⟨phases, last, hruns⟩ := ih _ (SendPhase.remaining_next vm o hphase) _ rfl
      exact ⟨_, _, .next (.inl ho.symm) hruns⟩

/-! ## Phase by phase -/

variable (parsers src vm)

/-- The computation ends as every run of the program from here does, after the same effects. -/
def Models (phase : SendPhase) (m : SourceM MigrateOutcome) : Prop :=
  ∀ phases last, src.Runs parsers vm phase phases last → ∀ s,
    ∃ r, exec m s = (r, phases.foldl (SendPhase.pass src.peer) s) ∧ last.Yields vm r

variable {parsers src vm}

variable (parsers src vm) in
/-- The rest of a run in a transfer goes all the way to the teardown, or it hangs. -/
def Ships (phases : List SendPhase) (last : SendPhase) : Prop :=
  ∃ before after, phases = before ++ after ∧
    (∀ s, before.foldl (SendPhase.pass src.peer) s = s) ∧
    match answer src.transfer with
    | some o => src.Runs parsers vm (.tearingDown (o = .ok)) after last
    | none => after = [] ∧ ∀ result, last ≠ .returned result

theorem Ships.cons (h : Ships parsers src vm phases last)
    (hpass : ∀ s, phase.pass src.peer s = s) : Ships parsers src vm (phase :: phases) last := by
  obtain ⟨before, after, rfl, hbefore, hafter⟩ := h
  refine ⟨phase :: before, after, rfl, fun s => ?_, hafter⟩
  rw [List.foldl_cons, hpass, hbefore]

theorem ships_finishing (h : src.Runs parsers vm (.shipping .finishing) phases last) :
    Ships parsers src vm phases last := by
  cases htransfer : answer src.transfer with
  | none =>
    obtain ⟨rfl, rfl⟩ := h.stops rfl htransfer
    refine ⟨[_], [], rfl, fun _ => rfl, ?_⟩
    rw [htransfer]
    exact ⟨rfl, by simp⟩
  | some o =>
    obtain ⟨rest, rfl, hrest⟩ := h.goes rfl htransfer
    refine ⟨[_], rest, rfl, fun _ => rfl, ?_⟩
    rw [htransfer]
    cases o <;> exact hrest

/-- A part of a transfer that works leads on, and one that fails or hangs ends it. -/
theorem ships_part (h : src.Runs parsers vm phase phases last) (hphase : phase.beforeEnd = true)
    (hnext : ∀ rest, src.Runs parsers vm (phase.next vm .ok) rest last →
      Ships parsers src vm rest last) :
    Ships parsers src vm phases last := by
  obtain ⟨houtcome, hpass, hfails⟩ : src.outcome parsers vm phase = answer src.transfer ∧
      (∀ s, phase.pass src.peer s = s) ∧ ∀ o ≠ .ok, phase.next vm o = .tearingDown false := by
    rcases SendPhase.eq_of_beforeEnd hphase with rfl | ⟨file, rest, rfl⟩
    all_goals
      refine ⟨rfl, fun _ => rfl, fun o ho => ?_⟩
      cases o with
      | ok => exact absurd rfl ho
      | busy | err => rfl
  cases h with
  | last h =>
    -- A part that hangs is where the transfer hangs.
    obtain h | ⟨-, h⟩ := h
    · refine ⟨[phase], [], rfl, hpass, ?_⟩
      rw [← houtcome, ← h]
      refine ⟨rfl, ?_⟩
      rintro result rfl
      cases hphase
    · cases h
  | @next _ _ o _ h hrest =>
    by_cases hok : o = .ok
    · -- One that works says nothing yet of the transfer.
      subst hok
      exact (hnext _ hrest).cons hpass
    · obtain h | ⟨-, h⟩ := h
      · refine ⟨[phase], _, rfl, hpass, ?_⟩
        rw [← houtcome, ← h]
        rw [hfails o hok] at hrest
        simpa [hok] using hrest
      · exact absurd (Option.some_inj.mp h) hok

theorem ships_sendNext (files : List String) {phases : List SendPhase}
    (h : src.Runs parsers vm (.shipping (ShipPhase.sendNext files)) phases last) :
    Ships parsers src vm phases last := by
  induction files generalizing phases with
  | nil => exact ships_finishing h
  | cons file files ih => exact ships_part h rfl fun rest hrest => ih hrest

theorem ships_dialing (h : src.Runs parsers vm (.shipping .dialing) phases last) :
    Ships parsers src vm phases last :=
  ships_part h rfl fun _ hrest => ships_sendNext _ hrest

/-- A failure ends in a teardown. -/
theorem models_failed {m : SourceM MigrateOutcome} {e : MigrateError}
    (hexec : ∀ s, exec m s = (.error (.failed e), { s with tornDown := true })) :
    Models parsers src vm (.tearingDown false) m := by
  intro phases last h s
  obtain ⟨rest, rfl, hrest⟩ := h.goes rfl rfl
  have hreturned : src.Runs parsers vm (.returned .failed) rest last := hrest
  obtain ⟨rfl, rfl⟩ := hreturned.returned
  exact ⟨_, hexec s, .failed e⟩

/-- And so does a success. -/
theorem models_moved : Models parsers src vm (.tearingDown true) (do
    teardown
    return .moved) := by
  intro phases last h s
  obtain ⟨rest, rfl, hrest⟩ := h.goes rfl rfl
  have hreturned : src.Runs parsers vm (.returned .moved) rest last := hrest
  obtain ⟨rfl, rfl⟩ := hreturned.returned
  exact ⟨_, rfl, .moved⟩

/-- What a migration does with the files written. -/
def shipAndTearDown (src : Source) : SourceM MigrateOutcome := do
  let sent ← (attempt (snapshotAndSend src) : SourceM (Except MigrateError Unit))
  teardown
  match sent with
  | .ok () => return .moved
  | .error e => throw (.failed e)

theorem models_shipAndTearDown :
    Models parsers src vm (.shipping .pausing) (shipAndTearDown src) := by
  intro phases last h s
  rw [shipAndTearDown, exec_bind, exec_attempt, snapshotAndSend, exec_bind, exec_modify]
  dsimp only
  rw [exec_bind, exec_outcome]
  -- Each operation that works leads to the next one; one that fails leads to the teardown.
  rcases hpause : src.pause with (e | _) | _
  · obtain ⟨rest, rfl, hfailed⟩ := h.goes rfl (congrArg answer hpause)
    exact models_failed (fun _ => rfl) rest last hfailed _
  · obtain ⟨rfl, rfl⟩ := h.stops rfl (congrArg answer hpause)
    exact ⟨_, rfl, .waits (by simp)⟩
  obtain ⟨rest, rfl, hnext⟩ := h.goes rfl (congrArg answer hpause)
  have hpaused : src.Runs parsers vm (.shipping .snapshotting) rest last := hnext
  dsimp only
  rw [exec_bind, exec_outcome]
  rcases hsnapshot : src.snapshot with (e | _) | _
  · obtain ⟨rest', rfl, hfailed⟩ := hpaused.goes rfl (congrArg answer hsnapshot)
    exact models_failed (fun _ => rfl) rest' last hfailed _
  · obtain ⟨rfl, rfl⟩ := hpaused.stops rfl (congrArg answer hsnapshot)
    exact ⟨_, rfl, .waits (by simp)⟩
  obtain ⟨rest', rfl, hwritten⟩ := hpaused.goes rfl (congrArg answer hsnapshot)
  obtain ⟨before, after, rfl, hbefore, hafter⟩ := ships_dialing hwritten
  rw [List.foldl_cons, List.foldl_cons, List.foldl_append, hbefore]
  dsimp only
  rw [exec_outcome]
  rcases htransfer : src.transfer with (e | _) | _
  · rw [htransfer] at hafter
    exact models_failed (fun _ => rfl) after last hafter _
  · rw [htransfer] at hafter
    obtain ⟨rfl, hlast⟩ := hafter
    exact ⟨_, rfl, .waits hlast⟩
  · rw [htransfer] at hafter
    exact models_moved after last hafter _

/-- The metadata, and what follows. -/
theorem models_writingVsock : Models parsers src vm .writingVsock (do
    writeMetadata src vm
    shipAndTearDown src) := by
  intro phases last h s
  rw [writeMetadata]
  -- `net.txt` is written for a VM with a network only.
  rcases hvsock : src.writeVsock with e | _
  · obtain ⟨rest, rfl, hfailed⟩ := h.goes rfl (congrArg finished hvsock)
    exact models_failed (fun _ => rfl) rest last hfailed s
  obtain ⟨rest, rfl, hwritten⟩ := h.goes rfl (congrArg finished hvsock)
  cases hnet : vm.net.isSome with
  | false =>
    have hnext : SendPhase.writingVsock.next vm .ok = .shipping .pausing := by
      simp [SendPhase.next, hnet]
    rw [hnext] at hwritten
    exact models_shipAndTearDown rest last hwritten s
  | true =>
    have hnext : SendPhase.writingVsock.next vm .ok = .writingNet := by
      simp [SendPhase.next, hnet]
    rw [hnext] at hwritten
    have houtcome : src.outcome parsers vm .writingNet =
      finished (src.serializeNet.bind fun _ => src.writeNet) := rfl
    rcases hserialize : src.serializeNet with e | _
    · rw [hserialize] at houtcome
      obtain ⟨rest', rfl, hfailed⟩ := hwritten.goes rfl houtcome
      exact models_failed (fun _ => rfl) rest' last hfailed s
    rw [hserialize] at houtcome
    rcases hwrite : src.writeNet with e | _
    · rw [hwrite] at houtcome
      obtain ⟨rest', rfl, hfailed⟩ := hwritten.goes rfl houtcome
      exact models_failed (fun _ => rfl) rest' last hfailed s
    · rw [hwrite] at houtcome
      obtain ⟨rest', rfl, hshipping⟩ := hwritten.goes rfl houtcome
      exact models_shipAndTearDown rest' last hshipping s

/-- What a migration does with the guest's answer. -/
def afterDrain (src : Source) (vm : RunningVm) :
    Except IoError DrainState → SourceM MigrateOutcome
  | .error _ => return .stoodDown vm
  | .ok .busy => return .stoodDown vm
  | .ok .quiescent => do
    writeMetadata src vm
    shipAndTearDown src

theorem outcome_greeting (hgreets : src.peer.Greets parsers) :
    src.outcome parsers vm .greeting = some .ok := by
  obtain ⟨next, vmId, version, hhello, hrecv⟩ := hgreets
  rw [Source.outcome, hhello, Option.map_some, hrecv]

theorem outcome_greeting_err {next : Incoming} (hhello : src.peer.hello = some next)
    (hgreets : ¬ src.peer.Greets parsers) : src.outcome parsers vm .greeting = some .err := by
  rw [Source.outcome, hhello, Option.map_some]
  split
  · rename_i vmId version hrecv
    exact absurd ⟨next, vmId, version, hhello, hrecv⟩ hgreets
  · rfl

/-- A run up to the request. -/
theorem Source.Runs.shakes (h : src.Runs parsers vm .greeting phases last)
    (hshakes : src.peer.Shakes parsers) : ∃ rest, phases = .greeting :: .handingSecrets :: rest ∧
      src.Runs parsers vm .requesting rest last := by
  obtain ⟨rest, rfl, hgreeted⟩ := h.goes rfl (outcome_greeting hshakes.1)
  have hsecrets : src.Runs parsers vm .handingSecrets rest last := hgreeted
  obtain ⟨rest, rfl, hshook⟩ := hsecrets.goes rfl (congrArg answer hshakes.2)
  exact ⟨rest, rfl, hshook⟩

/-- A run up to the ack. -/
theorem Source.Runs.requested (h : src.Runs parsers vm .greeting phases last)
    (hshakes : src.peer.Shakes parsers) (hrequest : src.peer.request.result = .ok ()) :
    ∃ rest, phases = .greeting :: .handingSecrets :: .requesting :: rest ∧
      src.Runs parsers vm .awaitingAck rest last := by
  obtain ⟨rest, rfl, hshook⟩ := h.shakes hshakes
  obtain ⟨rest, rfl, hrequested⟩ := hshook.goes rfl (congrArg answer hrequest)
  exact ⟨rest, rfl, hrequested⟩

/-- The drain, and what follows. -/
theorem models_greeting : Models parsers src vm .greeting (do
    let drained ← attempt (onLink (drainToQuiescence parsers src.peer))
    afterDrain src vm drained) := by
  intro phases last h s
  obtain ⟨r, l, hdrain, hrun⟩ := drainRun parsers src.peer s.delivered
  rw [exec_bind, exec_attempt, exec_onLink, hdrain]
  -- Each way that the drain can go is one way through the phases.
  cases hrun with
  | unheard hhello =>
    obtain ⟨rfl, rfl⟩ := h.stops rfl (by rw [Source.outcome, hhello]; rfl)
    exact ⟨_, by simp [SendPhase.pass], .waits (by simp)⟩
  | rejected hhello hgreets =>
    obtain ⟨rest, rfl, hrejected⟩ := h.goes rfl (outcome_greeting_err hhello hgreets)
    obtain ⟨rfl, hyields⟩ := Source.Runs.stoodDown hrejected
    exact ⟨_, by simp [SendPhase.pass, afterDrain], hyields⟩
  | @unanswered e hgreets hsecrets =>
    obtain ⟨rest, rfl, hgreeted⟩ := h.goes rfl (outcome_greeting hgreets)
    have hsending : src.Runs parsers vm .handingSecrets rest last := hgreeted
    rcases e with e | _
    · obtain ⟨rest, rfl, hrejected⟩ := hsending.goes rfl (congrArg answer hsecrets)
      obtain ⟨rfl, hyields⟩ := Source.Runs.stoodDown hrejected
      exact ⟨_, rfl, hyields⟩
    · obtain ⟨rfl, rfl⟩ := hsending.stops rfl (congrArg answer hsecrets)
      exact ⟨_, rfl, .waits (by simp)⟩
  | @unrequested e hshakes hrequest =>
    obtain ⟨rest, rfl, hsending⟩ := h.shakes hshakes
    rcases e with e | _
    · obtain ⟨rest, rfl, hrejected⟩ := hsending.goes rfl (congrArg answer hrequest)
      obtain ⟨rfl, hyields⟩ := Source.Runs.stoodDown hrejected
      exact ⟨_, by simp [SendPhase.pass, afterDrain], hyields⟩
    · obtain ⟨rfl, rfl⟩ := hsending.stops rfl (congrArg answer hrequest)
      exact ⟨_, by simp [SendPhase.pass], .waits (by simp)⟩
  | unacked hshakes hrequest hack =>
    obtain ⟨rest, rfl, hwaiting⟩ := h.requested hshakes hrequest
    obtain ⟨rest, rfl, hrejected⟩ := hwaiting.goes rfl (congrArg acked hack)
    obtain ⟨rfl, hyields⟩ := Source.Runs.stoodDown hrejected
    exact ⟨_, by simp [SendPhase.pass, afterDrain], hyields⟩
  | quiescent hshakes hrequest hack =>
    obtain ⟨rest, rfl, hwaiting⟩ := h.requested hshakes hrequest
    obtain ⟨rest, rfl, hdrained⟩ := hwaiting.goes rfl (congrArg acked hack)
    obtain ⟨r, hexec, hyields⟩ := models_writingVsock rest last hdrained
      { s with delivered := s.delivered ++ (src.peer.secrets.got (.secrets []) ++
        src.peer.request.got (.drainRequest DRAIN_DEADLINE)) }
    refine ⟨r, hexec.trans ?_, hyields⟩
    simp [SendPhase.pass]
  | busy hshakes hrequest hack hcancel =>
    obtain ⟨rest, rfl, hwaiting⟩ := h.requested hshakes hrequest
    obtain ⟨rest, rfl, hbusy⟩ := hwaiting.goes rfl (congrArg acked hack)
    have hcancelling : src.Runs parsers vm .cancelling rest last := hbusy
    rcases hresult : src.peer.cancel.result with (e | _) | _
    · obtain ⟨rest, rfl, hrejected⟩ := hcancelling.goes rfl (congrArg answer hresult)
      obtain ⟨rfl, hyields⟩ := Source.Runs.stoodDown hrejected
      exact ⟨_, by simp [SendPhase.pass, afterDrain], hyields⟩
    · exact absurd hresult hcancel
    · obtain ⟨rest, rfl, hrejected⟩ := hcancelling.goes rfl (congrArg answer hresult)
      obtain ⟨rfl, hyields⟩ := Source.Runs.stoodDown hrejected
      exact ⟨_, by simp [SendPhase.pass, afterDrain], hyields⟩
  | uncancelled hshakes hrequest hack hcancel =>
    obtain ⟨rest, rfl, hwaiting⟩ := h.requested hshakes hrequest
    obtain ⟨rest, rfl, hbusy⟩ := hwaiting.goes rfl (congrArg acked hack)
    have hcancelling : src.Runs parsers vm .cancelling rest last := hbusy
    obtain ⟨rfl, rfl⟩ := hcancelling.stops rfl (congrArg answer hcancel)
    exact ⟨_, by simp [SendPhase.pass], .waits (by simp)⟩

/-- The computation ends as every run of the program does: with its result, or waiting where the run
waits, and after the same effects. -/
theorem runs_migrateRunning :
    Models parsers src vm .connecting (migrateRunning parsers src vm) := by
  intro phases last h s
  rw [migrateRunning, exec_bind, exec_attempt, exec_outcome]
  rcases hdial : connectRetry .noAttempt (src.dials vm) with (e | _) | _
  · obtain ⟨rest, rfl, hrest⟩ := h.goes rfl (congrArg answer hdial)
    obtain ⟨rfl, hyields⟩ := Source.Runs.stoodDown hrest
    exact ⟨_, rfl, hyields⟩
  · obtain ⟨rfl, rfl⟩ := h.stops rfl (congrArg answer hdial)
    exact ⟨_, rfl, .waits (by simp)⟩
  · obtain ⟨rest, rfl, hconnected⟩ := h.goes rfl (congrArg answer hdial)
    exact models_greeting rest last hconnected s

end Runs

/-! ## Moves in one step -/

namespace Overlay

open Telemetry (migrateSend)

/-- What a move does to the registry of its source. -/
theorem vms_source {hasher : Transfer.Hasher} {codec : Codec} {source target : HostId} {id : VmId}
    {m : Transit} {σ : Daemons} {vm : SizedVm} (hne : source ≠ target)
    (hfound : (σ source).vms id = some vm) :
    ((migrate hasher codec source target id m σ).2 source).vms =
      if m.drains then Function.update (σ source).vms id none else (σ source).vms := by
  have hteardown : ∀ d : Daemon, (teardown m.untapped vm d).vms = d.vms := by
    intro d
    rw [teardown]
    split <;> rfl
  rw [migrate, take, hfound]
  dsimp only
  split
  · split
    · dsimp only
      rw [Function.update_self, hteardown]
    · dsimp only
      rw [Function.update_of_ne hne, Function.update_self, hteardown]
  · rfl

/-- A move leaves the registry of its source as the handler does, if the VM is the one that the
request is for, and the move drains its guest exactly if the handler's migration does not hand the
VM back. -/
theorem vms_migrate {hasher : Transfer.Hasher} {codec : Codec} {parsers : Parsers}
    {parseUuid : String → Option (BitVec 128)} {source target : HostId} {id : VmId} {m : Transit}
    {σ : Daemons} {d : Telemetry.Daemon} {req : Telemetry.Request} {text : String}
    (hne : source ≠ target) (hdest : req.dest.isSome = true) (hvm : req.vm = some text)
    (huuid : parseUuid text = some id.uuid)
    (hids : ∀ id vm, (σ source).vms id = some vm → vm.id = id)
    (hvms : ∀ id, d.vms id = ((σ source).vms id).map SizedVm.toRunningVm)
    (hdrains : ∀ running, d.vms id = some running → (m.drains = false ↔
      (exec (migrateRunning parsers req.src running) {}).1 = .ok (.stoodDown running)))
    (id' : VmId) :
    (migrateSend parseUuid parsers req d).2.vms id' =
      (((migrate hasher codec source target id m σ).2 source).vms id').map SizedVm.toRunningVm := by
  obtain ⟨addr, hdest⟩ := Option.isSome_iff_exists.mp hdest
  cases hfound : (σ source).vms id with
  | none =>
    have hnone : d.vms id = none := by rw [hvms, hfound, Option.map_none]
    simp only [migrateSend, hdest, hvm, huuid, hnone, migrate, take, hfound, hvms]
  | some vm =>
    have hsome : d.vms id = some vm.toRunningVm := by rw [hvms, hfound, Option.map_some]
    obtain ⟨r, s, t, hplain, hmetered, htold⟩ : ∃ r s t,
        exec (migrateRunning parsers req.src vm.toRunningVm) {} = (r, s) ∧
        exec (Telemetry.migrateRunning parsers req.src req.timing vm.toRunningVm) ({}, d.metrics) =
          (r, (s, t)) ∧
        Telemetry.Told parsers req.src req.timing vm.toRunningVm d.metrics r t :=
      Telemetry.told d.metrics
    have hiff := hdrains _ hsome
    rw [hplain] at hiff
    have hgone : Function.update d.vms id none id' =
        (Function.update (σ source).vms id none id').map SizedVm.toRunningVm := by
      rw [Function.update_apply, Function.update_apply, hvms]
      split <;> rfl
    rw [vms_source hne hfound]
    simp only [migrateSend, hdest, hvm, huuid, hsome, hmetered]
    cases htold with
    | stoodDown =>
      rw [hiff.mpr rfl, if_neg Bool.false_ne_true, ← hvms]
      have hid : vm.toRunningVm.id = id := hids id vm hfound
      dsimp only
      rw [hid, Function.update_idem, ← hsome, Function.update_eq_self]
    | moved | stuck | unwritten | lost =>
      have hdrained : m.drains = true := by
        rw [← Bool.not_eq_false, hiff]
        rintro ⟨⟩
      rw [hdrained, if_pos rfl]
      exact hgone

end Overlay

end Sleepwalk.Hostd
