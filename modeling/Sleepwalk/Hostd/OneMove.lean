import Mathlib.Data.List.Infix
import Mathlib.Data.List.Induction
import Sleepwalk.Hostd.Fleet

/-!
# One VM being moved

A `/migrate/send` at a source and a `/migrate/recv` at a target, in every interleaving of the two
and under every choice of which operations fail. `Faults` is that choice: how the operation at each
point of the two programs turns out.

The source tears the VM down as soon as its last byte is out, and after any failure from the
metadata on. So the VM survives if and only if the source stands down before that, or nothing at
all fails on either side (`survives_iff`), and only a move that stands down keeps the whole promise
of a cutover (`vm_kept_iff`).
-/

namespace Sleepwalk.Hostd

open Proto

/-- A VM registered and running at its source, and a receiver that listens at its target. -/
structure Move where
  /-- The VM. -/
  vm : RunningVm
  /-- Its guest, which may have been restored into it. -/
  lineage : ProcId
  /-- The host it runs on. -/
  source : HostId
  /-- The host it is sent to. -/
  target : HostId
  /-- Where the target listens. -/
  dest : Addr

/-- How every operation turns out, on either side. -/
structure Faults where
  /-- Those of `migrate_running`. -/
  send : SendPhase → Event
  /-- Those of `receive_and_restore`. -/
  recv : RecvPhase → Event

/-- The handler that goes on. -/
inductive Side where
  /-- `/migrate/send` at the source. -/
  | source
  /-- `/migrate/recv` at the target. -/
  | target
deriving DecidableEq, Repr

/-- The handler of a side. -/
def Side.handler : Side → HandlerId
  | .source => 0
  | .target => 1

/-- An event for the operations that cannot fail: taking from a registry, and inserting into it. -/
def Event.plain : Event :=
  { outcome := .ok, effect := false, killed := true, proc := 0, stream := 0, vmId := ⟨0⟩,
    net := ⟨"", "", ""⟩ }

/-- How the operation that a handler is at turns out. -/
def Faults.event (f : Faults) : Task → Event
  | .migrating _ _ phase _ => f.send phase
  | .receiving _ phase _ => f.recv phase
  | _ => .plain

namespace Move

variable (m : Move) (f : Faults)

/-- The fleet when both requests have arrived. -/
def start : Fleet :=
  let w := (Fleet.empty fun _ => false).setProc m.vm.proc (.started (some m.lineage))
  let w := w.setSlot m.source m.vm.id (some m.vm)
  let w := w.setTask Side.source.handler m.source (.taking m.vm.id m.dest)
  w.setTask Side.target.handler m.target (.receiving m.dest .preparing none)

end Move

namespace Fleet

/-- One side goes on. It waits if its operation cannot turn out as chosen yet. -/
def turn (f : Faults) (w : Fleet) (side : Side) : Fleet :=
  match w.handlers side.handler with
  | some (_, task) => w.step (.event side.handler (f.event task))
  | none => w

/-- A VM with this guest is registered at a host, and runs there. -/
def RunsAt (w : Fleet) (host : HostId) (lineage : ProcId) : Prop :=
  ∃ id vm pr, w.registry host id = some vm ∧ w.procs vm.proc = some pr ∧ pr.running = true ∧
    pr.lineage = some lineage

/-- What the handler of a side is at. -/
def task? (w : Fleet) (side : Side) : Option Task := (w.handlers side.handler).map Prod.snd

end Fleet

namespace Move

variable (m : Move) (f : Faults)

/-- The fleet after some turns of either side. -/
def run (sides : List Side) : Fleet := sides.foldl (Fleet.turn f) m.start

/-- Both handlers have finished. -/
def Finished (w : Fleet) : Prop :=
  ∃ r r', w.task? .source = some (.finished r) ∧ w.task? .target = some (.finished r')

/-- The VM is registered and runs, on the source or on the target. -/
def Survives (w : Fleet) : Prop := w.RunsAt m.source m.lineage ∨ w.RunsAt m.target m.lineage

/-- The source has torn the VM down. -/
def TornDown (w : Fleet) : Prop :=
  (∃ dest vm stream result, w.task? .source = some (.migrating dest vm (.returned result) stream) ∧
    result ≠ .stoodDown) ∨
  w.task? .source = some (.finished .moved) ∨ w.task? .source = some (.finished .failed)

/-- The guest runs in another process than at the source. -/
def TakenOver (w : Fleet) : Prop :=
  ∃ p pr, p ≠ m.vm.proc ∧ w.procs p = some pr ∧ pr.running = true ∧ pr.lineage = some m.lineage

end Move

/-! ## Which operations fail -/

namespace Faults

variable (f : Faults)

/-- The operation at this point of the source succeeds. -/
def SendOk (phase : SendPhase) : Prop := (f.send phase).outcome = .ok

/-- The operation at this point of the target succeeds. -/
def RecvOk (phase : RecvPhase) : Prop := (f.recv phase).outcome = .ok

/-- The points of the source up to the end of the drain. -/
def drainPhases : List SendPhase :=
  [.connecting, .greeting, .handingSecrets, .requesting, .awaitingAck]

/-- The guest is reached and found quiescent. -/
def Drained : Prop := ∀ phase ∈ drainPhases, f.SendOk phase

/-- The guest is not reached, or is found busy. -/
def StandsDown : Prop := ∃ phase ∈ drainPhases, ¬ f.SendOk phase

theorem standsDown_iff : f.StandsDown ↔ ¬ f.Drained := by
  simp [StandsDown, Drained]

end Faults

namespace Move

variable (m : Move) (f : Faults)

/-- The files that the source streams, in order. -/
def names : List String := snapshotFiles m.vm.extra

/-- What the source streams. -/
def files : Files :=
  m.names.map fun file => (file, Fleet.fileBody m.lineage m.vm.vsockUds m.vm.net file)

/-- The metadata of the VM is written. -/
structure Wrote : Prop where
  vsock : f.SendOk .writingVsock
  net : m.vm.net.isSome → f.SendOk .writingNet

/-- The VM is paused, its snapshot written and a connection to the target made. -/
structure Dialed : Prop where
  drained : f.Drained
  wrote : m.Wrote f
  paused : f.SendOk (.shipping .pausing)
  snapshotted : f.SendOk (.shipping .snapshotting)
  dialed : f.SendOk (.shipping .dialing)

/-- Nothing fails at the source before the end-of-stream marker is out. -/
structure Shipped : Prop where
  dialed : m.Dialed f
  sent : ∀ file rest, file :: rest <:+ m.names → f.SendOk (.shipping (.sending file rest))
  ended : (f.send (.shipping .finishing)).happened

/-- Nothing fails at the target before the end of the stream is read. -/
structure Received : Prop where
  prepared : f.RecvOk .preparing
  accepted : f.RecvOk .accepting
  read : ∀ k ≤ m.files.length, f.RecvOk (.reading (m.files.take k))

/-- The network of a networked VM is re-plumbed. -/
def Plumbed : Prop :=
  ∀ net, m.vm.net = some net → f.RecvOk (.readingNet m.files) ∧ f.RecvOk (.creatingTap m.files net)

/-- The process that the target launches. -/
def newProc : ProcId := (f.recv (.launching m.files m.vm.net)).proc

/-- Nothing at all fails before the guest runs on the target. -/
structure TakesOver : Prop where
  shipped : m.Shipped f
  received : m.Received f
  plumbed : m.Plumbed f
  bound : f.RecvOk (.bindingUffd m.files m.vm.net)
  launched : f.RecvOk (.launching m.files m.vm.net)
  loaded : f.RecvOk (.loading m.files m.vm.net (m.newProc f))

/-- The first operation that fails at the source is the pause or a later one. -/
def FailsFromPause : Prop :=
  f.Drained ∧ m.Wrote f ∧
    ∃ phase, ¬ f.SendOk (.shipping phase) ∧
      (phase = .pausing ∨ phase = .snapshotting ∨ phase = .dialing ∨ phase = .finishing ∨
        ∃ file rest, phase = .sending file rest ∧ file :: rest <:+ m.names)

/-- What a move promises, for every interleaving: the VM survives, the source is torn down only
after the guest runs elsewhere, and a failure at or after the pause resumes it on the source. -/
structure KeepsVm : Prop where
  survives : ∀ sides, Finished (m.run f sides) → m.Survives (m.run f sides)
  cutover : ∀ sides, TornDown (m.run f sides) → m.TakenOver (m.run f sides)
  fallback : m.FailsFromPause f → ∀ sides, Finished (m.run f sides) →
    (m.run f sides).RunsAt m.source m.lineage

end Move

/-! ## What holds at each point -/

namespace Move

variable (m : Move) (f : Faults) (w : Fleet)

/-- No connection to the target has been made. -/
def Unsent : Prop := ∀ σ, w.streams σ = none

/-- A connection to the target has been made. -/
def Streamed : Prop := ∃ σ st, w.streams σ = some st

/-- The VM runs on the source, and none of it has been sent. -/
def Intact : Prop :=
  Unsent w ∧
    ∃ pr, w.procs m.vm.proc = some pr ∧ pr.running = true ∧ pr.lineage = some m.lineage

/-- The first so many operations of the drain have succeeded. -/
def Draining (k : ℕ) : Prop := m.Intact w ∧ ∀ phase ∈ Faults.drainPhases.take k, f.SendOk phase

/-- All files but these have been sent. -/
def Streaming (stream : Option StreamId) (left : List String) : Prop :=
  m.Dialed f ∧ left <:+ m.names ∧
    (∀ file rest, file :: rest <:+ m.names → left.length ≤ rest.length →
      f.SendOk (.shipping (.sending file rest))) ∧
    ∃ σ st, stream = some σ ∧ w.streams σ = some st ∧
      st.files ++
          left.map (fun file => (file, Fleet.fileBody m.lineage m.vm.vsockUds m.vm.net file))
        = m.files

/-- What holds when `migrate_running` waits here. -/
def Sending (stream : Option StreamId) : SendPhase → Prop
  | .connecting => m.Draining f w 0
  | .greeting => m.Draining f w 1
  | .handingSecrets => m.Draining f w 2
  | .requesting => m.Draining f w 3
  | .awaitingAck => m.Draining f w 4
  | .cancelling | .returned .stoodDown => m.Intact w ∧ f.StandsDown
  | .writingVsock => Unsent w ∧ f.Drained
  | .writingNet => Unsent w ∧ f.Drained ∧ f.SendOk .writingVsock
  | .shipping .pausing => Unsent w ∧ f.Drained ∧ m.Wrote f
  | .shipping .snapshotting =>
    Unsent w ∧ f.Drained ∧ m.Wrote f ∧ f.SendOk (.shipping .pausing)
  | .shipping .dialing =>
    Unsent w ∧ f.Drained ∧ m.Wrote f ∧ f.SendOk (.shipping .pausing) ∧
      f.SendOk (.shipping .snapshotting)
  | .shipping (.sending file rest) => m.Streaming f w stream (file :: rest)
  | .shipping .finishing => m.Streaming f w stream []
  | .tearingDown _ | .returned .moved | .returned .failed => f.Drained

/-- What holds when the handler of the source is here. -/
def AtSource : Task → Prop
  | .taking id dest =>
    id = m.vm.id ∧ dest = m.dest ∧ m.Intact w ∧ w.registry m.source m.vm.id = some m.vm
  | .migrating dest vm phase stream => dest = m.dest ∧ vm = m.vm ∧ m.Sending f w stream phase
  | .registering vm r => vm = m.vm ∧ r = .stoodDown ∧ m.Intact w ∧ f.StandsDown
  | .finished .stoodDown =>
    m.Intact w ∧ f.StandsDown ∧ w.registry m.source m.vm.id = some m.vm
  | .finished .moved | .finished .failed => f.Drained
  | _ => False

/-- Everything has been read from the stream. -/
def Arrived : Prop := m.Shipped f ∧ m.Received f ∧ Streamed w

/-- The guest runs on the target. -/
def Restored (vm : RunningVm) : Prop :=
  m.TakesOver f ∧ Streamed w ∧ vm.proc ≠ m.vm.proc ∧
    ∃ pr, w.procs vm.proc = some pr ∧ pr.running = true ∧ pr.lineage = some m.lineage

/-- What holds when `receive_and_restore` waits here. -/
def Receiving (stream : Option StreamId) : RecvPhase → Prop
  | .preparing => True
  | .accepting => f.RecvOk .preparing
  | .reading files =>
    f.RecvOk .preparing ∧ f.RecvOk .accepting ∧ files <+: m.files ∧
      (∀ k < files.length, f.RecvOk (.reading (m.files.take k))) ∧
      ∃ σ st, stream = some σ ∧ w.streams σ = some st
  | .readingNet files => files = m.files ∧ m.Arrived f w ∧ m.vm.net.isSome
  | .creatingTap files net =>
    files = m.files ∧ m.Arrived f w ∧ m.vm.net = some net ∧ f.RecvOk (.readingNet m.files)
  | .bindingUffd files net => files = m.files ∧ net = m.vm.net ∧ m.Arrived f w ∧ m.Plumbed f
  | .launching files net =>
    files = m.files ∧ net = m.vm.net ∧ m.Arrived f w ∧ m.Plumbed f ∧
      f.RecvOk (.bindingUffd m.files m.vm.net)
  | .loading files net p =>
    files = m.files ∧ net = m.vm.net ∧ m.Arrived f w ∧ m.Plumbed f ∧
      f.RecvOk (.bindingUffd m.files m.vm.net) ∧ f.RecvOk (.launching m.files m.vm.net) ∧
      p = m.newProc f ∧ p ≠ m.vm.proc ∧ w.procs p ≠ none
  | .cleaningUp p => ¬ m.TakesOver f ∧ p ≠ m.vm.proc
  | .settling vm | .returned (some vm) => m.Restored f w vm
  | .returned none => ¬ m.TakesOver f

/-- What holds when the handler of the target is here. -/
def AtTarget : Task → Prop
  | .receiving listen phase stream => listen = m.dest ∧ m.Receiving f w stream phase
  | .registering vm r => r = .received ∧ m.Restored f w vm
  | .finished .received => ∃ id vm, w.registry m.target id = some vm ∧ m.Restored f w vm
  | .finished .failed => ¬ m.TakesOver f
  | _ => False

/-- The connections that the move makes carry the files, and end after the last one. -/
def StreamSound (st : Stream) : Prop :=
  st.files <+: m.files ∧ (st.ended = true → st.files = m.files ∧ m.Shipped f)

/-- Nothing is registered but the VM before it is taken, after it was handed back, and after it was
restored. -/
def SlotsSound (src tgt : Task) : Prop :=
  ∀ host id vm, w.registry host id = some vm →
    (host = m.source ∧ id = m.vm.id ∧ src = .taking m.vm.id m.dest) ∨
      (f.StandsDown ∧ src = .finished .stoodDown) ∨ (m.TakesOver f ∧ tgt = .finished .received)

/-- What holds in every interleaving. -/
structure Sound (src tgt : Task) : Prop where
  source : w.handlers Side.source.handler = some (m.source, src)
  target : w.handlers Side.target.handler = some (m.target, tgt)
  guest : ∃ pr, w.procs m.vm.proc = some pr ∧ pr.lineage = some m.lineage
  streams : ∀ σ st, w.streams σ = some st → m.StreamSound f st
  slots : m.SlotsSound f w src tgt
  atSource : m.AtSource f w src
  atTarget : m.AtTarget f w tgt

end Move

/-! ## What each side leaves alone -/

section Frames

variable {m : Move} {f : Faults} {w w' : Fleet} {src tgt : Task}

/-- What a turn of the source leaves alone. -/
structure SourceFrame (m : Move) (w w' : Fleet) : Prop where
  handlers : w'.handlers = w.handlers
  procs : ∀ p, p ≠ m.vm.proc → w'.procs p = w.procs p
  streams : ∀ σ st, w.streams σ = some st → ∃ st', w'.streams σ = some st'
  registry : Move.Streamed w → w'.registry = w.registry

/-- What a turn of the target leaves alone. -/
structure TargetFrame (m : Move) (w w' : Fleet) : Prop where
  handlers : w'.handlers = w.handlers
  guest : w'.procs m.vm.proc = w.procs m.vm.proc
  unsent : Move.Unsent w → Move.Unsent w' ∧ w'.registry = w.registry
  streams : ∀ σ st, w.streams σ = some st → ∃ st', w'.streams σ = some st' ∧ st'.files = st.files

theorem SourceFrame.streamed (h : SourceFrame m w w') (hw : Move.Streamed w) :
    Move.Streamed w' := by
  obtain ⟨σ, st, hst⟩ := hw
  obtain ⟨st', hst'⟩ := h.streams σ st hst
  exact ⟨σ, st', hst'⟩

theorem SourceFrame.restored (h : SourceFrame m w w') {vm : RunningVm} (hw : m.Restored f w vm) :
    m.Restored f w' vm := by
  obtain ⟨htakes, hstreamed, hne, pr, hpr, hruns⟩ := hw
  exact ⟨htakes, h.streamed hstreamed, hne, pr, (h.procs _ hne).trans hpr, hruns⟩

/-- The target stays where it is during a turn of the source. -/
theorem SourceFrame.atTarget (h : SourceFrame m w w') (hw : m.AtTarget f w tgt) :
    m.AtTarget f w' tgt := by
  -- The source can neither undo what was streamed nor touch a process of the target.
  have harrived : m.Arrived f w → m.Arrived f w' :=
    fun ⟨hshipped, hreceived, hstreamed⟩ => ⟨hshipped, hreceived, h.streamed hstreamed⟩
  cases tgt with
  | receiving listen phase stream =>
    refine ⟨hw.1, ?_⟩
    replace hw := hw.2
    cases phase with
    | preparing | accepting | cleaningUp p => exact hw
    | reading files =>
      obtain ⟨hprepared, haccepted, hfiles, hread, σ, st, hσ, hst⟩ := hw
      obtain ⟨st', hst'⟩ := h.streams σ st hst
      exact ⟨hprepared, haccepted, hfiles, hread, σ, st', hσ, hst'⟩
    | readingNet files => exact ⟨hw.1, harrived hw.2.1, hw.2.2⟩
    | creatingTap files net => exact ⟨hw.1, harrived hw.2.1, hw.2.2⟩
    | bindingUffd files net => exact ⟨hw.1, hw.2.1, harrived hw.2.2.1, hw.2.2.2⟩
    | launching files net => exact ⟨hw.1, hw.2.1, harrived hw.2.2.1, hw.2.2.2⟩
    | loading files net p =>
      obtain ⟨hfiles, hnet, hw, hplumbed, hbound, hlaunched, hp, hne, hborn⟩ := hw
      refine ⟨hfiles, hnet, harrived hw, hplumbed, hbound, hlaunched, hp, hne, ?_⟩
      rwa [h.procs p hne]
    | settling vm => exact h.restored hw
    | returned vm =>
      cases vm with
      | none => exact hw
      | some vm => exact h.restored hw
  | registering vm r => exact ⟨hw.1, h.restored hw.2⟩
  | finished r =>
    cases r with
    | received =>
      obtain ⟨id, vm, hslot, hrestored⟩ := hw
      refine ⟨id, vm, ?_, h.restored hrestored⟩
      rwa [h.registry hrestored.2.1]
    | failed => exact hw
    | _ => exact hw.elim
  | _ => exact hw.elim

theorem TargetFrame.intact (h : TargetFrame m w w') (hw : m.Intact w) : m.Intact w' := by
  obtain ⟨hunsent, hguest⟩ := hw
  refine ⟨(h.unsent hunsent).1, ?_⟩
  rwa [h.guest]

/-- The source stays where it is during a turn of the target. -/
theorem TargetFrame.atSource (h : TargetFrame m w w') (hw : m.AtSource f w src) :
    m.AtSource f w' src := by
  -- As long as nothing is sent the target leaves the slots alone, and after that no slot matters.
  have hslot : m.Intact w → w.registry m.source m.vm.id = some m.vm →
      w'.registry m.source m.vm.id = some m.vm := by
    intro hintact hslot
    rwa [(h.unsent hintact.1).2]
  have hstreaming : ∀ stream left, m.Streaming f w stream left → m.Streaming f w' stream left := by
    rintro stream left ⟨hdialed, hleft, hsent, σ, st, hσ, hst, hfiles⟩
    obtain ⟨st', hst', hsame⟩ := h.streams σ st hst
    exact ⟨hdialed, hleft, hsent, σ, st', hσ, hst', by rw [hsame, hfiles]⟩
  cases src with
  | taking id dest => exact ⟨hw.1, hw.2.1, h.intact hw.2.2.1, hslot hw.2.2.1 hw.2.2.2⟩
  | migrating dest vm phase stream =>
    refine ⟨hw.1, hw.2.1, ?_⟩
    replace hw := hw.2.2
    cases phase with
    | connecting | greeting | handingSecrets | requesting | awaitingAck =>
      exact ⟨h.intact hw.1, hw.2⟩
    | cancelling => exact ⟨h.intact hw.1, hw.2⟩
    | writingVsock | writingNet => exact ⟨(h.unsent hw.1).1, hw.2⟩
    | shipping ship =>
      cases ship with
      | pausing | snapshotting | dialing => exact ⟨(h.unsent hw.1).1, hw.2⟩
      | sending file rest => exact hstreaming _ _ hw
      | finishing => exact hstreaming _ _ hw
    | tearingDown sent => exact hw
    | returned result =>
      cases result with
      | stoodDown => exact ⟨h.intact hw.1, hw.2⟩
      | moved | failed => exact hw
  | registering vm r => exact ⟨hw.1, hw.2.1, h.intact hw.2.2.1, hw.2.2.2⟩
  | finished r =>
    cases r with
    | stoodDown => exact ⟨h.intact hw.1, hw.2.1, hslot hw.1 hw.2.2⟩
    | moved | failed => exact hw
    | _ => exact hw.elim
  | _ => exact hw.elim

end Frames

/-! ## The source goes on -/

/-- What a turn of the source does. -/
structure SourceTurn (m : Move) (f : Faults) (w w' : Fleet) (src' tgt : Task) : Prop where
  frame : SourceFrame m w w'
  guest : ∃ pr, w'.procs m.vm.proc = some pr ∧ pr.lineage = some m.lineage
  streams : ∀ σ st, w'.streams σ = some st → m.StreamSound f st
  slots : m.SlotsSound f w' src' tgt
  atSource : m.AtSource f w' src'

section Source

variable {m : Move} {f : Faults} {w w' : Fleet} {src src' tgt : Task}

theorem SourceFrame.refl (m : Move) (w : Fleet) : SourceFrame m w w where
  handlers := rfl
  procs _ _ := rfl
  streams _ st hst := ⟨st, hst⟩
  registry _ := rfl

/-- Between the take and the end nothing is registered at the source. -/
theorem Move.Sound.slots_of_midway (h : m.Sound f w src tgt)
    (htaking : src ≠ .taking m.vm.id m.dest) (hfinished : src ≠ .finished .stoodDown) :
    ∀ host id vm, w.registry host id = some vm →
      m.TakesOver f ∧ tgt = .finished .received := by
  intro host id vm hslot
  rcases h.slots host id vm hslot with ⟨-, -, hsrc⟩ | ⟨-, hsrc⟩ | htaken
  · exact absurd hsrc htaking
  · exact absurd hsrc hfinished
  · exact htaken

/-- A turn of `migrate_running` that changes nothing but where it waits. -/
theorem SourceTurn.quiet {dest : Addr} {vm : RunningVm} {phase phase' : SendPhase}
    {stream : Option StreamId} (h : m.Sound f w (.migrating dest vm phase stream) tgt)
    (hat : m.Sending f w stream phase')
    (hstep : some (w, Task.migrating dest vm phase' stream) = some (w', src')) :
    SourceTurn m f w w' src' tgt := by
  obtain ⟨rfl, rfl⟩ : w = w' ∧ _ = src' := by simpa using hstep
  refine ⟨.refl m w, h.guest, h.streams, ?_, h.atSource.1, h.atSource.2.1, hat⟩
  intro host id vm' hslot
  exact .inr (.inr (h.slots_of_midway (by simp) (by simp) host id vm' hslot))

/-- Another operation of the drain succeeds. -/
theorem Move.Draining.succ {k : ℕ} {phase : SendPhase} (h : m.Draining f w k)
    (hphase : Faults.drainPhases[k]? = some phase) (hok : f.SendOk phase) :
    m.Draining f w (k + 1) := by
  refine ⟨h.1, fun phase' hmem => ?_⟩
  rw [List.take_add_one, hphase] at hmem
  rcases List.mem_append.mp hmem with hmem | hmem
  · exact h.2 phase' hmem
  · obtain rfl : phase' = phase := by simpa using hmem
    exact hok

/-- A process that is changed, with its guest the same. -/
theorem SourceTurn.of_proc {dest : Addr} {vm : RunningVm} {phase phase' : SendPhase}
    {stream : Option StreamId} (h : m.Sound f w (.migrating dest vm phase stream) tgt)
    (change : Process → Process) (hchange : ∀ pr, (change pr).lineage = pr.lineage)
    (hat : ∀ w' : Fleet, w'.streams = w.streams → m.Sending f w' stream phase')
    (hstep : some (w.modifyProc m.vm.proc change, Task.migrating dest vm phase' stream)
      = some (w', src')) : SourceTurn m f w w' src' tgt := by
  obtain ⟨pr, hpr, hlineage⟩ := h.guest
  obtain ⟨rfl, rfl⟩ : w.modifyProc m.vm.proc change = w' ∧ _ = src' := by simpa using hstep
  have hset : w.modifyProc m.vm.proc change = w.setProc m.vm.proc (change pr) := by
    simp [Fleet.modifyProc, hpr]
  rw [hset]
  refine ⟨⟨rfl, ?_, fun _ st hst => ⟨st, hst⟩, fun _ => rfl⟩, ?_, h.streams, ?_, h.atSource.1,
    h.atSource.2.1, hat _ rfl⟩
  · exact fun p hp => Function.update_of_ne hp _ _
  · exact ⟨change pr, Function.update_self .., (hchange pr).trans hlineage⟩
  · intro host id vm' hslot
    exact .inr (.inr (h.slots_of_midway (by simp) (by simp) host id vm' hslot))

/-- The VM is torn down, or its process outlives the kill. -/
theorem SourceTurn.of_kill {dest : Addr} {vm : RunningVm} {phase phase' : SendPhase}
    {stream : Option StreamId} (h : m.Sound f w (.migrating dest vm phase stream) tgt)
    (killed : Bool)
    (hat : ∀ w' : Fleet, w'.streams = w.streams → m.Sending f w' stream phase')
    (hstep : some (w.kill m.vm.proc killed, Task.migrating dest vm phase' stream)
      = some (w', src')) : SourceTurn m f w w' src' tgt := by
  unfold Fleet.kill at hstep
  split at hstep
  · exact .of_proc h .stop (fun _ => rfl) hat hstep
  · exact .quiet h (hat w rfl) hstep

/-- A stream that the source writes to. -/
theorem SourceTurn.of_stream {dest : Addr} {vm : RunningVm} {phase phase' : SendPhase}
    {stream stream' : Option StreamId} {σ : StreamId} {st : Stream}
    (h : m.Sound f w (.migrating dest vm phase stream) tgt) (hst : m.StreamSound f st)
    (hat : m.Sending f (w.setStream σ st) stream' phase')
    (hstep : some (w.setStream σ st, Task.migrating dest vm phase' stream') = some (w', src')) :
    SourceTurn m f w w' src' tgt := by
  obtain ⟨rfl, rfl⟩ : w.setStream σ st = w' ∧ _ = src' := by simpa using hstep
  refine ⟨⟨rfl, fun _ _ => rfl, ?_, fun _ => rfl⟩, h.guest, ?_, ?_, h.atSource.1, h.atSource.2.1,
    hat⟩
  · intro σ' st' hst'
    by_cases hσ : σ' = σ
    · exact ⟨st, by rw [hσ]; exact Function.update_self ..⟩
    · exact ⟨st', (Function.update_of_ne hσ ..).trans hst'⟩
  · intro σ' st' hst'
    by_cases hσ : σ' = σ
    · rw [hσ] at hst'
      have hself : (w.setStream σ st).streams σ = some st := Function.update_self ..
      obtain rfl := Option.some_inj.mp (hself.symm.trans hst')
      exact hst
    · exact h.streams σ' st' ((Function.update_of_ne hσ ..).symm.trans hst')
  · intro host id vm' hslot
    exact .inr (.inr (h.slots_of_midway (by simp) (by simp) host id vm' hslot))

/-- Where the source goes on with these files left. -/
theorem sending_sendNext {stream : Option StreamId} {left : List String}
    (h : m.Streaming f w stream left) :
    m.Sending f w stream (.shipping (ShipPhase.sendNext left)) := by
  cases left <;> exact h

/-- A file is sent. -/
theorem Move.Streaming.sent {σ : StreamId} {st : Stream} {file : String} {rest : List String}
    (h : m.Streaming f w (some σ) (file :: rest)) (hst : w.streams σ = some st)
    (hok : f.SendOk (.shipping (.sending file rest))) :
    let body := Fleet.fileBody m.lineage m.vm.vsockUds m.vm.net
    let st' := { st with files := st.files ++ [(file, body file)] }
    m.Streaming f (w.setStream σ st') (some σ) rest := by
  intro body st'
  obtain ⟨hdialed, hleft, hsent, σ', st₀, hσ, hst₀, hfiles⟩ := h
  obtain rfl := Option.some_inj.mp hσ
  obtain rfl := Option.some_inj.mp (hst.symm.trans hst₀)
  refine ⟨hdialed, (List.suffix_cons file rest).trans hleft, ?_, σ, st', rfl,
    Function.update_self .., by simpa [st', body] using hfiles⟩
  intro file' rest' hsuffix hlength
  rcases Nat.lt_or_ge rest.length rest'.length with hlt | hge
  · exact hsent file' rest' hsuffix hlt
  · -- Two suffixes of one length are the same.
    have hsame : file' :: rest' = file :: rest := by
      refine List.IsSuffix.eq_of_length ?_ (by simp; omega)
      exact List.suffix_of_suffix_length_le hsuffix hleft (by simp; omega)
    obtain ⟨rfl, rfl⟩ := List.cons.inj hsame
    exact hok

/-- The guest that the source sends is the one it has. -/
theorem Move.Sound.lineageOf_eq (h : m.Sound f w src tgt) :
    w.lineageOf m.vm.proc = m.lineage := by
  obtain ⟨pr, hpr, hlineage⟩ := h.guest
  simp [Fleet.lineageOf, hpr, hlineage]

/-- One operation of `snapshot_and_send`. -/
theorem source_ship {phase : ShipPhase} {stream : Option StreamId}
    (h : m.Sound f w (.migrating m.dest m.vm (.shipping phase) stream) tgt)
    (hstep : w.migrateStep m.dest m.vm stream (f.send (.shipping phase)) (.shipping phase)
      = some (w', src')) : SourceTurn m f w w' src' tgt := by
  have hat := h.atSource.2.2
  cases phase with
  | pausing =>
    simp only [Fleet.migrateStep, Fleet.ship, Option.map_some] at hstep
    have hnext : ∀ w' : Fleet, w'.streams = w.streams → m.Sending f w' stream
        ((SendPhase.shipping .pausing).next m.vm (f.send (.shipping .pausing)).outcome) := by
      intro w' hstreams
      cases ho : (f.send (.shipping .pausing)).outcome with
      | ok => exact ⟨fun σ => by rw [hstreams]; exact hat.1 σ, hat.2.1, hat.2.2, ho⟩
      | busy | err => exact hat.2.1
    split at hstep
    · exact .of_proc h .pause (fun _ => rfl) hnext hstep
    · exact .quiet h (hnext w rfl) hstep
  | snapshotting =>
    refine .quiet h ?_ hstep
    cases ho : (f.send (.shipping .snapshotting)).outcome with
    | ok => exact ⟨hat.1, hat.2.1, hat.2.2.1, hat.2.2.2, ho⟩
    | busy | err => exact hat.2.1
  | dialing =>
    obtain ⟨hunsent, hdrained, hwrote, hpaused, hsnapshotted⟩ := hat
    cases ho : (f.send (.shipping .dialing)).outcome with
    | ok =>
      simp only [Fleet.migrateStep, Fleet.ship, ho, if_true, hunsent _, Option.map_some] at hstep
      refine .of_stream h ?_ (sending_sendNext ?_) hstep
      · exact ⟨List.nil_prefix, fun hended => by cases hended⟩
      · refine ⟨⟨hdrained, hwrote, hpaused, hsnapshotted, ho⟩, List.suffix_refl _, ?_, _, _, rfl,
          Function.update_self .., by simp [Stream.dialed, Move.files, Move.names]⟩
        intro file rest hsuffix hlength
        have hshorter := hsuffix.length_le
        simp only [List.length_cons] at hshorter
        change m.names.length ≤ _ at hlength
        omega
    | busy | err =>
      simp only [Fleet.migrateStep, Fleet.ship, ho] at hstep
      refine .quiet h ?_ hstep
      exact hdrained
  | sending file rest =>
    obtain ⟨hdialed, hleft, hsent, σ, st, rfl, hst, hfiles⟩ := hat
    have hsound := h.streams σ st hst
    cases ho : (f.send (.shipping (.sending file rest))).outcome with
    | ok =>
      simp only [Fleet.migrateStep, Fleet.ship, ho, if_true, Option.map_some, Fleet.modifyStream,
        hst, h.lineageOf_eq] at hstep
      refine .of_stream h ?_ (sending_sendNext ?_) hstep
      · refine ⟨⟨_, by rw [← hfiles, List.map_cons, List.append_assoc]; rfl⟩, fun hended => ?_⟩
        -- A stream that has ended has no file left to send.
        have hall := (hsound.2 hended).1
        rw [← hfiles] at hall
        simp at hall
      · exact Move.Streaming.sent h.atSource.2.2 hst ho
    | busy | err =>
      simp only [Fleet.migrateStep, Fleet.ship, ho, Option.map_some, Fleet.modifyStream, hst,
        reduceCtorEq, if_false] at hstep
      refine .of_stream h ?_ ?_ hstep
      · exact hsound
      · exact hdialed.drained
  | finishing =>
    obtain ⟨hdialed, hleft, hsent, σ, st, rfl, hst, hfiles⟩ := hat
    have hsound := h.streams σ st hst
    simp only [Fleet.migrateStep, Fleet.ship, Option.map_some, Fleet.modifyStream, hst] at hstep
    refine .of_stream h ?_ ?_ hstep
    · refine ⟨hsound.1, fun hended => ?_⟩
      rcases Bool.or_eq_true_iff.mp hended with hended | hhappened
      · exact hsound.2 hended
      · refine ⟨by simpa using hfiles, hdialed, ?_, of_decide_eq_true hhappened⟩
        exact fun file rest hsuffix => hsent file rest hsuffix (Nat.zero_le _)
    · cases (f.send (.shipping .finishing)).outcome <;> exact hdialed.drained

/-- One operation of `migrate_running`. -/
theorem source_migrateStep {phase : SendPhase} {stream : Option StreamId}
    (h : m.Sound f w (.migrating m.dest m.vm phase stream) tgt)
    (hstep : w.migrateStep m.dest m.vm stream (f.send phase) phase = some (w', src')) :
    SourceTurn m f w w' src' tgt := by
  have hat := h.atSource.2.2
  -- A failure of the drain leaves the VM as it is.
  have hfail : m.Intact w → phase ∈ Faults.drainPhases → ¬ f.SendOk phase →
      m.Sending f w stream (.returned .stoodDown) :=
    fun hintact hmem hnot => ⟨hintact, phase, hmem, hnot⟩
  cases phase with
  | connecting =>
    refine .quiet h ?_ hstep
    cases ho : (f.send .connecting).outcome with
    | ok => exact hat.succ rfl ho
    | busy | err => exact hfail hat.1 (by decide) (by simp [Faults.SendOk, ho])
  | greeting =>
    refine .quiet h ?_ hstep
    cases ho : (f.send .greeting).outcome with
    | ok => exact hat.succ rfl ho
    | busy | err => exact hfail hat.1 (by decide) (by simp [Faults.SendOk, ho])
  | handingSecrets =>
    refine .quiet h ?_ hstep
    cases ho : (f.send .handingSecrets).outcome with
    | ok => exact hat.succ rfl ho
    | busy | err => exact hfail hat.1 (by decide) (by simp [Faults.SendOk, ho])
  | requesting =>
    refine .quiet h ?_ hstep
    cases ho : (f.send .requesting).outcome with
    | ok => exact hat.succ rfl ho
    | busy | err => exact hfail hat.1 (by decide) (by simp [Faults.SendOk, ho])
  | awaitingAck =>
    refine .quiet h ?_ hstep
    cases ho : (f.send .awaitingAck).outcome with
    | ok => exact ⟨hat.1.1, (hat.succ rfl ho).2⟩
    | busy => exact ⟨hat.1, .awaitingAck, by decide, by simp [Faults.SendOk, ho]⟩
    | err => exact hfail hat.1 (by decide) (by simp [Faults.SendOk, ho])
  | cancelling =>
    refine .quiet h ?_ hstep
    cases (f.send .cancelling).outcome <;> exact hat
  | writingVsock =>
    refine .quiet h ?_ hstep
    cases ho : (f.send .writingVsock).outcome with
    | ok =>
      cases hnet : m.vm.net.isSome with
      | true =>
        have hnext : SendPhase.writingVsock.next m.vm .ok = .writingNet := by
          simp [SendPhase.next, hnet]
        rw [hnext]
        exact ⟨hat.1, hat.2, ho⟩
      | false =>
        have hnext : SendPhase.writingVsock.next m.vm .ok = .shipping .pausing := by
          simp [SendPhase.next, hnet]
        rw [hnext]
        exact ⟨hat.1, hat.2, ho, fun hsome => by simp [hnet] at hsome⟩
    | busy | err => exact hat.2
  | writingNet =>
    refine .quiet h ?_ hstep
    cases ho : (f.send .writingNet).outcome with
    | ok => exact ⟨hat.1, hat.2.1, hat.2.2, fun _ => ho⟩
    | busy | err => exact hat.2.1
  | shipping ship => exact source_ship h hstep
  | tearingDown sent =>
    refine .of_kill h (f.send (.tearingDown sent)).killed (fun w' _ => ?_) hstep
    cases sent <;> exact hat
  | returned result =>
    have hslots := h.slots_of_midway (by simp) (by simp)
    cases result with
    | moved | failed =>
      obtain ⟨rfl, rfl⟩ : w = w' ∧ _ = src' := by simpa [Fleet.migrateStep] using hstep
      exact ⟨.refl m w, h.guest, h.streams, fun host id vm hslot =>
        .inr (.inr (hslots host id vm hslot)), hat⟩
    | stoodDown =>
      obtain ⟨rfl, rfl⟩ : w = w' ∧ _ = src' := by simpa [Fleet.migrateStep] using hstep
      exact ⟨.refl m w, h.guest, h.streams, fun host id vm hslot =>
        .inr (.inr (hslots host id vm hslot)), rfl, rfl, hat⟩

/-- A turn of the source. -/
theorem source_taskStep (h : m.Sound f w src tgt)
    (hstep : w.taskStep m.source (f.event src) src = some (w', src')) :
    SourceTurn m f w w' src' tgt := by
  cases src with
  | taking id dest =>
    obtain ⟨rfl, rfl, hintact, hslot⟩ := h.atSource
    obtain ⟨rfl, rfl⟩ : w.setSlot m.source m.vm.id none = w' ∧
        Task.migrating m.dest m.vm .connecting none = src' := by
      simpa [Fleet.taskStep, Fleet.take, hslot] using hstep
    refine ⟨⟨rfl, fun _ _ => rfl, fun σ st hst => ⟨st, hst⟩, ?_⟩, h.guest, h.streams, ?_, rfl, rfl,
      hintact, fun _ hmem => by cases hmem⟩
    · rintro ⟨σ, st, hst⟩
      simp [hintact.1 σ] at hst
    · intro host id vm hnow
      -- The slot of the VM is empty now, and nothing else was registered before the take.
      have hbefore : w.registry host id = some vm ∧ ¬ (host = m.source ∧ id = m.vm.id) := by
        by_cases hhost : host = m.source
        · subst hhost
          by_cases hid : id = m.vm.id
          · subst hid
            simp [Fleet.setSlot] at hnow
          · exact ⟨by simpa [Fleet.setSlot, Function.update_of_ne hid] using hnow, by simp [hid]⟩
        · exact ⟨by simpa [Fleet.setSlot, Function.update_of_ne hhost] using hnow, by simp [hhost]⟩
      rcases h.slots host id vm hbefore.1 with ⟨hhost, hid, -⟩ | ⟨-, hsrc⟩ | htaken
      · exact absurd ⟨hhost, hid⟩ hbefore.2
      · cases hsrc
      · exact .inr (.inr htaken)
  | migrating dest vm phase stream =>
    obtain ⟨rfl, rfl, -⟩ := h.atSource
    exact source_migrateStep h hstep
  | registering vm r =>
    obtain ⟨rfl, rfl, hintact, hdown⟩ := h.atSource
    have hnotTaken : ¬ m.TakesOver f :=
      fun htakes => (f.standsDown_iff.mp hdown) htakes.shipped.dialed.drained
    have hempty : ∀ host id, w.registry host id = none := by
      intro host id
      cases hslot : w.registry host id with
      | none => rfl
      | some vm =>
        exact absurd (h.slots_of_midway (by simp) (by simp) host id vm hslot).1 hnotTaken
    obtain ⟨rfl, rfl⟩ : w.setSlot m.source m.vm.id (some m.vm) = w' ∧
        Task.finished .stoodDown = src' := by
      simpa [Fleet.taskStep, Fleet.insert, hempty] using hstep
    refine ⟨⟨rfl, fun _ _ => rfl, fun σ st hst => ⟨st, hst⟩, ?_⟩, h.guest, h.streams, ?_, hintact,
      hdown, by simp [Fleet.setSlot]⟩
    · rintro ⟨σ, st, hst⟩
      simp [hintact.1 σ] at hst
    · exact fun _ _ _ _ => .inr (.inl ⟨hdown, rfl⟩)
  | finished r => simp [Fleet.taskStep] at hstep
  | _ => exact h.atSource.elim

end Source

/-! ## The target goes on -/

namespace Move

variable (m : Move)

theorem length_files : m.files.length = if m.vm.net.isSome then 4 else 3 := by
  cases hnet : m.vm.net.isSome <;> simp [files, names, snapshotFiles, RunningVm.extra, hnet]

/-- The device state that is sent is that of the guest. -/
theorem lookup_state : m.files.lookup "state.snap" = some (.state m.lineage) := by
  simp [files, names, snapshotFiles, List.lookup_cons, Fleet.fileBody]

/-- The network identity that is sent is that of the VM, if it has one. -/
theorem lookup_net : m.files.lookup "net.json" = m.vm.net.map FileBody.net := by
  cases hnet : m.vm.net with
  | none =>
    simp [files, names, snapshotFiles, RunningVm.extra, hnet, List.lookup_cons]
  | some net =>
    simp [files, names, snapshotFiles, RunningVm.extra, hnet, List.lookup_cons, Fleet.fileBody]

end Move

/-- What a turn of the target does. -/
structure TargetTurn (m : Move) (f : Faults) (w w' : Fleet) (src tgt' : Task) : Prop where
  frame : TargetFrame m w w'
  streams : ∀ σ st, w'.streams σ = some st → m.StreamSound f st
  slots : m.SlotsSound f w' src tgt'
  atTarget : m.AtTarget f w' tgt'

section Target

variable {m : Move} {f : Faults} {w w' : Fleet} {src tgt tgt' : Task}

theorem TargetFrame.refl (m : Move) (w : Fleet) : TargetFrame m w w where
  handlers := rfl
  guest := rfl
  unsent hunsent := ⟨hunsent, rfl⟩
  streams _ st hst := ⟨st, hst, rfl⟩

/-- Before the target has finished nothing is registered there. -/
theorem Move.Sound.slots_before (h : m.Sound f w src tgt) (htgt : tgt ≠ .finished .received)
    (tgt' : Task) : m.SlotsSound f w src tgt' := by
  intro host id vm hslot
  rcases h.slots host id vm hslot with htaking | hdown | ⟨-, hfinished⟩
  · exact .inl htaking
  · exact .inr (.inl hdown)
  · exact absurd hfinished htgt

/-- A turn of the target that changes nothing but where it waits. -/
theorem TargetTurn.quiet {listen : Addr} {phase phase' : RecvPhase} {stream : Option StreamId}
    (h : m.Sound f w src (.receiving listen phase stream))
    (hstep : some (w, Task.receiving listen phase' stream) = some (w', tgt'))
    (hat : m.Receiving f w stream phase') :
    TargetTurn m f w w' src tgt' := by
  obtain ⟨rfl, rfl⟩ : w = w' ∧ _ = tgt' := by simpa using hstep
  exact ⟨.refl m w, h.streams, h.slots_before (by simp) _, h.atTarget.1, hat⟩

/-- A turn of the target that changes a process of its own. -/
theorem TargetTurn.of_proc {listen : Addr} {phase phase' : RecvPhase} {stream : Option StreamId}
    {p : ProcId} {pr : Process} (h : m.Sound f w src (.receiving listen phase stream))
    (hne : p ≠ m.vm.proc)
    (hstep : some (w.setProc p pr, Task.receiving listen phase' stream) = some (w', tgt'))
    (hat : m.Receiving f (w.setProc p pr) stream phase') :
    TargetTurn m f w w' src tgt' := by
  obtain ⟨rfl, rfl⟩ : w.setProc p pr = w' ∧ _ = tgt' := by simpa using hstep
  refine ⟨⟨rfl, ?_, fun hunsent => ⟨hunsent, rfl⟩, fun _ st hst => ⟨st, hst, rfl⟩⟩, h.streams,
    h.slots_before (by simp) _, h.atTarget.1, hat⟩
  exact Function.update_of_ne hne.symm _ _

/-- The end of the stream comes after the last file. -/
theorem arrived_of_item_end (h : m.Sound f w src tgt) {σ : StreamId} {st : Stream} {files : Files}
    (hst : w.streams σ = some st) (hfiles : files <+: m.files)
    (hitem : st.item files.length = some none) : files = m.files ∧ m.Shipped f := by
  unfold Stream.item at hitem
  split at hitem
  · simp at hitem
  · rename_i hbeyond
    split at hitem
    · rename_i hended
      obtain ⟨hall, hshipped⟩ := (h.streams σ st hst).2 hended
      refine ⟨hfiles.eq_of_length_le ?_, hshipped⟩
      rw [← hall]
      exact List.getElem?_eq_none_iff.mp hbeyond
    · simp at hitem

/-- A file that is read is the next one. -/
theorem prefix_of_item (h : m.Sound f w src tgt) {σ : StreamId} {st : Stream} {files : Files}
    {file : String × FileBody} (hst : w.streams σ = some st) (hfiles : files <+: m.files)
    (hitem : st.item files.length = some (some file)) : files ++ [file] <+: m.files := by
  unfold Stream.item at hitem
  split at hitem
  · rename_i file' hfile
    obtain rfl : file' = file := by simpa using hitem
    obtain ⟨rest, hrest⟩ := (h.streams σ st hst).1
    obtain ⟨rest', hrest'⟩ := hfiles
    have hnext : m.files[files.length]? = some file' := by
      rw [← hrest, List.getElem?_append_left (List.getElem?_eq_some_iff.mp hfile).1, hfile]
    rw [← hrest', List.getElem?_append_right (Nat.le_refl _), Nat.sub_self] at hnext
    cases rest' with
    | nil => simp at hnext
    | cons next rest' =>
      obtain rfl : next = file' := by simpa using hnext
      exact ⟨rest', by rw [← hrest', List.append_assoc]; rfl⟩
  · split at hitem <;> simp at hitem

/-- Where the target goes on after the last file. -/
theorem receiving_received (stream : Option StreamId) (harrived : m.Arrived f w) :
    m.Receiving f w stream (RecvPhase.received m.files) := by
  have hlength : 2 ≤ m.files.length ∧ m.files.length ≤ 4 := by
    rw [m.length_files]
    split <;> omega
  rw [RecvPhase.received, if_pos hlength, m.lookup_net]
  cases hnet : m.vm.net with
  | none => exact ⟨rfl, hnet.symm, harrived, fun net hsome => by simp [hnet] at hsome⟩
  | some net => exact ⟨rfl, harrived, by simp [hnet]⟩

/-- One operation of `receive_and_restore`. -/
theorem target_recvStep {phase : RecvPhase} {stream : Option StreamId}
    (h : m.Sound f w src (.receiving m.dest phase stream))
    (hstep : w.recvStep m.dest stream (f.recv phase) phase = some (w', tgt')) :
    TargetTurn m f w w' src tgt' := by
  have hat := h.atTarget.2
  -- A failure ends the restore, and then something did fail.
  have hfail : (m.TakesOver f → f.RecvOk phase) → (f.recv phase).outcome ≠ .ok →
      some (w, Task.receiving m.dest (.returned none) stream) = some (w', tgt') →
      TargetTurn m f w w' src tgt' := by
    intro hneeded hnot hsame
    exact .quiet h hsame fun htakes => hnot (hneeded htakes)
  cases phase with
  | preparing =>
    simp only [Fleet.recvStep] at hstep
    cases ho : (f.recv .preparing).outcome with
    | ok =>
      rw [ho] at hstep
      exact .quiet h hstep ho
    | busy | err =>
      rw [ho] at hstep
      exact hfail (fun htakes => htakes.received.prepared) (by simp [ho]) hstep
  | accepting =>
    simp only [Fleet.recvStep] at hstep
    cases ho : (f.recv .accepting).outcome with
    | ok =>
      simp only [ho, if_true] at hstep
      split at hstep
      · rename_i st hst
        split at hstep
        · rename_i hfree
          obtain ⟨rfl, rfl⟩ : w.setStream (f.recv .accepting).stream { st with accepted := true }
              = w' ∧
              Task.receiving m.dest (.reading []) (some (f.recv .accepting).stream) = tgt' := by
            simpa [RecvPhase.next] using hstep
          refine ⟨⟨rfl, rfl, fun hunsent => ?_, fun σ st' hst' => ?_⟩, fun σ st' hst' => ?_,
            h.slots_before (by simp) _, rfl, hat, ho, List.nil_prefix, fun k hk => (by cases hk), _,
            _, rfl, Function.update_self ..⟩
          · simp [hunsent _] at hst
          · by_cases hσ : σ = (f.recv .accepting).stream
            · subst hσ
              obtain rfl := Option.some_inj.mp (hst.symm.trans hst')
              exact ⟨_, Function.update_self .., rfl⟩
            · exact ⟨st', (Function.update_of_ne hσ ..).trans hst', rfl⟩
          · by_cases hσ : σ = (f.recv .accepting).stream
            · subst hσ
              have hself : (w.setStream (f.recv .accepting).stream
                  { st with accepted := true }).streams (f.recv .accepting).stream
                    = some { st with accepted := true } := Function.update_self ..
              obtain rfl := Option.some_inj.mp (hself.symm.trans hst')
              exact h.streams _ st hst
            · exact h.streams σ st' ((Function.update_of_ne hσ ..).symm.trans hst')
        · cases hstep
      · cases hstep
    | busy | err =>
      simp only [ho, reduceCtorEq, if_false] at hstep
      exact hfail (fun htakes => htakes.received.accepted) (by simp [ho]) hstep
  | reading files =>
    obtain ⟨hprepared, haccepted, hfiles, hread, σ, st, rfl, hst⟩ := hat
    have hself : m.files.take files.length = files := (List.prefix_iff_eq_take.mp hfiles).symm
    simp only [Fleet.recvStep] at hstep
    cases ho : (f.recv (.reading files)).outcome with
    | ok =>
      simp only [ho, if_true, Option.bind_some, hst] at hstep
      -- This read and the earlier ones succeeded.
      have hreads : ∀ k < files.length + 1, f.RecvOk (.reading (m.files.take k)) := by
        intro k hk
        rcases Nat.lt_succ_iff_lt_or_eq.mp hk with hlt | rfl
        · exact hread k hlt
        · rw [hself]
          exact ho
      cases hitem : st.item files.length with
      | none => simp [hitem] at hstep
      | some item =>
        rw [hitem] at hstep
        cases item with
        | none =>
          obtain ⟨rfl, hshipped⟩ := arrived_of_item_end h hst hfiles hitem
          refine .quiet h hstep (receiving_received _ ⟨hshipped, ?_, σ, st, hst⟩)
          exact ⟨hprepared, haccepted, fun k hk => hreads k (Nat.lt_succ_of_le hk)⟩
        | some file =>
          refine .quiet h hstep ⟨hprepared, haccepted, prefix_of_item h hst hfiles hitem, ?_, σ, st,
            rfl, hst⟩
          rwa [List.length_append, List.length_singleton]
    | busy | err =>
      simp only [ho, reduceCtorEq, if_false] at hstep
      refine hfail (fun htakes => ?_) (by simp [ho]) hstep
      have hok := htakes.received.read files.length hfiles.length_le
      rwa [hself] at hok
  | readingNet files =>
    obtain ⟨rfl, harrived, hsome⟩ := hat
    obtain ⟨net, hnet⟩ := Option.isSome_iff_exists.mp hsome
    simp only [Fleet.recvStep] at hstep
    cases ho : (f.recv (.readingNet m.files)).outcome with
    | ok =>
      rw [ho, RecvPhase.next, m.lookup_net, hnet] at hstep
      exact .quiet h hstep ⟨rfl, harrived, hnet, ho⟩
    | busy | err =>
      rw [ho] at hstep
      exact hfail (fun htakes => (htakes.plumbed net hnet).1) (by simp [ho]) hstep
  | creatingTap files net =>
    obtain ⟨rfl, harrived, hnet, hread⟩ := hat
    simp only [Fleet.recvStep] at hstep
    cases ho : (f.recv (.creatingTap m.files net)).outcome with
    | ok =>
      rw [ho] at hstep
      refine .quiet h hstep ⟨rfl, hnet.symm, harrived, fun net' hnet' => ?_⟩
      obtain rfl := Option.some_inj.mp (hnet.symm.trans hnet')
      exact ⟨hread, ho⟩
    | busy | err =>
      rw [ho] at hstep
      exact hfail (fun htakes => (htakes.plumbed net hnet).2) (by simp [ho]) hstep
  | bindingUffd files net =>
    obtain ⟨rfl, rfl, harrived, hplumbed⟩ := hat
    simp only [Fleet.recvStep] at hstep
    cases ho : (f.recv (.bindingUffd m.files m.vm.net)).outcome with
    | ok =>
      rw [ho] at hstep
      exact .quiet h hstep ⟨rfl, rfl, harrived, hplumbed, ho⟩
    | busy | err =>
      rw [ho] at hstep
      exact hfail (fun htakes => htakes.bound) (by simp [ho]) hstep
  | launching files net =>
    obtain ⟨rfl, rfl, harrived, hplumbed, hbound⟩ := hat
    simp only [Fleet.recvStep] at hstep
    cases ho : (f.recv (.launching m.files m.vm.net)).outcome with
    | ok =>
      simp only [ho, if_true] at hstep
      obtain ⟨w₁, hlaunch, hsame⟩ := Option.map_eq_some_iff.mp hstep
      unfold Fleet.launch at hlaunch
      split at hlaunch
      · rename_i hfree
        obtain rfl := Option.some_inj.mp hlaunch
        -- The new process is not that of the VM, which is there.
        have hne : m.newProc f ≠ m.vm.proc := by
          intro heq
          obtain ⟨pr, hpr, -⟩ := h.guest
          rw [← heq] at hpr
          exact absurd (hfree.symm.trans hpr) (by simp)
        refine .of_proc h hne (congrArg some hsame) ?_
        refine ⟨rfl, rfl, harrived, hplumbed, hbound, ho, rfl, hne, ?_⟩
        simp [Fleet.setProc, Event.fresh, Move.newProc]
      · cases hlaunch
    | busy | err =>
      simp only [ho, reduceCtorEq, if_false] at hstep
      exact hfail (fun htakes => htakes.launched) (by simp [ho]) hstep
  | loading files net p =>
    obtain ⟨rfl, rfl, harrived, hplumbed, hbound, hlaunched, rfl, hne, hborn⟩ := hat
    obtain ⟨pr, hpr⟩ := Option.ne_none_iff_exists'.mp hborn
    simp only [Fleet.recvStep, m.lookup_state] at hstep
    have hfailed : (f.recv (.loading m.files m.vm.net (m.newProc f))).outcome ≠ .ok →
        ¬ m.TakesOver f := fun hnot htakes => hnot htakes.loaded
    by_cases hhappened : (f.recv (.loading m.files m.vm.net (m.newProc f))).happened
    · have hstart : w.startGuest (m.newProc f) m.lineage =
          w.setProc (m.newProc f) (.started (some m.lineage)) := by
        simp [Fleet.startGuest, Fleet.modifyProc, hpr]
      rw [if_pos hhappened, hstart] at hstep
      refine .of_proc h hne hstep ?_
      cases ho : (f.recv (.loading m.files m.vm.net (m.newProc f))).outcome with
      | ok =>
        refine ⟨⟨harrived.1, harrived.2.1, hplumbed, hbound, hlaunched, ho⟩, harrived.2.2, hne, ?_⟩
        exact ⟨_, Function.update_self .., rfl, rfl⟩
      | busy | err => exact ⟨hfailed (by simp [ho]), hne⟩
    · rw [if_neg hhappened] at hstep
      cases ho : (f.recv (.loading m.files m.vm.net (m.newProc f))).outcome with
      | ok => exact absurd (.inl ho) hhappened
      | busy | err =>
        rw [ho] at hstep
        exact .quiet h hstep ⟨hfailed (by simp [ho]), hne⟩
  | cleaningUp p =>
    obtain ⟨hnot, hne⟩ := hat
    simp only [Fleet.recvStep, Fleet.kill, Fleet.modifyProc] at hstep
    split at hstep
    · split at hstep
      · exact .of_proc h hne hstep hnot
      · exact .quiet h hstep hnot
    · exact .quiet h hstep hnot
  | settling vm =>
    simp only [Fleet.recvStep] at hstep
    exact .quiet h hstep hat
  | returned vm =>
    cases vm with
    | none =>
      obtain ⟨rfl, rfl⟩ : w = w' ∧ _ = tgt' := by simpa [Fleet.recvStep] using hstep
      exact ⟨.refl m w, h.streams, h.slots_before (by simp) _, hat⟩
    | some vm =>
      obtain ⟨rfl, rfl⟩ : w = w' ∧ _ = tgt' := by simpa [Fleet.recvStep] using hstep
      exact ⟨.refl m w, h.streams, h.slots_before (by simp) _, rfl, hat⟩

/-- A turn of the target. -/
theorem target_taskStep (h : m.Sound f w src tgt)
    (hstep : w.taskStep m.target (f.event tgt) tgt = some (w', tgt')) :
    TargetTurn m f w w' src tgt' := by
  cases tgt with
  | receiving listen phase stream =>
    obtain ⟨rfl, -⟩ := h.atTarget
    exact target_recvStep h hstep
  | registering vm r =>
    obtain ⟨rfl, htakes, ⟨σ, st, hst⟩, hne, hruns⟩ := h.atTarget
    have hsent : ¬ Move.Unsent w := fun hunsent => by simp [hunsent σ] at hst
    -- The VM has been sent, so it is in no slot that the insert could overwrite.
    have hempty : ∀ host id, w.registry host id = none := by
      intro host id
      cases hslot : w.registry host id with
      | none => rfl
      | some vm =>
        rcases h.slots host id vm hslot with ⟨-, -, hsrc⟩ | ⟨hdown, -⟩ | ⟨-, hfinished⟩
        · have hat := h.atSource
          rw [hsrc] at hat
          exact absurd hat.2.2.1.1 hsent
        · exact absurd htakes.shipped.dialed.drained (f.standsDown_iff.mp hdown)
        · cases hfinished
    obtain ⟨rfl, rfl⟩ : w.setSlot m.target vm.id (some vm) = w' ∧
        Task.finished .received = tgt' := by
      simpa [Fleet.taskStep, Fleet.insert, hempty] using hstep
    refine ⟨⟨rfl, rfl, fun hunsent => absurd hunsent hsent, fun _ st hst => ⟨st, hst, rfl⟩⟩,
      h.streams, fun _ _ _ _ => .inr (.inr ⟨htakes, rfl⟩), vm.id, vm, ?_, htakes, ⟨σ, st, hst⟩, hne,
      hruns⟩
    simp [Fleet.setSlot]
  | finished r => simp [Fleet.taskStep] at hstep
  | _ => exact h.atTarget.elim

end Target

/-! ## Every interleaving -/

section Runs

variable {m : Move} {f : Faults} {w : Fleet} {src tgt : Task}

/-- What a side does in a turn of its own. -/
theorem turn_eq {side : Side} {host : HostId} {task : Task}
    (h : w.handlers side.handler = some (host, task)) :
    w.turn f side = ((w.taskStep host (f.event task) task).map
      fun (w, task) => w.setTask side.handler host task).getD w := by
  simp only [Fleet.turn, Fleet.step, Fleet.tryStep, h]

theorem handlers_setTask_of_ne {h h' : HandlerId} (hne : h' ≠ h) (host : HostId) (task : Task) :
    (w.setTask h host task).handlers h' = w.handlers h' := Function.update_of_ne hne ..

theorem handlers_setTask_self (w : Fleet) (h : HandlerId) (host : HostId) (task : Task) :
    (w.setTask h host task).handlers h = some (host, task) := Function.update_self ..

/-- A turn of either side keeps the move sound, and leaves the other handler alone. -/
theorem Move.Sound.turn (h : m.Sound f w src tgt) (side : Side) :
    ∃ src' tgt', m.Sound f (w.turn f side) src' tgt' ∧
      (side = .source → tgt' = tgt) ∧ (side = .target → src' = src) := by
  cases side with
  | source =>
    rw [turn_eq h.source]
    cases hstep : w.taskStep m.source (f.event src) src with
    | none => exact ⟨src, tgt, h, fun _ => rfl, fun _ => rfl⟩
    | some next =>
      obtain ⟨w', src'⟩ := next
      have hdid := source_taskStep h hstep
      refine ⟨src', tgt, ⟨handlers_setTask_self .., ?_, hdid.guest, hdid.streams, hdid.slots,
        hdid.atSource, hdid.frame.atTarget h.atTarget⟩, fun _ => rfl, fun hside => by cases hside⟩
      change (w'.setTask Side.source.handler m.source src').handlers _ = _
      rw [handlers_setTask_of_ne (by decide), hdid.frame.handlers, h.target]
  | target =>
    rw [turn_eq h.target]
    cases hstep : w.taskStep m.target (f.event tgt) tgt with
    | none => exact ⟨src, tgt, h, fun _ => rfl, fun _ => rfl⟩
    | some next =>
      obtain ⟨w', tgt'⟩ := next
      have hdid := target_taskStep h hstep
      refine ⟨src, tgt', ⟨?_, handlers_setTask_self .., ?_, hdid.streams, hdid.slots,
        hdid.frame.atSource h.atSource, hdid.atTarget⟩, fun hside => (by cases hside), fun _ => rfl⟩
      · change (w'.setTask Side.target.handler m.target tgt').handlers _ = _
        rw [handlers_setTask_of_ne (by decide), hdid.frame.handlers, h.source]
      · obtain ⟨pr, hpr, hlineage⟩ := h.guest
        exact ⟨pr, hdid.frame.guest.trans hpr, hlineage⟩

theorem Move.sound_start (m : Move) (f : Faults) :
    m.Sound f m.start (.taking m.vm.id m.dest) (.receiving m.dest .preparing none) where
  source := by
    rw [Move.start, handlers_setTask_of_ne (by decide), handlers_setTask_self]
  target := handlers_setTask_self ..
  guest := ⟨_, Function.update_self .., rfl⟩
  streams _ _ hst := by cases hst
  slots host id vm hslot := by
    refine .inl ?_
    by_cases hhost : host = m.source
    · subst hhost
      by_cases hid : id = m.vm.id
      · exact ⟨rfl, hid, rfl⟩
      · simp [Move.start, Fleet.setTask, Fleet.setSlot, Fleet.setProc, Fleet.empty,
          Function.update_of_ne hid] at hslot
    · simp [Move.start, Fleet.setTask, Fleet.setSlot, Fleet.setProc, Fleet.empty,
        Function.update_of_ne hhost] at hslot
  atSource := by
    refine ⟨rfl, rfl, ⟨fun _ => rfl, _, Function.update_self .., rfl, rfl⟩, ?_⟩
    simp [Move.start, Fleet.setTask, Fleet.setSlot]
  atTarget := ⟨rfl, trivial⟩

/-- Every interleaving keeps the move sound. -/
theorem Move.sound_run (m : Move) (f : Faults) (sides : List Side) :
    ∃ src tgt, m.Sound f (m.run f sides) src tgt := by
  induction sides using List.reverseRecOn with
  | nil => exact ⟨_, _, m.sound_start f⟩
  | append_singleton sides side ih =>
    obtain ⟨src, tgt, h⟩ := ih
    obtain ⟨src', tgt', h', -⟩ := h.turn side
    rw [Move.run, List.foldl_append]
    exact ⟨src', tgt', h'⟩

/-- The VM is registered on the source once a move that stood down has finished. -/
theorem Move.Sound.runsAt_source (h : m.Sound f w (.finished .stoodDown) tgt) :
    w.RunsAt m.source m.lineage := by
  obtain ⟨⟨-, pr, hpr, hruns⟩, -, hslot⟩ := h.atSource
  exact ⟨m.vm.id, m.vm, pr, hslot, hpr, hruns⟩

/-- Where a finished move is. -/
theorem Move.Sound.finished (h : m.Sound f w src tgt) (hfinished : Move.Finished w) :
    ∃ r r', src = .finished r ∧ tgt = .finished r' := by
  obtain ⟨r, r', hsrc, htgt⟩ := hfinished
  simp only [Fleet.task?, h.source, h.target, Option.map_some, Option.some_inj] at hsrc htgt
  exact ⟨r, r', hsrc, htgt⟩

/-- A finished move has kept the VM if and only if the source stood down or nothing failed. -/
theorem survives_iff (m : Move) (f : Faults) (sides : List Side)
    (hfinished : Move.Finished (m.run f sides)) :
    m.Survives (m.run f sides) ↔ f.StandsDown ∨ m.TakesOver f := by
  obtain ⟨src, tgt, h⟩ := m.sound_run f sides
  obtain ⟨r, r', rfl, rfl⟩ := h.finished hfinished
  constructor
  · intro hsurvives
    -- Whichever host it is, something is registered there.
    obtain ⟨host, id, vm, hslot⟩ : ∃ host id vm, (m.run f sides).registry host id = some vm := by
      rcases hsurvives with ⟨id, vm, -, hslot, -⟩ | ⟨id, vm, -, hslot, -⟩
      · exact ⟨_, id, vm, hslot⟩
      · exact ⟨_, id, vm, hslot⟩
    rcases h.slots host id vm hslot with ⟨-, -, hsrc⟩ | ⟨hdown, -⟩ | ⟨htakes, -⟩
    · cases hsrc
    · exact .inl hdown
    · exact .inr htakes
  · rintro (hdown | htakes)
    · left
      have hat := h.atSource
      cases r with
      | stoodDown => exact h.runsAt_source
      | moved | failed => exact absurd hat (f.standsDown_iff.mp hdown)
      | _ => exact hat.elim
    · right
      have hat := h.atTarget
      cases r' with
      | received =>
        obtain ⟨id, vm, hslot, -, -, -, pr, hpr, hruns⟩ := hat
        exact ⟨id, vm, pr, hslot, hpr, hruns⟩
      | failed => exact absurd htakes hat
      | _ => exact hat.elim

/-! ## The source alone -/

/-- How far the handler of the source is from its end. -/
def Task.remaining : Task → ℕ
  | .taking _ _ => 21
  | .migrating _ _ phase _ => phase.remaining
  | .registering _ _ => 2
  | _ => 0

/-- The source never waits for the target. -/
theorem Move.Sound.source_enabled (h : m.Sound f w src tgt) (hsrc : ∀ r, src ≠ .finished r) :
    ∃ w' src', w.taskStep m.source (f.event src) src = some (w', src') ∧
      src'.remaining < src.remaining := by
  cases src with
  | taking id dest =>
    obtain ⟨rfl, -, -, hslot⟩ := h.atSource
    refine ⟨_, _, rfl, ?_⟩
    simp [hslot, Task.remaining, SendPhase.remaining]
  | migrating dest vm phase stream =>
    obtain ⟨rfl, rfl, hat⟩ := h.atSource
    by_cases hreturned : ∃ result, phase = .returned result
    · obtain ⟨result, rfl⟩ := hreturned
      cases result <;> exact ⟨_, _, rfl, by simp [Task.remaining, SendPhase.remaining]⟩
    · have hnext := SendPhase.remaining_next m.vm (f.send phase).outcome
        fun result hresult => hreturned ⟨result, hresult⟩
      suffices hsome : ∃ w' stream', w.migrateStep m.dest m.vm stream (f.send phase) phase = some
          (w', .migrating m.dest m.vm (phase.next m.vm (f.send phase).outcome) stream') by
        obtain ⟨w', stream', hstep⟩ := hsome
        exact ⟨w', _, hstep, hnext⟩
      cases phase with
      | shipping ship =>
        -- A connection is new, and a file goes over the connection that was made.
        suffices hship : ∃ w' stream', w.ship m.dest m.vm.proc
            (Fleet.fileBody (w.lineageOf m.vm.proc) m.vm.vsockUds m.vm.net) stream
            (f.send (.shipping ship)) ship = some (w', stream') by
          obtain ⟨w', stream', hship⟩ := hship
          exact ⟨w', stream', by simp [Fleet.migrateStep, hship]⟩
        cases ship with
        | pausing | snapshotting => exact ⟨_, _, rfl⟩
        | dialing =>
          have hunsent : Move.Unsent w := hat.1
          by_cases hok : (f.send (.shipping .dialing)).outcome = .ok
          · rw [Fleet.ship, if_pos hok, if_pos (hunsent _)]
            exact ⟨_, _, rfl⟩
          · rw [Fleet.ship, if_neg hok]
            exact ⟨_, _, rfl⟩
        | sending file rest =>
          obtain ⟨-, -, -, σ, st, rfl, -⟩ := hat
          exact ⟨_, _, rfl⟩
        | finishing =>
          obtain ⟨-, -, -, σ, st, rfl, -⟩ := hat
          exact ⟨_, _, rfl⟩
      | returned result => exact absurd ⟨result, rfl⟩ hreturned
      | _ => exact ⟨_, _, rfl⟩
  | registering vm r => exact ⟨_, _, rfl, by simp [Task.remaining]⟩
  | finished r => exact absurd rfl (hsrc r)
  | _ => exact h.atSource.elim

/-- The processes of others are not the source's business. -/
theorem Move.Sound.procs_turn_source (h : m.Sound f w src tgt) {p : ProcId} (hp : p ≠ m.vm.proc) :
    (w.turn f .source).procs p = w.procs p := by
  rw [turn_eq h.source]
  cases hstep : w.taskStep m.source (f.event src) src with
  | none => rfl
  | some next => exact (source_taskStep h hstep).frame.procs p hp

/-- Left alone, the source comes to its end, while the target stays where it is and no process but
that of the VM changes. -/
theorem exists_source_finished {sides : List Side} (h : m.Sound f (m.run f sides) src tgt) :
    ∃ turns r, m.Sound f (m.run f (sides ++ List.replicate turns .source)) (.finished r) tgt ∧
      ∀ p, p ≠ m.vm.proc → (m.run f (sides ++ List.replicate turns .source)).procs p
        = (m.run f sides).procs p := by
  induction hn : src.remaining using Nat.strong_induction_on generalizing sides src with
  | _ n ih =>
    by_cases hfinished : ∃ r, src = .finished r
    · obtain ⟨r, rfl⟩ := hfinished
      exact ⟨0, r, by simpa using h, fun p _ => by simp⟩
    · obtain ⟨w', src', hstep, hless⟩ :=
        h.source_enabled fun r hr => hfinished ⟨r, hr⟩
      obtain ⟨src'', tgt', h', htgt, -⟩ := h.turn .source
      obtain rfl := htgt rfl
      have hrun : m.run f (sides ++ [.source]) = (m.run f sides).turn f .source := by
        simp [Move.run, List.foldl_append]
      -- The turn is the step that brings the source closer to its end.
      have hsrc : src'' = src' := by
        have hturn := h'.source
        rw [turn_eq h.source, hstep] at hturn
        simpa [handlers_setTask_self] using hturn.symm
      subst hsrc
      rw [← hrun] at h'
      obtain ⟨turns, r, hlast, hprocs⟩ := ih _ (hn ▸ hless) h' rfl
      have hsides : sides ++ List.replicate (turns + 1) .source
          = (sides ++ [.source]) ++ List.replicate turns .source := by
        simp [List.replicate_succ]
      refine ⟨turns + 1, r, by rwa [hsides], fun p hp => ?_⟩
      rw [hsides, hprocs p hp, hrun, h.procs_turn_source hp]

/-! ## What a move promises -/

/-- A source that has torn the VM down had drained it. -/
theorem Move.Sound.drained_of_tornDown (h : m.Sound f w src tgt) (htorn : Move.TornDown w) :
    f.Drained := by
  have hat := h.atSource
  have htask : w.task? .source = some src := by simp [Fleet.task?, h.source]
  rcases htorn with ⟨dest, vm, stream, result, hsrc, hresult⟩ | hsrc | hsrc
  · obtain rfl := Option.some_inj.mp (htask.symm.trans hsrc)
    cases result with
    | stoodDown => exact absurd rfl hresult
    | moved | failed => exact hat.2.2
  · obtain rfl := Option.some_inj.mp (htask.symm.trans hsrc)
    exact hat
  · obtain rfl := Option.some_inj.mp (htask.symm.trans hsrc)
    exact hat

/-- A move keeps all that it promises if and only if the source stands down: otherwise the source
can tear the VM down before the target has read anything. -/
theorem keepsVm_iff (m : Move) (f : Faults) : m.KeepsVm f ↔ f.StandsDown := by
  constructor
  · intro hkeeps
    rw [f.standsDown_iff]
    intro hdrained
    have hstart : m.Sound f (m.run f []) _ _ := m.sound_start f
    obtain ⟨turns, r, h, hprocs⟩ := exists_source_finished hstart
    rw [List.nil_append] at h hprocs
    have htask : (m.run f (List.replicate turns .source)).task? .source = some (.finished r) := by
      simp [Fleet.task?, h.source]
    have htorn : Move.TornDown (m.run f (List.replicate turns .source)) := by
      have hat := h.atSource
      cases r with
      | stoodDown => exact absurd hdrained (f.standsDown_iff.mp hat.2.1)
      | moved => exact .inr (.inl htask)
      | failed => exact .inr (.inr htask)
      | _ => exact hat.elim
    -- Nobody but the source has done anything, so there is no process but that of the VM.
    obtain ⟨p, pr, hp, hpr, -⟩ := hkeeps.cutover _ htorn
    rw [hprocs p hp] at hpr
    simp [Move.run, Move.start, Fleet.setTask, Fleet.setSlot, Fleet.setProc, Fleet.empty,
      Function.update_of_ne hp] at hpr
  · intro hdown
    have hnot := f.standsDown_iff.mp hdown
    refine ⟨fun sides hfinished => ?_, fun sides htorn => ?_, fun hfails => absurd hfails.1 hnot⟩
    · exact (survives_iff m f sides hfinished).mpr (.inl hdown)
    · obtain ⟨src, tgt, h⟩ := m.sound_run f sides
      exact absurd (h.drained_of_tornDown htorn) hnot

end Runs

/-- In every interleaving under every choice of failures, a finished move has kept the VM if and
only if the source stood down or nothing at all failed, and all that a move promises holds in every
interleaving if and only if the source stands down. -/
theorem move_keeps_vm_iff (m : Move) (f : Faults) :
    (∀ sides, Move.Finished (m.run f sides) →
      (m.Survives (m.run f sides) ↔ f.StandsDown ∨ m.TakesOver f)) ∧
      (m.KeepsVm f ↔ f.StandsDown) :=
  ⟨survives_iff m f, keepsVm_iff m f⟩

/-- A VM without a network that moves from one host to another. -/
def plainMove : Move where
  vm := { id := ⟨7⟩, proc := 0, vsockUds := "guest.vsock", net := none }
  lineage := 0
  source := ⟨"a"⟩
  target := ⟨"b"⟩
  dest := "b:9000"

/-- Nothing fails. -/
def Faults.smooth : Faults where
  send _ := .plain
  recv _ := { Event.plain with proc := 1 }

/-- Nothing fails but the load of the snapshot on the target. -/
def Faults.failedLoad : Faults where
  send _ := .plain
  recv
    | .loading _ _ _ => { Event.plain with outcome := .err, proc := 1 }
    | _ => { Event.plain with proc := 1 }

/-- The source goes first, and then the target. -/
def sourceFirst : List Side := List.replicate 17 .source ++ List.replicate 14 .target

/-- The VM is moved. -/
theorem move_keeps_vm_iff_smooth :
    Move.Finished (plainMove.run .smooth sourceFirst) ∧
      plainMove.Survives (plainMove.run .smooth sourceFirst) := by
  have hfinished : Move.Finished (plainMove.run .smooth sourceFirst) :=
    ⟨.moved, .received, by decide +kernel, by decide +kernel⟩
  refine ⟨hfinished, ((move_keeps_vm_iff plainMove .smooth).1 sourceFirst hfinished).mpr ?_⟩
  -- Every operation succeeds, on both sides.
  refine .inr ⟨⟨⟨fun _ _ => rfl, ⟨rfl, fun _ => rfl⟩, rfl, rfl, rfl⟩, fun _ _ _ => rfl, .inl rfl⟩,
    ⟨rfl, rfl, fun _ _ => rfl⟩, fun _ _ => ⟨rfl, rfl⟩, rfl, rfl, rfl⟩

/-- The source has sent its snapshot and torn the VM down when the target fails to load it. -/
theorem vm_lost_by_failed_load : ¬ ∀ (m : Move) (f : Faults), m.KeepsVm f := by
  intro hkeeps
  have hfinished : Move.Finished (plainMove.run .failedLoad sourceFirst) :=
    ⟨.moved, .failed, by decide +kernel, by decide +kernel⟩
  have hsurvives := (hkeeps plainMove .failedLoad).survives sourceFirst hfinished
  rcases (survives_iff plainMove .failedLoad sourceFirst hfinished).mp hsurvives with
    ⟨_, _, hfails⟩ | htakes
  · exact hfails rfl
  · exact absurd htakes.loaded (by simp [Faults.RecvOk, Faults.failedLoad])

end Sleepwalk.Hostd
