import Sleepwalk.Hostd.Migrate
import Sleepwalk.Lib.Custody

/-!
# A fleet of daemons

Any number of `hostd` daemons with their registries, and the handlers of their HTTP requests
running the programs of `Hostd.Migrate` on shared processes and streams.

A label starts a handler, resolves the operation a handler waits for, or drops a handler's future.
How an operation turns out is the label's choice, as long as it can be: a process or a stream is
new, a read finds something to read. An operation that fails may have taken effect, and a kill may
fail, since every caller ignores that. A label that does not fit leaves the fleet as it is.
-/

namespace Sleepwalk.Hostd

open Proto

/-- A Firecracker process as the fleet sees it. -/
abbrev Process := Custody.Proc ProcId

/-- A snapshot connection. -/
abbrev StreamId := ℕ

/-- One run of a request handler. -/
abbrev HandlerId := ℕ

/-- Where a receiver listens. -/
abbrev Addr := String

/-- A snapshot connection between two hosts. -/
structure Stream where
  /-- The address it was dialed to. -/
  addr : Addr
  /-- The process whose snapshot it carries. -/
  source : ProcId
  /-- The files streamed so far. -/
  files : Files
  /-- The end-of-stream marker is out. -/
  ended : Bool
  /-- The sender has closed it. -/
  closed : Bool
  /-- A receiver has accepted it. -/
  accepted : Bool
deriving DecidableEq, Repr

/-- A connection that was just dialed. -/
def Stream.dialed (addr : Addr) (source : ProcId) : Stream :=
  { addr, source, files := [], ended := false, closed := false, accepted := false }

/-- What a read finds after these many files: the next one, or the end of the stream. -/
def Stream.item (st : Stream) (read : ℕ) : Option (Option (String × FileBody)) :=
  match st.files[read]? with
  | some file => some (some file)
  | none => if st.ended then some none else none

/-- What a request is answered with. -/
inductive Response where
  /-- A VM was booted and registered. -/
  | spawned
  /-- A VM was moved away. -/
  | moved
  /-- The migration stood down. -/
  | stoodDown
  /-- There is no such VM here. -/
  | notFound
  /-- A VM was restored and registered. -/
  | received
  /-- The request failed. -/
  | failed
deriving DecidableEq, Repr

/-- What a handler is at. -/
inductive Task where
  /-- `/vms/spawn`, in `VmRegistry::spawn`. -/
  | spawning (networked : Bool) (id : VmId) (vsockUds : String) (phase : SpawnPhase)
  /-- `/migrate/send?vm=ID`, about to take the VM from the registry. -/
  | taking (id : VmId) (dest : Addr)
  /-- `/migrate/send?vm=ID`, in `migrate_running`. -/
  | migrating (dest : Addr) (vm : RunningVm) (phase : SendPhase) (stream : Option StreamId)
  /-- `/migrate/send` without a VM, in `migrate_source`. -/
  | sourcing (dest : Addr) (phase : SourcePhase) (stream : Option StreamId)
  /-- `/migrate/recv`, in `receive_and_restore`. -/
  | receiving (listen : Addr) (phase : RecvPhase) (stream : Option StreamId)
  /-- Any of them, about to insert the VM into the registry. -/
  | registering (vm : RunningVm) (response : Response)
  /-- Done. -/
  | finished (response : Response)
deriving DecidableEq, Repr

/-- The process a handler holds. -/
def Task.proc : Task → Option ProcId
  | .spawning _ _ _ phase =>
    match phase with
    | .configuring p _ _ _ | .booting p _ | .linking p _ | .delivering p _ | .dropping p => some p
    | .returned vm => vm.map RunningVm.proc
    | .preparing | .plumbing | .launching _ => none
  | .migrating _ vm phase _ =>
    match phase with
    | .returned .moved | .returned .failed => none
    | _ => some vm.proc
  | .sourcing _ phase _ =>
    match phase with
    | .configuring p _ _ | .booting p | .connecting p | .greeting p | .draining p
    | .shipping p _ | .killing p _ => some p
    | .preparing | .launching | .returned _ => none
  | .receiving _ phase _ =>
    match phase with
    | .loading _ _ p | .cleaningUp p => some p
    | .settling vm => some vm.proc
    | .returned vm => vm.map RunningVm.proc
    | _ => none
  | .registering vm _ => some vm.proc
  | .taking _ _ | .finished _ => none

/-- The stream a handler sends or reads. -/
def Task.stream : Task → Option StreamId
  | .migrating _ _ _ stream | .sourcing _ _ stream | .receiving _ _ stream => stream
  | _ => none

/-- All hosts. -/
structure Fleet where
  /-- The processes launched so far. -/
  procs : ProcId → Option Process
  /-- The connections dialed so far. -/
  streams : StreamId → Option Stream
  /-- Each host's registered VMs. -/
  registry : HostId → VmId → Option RunningVm
  /-- The handlers started so far, with their hosts. -/
  handlers : HandlerId → Option (HostId × Task)
  /-- The hosts whose daemon has boot secrets to deliver. -/
  bootSecrets : HostId → Bool

/-- A request to a daemon. The handler of a receive starts with its listener bound. -/
inductive Request where
  /-- `/vms/spawn`. The id and the socket path are the ones it picks. -/
  | spawn (networked : Bool) (id : VmId) (vsockUds : String)
  /-- `/migrate/send?vm=ID`. -/
  | send (id : VmId) (dest : Addr)
  /-- `/migrate/send` of a VM of its own. -/
  | sendFresh (dest : Addr)
  /-- `/migrate/recv`. -/
  | recv (listen : Addr)
deriving DecidableEq, Repr

/-- Where the handler of a request starts. -/
def Request.start : Request → Task
  | .spawn networked id vsockUds => .spawning networked id vsockUds .preparing
  | .send id dest => .taking id dest
  | .sendFresh dest => .sourcing dest .preparing none
  | .recv listen => .receiving listen .preparing none

/-- How the operation a handler waits for turns out, and what it makes if it makes something. -/
structure Event where
  /-- Its result. -/
  outcome : Outcome
  /-- It took effect even if it failed. -/
  effect : Bool
  /-- A kill reached its process. -/
  killed : Bool
  /-- The process it launched. -/
  proc : ProcId
  /-- The stream it dialed or accepted. -/
  stream : StreamId
  /-- The VM id it picked. -/
  vmId : VmId
  /-- The network identity it plumbed. -/
  net : NetId
deriving DecidableEq, Repr

/-- The operation took effect. -/
def Event.happened (e : Event) : Prop := e.outcome = .ok ∨ e.effect = true

instance (e : Event) : Decidable e.happened := inferInstanceAs (Decidable (_ ∨ _))

/-- The VM a handler is making. -/
def Event.fresh (e : Event) (id : VmId) (vsockUds : String) : RunningVm :=
  { id, proc := e.proc, vsockUds, net := some e.net }

namespace Fleet

/-! ## Changes -/

/-- Set a process. -/
def setProc (w : Fleet) (p : ProcId) (pr : Process) : Fleet :=
  { w with procs := Function.update w.procs p (some pr) }

/-- Change a process, if there is one. -/
def modifyProc (w : Fleet) (p : ProcId) (f : Process → Process) : Fleet :=
  match w.procs p with
  | some pr => w.setProc p (f pr)
  | none => w

/-- Set a stream. -/
def setStream (w : Fleet) (σ : StreamId) (st : Stream) : Fleet :=
  { w with streams := Function.update w.streams σ (some st) }

/-- Change a stream, if there is one. -/
def modifyStream (w : Fleet) (σ : StreamId) (f : Stream → Stream) : Fleet :=
  match w.streams σ with
  | some st => w.setStream σ (f st)
  | none => w

/-- Set what a host has registered under an id. -/
def setSlot (w : Fleet) (host : HostId) (id : VmId) (vm : Option RunningVm) : Fleet :=
  let slots := Function.update (w.registry host) id vm
  { w with registry := Function.update w.registry host slots }

/-- Set what a handler is at. -/
def setTask (w : Fleet) (h : HandlerId) (host : HostId) (task : Task) : Fleet :=
  { w with handlers := Function.update w.handlers h (some (host, task)) }

/-- Launch a process under a new id. -/
def launch (w : Fleet) (p : ProcId) : Option Fleet :=
  if w.procs p = none then some (w.setProc p .idle) else none

/-- Start the guest of a lineage in a process. -/
def startGuest (w : Fleet) (p lineage : ProcId) : Fleet :=
  w.modifyProc p fun _ => .started (some lineage)

/-- Kill a process. The callers ignore a kill that fails. -/
def kill (w : Fleet) (p : ProcId) (killed : Bool) : Fleet :=
  if killed then w.modifyProc p .stop else w

/-- The guest of a process. -/
def lineageOf (w : Fleet) (p : ProcId) : ProcId := ((w.procs p).bind Custody.Proc.lineage).getD p

/-! ## Programs -/

/-- What the files of a snapshot hold. -/
def fileBody (lineage : ProcId) (vsockUds : String) (net : Option NetId) : String → FileBody
  | "mem.snap" => .memory lineage
  | "state.snap" => .state lineage
  | "vsock.txt" => .text vsockUds
  | _ =>
    match net with
    | some net => .net net
    | none => .text ""

/-- What an operation of `snapshot_and_send` does to the process and the stream, and the stream it
is left with. Whatever ends the sending closes the stream. -/
def ship (w : Fleet) (dest : Addr) (p : ProcId) (body : String → FileBody)
    (stream : Option StreamId) (e : Event) : ShipPhase → Option (Fleet × Option StreamId)
  | .pausing => some (if e.happened then w.modifyProc p .pause else w, stream)
  | .snapshotting => some (w, stream)
  | .dialing =>
    if e.outcome = .ok then
      if w.streams e.stream = none then
        some (w.setStream e.stream (.dialed dest p), some e.stream)
      else none
    else some (w, stream)
  | .sending file _ =>
    match stream with
    | some σ =>
      some (w.modifyStream σ fun st =>
        if e.outcome = .ok then { st with files := st.files ++ [(file, body file)] }
        else { st with closed := true }, stream)
    | none => none
  | .finishing =>
    match stream with
    | some σ =>
      some (w.modifyStream σ fun st =>
        { st with ended := st.ended || decide e.happened, closed := true }, stream)
    | none => none

/-- One operation of `VmRegistry::spawn`. -/
def spawnStep (w : Fleet) (host : HostId) (networked : Bool) (id : VmId) (vsockUds : String)
    (e : Event) (phase : SpawnPhase) : Option (Fleet × Task) :=
  let next := phase.next (e.fresh id vsockUds) networked (w.bootSecrets host) e.outcome
  let task := .spawning networked id vsockUds next
  match phase with
  | .launching _ => if e.outcome = .ok then (w.launch e.proc).map (·, task) else some (w, task)
  | .booting p _ => some (if e.happened then w.startGuest p p else w, task)
  | .dropping p => some (w.kill p e.killed, task)
  | .returned (some vm) => some (w, .registering vm .spawned)
  | .returned none => some (w, .finished .failed)
  | _ => some (w, task)

/-- One operation of `migrate_running`, and what its handler makes of the result. -/
def migrateStep (w : Fleet) (dest : Addr) (vm : RunningVm) (stream : Option StreamId) (e : Event)
    (phase : SendPhase) : Option (Fleet × Task) :=
  let next := phase.next vm e.outcome
  match phase with
  | .shipping ship =>
    (w.ship dest vm.proc (fileBody (w.lineageOf vm.proc) vm.vsockUds vm.net) stream e ship).map
      fun (w, stream) => (w, .migrating dest vm next stream)
  | .tearingDown _ => some (w.kill vm.proc e.killed, .migrating dest vm next stream)
  | .returned .moved => some (w, .finished .moved)
  | .returned .stoodDown => some (w, .registering vm .stoodDown)
  | .returned .failed => some (w, .finished .failed)
  | _ => some (w, .migrating dest vm next stream)

/-- One operation of `migrate_source`. -/
def sourceStep (w : Fleet) (dest : Addr) (stream : Option StreamId) (e : Event)
    (phase : SourcePhase) : Option (Fleet × Task) :=
  let next := phase.next e.proc e.outcome
  match phase with
  | .launching =>
    if e.outcome = .ok then (w.launch e.proc).map (·, .sourcing dest next stream)
    else some (w, .sourcing dest next stream)
  | .booting p => some (if e.happened then w.startGuest p p else w, .sourcing dest next stream)
  | .shipping p ship =>
    (w.ship dest p (fileBody (w.lineageOf p) "" none) stream e ship).map
      fun (w, stream) => (w, .sourcing dest next stream)
  | .killing p _ => some (w.kill p e.killed, .sourcing dest next stream)
  | .returned true => some (w, .finished .moved)
  | .returned false => some (w, .finished .failed)
  | _ => some (w, .sourcing dest next stream)

/-- One operation of `receive_and_restore`. -/
def recvStep (w : Fleet) (listen : Addr) (stream : Option StreamId) (e : Event)
    (phase : RecvPhase) : Option (Fleet × Task) :=
  let fresh := e.fresh e.vmId ""
  let task := fun item stream => Task.receiving listen (phase.next item fresh e.outcome) stream
  match phase with
  | .accepting =>
    if e.outcome = .ok then
      match w.streams e.stream with
      | some st =>
        if st.addr = listen ∧ st.accepted = false then
          some (w.setStream e.stream { st with accepted := true }, task none (some e.stream))
        else none
      | none => none
    else some (w, task none stream)
  | .reading files =>
    if e.outcome = .ok then
      match (stream.bind w.streams).bind fun st => st.item files.length with
      | some item => some (w, task item stream)
      | none => none
    else some (w, task none stream)
  | .launching _ _ =>
    if e.outcome = .ok then (w.launch e.proc).map (·, task none stream)
    else some (w, task none stream)
  | .loading files _ p =>
    match files.lookup "state.snap" with
    | some (.state lineage) =>
      some (if e.happened then w.startGuest p lineage else w, task none stream)
    | _ => if e.outcome = .ok then none else some (w, task none stream)
  | .cleaningUp p => some (w.kill p e.killed, task none stream)
  | .returned (some vm) => some (w, .registering vm .received)
  | .returned none => some (w, .finished .failed)
  | _ => some (w, task none stream)

/-- `VmRegistry::insert`. A VM that had the id is dropped. -/
def insert (w : Fleet) (host : HostId) (vm : RunningVm) (killed : Bool) : Fleet :=
  match w.registry host vm.id with
  | some old => (w.kill old.proc killed).setSlot host vm.id (some vm)
  | none => w.setSlot host vm.id (some vm)

/-- `VmRegistry::take`, and where the handler goes on. -/
def take (w : Fleet) (host : HostId) (id : VmId) (dest : Addr) : Fleet × Task :=
  match w.registry host id with
  | some vm => (w.setSlot host id none, .migrating dest vm .connecting none)
  | none => (w, .finished .notFound)

/-- One operation of a handler. -/
def taskStep (w : Fleet) (host : HostId) (e : Event) : Task → Option (Fleet × Task)
  | .spawning networked id vsockUds phase => w.spawnStep host networked id vsockUds e phase
  | .taking id dest => some (w.take host id dest)
  | .migrating dest vm phase stream => w.migrateStep dest vm stream e phase
  | .sourcing dest phase stream => w.sourceStep dest stream e phase
  | .receiving listen phase stream => w.recvStep listen stream e phase
  | .registering vm response => some (w.insert host vm e.killed, .finished response)
  | .finished _ => none

/-! ## Runs -/

/-- What happens next in the fleet. -/
inductive Label where
  /-- A handler starts on a request. -/
  | request (h : HandlerId) (host : HostId) (request : Request)
  /-- The operation a handler waits for turns out. -/
  | event (h : HandlerId) (e : Event)
  /-- A handler's future is dropped. Its VM is dropped with it, and its stream closed. -/
  | cancel (h : HandlerId) (killed : Bool)
deriving DecidableEq, Repr

/-- Do what a label says, if it fits. -/
def tryStep (w : Fleet) : Label → Option Fleet
  | .request h host request =>
    match w.handlers h with
    | none => some (w.setTask h host request.start)
    | some _ => none
  | .event h e =>
    match w.handlers h with
    | some (host, task) => (w.taskStep host e task).map fun (w, task) => w.setTask h host task
    | none => none
  | .cancel h killed =>
    match w.handlers h with
    | some (host, task) =>
      let w := match task.proc with
        | some p => w.kill p killed
        | none => w
      let w := match task.stream with
        | some σ => w.modifyStream σ fun st => { st with closed := true }
        | none => w
      some (w.setTask h host (.finished .failed))
    | none => none

/-- Do what a label says, or nothing. -/
def step (w : Fleet) (l : Label) : Fleet := (w.tryStep l).getD w

/-- A run. -/
def run (w : Fleet) (ls : List Label) : Fleet := ls.foldl step w

/-- A fleet whose daemons have just started. -/
def empty (bootSecrets : HostId → Bool) : Fleet where
  procs := fun _ => none
  streams := fun _ => none
  registry := fun _ _ => none
  handlers := fun _ => none
  bootSecrets := bootSecrets

end Fleet

end Sleepwalk.Hostd
