import Sleepwalk.Hostd.Telemetry
import Sleepwalk.Lib.Query

/-!
# The daemon's HTTP surface

The requests a daemon routes, and the two that move a VM. `/migrate/recv` answers as soon as its
listener is bound, and leaves the restore to a task in the background. The listener belongs to that
task: it stays bound until no sender has connected in time, or one has and the restore is over.

A node is a daemon with the listeners it has bound.
-/

namespace Sleepwalk.Hostd.Routes

open Exec Proto Telemetry

/-! ## Routing -/

/-- The method of a request, as far as it is looked at. -/
inductive Method where
  | get
  | post
  | other
deriving DecidableEq, Repr

/-- What a request is for. -/
inductive Route where
  | healthz
  | metrics
  | status
  | vmsSpawn
  | migrateSend
  | migrateRecv
  | notFound
deriving DecidableEq, Repr

/-- Where a request goes. -/
def route : Method → String → Route
  | .get, "/healthz" => .healthz
  | .get, "/metrics" => .metrics
  | .get, "/status" => .status
  | .post, "/vms/spawn" => .vmsSpawn
  | .post, "/migrate/send" => .migrateSend
  | .post, "/migrate/recv" => .migrateRecv
  | _, _ => .notFound

/-- Extract a query parameter `key` from a `k=v&k2=v2` query string. -/
def queryParam (query : Option String) (key : String) : Option String :=
  query.bind fun q => (Query.param q.toList key.toList).map String.ofList

/-- A status code. -/
inductive StatusCode where
  | ok
  | accepted
  | badRequest
  | notFound
  | conflict
  | internalServerError
deriving DecidableEq, Repr

namespace StatusCode

/-- The request succeeded. -/
def isSuccess : StatusCode → Bool
  | .ok | .accepted => true
  | _ => false

/-- A status code as text. -/
def text : StatusCode → String
  | .ok => "200 OK"
  | .accepted => "202 Accepted"
  | .badRequest => "400 Bad Request"
  | .notFound => "404 Not Found"
  | .conflict => "409 Conflict"
  | .internalServerError => "500 Internal Server Error"

end StatusCode

/-- The status that a `/migrate/send` is answered with, if it is answered. -/
def Reply.status : Reply → Option StatusCode
  | .badRequest => some .badRequest
  | .notFound => some .notFound
  | .noArtifacts => some .internalServerError
  | .moved => some .ok
  | .stoodDown => some .conflict
  | .failed => some .internalServerError
  | .pending => none

/-! ## Nodes -/

/-- How long a receiver waits for the sender to connect before giving up. -/
def ACCEPT_TIMEOUT : Duration := ⟨30 * 10 ^ 9⟩

/-- What the task behind a listener does. -/
inductive Receiving where
  /-- It waits for a sender to connect, since this time in nanoseconds. -/
  | waiting (since : ℕ)
  /-- It restores what the sender streams. -/
  | restoring
deriving DecidableEq, Repr

/-- A daemon, and the addresses it has bound a receiver to. -/
structure Node where
  daemon : Telemetry.Daemon
  listeners : String → Option Receiving

/-- What a request to `/migrate/recv` meets. -/
structure RecvEnv where
  /-- When it is handled. -/
  now : ℕ
  /-- The artifacts are found. -/
  artifacts : Bool
  /-- Nothing outside the daemon keeps the address from being bound. -/
  binds : Bool
  /-- The work dir of the restore is created. -/
  workDir : Bool

namespace Node

/-- Set what is bound at an address. -/
def setListener (node : Node) (addr : String) (r : Option Receiving) : Node :=
  { node with listeners := Function.update node.listeners addr r }

/-- Handle `/migrate/recv`. An address that has a listener cannot be bound again. -/
def migrateRecv (env : RecvEnv) (listen : Option String) (node : Node) : StatusCode × Node :=
  match listen with
  | none => (.badRequest, node)
  | some listen =>
    if env.artifacts = false then (.internalServerError, node)
    else if env.binds = false ∨ node.listeners listen ≠ none then (.internalServerError, node)
    else if env.workDir then (.accepted, node.setListener listen (some (.waiting env.now)))
    -- The task fails before it waits for a sender, and its listener goes with it.
    else (.accepted,
      { node with daemon := { node.daemon with metrics := migrationFailed node.daemon.metrics } })

/-- A sender connects to an address. The task takes the first one. -/
def connected (node : Node) (addr : String) : Node :=
  match node.listeners addr with
  | some (.waiting _) => node.setListener addr (some .restoring)
  | _ => node

/-- The task behind a listener ends, with the VM that it registers or with a failure. -/
def restored (node : Node) (addr : String) (vm : Option RunningVm) : Node :=
  let daemon :=
    match vm with
    | some vm => { node.daemon with vms := Function.update node.daemon.vms vm.id (some vm) }
    | none => { node.daemon with metrics := migrationFailed node.daemon.metrics }
  { (node.setListener addr none) with daemon }

end Node

/-! ## Sending -/

/-- What a request to `/migrate/send` meets besides its parameters. -/
structure SendEnv where
  /-- The artifacts are found. -/
  artifacts : Bool
  /-- How a migration goes. -/
  src : Source
  /-- How a VM of its own boots. -/
  boot : Boot
  /-- How long it takes. -/
  timing : SourceTiming
  /-- A transfer gets a connection to its address. -/
  dialed : Bool
  /-- One that completes has had it. -/
  dialed_of_ok : src.transfer = .ok () → dialed = true

section Send

variable (parseUuid : String → Option (BitVec 128)) (parsers : Parsers)

/-- The request with its parameters. -/
def SendEnv.request (env : SendEnv) (vm dest : Option String) : Telemetry.Request :=
  { dest, vm, artifacts := env.artifacts, src := env.src, boot := env.boot
    timing := env.timing }

/-- A frozen VM is snapshotted, so that `snapshot_and_send` gets to its transfer. -/
def freezes (src : Source) : Bool := src.pause.isOk && src.snapshot.isOk

/-- The migration of a registered VM gets to its transfer. -/
def ships (src : Source) (vm : RunningVm) : Bool :=
  match connectRetry .noAttempt (src.dials vm) with
  | .error _ => false
  | .ok () =>
    match (exec (drainToQuiescence parsers src.peer) []).1 with
    | .ok .quiescent => (exec (writeMetadata src vm) {}).1.isOk && freezes src
    | _ => false

/-- The migration of a VM of its own gets to its transfer. -/
def shipsFresh (boot : Boot) (src : Source) : Bool :=
  (exec (do bringUp boot; drainSource parsers src) ({}, {})).1.isOk && freezes src

/-- A request to `/migrate/send` gets to a transfer. -/
def transfers (env : SendEnv) (vm : Option String) (d : Telemetry.Daemon) : Bool :=
  match vm with
  | none => env.artifacts && shipsFresh parsers env.boot env.src
  | some text =>
    match (parseUuid text).bind fun id => d.vms ⟨id⟩ with
    | some running => ships parsers env.src running
    | none => false

/-- Handle `/migrate/send`: its answer, the node, and the address it has connected to. -/
def Node.migrateSend (env : SendEnv) (vm dest : Option String) (node : Node) :
    Option StatusCode × Node × Option String :=
  let (reply, daemon) := Telemetry.migrateSend parseUuid parsers (env.request vm dest) node.daemon
  let dialed := dest.filter fun _ => transfers parseUuid parsers env vm node.daemon && env.dialed
  (Reply.status reply, { node with daemon }, dialed)

end Send

/-! ## What is answered -/

section Answers

variable {parseUuid : String → Option (BitVec 128)} {parsers : Parsers}

/-- A parameter list of one parameter. -/
theorem queryParam_listen (listen : String) :
    queryParam (some ("listen=" ++ listen)) "listen"
      = some (.ofList (Query.cut listen.toList)) := by
  have hlast := Query.param_last (k := "listen".toList) (by decide) (by decide) listen.toList
  have htext : ("listen=" ++ listen).toList = "listen".toList ++ '=' :: listen.toList := by
    rw [String.toList_append]
    rfl
  rw [queryParam, Option.bind_some, htext, hlast, Option.map_some]

/-- The parameters of a send. -/
theorem queryParam_send {vm : String} (hvm : '&' ∉ vm.toList) (dest : String) :
    queryParam (some ("vm=" ++ vm ++ "&to=" ++ dest)) "vm" = some vm ∧
      queryParam (some ("vm=" ++ vm ++ "&to=" ++ dest)) "to"
        = some (.ofList (Query.cut dest.toList)) := by
  have htext : ("vm=" ++ vm ++ "&to=" ++ dest).toList
      = "vm".toList ++ '=' :: vm.toList ++ '&' :: ("to".toList ++ '=' :: dest.toList) := by
    simp only [String.toList_append]
    simp
  have hamp : '&' ∉ "vm".toList ++ '=' :: vm.toList := by
    have hkey : '&' ∉ "vm".toList := by decide
    simpa [hkey] using hvm
  have hlast := Query.param_last (k := "to".toList) (by decide) (by decide) dest.toList
  have hcons : ∀ key, Query.param ("vm".toList ++ '=' :: vm.toList ++ '&' ::
      ("to".toList ++ '=' :: dest.toList)) key = if "vm".toList = key then some vm.toList
        else Query.param ("to".toList ++ '=' :: dest.toList) key :=
    fun _ => Query.param_cons (by decide) hamp
  constructor
  · rw [queryParam, Option.bind_some, htext, hcons, if_pos rfl, Option.map_some,
      String.ofList_toList]
  · rw [queryParam, Option.bind_some, htext, hcons, if_neg (by decide), hlast, Option.map_some]

/-- The result of a migration, and whether it got to its transfer. -/
inductive Shipped (parsers : Parsers) (src : Source) (vm : RunningVm) :
    Except (Stop MigrateError) MigrateOutcome → Prop where
  | moved (hships : ships parsers src vm = true) (htransfer : src.transfer = .ok ()) :
    Shipped parsers src vm (.ok .moved)
  | stoodDown (hships : ships parsers src vm = false) : Shipped parsers src vm (.ok (.stoodDown vm))
  | failed {e : Stop MigrateError}
    (hfails : ships parsers src vm = true → src.transfer ≠ .ok ()) :
    Shipped parsers src vm (.error e)

/-- Shipping succeeds exactly if the VM is frozen and the transfer completes. -/
theorem exec_snapshotAndSend_eq (src : Source) (s : SourceState) :
    (exec (snapshotAndSend src) s).1 = .ok () ↔ freezes src = true ∧ src.transfer = .ok () := by
  rw [snapshotAndSend, exec_bind, exec_modify]
  dsimp only
  rw [exec_bind, exec_outcome, freezes]
  rcases src.pause with e | _
  · simp [Except.isOk, Except.toBool]
  rcases src.snapshot with e | _
  · simp [exec_bind, Except.isOk, Except.toBool]
  · simp [exec_bind, Except.isOk, Except.toBool]

/-- A migration of a registered VM moves it exactly if it ships it and the transfer completes, and
never stands down once it ships it. -/
theorem shipped (parsers : Parsers) (src : Source) (vm : RunningVm) (timing : SourceTiming)
    (t : Metrics) :
    Shipped parsers src vm
      (exec (Telemetry.migrateRunning parsers src timing vm) ({}, t)).1 := by
  rw [Telemetry.migrateRunning]
  simp only [exec_bind, exec_attempt, exec_outcome]
  rcases hdial : connectRetry .noAttempt (src.dials vm) with (e | _) | _
  · exact .stoodDown (by simp [ships, hdial])
  · exact .failed fun h => by simp [ships, hdial] at h
  dsimp only
  simp only [exec_bind, exec_attempt, exec_onFst, exec_onLink]
  rcases hdrain : exec (drainToQuiescence parsers src.peer) [] with ⟨(e | _) | _ | _, l⟩
  · exact .stoodDown (by simp [ships, hdial, hdrain])
  · exact .failed fun h => by simp [ships, hdial, hdrain] at h
  · dsimp only
    simp only [exec_bind, exec_onFst]
    -- The metadata is written or not, whatever the guest has got before.
    have hships : ships parsers src vm =
        ((exec (writeMetadata src vm) {}).1.isOk && freezes src) := by
      simp [ships, hdial, hdrain]
    rcases exec_writeMetadata src vm { delivered := l } with
      ⟨hwrites, hwrite⟩ | ⟨hwrites, context, e, hwrite⟩
    · have hok : (exec (writeMetadata src vm) {}).1.isOk = true := by
        rcases exec_writeMetadata src vm {} with ⟨-, h⟩ | ⟨h, -⟩
        · rw [h]
          rfl
        · exact absurd hwrites h
      rw [hok, Bool.true_and] at hships
      simp only [hwrite, exec_attempt, exec_onFst]
      have hsent := exec_snapshotAndSend_eq src { delivered := l }
      rw [← hships] at hsent
      rcases hexec : exec (snapshotAndSend src) { delivered := l } with ⟨(e | _) | _, s⟩
      · rw [hexec] at hsent
        exact .failed fun h htransfer => by simpa using hsent.mpr ⟨h, htransfer⟩
      · rw [hexec] at hsent
        exact .failed fun h htransfer => by simpa using hsent.mpr ⟨h, htransfer⟩
      · rw [hexec] at hsent
        obtain ⟨h, htransfer⟩ := hsent.mp rfl
        exact .moved h htransfer
    · have hfails : (exec (writeMetadata src vm) {}).1.isOk = false := by
        rcases exec_writeMetadata src vm {} with ⟨h, -⟩ | ⟨-, _, _, h⟩
        · exact absurd h hwrites
        · rw [h]
          rfl
      rw [hfails, Bool.false_and] at hships
      simp only [hwrite]
      exact .failed fun h => by simp [hships] at h
  · exact .stoodDown (by simp [ships, hdial, hdrain])

variable {env : SendEnv} {node : Node} {text dest : String} {id : BitVec 128} {running : RunningVm}

theorem listeners_migrateSend (env : SendEnv) (vm dest : Option String) (node : Node) :
    (node.migrateSend parseUuid parsers env vm dest).2.1.listeners = node.listeners := rfl

/-- A send is never answered `202`. -/
theorem isSuccess_status {reply : Reply} {status : StatusCode}
    (hstatus : Reply.status reply = some status) : status.isSuccess = true ↔ status = .ok := by
  cases reply with
  | pending => cases hstatus
  | moved | stoodDown | failed | notFound | badRequest | noArtifacts =>
    obtain rfl := Option.some_inj.mp hstatus
    decide

/-- A VM that is not registered is not found. -/
theorem migrateSend_of_unregistered (hid : parseUuid text = some id)
    (hvm : node.daemon.vms ⟨id⟩ = none) :
    node.migrateSend parseUuid parsers env (some text) (some dest)
      = (some .notFound, node, none) := by
  simp [Node.migrateSend, SendEnv.request, Telemetry.migrateSend, transfers, hid, hvm, Reply.status]

/-- The address is dialed if the VM is shipped. -/
theorem dialed_migrateSend (hid : parseUuid text = some id)
    (hvm : node.daemon.vms ⟨id⟩ = some running) :
    (node.migrateSend parseUuid parsers env (some text) (some dest)).2.2 =
      if ships parsers env.src running && env.dialed then some dest else none := by
  have hdialed : (node.migrateSend parseUuid parsers env (some text) (some dest)).2.2 =
      (some dest).filter fun _ => ships parsers env.src running && env.dialed := by
    simp only [Node.migrateSend, transfers, hid, Option.bind_some, hvm]
  rw [hdialed, Option.filter_some]

/-- A send is answered with success exactly if the VM is shipped and the transfer completes. It is
gone from the daemon then. -/
theorem status_migrateSend (env : SendEnv) (parsers : Parsers) (dest : String)
    (hid : parseUuid text = some id) (hvm : node.daemon.vms ⟨id⟩ = some running) :
    ((node.migrateSend parseUuid parsers env (some text) (some dest)).1 = some .ok ↔
      ships parsers env.src running = true ∧ env.src.transfer = .ok ()) ∧
    ((node.migrateSend parseUuid parsers env (some text) (some dest)).1 = some .ok →
      (node.migrateSend parseUuid parsers env (some text) (some dest)).2.1.daemon.vms
        = Function.update node.daemon.vms ⟨id⟩ none) := by
  have hshipped := shipped parsers env.src running env.timing node.daemon.metrics
  simp only [Node.migrateSend, SendEnv.request, Telemetry.migrateSend, hid, hvm]
  rcases hexec : exec (Telemetry.migrateRunning parsers env.src env.timing running)
    ({}, node.daemon.metrics) with ⟨(e | _) | _ | vm, s, metrics⟩
  all_goals rw [hexec] at hshipped
  · cases hshipped with
    | failed hfails =>
      exact ⟨⟨fun h => by simp [Reply.status] at h,
        fun h => absurd h.2 (hfails h.1)⟩, fun h => by simp [Reply.status] at h⟩
  · cases hshipped with
    | failed hfails =>
      exact ⟨⟨fun h => by simp [Reply.status] at h,
        fun h => absurd h.2 (hfails h.1)⟩, fun h => by simp [Reply.status] at h⟩
  · cases hshipped with
    | moved hships htransfer =>
      exact ⟨⟨fun _ => ⟨hships, htransfer⟩, fun _ => rfl⟩, fun _ => rfl⟩
  · cases hshipped with
    | stoodDown hships =>
      exact ⟨⟨fun h => by simp [Reply.status] at h, fun h => by simp [hships] at h⟩,
        fun h => by simp [Reply.status] at h⟩

/-- The registry after a send: the VM is taken, and put back if it is not shipped. -/
theorem vms_migrateSend (env : SendEnv) (parsers : Parsers) (dest : String)
    (hid : parseUuid text = some id) (hvm : node.daemon.vms ⟨id⟩ = some running) :
    let sent := (node.migrateSend parseUuid parsers env (some text) (some dest)).2.1
    sent.daemon.vms = Function.update node.daemon.vms ⟨id⟩ none ∨
      ships parsers env.src running = false ∧ sent.daemon.vms =
        Function.update (Function.update node.daemon.vms ⟨id⟩ none) running.id (some running) := by
  have hshipped := shipped parsers env.src running env.timing node.daemon.metrics
  simp only [Node.migrateSend, SendEnv.request, Telemetry.migrateSend, hid, hvm]
  rcases hexec : exec (Telemetry.migrateRunning parsers env.src env.timing running)
    ({}, node.daemon.metrics) with ⟨(e | _) | _ | vm, s, metrics⟩
  · exact .inl rfl
  · exact .inl rfl
  · exact .inl rfl
  · rw [hexec] at hshipped
    cases hshipped with
    | stoodDown hships => exact .inr ⟨hships, rfl⟩

end Answers

end Sleepwalk.Hostd.Routes
