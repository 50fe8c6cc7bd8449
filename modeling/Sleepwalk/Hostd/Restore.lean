import Sleepwalk.Hostd.Errors
import Sleepwalk.Hostd.Overlay

/-!
# What a failed restore leaves behind

`receive_and_restore` with everything it acquires on the target: the work dir with the received
files, the tap, the page-server thread, and the Firecracker process. `Steps` says how each step
turns out; a step that hangs leaves the restore without a result, and is left out.

Only two of the failures clean up. `failedRestore` lists what every failure leaves behind, and
`restore_releases_iff` says from it when that is nothing.
-/

namespace Sleepwalk.Hostd.Restore

open Exec Overlay Proto Transfer

/-! ## The restore -/

/-- The page-server thread. -/
inductive ServerThread where
  /-- There is none. -/
  | absent
  /-- It serves, or polls for Firecracker to connect. -/
  | serving
  /-- It was told to stop, and joined. -/
  | joined
deriving DecidableEq, Repr

/-- What a restore has acquired on its host. -/
structure Target where
  /-- The work dir by its files, if it is there. -/
  work : Option (String → Option (List UInt8))
  /-- The taps of the host. -/
  taps : List String
  server : ServerThread
  /-- The Firecracker process is alive. -/
  alive : Bool

/-- The host before the restore. -/
def Target.fresh (taps : List String) : Target :=
  { work := none, taps, server := .absent, alive := false }

/-- How the steps of a restore turn out. -/
structure Steps where
  hasher : Hasher
  codec : Codec
  /-- The work dir is made. -/
  mkdir : Except String Unit
  /-- A sender connects before the timeout, and streams this. -/
  accepted : Except TransferError (List UInt8)
  /-- A received file is created. -/
  create : String → Except String Unit
  /-- `net.json` is read. -/
  read : Except String Unit
  /-- How the tap is made. -/
  plumbing : Plumbing
  /-- The page server's socket is bound. -/
  bind : Except String Unit
  /-- Firecracker is launched. One that does not come up is killed as it is dropped. -/
  launch : Except String Unit
  /-- Firecracker loads the snapshot. -/
  load : Except String Unit
  /-- `ip link del` works. -/
  untaps : Bool
  /-- `remove_dir_all` works. -/
  removes : Bool
  /-- The id that is minted. -/
  id : VmId
  /-- The process that is launched. -/
  proc : ProcId

abbrev RestoreM := ExceptT MigrateError (StateM Target)

section Program

variable (e : Steps)

/-- Make the work dir. -/
def makeWork : RestoreM Unit :=
  match e.mkdir with
  | .error detail => throw (.io "create work dir" (.os detail))
  | .ok () => modify fun s => { s with work := some fun _ => none }

/-- What is left of the work dir once it was to be removed. -/
def Steps.removed (work : Option (String → Option (List UInt8))) :
    Option (String → Option (List UInt8)) := if e.removes then none else work

/-- Remove the work dir, best effort. -/
def removeWork : RestoreM Unit := modify fun s => { s with work := e.removed s.work }

/-- Accept one connection and receive a snapshot into the work dir. -/
def recvSnapshot : RestoreM (List String) :=
  match e.accepted with
  | .error err => throw (.transfer err)
  | .ok stream => do
    let s ← get
    let (r, incoming) := recvFiles e.hasher e.create ⟨stream, s.work.getD fun _ => none⟩
    -- What has been received is in the work dir, whether the rest comes or not.
    set { s with work := some incoming.disk }
    match r with
    | .error err => throw (.transfer err)
    | .ok files => return files

/-- The memory, the state, and up to two files of metadata. -/
def checkCount (files : List String) : RestoreM Unit :=
  if 2 ≤ files.length ∧ files.length ≤ 4 then pure ()
  else throw (.snapshot ("expected 2..4 files, got " ++ files.length.repr))

/-- The network identity, if there is a `net.json`. -/
def readIdentity : RestoreM (Option NetId) := do
  let s ← get
  let dir := s.work.getD fun _ => none
  if (dir "net.json").isNone then
    return none
  else
    match e.read with
    | .error detail => throw (.io "read net identity" (.os detail))
    | .ok () =>
      match readNet e.codec dir with
      | none => throw (.io "parse net identity" .json)
      | some net => return net

/-- Re-plumb the network of an identity. -/
def replumbIdentity (net : Option NetId) : RestoreM Unit := do
  let s ← get
  let (r, taps) := replumb e.plumbing net s.taps
  set { s with taps }
  match r with
  | .ok () => pure ()
  | .error err =>
    removeWork e
    throw (.io "re-plumb vm tap" (.net err))

/-- Bind the page server's socket, and start its thread. -/
def startServer : RestoreM Unit :=
  match e.bind with
  | .error detail => throw (.io "bind uffd socket" (.os detail))
  | .ok () => modify fun s => { s with server := .serving }

/-- Launch Firecracker. -/
def launchFirecracker : RestoreM Unit :=
  match e.launch with
  | .error detail => throw (.io "spawn firecracker" (.os detail))
  | .ok () => modify fun s => { s with alive := true }

/-- The taps of the host once the tap of an identity is torn down. -/
def untap (net : Option NetId) (taps : List String) : List String :=
  match net with
  | some net => destroy e.untaps net.tap taps
  | none => taps

/-- Load the snapshot. If that fails, stop the page server, reap the VM, drop the tap, clean up. -/
def loadSnapshot (net : Option NetId) : RestoreM Unit :=
  match e.load with
  | .ok () => pure ()
  | .error detail => do
    modify fun s => { s with alive := false }
    modify fun s => { s with server := .joined }
    modify fun s => { s with taps := untap e net s.taps }
    removeWork e
    throw (.firecracker detail)

/-- Receive the snapshot, stand up the page server, launch Firecracker, load and resume. -/
def receiveAndRestore : RestoreM RunningVm := do
  makeWork e
  let files ← recvSnapshot e
  checkCount files
  let net ← readIdentity e
  replumbIdentity e net
  startServer e
  launchFirecracker e
  loadSnapshot e net
  let s ← get
  return { id := e.id, proc := e.proc, vsockUds := readVsock (s.work.getD fun _ => none), net }

end Program

/-! ## What a failure leaves -/

section Failure

variable (e : Steps) (taps : List String)

/-- A whole snapshot arrives, and this is its network identity. -/
structure Arrives (net : Option NetId) (dir : String → Option (List UInt8)) : Prop where
  mkdir : e.mkdir = .ok ()
  received : ∃ stream names r, e.accepted = .ok stream ∧
    recvFiles e.hasher e.create ⟨stream, fun _ => none⟩ = (.ok names, r) ∧
    2 ≤ names.length ∧ names.length ≤ 4 ∧ dir = r.disk
  read : (dir "net.json").isSome = true → e.read = .ok ()
  identity : readNet e.codec dir = some net

/-- The ends of a restore, and what they leave on the host. -/
inductive RestoreRun : Except MigrateError RunningVm → Target → Prop where
  /-- There is no work dir. -/
  | unmade {detail : String} {err : MigrateError} (hmkdir : e.mkdir = .error detail) :
    RestoreRun (.error err) (.fresh taps)
  /-- No whole snapshot arrives. -/
  | incomplete {dir : String → Option (List UInt8)} {err : MigrateError}
    (hmkdir : e.mkdir = .ok ()) (hnone : ∀ net dir, ¬ Arrives e net dir) :
    RestoreRun (.error err) { Target.fresh taps with work := some dir }
  /-- The tap is not made. -/
  | unplumbed {net : Option NetId} {dir : String → Option (List UInt8)} {taps' : List String}
    {cause : NetError} {err : MigrateError} (harrives : Arrives e net dir)
    (htap : replumb e.plumbing net taps = (.error cause, taps')) :
    RestoreRun (.error err) { Target.fresh taps' with work := e.removed (some dir) }
  /-- The page server has no socket. -/
  | unbound {net : Option NetId} {dir : String → Option (List UInt8)} {taps' : List String}
    {detail : String} {err : MigrateError} (harrives : Arrives e net dir)
    (htap : replumb e.plumbing net taps = (.ok (), taps')) (hbind : e.bind = .error detail) :
    RestoreRun (.error err) { Target.fresh taps' with work := some dir }
  /-- Firecracker does not come up. -/
  | unlaunched {net : Option NetId} {dir : String → Option (List UInt8)} {taps' : List String}
    {detail : String} {err : MigrateError} (harrives : Arrives e net dir)
    (htap : replumb e.plumbing net taps = (.ok (), taps')) (hbind : e.bind = .ok ())
    (hlaunch : e.launch = .error detail) :
    RestoreRun (.error err) { Target.fresh taps' with work := some dir, server := .serving }
  /-- The snapshot does not load. -/
  | unloaded {net : Option NetId} {dir : String → Option (List UInt8)} {taps' : List String}
    {detail : String} {err : MigrateError} (harrives : Arrives e net dir)
    (htap : replumb e.plumbing net taps = (.ok (), taps')) (hbind : e.bind = .ok ())
    (hlaunch : e.launch = .ok ()) (hload : e.load = .error detail) :
    RestoreRun (.error err)
      { Target.fresh (untap e net taps') with work := e.removed (some dir), server := .joined }
  /-- The VM runs. -/
  | restored {net : Option NetId} {dir : String → Option (List UInt8)} {taps' : List String}
    {vm : RunningVm} {s : Target} (harrives : Arrives e net dir)
    (htap : replumb e.plumbing net taps = (.ok (), taps')) (hbind : e.bind = .ok ())
    (hlaunch : e.launch = .ok ()) (hload : e.load = .ok ()) : RestoreRun (.ok vm) s

variable {e taps} {net net' : Option NetId} {dir dir' : String → Option (List UInt8)}
  {names : List String} {s : Target}

theorem Arrives.unique (h : Arrives e net dir) (h' : Arrives e net' dir') :
    net = net' ∧ dir = dir' := by
  obtain ⟨stream, names, r, haccepted, hrecv, -, -, rfl⟩ := h.received
  obtain ⟨stream', names', r', haccepted', hrecv', -, -, rfl⟩ := h'.received
  obtain rfl := Except.ok.inj (haccepted.symm.trans haccepted')
  obtain ⟨-, rfl⟩ := Prod.mk.inj (hrecv.symm.trans hrecv')
  exact ⟨Option.some.inj (h.identity.symm.trans h'.identity), rfl⟩

/-- Where the files have arrived, the rest of an arrival is up to the identity. -/
theorem arrives_iff {stream : List UInt8} {r : Transfer.Incoming} (hmkdir : e.mkdir = .ok ())
    (haccepted : e.accepted = .ok stream)
    (hrecv : recvFiles e.hasher e.create ⟨stream, fun _ => none⟩ = (.ok names, r)) :
    Arrives e net dir ↔ (2 ≤ names.length ∧ names.length ≤ 4) ∧ dir = r.disk ∧
      ((r.disk "net.json").isSome = true → e.read = .ok ()) ∧
      readNet e.codec r.disk = some net := by
  constructor
  · intro h
    obtain ⟨stream', names', r', haccepted', hrecv', hlow, hhigh, rfl⟩ := h.received
    obtain rfl := Except.ok.inj (haccepted.symm.trans haccepted')
    obtain ⟨hnames, rfl⟩ := Prod.mk.inj (hrecv.symm.trans hrecv')
    obtain rfl := Except.ok.inj hnames
    exact ⟨⟨hlow, hhigh⟩, rfl, h.read, h.identity⟩
  · rintro ⟨⟨hlow, hhigh⟩, rfl, hread, hidentity⟩
    exact ⟨hmkdir, ⟨stream, names, r, haccepted, hrecv, hlow, hhigh, rfl⟩, hread, hidentity⟩

/-- Reading the identity changes nothing. -/
theorem exec_readIdentity (e : Steps) (hwork : s.work = some dir) :
    (∃ net, exec (readIdentity e) s = (.ok net, s) ∧
        ((dir "net.json").isSome = true → e.read = .ok ()) ∧ readNet e.codec dir = some net) ∨
      ∃ err, exec (readIdentity e) s = (.error err, s) ∧
        ¬ (((dir "net.json").isSome = true → e.read = .ok ()) ∧
          ∃ net, readNet e.codec dir = some net) := by
  rw [readIdentity, exec_bind, exec_get]
  simp only [hwork, Option.getD_some]
  cases hfile : dir "net.json" with
  | none => exact Or.inl ⟨none, rfl, by simp, by rw [readNet, hfile]⟩
  | some bytes =>
    rcases hread : e.read with detail | _
    · exact Or.inr ⟨_, rfl, by simp⟩
    · cases hnet : readNet e.codec dir with
      | none => exact Or.inr ⟨_, rfl, by simp⟩
      | some net => exact Or.inl ⟨net, rfl, by simp, rfl⟩

/-- What is left of a restore once the snapshot has arrived. -/
theorem restoreRun_of_arrives {r : Except MigrateError RunningVm} (harrives : Arrives e net dir)
    (hrest : exec (do
      replumbIdentity e net
      startServer e
      launchFirecracker e
      loadSnapshot e net
      let s ← get
      return { id := e.id, proc := e.proc, vsockUds := readVsock (s.work.getD fun _ => none), net })
      { Target.fresh taps with work := some dir } = (r, s)) : RestoreRun e taps r s := by
  rw [exec_bind, replumbIdentity, exec_bind, exec_get] at hrest
  -- Each step that fails ends the restore there; the next one is reached when it works.
  rcases htap : replumb e.plumbing net taps with ⟨cause | _, taps'⟩
  · simp only [Target.fresh, htap, exec_bind, exec_set, exec_throw, removeWork,
      exec_modify] at hrest
    obtain ⟨rfl, rfl⟩ := Prod.mk.inj hrest
    exact .unplumbed harrives htap
  simp only [Target.fresh, htap, exec_bind, exec_set, exec_pure, startServer] at hrest
  rcases hbind : e.bind with detail | _
  · simp only [hbind, exec_throw] at hrest
    obtain ⟨rfl, rfl⟩ := Prod.mk.inj hrest
    exact .unbound harrives htap hbind
  simp only [hbind, exec_modify, launchFirecracker] at hrest
  rcases hlaunch : e.launch with detail | _
  · simp only [hlaunch, exec_throw] at hrest
    obtain ⟨rfl, rfl⟩ := Prod.mk.inj hrest
    exact .unlaunched harrives htap hbind hlaunch
  simp only [hlaunch, exec_modify, loadSnapshot] at hrest
  rcases hload : e.load with detail | _
  · simp only [hload, exec_bind, exec_modify, removeWork, exec_throw] at hrest
    obtain ⟨rfl, rfl⟩ := Prod.mk.inj hrest
    exact .unloaded harrives htap hbind hlaunch hload
  · simp only [hload, exec_pure, exec_get] at hrest
    obtain ⟨rfl, rfl⟩ := Prod.mk.inj hrest
    exact .restored harrives htap hbind hlaunch hload

/-- Every restore is one of these. -/
theorem restoreRun (e : Steps) (taps : List String) :
    RestoreRun e taps (exec (receiveAndRestore e) (.fresh taps)).1
      (exec (receiveAndRestore e) (.fresh taps)).2 := by
  rw [receiveAndRestore, exec_bind, makeWork]
  rcases hmkdir : e.mkdir with detail | _
  · exact .unmade hmkdir
  dsimp only
  rw [exec_modify]
  dsimp only
  rw [exec_bind, recvSnapshot]
  -- An arrival would have had the stream, the files and the identity of this very run.
  rcases haccepted : e.accepted with err | stream
  · refine .incomplete hmkdir fun net dir h => ?_
    obtain ⟨stream, _, _, haccepted', -⟩ := h.received
    cases haccepted.symm.trans haccepted'
  dsimp only
  rw [exec_bind, exec_get]
  dsimp only [Option.getD_some]
  rcases hrecv : recvFiles e.hasher e.create ⟨stream, fun _ => none⟩ with ⟨err | files, r⟩
  · refine .incomplete hmkdir fun net dir h => ?_
    obtain ⟨stream', names, r', haccepted', hrecv', -⟩ := h.received
    obtain rfl := Except.ok.inj (haccepted.symm.trans haccepted')
    cases (congrArg Prod.fst hrecv).symm.trans (congrArg Prod.fst hrecv')
  dsimp only
  rw [exec_bind, exec_set]
  dsimp only
  rw [exec_pure]
  dsimp only
  rw [exec_bind, checkCount]
  by_cases hcount : 2 ≤ files.length ∧ files.length ≤ 4
  swap
  · rw [if_neg hcount]
    exact .incomplete hmkdir fun net dir h => hcount ((arrives_iff hmkdir haccepted hrecv).mp h).1
  rw [if_pos hcount, exec_pure]
  dsimp only
  rw [exec_bind]
  have hwork : { Target.fresh taps with work := some r.disk }.work = some r.disk := rfl
  rcases exec_readIdentity e hwork with ⟨net, hexec, hread, hidentity⟩ | ⟨err, hexec, hnone⟩
  · rw [hexec]
    exact restoreRun_of_arrives
      ((arrives_iff hmkdir haccepted hrecv).mpr ⟨hcount, rfl, hread, hidentity⟩) rfl
  · rw [hexec]
    refine .incomplete hmkdir fun net dir h => hnone ?_
    obtain ⟨-, rfl, hread, hidentity⟩ := (arrives_iff hmkdir haccepted hrecv).mp h
    exact ⟨hread, net, hidentity⟩

end Failure

/-! ## When nothing is left -/

section Released

/-- Nothing is left that was acquired: no work dir, no tap, no thread, no process. -/
structure Released (taps : List String) (s : Target) : Prop where
  work : s.work = none
  taps : ∀ t, t ∈ s.taps ↔ t ∈ taps
  server : s.server ≠ .serving
  alive : s.alive = false

variable (e : Steps) (taps : List String)

/-- The restore succeeds, or fails where it cleans up. -/
inductive CleansUp : Prop where
  /-- There is no work dir to clean up. -/
  | unmade {detail : String} (hmkdir : e.mkdir = .error detail)
  /-- The tap cannot even be added, and the work dir is removed. -/
  | untapped {net : NetId} {dir : String → Option (List UInt8)}
    (harrives : Arrives e (some net) dir)
    (htap : net.tap ∈ taps ∨ ∃ detail, e.plumbing = .refused detail) (hremoves : e.removes = true)
  /-- Everything up to the load succeeds, and the load does or the cleanup after it works. -/
  | loaded {net : Option NetId} {dir : String → Option (List UInt8)} (harrives : Arrives e net dir)
    (htap : ∀ n ∈ net, e.plumbing = .works ∧ n.tap ∉ taps) (hbind : e.bind = .ok ())
    (hlaunch : e.launch = .ok ())
    (hload : e.load = .ok () ∨ e.removes = true ∧ (net.isSome = true → e.untaps = true))

variable {e taps} {net : Option NetId} {dir : String → Option (List UInt8)} {taps' : List String}

theorem replumb_eq_ok_iff {plumbing : Plumbing} : replumb plumbing net taps = (.ok (), taps') ↔
    (∀ n ∈ net, plumbing = .works ∧ n.tap ∉ taps) ∧
      taps' = (net.map NetId.tap).toList ++ taps := by
  cases net with
  | none => simp [replumb, eq_comm]
  | some n => simp [replumb, createTap_eq_ok_iff, and_assoc]

/-- A tap that is not made was not added, or stays. -/
theorem replumb_eq_error {plumbing : Plumbing} {cause : NetError}
    (h : replumb plumbing net taps = (.error cause, taps')) :
    ∃ n, net = some n ∧
      ((taps' = taps ∧ (n.tap ∈ taps ∨ ∃ detail, plumbing = .refused detail)) ∨
        (taps' = n.tap :: taps ∧ n.tap ∉ taps ∧ ∀ detail, plumbing ≠ .refused detail)) := by
  cases net with
  | none => cases h
  | some n =>
    refine ⟨n, rfl, ?_⟩
    change createTap plumbing n.tap taps = _ at h
    unfold createTap at h
    by_cases hmem : n.tap ∈ taps
    · rw [if_pos hmem] at h
      exact Or.inl ⟨(Prod.mk.inj h).2.symm, Or.inl hmem⟩
    · rw [if_neg hmem] at h
      cases plumbing with
      | works => cases h
      | refused detail => exact Or.inl ⟨(Prod.mk.inj h).2.symm, Or.inr ⟨detail, rfl⟩⟩
      | detached detail => exact Or.inr ⟨(Prod.mk.inj h).2.symm, hmem, by simp⟩
      | down detail => exact Or.inr ⟨(Prod.mk.inj h).2.symm, hmem, by simp⟩

theorem removed_eq_none_iff : e.removed (some dir) = none ↔ e.removes = true := by
  rw [Steps.removed]
  split
  · simp_all
  · simp_all

/-- The tap of a failed load is gone exactly if there was none or it is torn down. -/
theorem untap_iff (hnew : ∀ n ∈ net, n.tap ∉ taps) :
    (∀ t, t ∈ untap e net ((net.map NetId.tap).toList ++ taps) ↔ t ∈ taps) ↔
      (net.isSome = true → e.untaps = true) := by
  cases net with
  | none => simp [untap]
  | some n =>
    have hnot := hnew n rfl
    cases huntaps : e.untaps with
    | false =>
      simp only [untap, destroy, huntaps]
      refine iff_of_false (fun h => hnot ((h n.tap).mp (by simp))) (by simp)
    | true =>
      refine iff_of_true (fun t => ?_) (by simp)
      simp only [untap, destroy, huntaps]
      by_cases ht : t = n.tap
      · subst ht
        simp [hnot]
      · simp [ht]

/-- What is left to say once the snapshot has arrived. -/
theorem cleansUp_iff (harrives : Arrives e net dir) :
    CleansUp e taps ↔
      (e.removes = true ∧ ∃ n, net = some n ∧
        (n.tap ∈ taps ∨ ∃ detail, e.plumbing = .refused detail)) ∨
      ((∀ n ∈ net, e.plumbing = .works ∧ n.tap ∉ taps) ∧ e.bind = .ok () ∧ e.launch = .ok () ∧
        (e.load = .ok () ∨ e.removes = true ∧ (net.isSome = true → e.untaps = true))) := by
  constructor
  · intro h
    cases h with
    | unmade hmkdir => cases harrives.mkdir.symm.trans hmkdir
    | untapped harrives' htap hremoves =>
      obtain ⟨rfl, -⟩ := harrives.unique harrives'
      exact Or.inl ⟨hremoves, _, rfl, htap⟩
    | loaded harrives' htap hbind hlaunch hload =>
      obtain ⟨rfl, -⟩ := harrives.unique harrives'
      exact Or.inr ⟨htap, hbind, hlaunch, hload⟩
  · rintro (⟨hremoves, n, rfl, htap⟩ | ⟨htap, hbind, hlaunch, hload⟩)
    · exact .untapped harrives htap hremoves
    · exact .loaded harrives htap hbind hlaunch hload

/-- A tap that was made is one that could be added. -/
theorem not_refused (htap : ∀ n ∈ net, e.plumbing = .works ∧ n.tap ∉ taps) :
    ¬ ∃ n, net = some n ∧ (n.tap ∈ taps ∨ ∃ detail, e.plumbing = .refused detail) := by
  rintro ⟨n, rfl, hmem | ⟨detail, hrefused⟩⟩
  · exact (htap n rfl).2 hmem
  · cases (htap n rfl).1.symm.trans hrefused

variable (e taps)

/-- For every host and every way the steps of a restore turn out: a restore that fails leaves
nothing behind, if and only if it is one that succeeds, has no work dir yet, or cleans up after a
tap that cannot be added or a snapshot that does not load. -/
theorem restore_releases_iff :
    (∀ err s, exec (receiveAndRestore e) (.fresh taps) = (.error err, s) → Released taps s) ↔
      CleansUp e taps := by
  have hrun := restoreRun e taps
  rcases hexec : exec (receiveAndRestore e) (.fresh taps) with ⟨r, s⟩
  rw [hexec] at hrun
  have herror : ∀ {err}, r = .error err →
      ((∀ err' s', (r, s) = (.error err', s') → Released taps s') ↔ Released taps s) := by
    rintro err rfl
    constructor
    · exact fun h => h err s rfl
    · rintro h err' s' heq
      obtain ⟨-, rfl⟩ := Prod.mk.inj heq
      exact h
  cases hrun with
  | unmade hmkdir =>
    rw [herror rfl]
    exact iff_of_true ⟨rfl, fun _ => Iff.rfl, by simp, rfl⟩ (.unmade hmkdir)
  | incomplete hmkdir hnone =>
    rw [herror rfl]
    -- The work dir is left, with what was received of the files.
    refine iff_of_false (fun h => by cases h.work) fun h => ?_
    cases h with
    | unmade hmkdir' => cases hmkdir.symm.trans hmkdir'
    | untapped harrives => exact hnone _ _ harrives
    | loaded harrives => exact hnone _ _ harrives
  | @unplumbed net dir taps' cause err harrives htap =>
    rw [herror rfl, cleansUp_iff harrives]
    have hnot : ¬ ∀ n ∈ net, e.plumbing = .works ∧ n.tap ∉ taps := by
      intro hall
      cases (congrArg Prod.fst htap).symm.trans
        (congrArg Prod.fst (replumb_eq_ok_iff.mpr ⟨hall, rfl⟩))
    obtain ⟨n, rfl, ⟨rfl, hrefused⟩ | ⟨rfl, hnew, hadded⟩⟩ := replumb_eq_error htap
    · constructor
      · exact fun h => Or.inl ⟨removed_eq_none_iff.mp h.work, n, rfl, hrefused⟩
      · rintro (⟨hremoves, -⟩ | ⟨hall, -⟩)
        · exact ⟨removed_eq_none_iff.mpr hremoves, fun _ => Iff.rfl, by simp [Target.fresh], rfl⟩
        · exact absurd hall hnot
    · -- The tap was added, and is still there.
      refine iff_of_false (fun h => hnew ((h.taps n.tap).mp List.mem_cons_self)) ?_
      rintro (⟨-, n', hn', hmem | ⟨detail, hrefused⟩⟩ | ⟨hall, -⟩)
      · obtain rfl := Option.some.inj hn'
        exact hnew hmem
      · exact hadded detail hrefused
      · exact hnot hall
  | unbound harrives htap hbind =>
    rw [herror rfl, cleansUp_iff harrives]
    -- The work dir is left, and so it is when Firecracker does not come up.
    refine iff_of_false (fun h => by cases h.work) ?_
    rintro (⟨-, hrefused⟩ | ⟨-, hbind', -⟩)
    · exact not_refused (replumb_eq_ok_iff.mp htap).1 hrefused
    · cases hbind.symm.trans hbind'
  | unlaunched harrives htap hbind hlaunch =>
    rw [herror rfl, cleansUp_iff harrives]
    refine iff_of_false (fun h => by cases h.work) ?_
    rintro (⟨-, hrefused⟩ | ⟨-, -, hlaunch', -⟩)
    · exact not_refused (replumb_eq_ok_iff.mp htap).1 hrefused
    · cases hlaunch.symm.trans hlaunch'
  | unloaded harrives htap hbind hlaunch hload =>
    rw [herror rfl, cleansUp_iff harrives]
    -- The only failure with a cleanup of everything, each part of which may fail.
    obtain ⟨hmade, rfl⟩ := replumb_eq_ok_iff.mp htap
    have huntap := untap_iff (e := e) fun n hn => (hmade n hn).2
    constructor
    · intro h
      exact Or.inr ⟨hmade, hbind, hlaunch,
        Or.inr ⟨removed_eq_none_iff.mp h.work, huntap.mp h.taps⟩⟩
    · rintro (⟨-, hrefused⟩ | ⟨-, -, -, hload' | ⟨hremoves, huntaps⟩⟩)
      · exact absurd hrefused (not_refused hmade)
      · cases hload.symm.trans hload'
      · exact ⟨removed_eq_none_iff.mpr hremoves, huntap.mpr huntaps, by simp, rfl⟩
  | restored harrives htap hbind hlaunch hload =>
    exact iff_of_true (fun _ _ h => by cases h)
      (.loaded harrives (replumb_eq_ok_iff.mp htap).1 hbind hlaunch (Or.inl hload))

/-- One byte arrives with a wrong checksum; everything else would work. -/
def badChecksum : Steps where
  hasher := crc32
  codec := ⟨fun _ => none, fun _ => none, fun _ => "", id⟩
  mkdir := .ok ()
  accepted := .ok (Bytes.toBE 2 1 ++ Bytes.ofText "m" ++ Bytes.toBE 8 1 ++ [42] ++ Bytes.toBE 4 0)
  create _ := .ok ()
  read := .ok ()
  plumbing := .works
  bind := .ok ()
  launch := .ok ()
  load := .ok ()
  untaps := true
  removes := true
  id := ⟨7⟩
  proc := 0

/-- The byte stays in the work dir. -/
theorem byte_left_by_bad_checksum :
    let run := exec (receiveAndRestore badChecksum) (.fresh [])
    run.1 = .error (.transfer (.checksum "m" 0 0x9B9265B)) ∧
      (run.2.work.bind fun dir => dir "m") = some [42] ∧
      ¬ ∀ err s, exec (receiveAndRestore badChecksum) (.fresh []) = (.error err, s) →
        Released [] s := by
  intro run
  have hfails : run.1 = .error (.transfer (.checksum "m" 0 0x9B9265B)) := by decide +kernel
  have hleft : (run.2.work.bind fun dir => dir "m") = some [42] := by decide +kernel
  refine ⟨hfails, hleft, fun h => ?_⟩
  have hreleased := h _ run.2 (Prod.ext hfails rfl)
  rw [hreleased.work] at hleft
  cases hleft

end Released

end Sleepwalk.Hostd.Restore
