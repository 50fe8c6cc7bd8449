import Sleepwalk.Guestd.Wrap
import Sleepwalk.Hostd.Migrate
import Sleepwalk.Lib.Bracket

/-!
# Migrating a wrapped child

`migrate_running` against a guest in wrap mode. The child prints lines when it likes, the reader
task applies the markers among them to the tracker, a responder answers the host from the tracker,
and the host goes through `SendPhase`. Each label moves one of the four.

A `DrainAck` reports the tracker as it was when the responder read it. Nothing stops the reader
from then until the pause, and `wrap_snapshots_idle_iff` says which snapshots that spoils.
-/

namespace Sleepwalk.Hostd

open Proto Guestd

/-- Where a responder of wrap mode waits. -/
inductive ResponderPhase where
  /-- For `Hello` to be sent. -/
  | greeting (vmId : VmId) (version : GuestdVersion) (announce : Option Timestamp)
  /-- For `Secrets`. -/
  | awaitingSecrets (announce : Option Timestamp)
  /-- For `Resumed` to be sent, on a later vsock connection. -/
  | announcing (ts : Timestamp)
  /-- In `serve_wrap_messages`, for the next host message. -/
  | receiving
  /-- In `serve_wrap_messages`, for a reply to be sent. -/
  | replying (msg : GuestToHost)
  /-- Nowhere: the session is over. -/
  | closed
deriving DecidableEq, Repr

/-- A control link between the host and the guest. -/
structure WrapLink where
  /-- Messages on the way to the guest. -/
  toGuest : List HostToGuest
  /-- Messages on the way to the host. -/
  toHost : List GuestToHost
  /-- The guest's end. -/
  responder : ResponderPhase
deriving DecidableEq, Repr

/-- What is worth remembering of a run. -/
inductive WrapEvent where
  /-- The reader applied a marker. -/
  | marked (sig : TurnSignal)
  /-- A responder read the tracker for a `DrainAck`. -/
  | answered (inFlight : Option TurnId)
  /-- A snapshot was taken with the tracker saying this. -/
  | snapshot (inFlight : Option TurnId)
deriving DecidableEq, Repr

/-- A VM in wrap mode and the `migrate_running` it is in. -/
structure WrapWorld where
  /-- The lines the child has printed and the reader has not read. -/
  stdout : List String
  /-- The tracker shared by the reader and the responders. -/
  tracker : TurnTracker
  /-- The host's link. A link that the host has dropped is forgotten with its responder, which
  could only read the tracker. -/
  link : Option WrapLink
  /-- Where the host is. -/
  phase : SendPhase
  /-- The VM is paused. -/
  frozen : Bool
  /-- What has happened, oldest first. -/
  history : List WrapEvent
deriving DecidableEq, Repr

/-- What happens next. -/
inductive WrapLabel where
  /-- The child prints a line. -/
  | print (line : String)
  /-- The reader task takes a line. -/
  | read
  /-- The responder makes a move. A send of its goes through or not. -/
  | respond (delivered : Bool)
  /-- The host's connection is taken by a responder that will greet it so. -/
  | connected (vmId : VmId) (announce : Option Timestamp)
  /-- The host reads a message from the link. -/
  | hostReads
  /-- Another operation of the host turns out. If it fails it may have taken effect. -/
  | host (outcome : Outcome) (effect : Bool)
  /-- The next migration of the VM, after it was handed back or was restored elsewhere. -/
  | again
deriving DecidableEq, Repr

/-- The link is open here. -/
def SendPhase.linked : SendPhase → Bool
  | .greeting | .handingSecrets | .requesting | .awaitingAck | .cancelling => true
  | _ => false

/-- One move of a responder, and the answer to a drain that it decides on. -/
def respond (tracker : TurnTracker) (delivered : Bool) (l : WrapLink) :
    Option (WrapLink × List WrapEvent) :=
  match l.responder with
  | .greeting vmId version announce =>
    if delivered then
      some ({ l with toHost := l.toHost ++ [.hello vmId version],
                     responder := .awaitingSecrets announce }, [])
    else some ({ l with responder := .closed }, [])
  | .awaitingSecrets announce =>
    match l.toGuest, announce with
    | .secrets _ :: rest, some ts =>
      some ({ l with toGuest := rest, responder := .announcing ts }, [])
    | .secrets _ :: rest, none => some ({ l with toGuest := rest, responder := .receiving }, [])
    | _ :: rest, _ => some ({ l with toGuest := rest, responder := .closed }, [])
    | [], _ => none
  | .announcing ts =>
    if delivered then
      some ({ l with toHost := l.toHost ++ [.resumed ts], responder := .receiving }, [])
    else some ({ l with responder := .closed }, [])
  | .receiving =>
    match l.toGuest with
    | msg :: rest =>
      match wrapReply tracker msg with
      | some (.drainAck inFlight) =>
        some ({ l with toGuest := rest, responder := .replying (.drainAck inFlight) },
          [.answered inFlight])
      | some reply => some ({ l with toGuest := rest, responder := .replying reply }, [])
      | none => some ({ l with toGuest := rest }, [])
    | [] => none
  | .replying msg =>
    if delivered then
      some ({ l with toHost := l.toHost ++ [msg], responder := .receiving }, [])
    else some ({ l with responder := .closed }, [])
  | .closed => none

namespace WrapWorld

/-- The VM at boot, with a migration about to connect to it. -/
def start : WrapWorld :=
  { stdout := [], tracker := .new, link := none, phase := .connecting, frozen := false,
    history := [] }

/-- The host goes on, and drops the link if it is past the drain. -/
def goOn (w : WrapWorld) (phase : SendPhase) : WrapWorld :=
  { w with phase, link := if phase.linked then w.link else none }

/-- The host sends a message over the link and goes on. -/
def sendAndGoOn (w : WrapWorld) (msg : HostToGuest) (phase : SendPhase) : WrapWorld :=
  goOn { w with link := w.link.map fun l => { l with toGuest := l.toGuest ++ [msg] } } phase

/-- An operation of the host other than connecting and reading. -/
def hostStep (vm : RunningVm) (w : WrapWorld) (o : Outcome) (effect : Bool) : Option WrapWorld :=
  let next := w.phase.next vm o
  let happened := o = .ok ∨ effect = true
  match w.phase with
  -- These wait for the guest: what the label can say is that they fail.
  | .connecting | .greeting | .awaitingAck => if o = .err then some (w.goOn next) else none
  | .handingSecrets => some (if o = .ok then w.sendAndGoOn (.secrets []) next else w.goOn next)
  | .requesting =>
    some (if o = .ok then w.sendAndGoOn (.drainRequest DRAIN_DEADLINE) next else w.goOn next)
  | .cancelling => some (w.goOn next)
  | .shipping .pausing => some (goOn { w with frozen := w.frozen || decide happened } next)
  | .shipping .snapshotting =>
    let taken := if happened then [.snapshot w.tracker.inFlight] else []
    some (goOn { w with history := w.history ++ taken } next)
  | .returned _ => none
  | _ => some (w.goOn next)

/-- The host reads a message: `Hello` in the handshake, `DrainAck` in the drain, where it skips
others. -/
def hostReads (vm : RunningVm) (w : WrapWorld) (l : WrapLink) : Option WrapWorld :=
  match w.phase, l.toHost with
  | .greeting, msg :: rest =>
    let w := { w with link := some { l with toHost := rest } }
    match msg with
    | .hello _ _ => some (w.goOn (w.phase.next vm .ok))
    | _ => some (w.goOn (w.phase.next vm .err))
  | .awaitingAck, msg :: rest =>
    let w := { w with link := some { l with toHost := rest } }
    match msg with
    | .drainAck inFlight => some (w.goOn (w.phase.next vm (if inFlight.isNone then .ok else .busy)))
    | _ => some w
  | _, _ => none

/-- Do what a label says, if it fits. -/
def tryStep (cfg : WrapConfig) (version : GuestdVersion) (vm : RunningVm) (w : WrapWorld) :
    WrapLabel → Option WrapWorld
  | .print line => if w.frozen then none else some { w with stdout := w.stdout ++ [line] }
  | .read =>
    if w.frozen then none else
    match w.stdout with
    | line :: rest =>
      match cfg.classify line with
      | some sig =>
        some { w with stdout := rest, tracker := w.tracker.apply sig,
                      history := w.history ++ [.marked sig] }
      | none => some { w with stdout := rest }
    | [] => none
  | .respond delivered =>
    if w.frozen then none else
    (w.link.bind (respond w.tracker delivered)).map fun (l, events) =>
      { w with link := some l, history := w.history ++ events }
  | .connected vmId announce =>
    if w.phase = .connecting ∧ w.frozen = false then
      let responder := .greeting vmId version announce
      some (goOn { w with link := some { toGuest := [], toHost := [], responder } }
        (w.phase.next vm .ok))
    else none
  | .hostReads => w.link.bind (w.hostReads vm)
  | .host o effect => w.hostStep vm o effect
  | .again =>
    match w.phase with
    | .returned .stoodDown => some (w.goOn .connecting)
    | .returned .moved => some (goOn { w with frozen := false } .connecting)
    | _ => none

/-- Do what a label says, or nothing. -/
def step (cfg : WrapConfig) (version : GuestdVersion) (vm : RunningVm) (w : WrapWorld)
    (label : WrapLabel) : WrapWorld := (w.tryStep cfg version vm label).getD w

/-- A run. -/
def run (cfg : WrapConfig) (version : GuestdVersion) (vm : RunningVm) (w : WrapWorld)
    (labels : List WrapLabel) : WrapWorld := labels.foldl (step cfg version vm) w

end WrapWorld

/-! ## The window of an answer -/

/-- What the last `DrainAck` says, if there was one. -/
def lastAnswer (history : List WrapEvent) : Option (Option TurnId) :=
  history.foldl (fun last event =>
    match event with
    | .answered inFlight => some inFlight
    | .marked _ | .snapshot _ => last) none

/-- The markers applied since a responder last read the tracker for a `DrainAck`. -/
def sinceAnswer (history : List WrapEvent) : List TurnSignal :=
  history.foldl (fun sigs event =>
    match event with
    | .answered _ => []
    | .marked sig => sigs ++ [sig]
    | .snapshot _ => sigs) []

section History

variable (history : List WrapEvent)

@[simp]
theorem lastAnswer_answered (o : Option TurnId) :
    lastAnswer (history ++ [.answered o]) = some o := by
  simp [lastAnswer]

@[simp]
theorem lastAnswer_marked (sig : TurnSignal) :
    lastAnswer (history ++ [.marked sig]) = lastAnswer history := by
  simp [lastAnswer]

@[simp]
theorem lastAnswer_snapshot (o : Option TurnId) :
    lastAnswer (history ++ [.snapshot o]) = lastAnswer history := by
  simp [lastAnswer]

@[simp]
theorem sinceAnswer_answered (o : Option TurnId) :
    sinceAnswer (history ++ [.answered o]) = [] := by
  simp [sinceAnswer]

@[simp]
theorem sinceAnswer_marked (sig : TurnSignal) :
    sinceAnswer (history ++ [.marked sig]) = sinceAnswer history ++ [sig] := by
  simp [sinceAnswer]

@[simp]
theorem sinceAnswer_snapshot (o : Option TurnId) :
    sinceAnswer (history ++ [.snapshot o]) = sinceAnswer history := by
  simp [sinceAnswer]

end History

/-- No start is the last marker before a snapshot that its answer did not see. -/
def QuietWindows (history : List WrapEvent) : Prop :=
  ∀ pre o post, history = pre ++ .snapshot o :: post → (sinceAnswer pre).getLast? ≠ some .start

/-- Every snapshot shows exactly what was applied in its window. -/
def SnapshotsShow (history : List WrapEvent) : Prop :=
  ∀ pre o post, history = pre ++ .snapshot o :: post →
    (o = none ↔ (sinceAnswer pre).getLast? ≠ some .start)

/-- The tracker is the last answer and what was applied since. -/
def Tracks (tracker : TurnTracker) (history : List WrapEvent) : Prop :=
  ∀ o, lastAnswer history = some o → tracker.inTurn =
    ((sinceAnswer history).getLast?.map fun sig => decide (sig = .start)).getD o.isSome

section History

variable {tracker : TurnTracker} {history : List WrapEvent}

/-- One event more. -/
theorem SnapshotsShow.append {event : WrapEvent} (h : SnapshotsShow history)
    (hnew : ∀ o, event = .snapshot o → (o = none ↔ (sinceAnswer history).getLast? ≠ some .start)) :
    SnapshotsShow (history ++ [event]) := by
  intro pre o post hsplit
  rcases Bracket.append_eq_split hsplit with ⟨post', -, hold⟩ | ⟨pre', rfl, hlast⟩
  · exact h pre o post' hold
  · obtain ⟨rfl, rfl, -⟩ := Bracket.singleton_eq_split hlast
    rw [List.append_nil]
    exact hnew o rfl

theorem Tracks.marked (tracker : TurnTracker) (history : List WrapEvent) (sig : TurnSignal) :
    Tracks (tracker.apply sig) (history ++ [.marked sig]) := by
  intro o _
  simp [TurnTracker.inTurn_apply]

theorem Tracks.answered (tracker : TurnTracker) (history : List WrapEvent) :
    Tracks tracker (history ++ [.answered tracker.inFlight]) := by
  intro o ho
  obtain rfl : tracker.inFlight = o := by simpa using ho
  cases h : tracker.inTurn with
  | false => simp [TurnTracker.inFlight, h]
  | true => simp [TurnTracker.inFlight, h]

theorem Tracks.snapshot (h : Tracks tracker history) (o : Option TurnId) :
    Tracks tracker (history ++ [.snapshot o]) := by
  intro o' ho'
  rw [sinceAnswer_snapshot]
  exact h o' (by simpa using ho')

/-- With an idle guest in the last answer, the tracker is idle unless a start came last. -/
theorem Tracks.inFlight_eq_none_iff (h : Tracks tracker history)
    (hidle : lastAnswer history = some none) :
    tracker.inFlight = none ↔ (sinceAnswer history).getLast? ≠ some .start := by
  rw [TurnTracker.inFlight_eq_none_iff, h none hidle]
  cases (sinceAnswer history).getLast? with
  | none => simp
  | some sig => simp

end History

/-! ## One request, one answer -/

/-- A `DrainRequest`. -/
def isDrainRequest : HostToGuest → Bool
  | .drainRequest _ => true
  | _ => false

/-- What a `DrainAck` says. -/
def ackOf : GuestToHost → Option (Option TurnId)
  | .drainAck inFlight => some inFlight
  | _ => none

namespace WrapLink

/-- The answers that have not reached the host. -/
def acks (l : WrapLink) : List (Option TurnId) :=
  l.toHost.filterMap ackOf ++
    match l.responder with
    | .replying msg => (ackOf msg).toList
    | _ => []

/-- The requests and the answers on the link. -/
def load (l : WrapLink) : ℕ := l.toGuest.countP isDrainRequest + l.acks.length

end WrapLink

section Respond

variable {tracker : TurnTracker} {delivered : Bool} {l l' : WrapLink} {events : List WrapEvent}

/-- A responder that answers no drain. -/
structure Quiet (l l' : WrapLink) (events : List WrapEvent) : Prop where
  events_nil : events = []
  acks : l'.acks.Sublist l.acks
  load : l'.load ≤ l.load

/-- A responder that takes a request and reads the tracker for the answer. -/
structure Answering (tracker : TurnTracker) (l l' : WrapLink) (events : List WrapEvent) : Prop where
  events_eq : events = [.answered tracker.inFlight]
  requested : l.acks.length < l.load
  acks : l'.acks = l.acks ++ [tracker.inFlight]
  load : l'.load = l.load

theorem Quiet.of_move {toGuest toGuest' : List HostToGuest} {toHost toHost' : List GuestToHost}
    {responder responder' : ResponderPhase}
    (hacks : (⟨toGuest', toHost', responder'⟩ : WrapLink).acks.Sublist
      (⟨toGuest, toHost, responder⟩ : WrapLink).acks)
    (hrequests : toGuest'.countP isDrainRequest ≤ toGuest.countP isDrainRequest)
    (h : some ((⟨toGuest', toHost', responder'⟩ : WrapLink), []) = some (l', events)) :
    Quiet ⟨toGuest, toHost, responder⟩ l' events := by
  obtain ⟨rfl, rfl⟩ : _ = l' ∧ [] = events := by simpa using h
  exact ⟨rfl, hacks, Nat.add_le_add hrequests hacks.length_le⟩

/-- A responder that gives up sends nothing more. -/
theorem acks_closed (toGuest : List HostToGuest) (l : WrapLink) :
    (⟨toGuest, l.toHost, .closed⟩ : WrapLink).acks.Sublist l.acks := by
  simp [WrapLink.acks]

/-- What a move of a responder does to the requests and the answers on its link. -/
theorem respond_spec (h : respond tracker delivered l = some (l', events)) :
    Quiet l l' events ∨ Answering tracker l l' events := by
  obtain ⟨toGuest, toHost, responder⟩ := l
  cases responder with
  | greeting vmId version announce =>
    left
    cases delivered with
    | true => exact .of_move (by simp [WrapLink.acks, ackOf]) (Nat.le_refl _) h
    | false => exact .of_move (acks_closed ..) (Nat.le_refl _) h
  | awaitingSecrets announce =>
    left
    cases toGuest with
    | nil => simp [respond] at h
    | cons msg rest =>
      have hrest : rest.countP isDrainRequest ≤ (msg :: rest).countP isDrainRequest :=
        (List.sublist_cons_self msg rest).countP_le
      cases msg with
      | secrets env =>
        cases announce with
        | some ts => exact .of_move (by simp [WrapLink.acks]) hrest h
        | none => exact .of_move (by simp [WrapLink.acks]) hrest h
      | _ => exact .of_move (acks_closed ..) hrest h
  | announcing ts =>
    left
    cases delivered with
    | true => exact .of_move (by simp [WrapLink.acks, ackOf]) (Nat.le_refl _) h
    | false => exact .of_move (acks_closed ..) (Nat.le_refl _) h
  | receiving =>
    cases toGuest with
    | nil => simp [respond] at h
    | cons msg rest =>
      cases msg with
      | drainRequest deadline =>
        -- The one move that answers: a request less on the link, and an ack more.
        right
        obtain ⟨rfl, rfl⟩ : _ = l' ∧ [WrapEvent.answered tracker.inFlight] = events := by
          simpa [respond, wrapReply] using h
        have hcount : (HostToGuest.drainRequest deadline :: rest).countP isDrainRequest =
            rest.countP isDrainRequest + 1 := List.countP_cons_of_pos rfl
        refine ⟨rfl, ?_, ?_, ?_⟩
        · simp [WrapLink.load, hcount]
        · simp [WrapLink.acks, ackOf]
        · simp only [WrapLink.load, WrapLink.acks, hcount, ackOf, List.append_nil,
            List.length_append, Option.toList_some, List.length_singleton]
          omega
      | _ =>
        left
        exact .of_move (by simp [WrapLink.acks, ackOf])
          (List.sublist_cons_self _ rest).countP_le h
  | replying msg =>
    left
    cases delivered with
    | true =>
      refine .of_move ?_ (Nat.le_refl _) h
      cases msg <;> simp [WrapLink.acks, ackOf]
    | false => exact .of_move (acks_closed toGuest _) (Nat.le_refl _) h
  | closed => simp [respond] at h

end Respond

/-! ## Runs -/

/-- How many drains the host has requested on its link by now. -/
def SendPhase.requested : SendPhase → ℕ
  | .greeting | .handingSecrets | .requesting => 0
  | _ => 1

/-- The host has an idle answer, and has not taken the snapshot. -/
def SendPhase.committed : SendPhase → Bool
  | .writingVsock | .writingNet | .shipping .pausing | .shipping .snapshotting => true
  | _ => false

/-- What is on the link of a host. -/
structure LinkSound (phase : SendPhase) (history : List WrapEvent) (l : WrapLink) : Prop where
  load : l.load ≤ phase.requested
  acks : ∀ o ∈ l.acks, lastAnswer history = some o

/-- What holds in every run. -/
structure WrapSound (w : WrapWorld) : Prop where
  tracks : Tracks w.tracker w.history
  shows : SnapshotsShow w.history
  linked : ∀ l, w.link = some l → w.phase.linked = true ∧ LinkSound w.phase w.history l
  committed : w.phase.committed = true → lastAnswer w.history = some none

section Runs

variable {cfg : WrapConfig} {version : GuestdVersion} {vm : RunningVm} {w w' : WrapWorld}

/-- The host goes on to a phase. -/
theorem WrapSound.goOn {phase : SendPhase} (htracks : Tracks w.tracker w.history)
    (hshows : SnapshotsShow w.history)
    (hlink : phase.linked = true → ∀ l, w.link = some l → LinkSound phase w.history l)
    (hcommitted : phase.committed = true → lastAnswer w.history = some none) :
    WrapSound (w.goOn phase) where
  tracks := htracks
  shows := hshows
  linked l hl := by
    by_cases hphase : phase.linked
    · refine ⟨hphase, hlink hphase l ?_⟩
      simpa [WrapWorld.goOn, hphase] using hl
    · simp [WrapWorld.goOn, hphase] at hl
  committed := hcommitted

/-- The host goes on to a phase without a link, before or after the drain. -/
theorem WrapSound.leave (h : WrapSound w) {phase : SendPhase} (hlinked : phase.linked = false)
    (hcommitted : phase.committed = true → w.phase.committed = true) : WrapSound (w.goOn phase) :=
  .goOn h.tracks h.shows (fun hphase => by simp [hlinked] at hphase)
    fun hphase => h.committed (hcommitted hphase)

theorem wrapSound_start : WrapSound .start where
  tracks _ ho := by cases ho
  shows pre o post h := by simp [WrapWorld.start] at h
  linked _ hl := by cases hl
  committed h := by cases h

/-- A move of a responder. -/
theorem WrapSound.respond (h : WrapSound w) {l l' : WrapLink} {delivered : Bool}
    {events : List WrapEvent} (hl : w.link = some l)
    (hmove : respond w.tracker delivered l = some (l', events)) :
    WrapSound { w with link := some l', history := w.history ++ events } := by
  obtain ⟨hlinked, hsound⟩ := h.linked l hl
  rcases respond_spec hmove with hquiet | hanswer
  · obtain rfl := hquiet.events_nil
    rw [List.append_nil]
    refine ⟨h.tracks, h.shows, ?_, h.committed⟩
    intro l'' hl''
    obtain rfl := Option.some_inj.mp hl''
    exact ⟨hlinked, Nat.le_trans hquiet.load hsound.load,
      fun o ho => hsound.acks o (hquiet.acks.subset ho)⟩
  · obtain rfl := hanswer.events_eq
    refine ⟨.answered _ _, h.shows.append fun o ho => (by cases ho), ?_, ?_⟩
    · intro l'' hl''
      obtain rfl := Option.some_inj.mp hl''
      refine ⟨hlinked, by rw [hanswer.load]; exact hsound.load, ?_⟩
      -- The host asked once, so this answer is the only one on the link.
      have hone : w.phase.requested ≤ 1 := by
        cases w.phase <;> simp [SendPhase.requested]
      have hnil : l.acks = [] := by
        have hload := hsound.load
        have hrequested := hanswer.requested
        exact List.length_eq_zero_iff.mp (by omega)
      intro o ho
      rw [hanswer.acks, hnil] at ho
      obtain rfl : o = w.tracker.inFlight := by simpa using ho
      exact lastAnswer_answered _ _
    · intro hcommitted
      revert hlinked hcommitted
      change w.phase.linked = true → w.phase.committed = true → _
      cases w.phase <;> simp [SendPhase.linked, SendPhase.committed]

/-- A link that the host took a message from. -/
theorem LinkSound.pop {phase phase' : SendPhase} {history : List WrapEvent} {l : WrapLink}
    {msg : GuestToHost} {rest : List GuestToHost} (h : LinkSound phase history l)
    (hl : l.toHost = msg :: rest) (hphase : phase.requested ≤ phase'.requested) :
    LinkSound phase' history { l with toHost := rest } := by
  have hsub : (WrapLink.acks { l with toHost := rest }).Sublist l.acks := by
    refine List.Sublist.append_right ?_ _
    rw [hl]
    exact (List.sublist_cons_self msg rest).filterMap ackOf
  refine ⟨?_, fun o ho => h.acks o (hsub.subset ho)⟩
  exact Nat.le_trans (Nat.add_le_add_left hsub.length_le _) (Nat.le_trans h.load hphase)

/-- The host reads a message. -/
theorem WrapSound.hostReads (h : WrapSound w) {l : WrapLink} (hl : w.link = some l)
    (hread : w.hostReads vm l = some w') : WrapSound w' := by
  obtain ⟨-, hsound⟩ := h.linked l hl
  unfold WrapWorld.hostReads at hread
  split at hread
  · rename_i msg rest hphase hmsg
    rw [hphase] at hsound
    have hpop : ∀ l', some { l with toHost := rest } = some l' →
        LinkSound .handingSecrets w.history l' := by
      rintro l' hl'
      obtain rfl := Option.some_inj.mp hl'
      exact hsound.pop hmsg (Nat.le_refl 0)
    cases msg with
    | hello vmId version =>
      obtain rfl := Option.some_inj.mp hread
      simp only [hphase, SendPhase.next]
      exact .goOn h.tracks h.shows (fun _ => hpop) fun hcommitted => by cases hcommitted
    | _ =>
      obtain rfl := Option.some_inj.mp hread
      simp only [hphase, SendPhase.next]
      exact .goOn h.tracks h.shows (fun hlinked => by cases hlinked)
        fun hcommitted => by cases hcommitted
  · rename_i msg rest hphase hmsg
    rw [hphase] at hsound
    have hpop : ∀ phase : SendPhase, phase.requested = 1 → ∀ l', some { l with toHost := rest }
        = some l' → LinkSound phase w.history l' := by
      rintro phase hrequested l' hl'
      obtain rfl := Option.some_inj.mp hl'
      exact hsound.pop hmsg (by rw [hrequested]; exact Nat.le_refl 1)
    cases msg with
    | drainAck inFlight =>
      obtain rfl := Option.some_inj.mp hread
      -- The answer that the host gets is the last one that a responder gave.
      have hlast : lastAnswer w.history = some inFlight :=
        hsound.acks inFlight (by simp [WrapLink.acks, hmsg, ackOf])
      simp only [hphase]
      cases inFlight with
      | none => exact .goOn h.tracks h.shows (fun hlinked => by cases hlinked) fun _ => hlast
      | some t =>
        exact .goOn h.tracks h.shows (fun _ => hpop .cancelling rfl)
          fun hcommitted => by cases hcommitted
    | _ =>
      obtain rfl := Option.some_inj.mp hread
      refine ⟨h.tracks, h.shows, fun l' hl' => ?_, h.committed⟩
      rw [hphase]
      exact ⟨rfl, hpop .awaitingAck rfl l' hl'⟩
  · cases hread

/-- The host sends a message that is a `DrainRequest` exactly if it is about to. -/
theorem WrapSound.sendAndGoOn (h : WrapSound w) {msg : HostToGuest} {phase : SendPhase}
    (hphase : w.phase.requested + (if isDrainRequest msg then 1 else 0) ≤ phase.requested)
    (hcommitted : phase.committed = false) : WrapSound (w.sendAndGoOn msg phase) := by
  refine .goOn h.tracks h.shows (fun _ l' hl' => ?_) fun hnow => by simp [hcommitted] at hnow
  obtain ⟨l, hl, rfl⟩ := Option.map_eq_some_iff.mp hl'
  obtain ⟨-, hsound⟩ := h.linked l hl
  refine ⟨?_, hsound.acks⟩
  have hload := hsound.load
  simp only [WrapLink.load, WrapLink.acks] at hload ⊢
  rw [List.countP_append, List.countP_singleton]
  omega

theorem SendPhase.committed_sendNext (files : List String) :
    (SendPhase.shipping (ShipPhase.sendNext files)).committed = false := by
  cases files <;> rfl

/-- Only an idle answer commits the host. -/
theorem SendPhase.committed_next (phase : SendPhase) (vm : RunningVm) (o : Outcome)
    (hphase : phase ≠ .awaitingAck) (h : (phase.next vm o).committed = true) :
    phase.committed = true := by
  cases phase with
  | awaitingAck => exact absurd rfl hphase
  | writingVsock | writingNet => rfl
  | shipping ship =>
    cases ship with
    | pausing | snapshotting => rfl
    | dialing | sending file rest =>
      cases o with
      | ok => exact absurd h (by simp [SendPhase.next, ShipPhase.next, committed_sendNext])
      | busy | err => cases h
    | finishing => cases o <;> cases h
  | _ => cases o <;> cases h

/-- Past the drain there is no link. -/
theorem SendPhase.linked_next (phase : SendPhase) (vm : RunningVm) (o : Outcome)
    (hphase : phase ≠ .connecting) (h : phase.linked = false) :
    (phase.next vm o).linked = false := by
  cases phase with
  | connecting => exact absurd rfl hphase
  | greeting | handingSecrets | requesting | awaitingAck | cancelling => cases h
  | writingVsock =>
    cases o with
    | ok => cases hnet : vm.net.isSome <;> simp [SendPhase.next, hnet, SendPhase.linked]
    | busy | err => rfl
  | shipping ship =>
    simp only [SendPhase.next]
    cases ship.next (snapshotFiles vm.extra) o <;> rfl
  | _ => cases o <;> rfl

/-- The host goes on from a phase past the drain. -/
theorem WrapSound.pass (h : WrapSound w) (vm : RunningVm) (o : Outcome)
    (hack : w.phase ≠ .awaitingAck) (hconnect : w.phase ≠ .connecting)
    (hlinked : w.phase.linked = false) : WrapSound (w.goOn (w.phase.next vm o)) :=
  h.leave (w.phase.linked_next vm o hconnect hlinked) (w.phase.committed_next vm o hack)

/-- The host's operations. -/
theorem WrapSound.hostStep (h : WrapSound w) {o : Outcome} {effect : Bool}
    (hstep : w.hostStep vm o effect = some w') : WrapSound w' := by
  unfold WrapWorld.hostStep at hstep
  cases hphase : w.phase with
  -- These three read from the link; here they only give up.
  | connecting | greeting | awaitingAck =>
    simp only [hphase] at hstep
    split at hstep
    · rename_i ho
      obtain rfl := Option.some_inj.mp hstep
      rw [ho]
      exact h.leave rfl fun hcommitted => by cases hcommitted
    · cases hstep
  | handingSecrets =>
    simp only [hphase] at hstep
    obtain rfl := Option.some_inj.mp hstep
    cases o with
    | ok => exact h.sendAndGoOn (by simp [hphase, SendPhase.requested, isDrainRequest]) rfl
    | busy | err => exact h.leave rfl fun hcommitted => by cases hcommitted
  | requesting =>
    simp only [hphase] at hstep
    obtain rfl := Option.some_inj.mp hstep
    cases o with
    | ok =>
      refine h.sendAndGoOn ?_ rfl
      simp [hphase, SendPhase.requested, SendPhase.next, isDrainRequest]
    | busy | err => exact h.leave rfl fun hcommitted => by cases hcommitted
  | cancelling =>
    simp only [hphase] at hstep
    obtain rfl := Option.some_inj.mp hstep
    cases o <;> exact h.leave rfl fun hcommitted => by cases hcommitted
  | writingVsock | writingNet | tearingDown sent =>
    have hpass := h.pass vm o (by simp [hphase]) (by simp [hphase])
      (by rw [hphase]; rfl)
    simp only [hphase] at hstep hpass
    obtain rfl := Option.some_inj.mp hstep
    exact hpass
  | shipping ship =>
    cases ship with
    | pausing =>
      have hfrozen : WrapSound { w with frozen := w.frozen || decide (o = .ok ∨ effect = true) } :=
        ⟨h.tracks, h.shows, h.linked, h.committed⟩
      have hpass := hfrozen.pass vm o (by simp [hphase]) (by simp [hphase])
        (by rw [hphase]; rfl)
      simp only [hphase] at hstep hpass
      obtain rfl := Option.some_inj.mp hstep
      exact hpass
    | snapshotting =>
      -- The host is past the ack, so nothing is in flight when the snapshot is taken.
      have hidle := h.committed (by rw [hphase]; rfl)
      have htaken : WrapSound { w with history := w.history ++
          if o = .ok ∨ effect = true then [.snapshot w.tracker.inFlight] else [] } := by
        split
        · refine ⟨h.tracks.snapshot _, h.shows.append fun _ ho => ?_, fun l hl => ?_, ?_⟩
          · obtain rfl := WrapEvent.snapshot.inj ho
            exact h.tracks.inFlight_eq_none_iff hidle
          · have hlinked := (h.linked l hl).1
            rw [hphase] at hlinked
            cases hlinked
          · intro _
            simpa using hidle
        · simpa using h
      have hpass := htaken.pass vm o (by simp [hphase]) (by simp [hphase])
        (by rw [hphase]; rfl)
      simp only [hphase] at hstep hpass
      obtain rfl := Option.some_inj.mp hstep
      exact hpass
    | dialing | sending | finishing =>
      have hpass := h.pass vm o (by simp [hphase]) (by simp [hphase])
        (by rw [hphase]; rfl)
      simp only [hphase] at hstep hpass
      obtain rfl := Option.some_inj.mp hstep
      exact hpass
  | returned result =>
    simp [hphase] at hstep

/-- The wrapper takes the next line of its program. -/
theorem WrapSound.read (h : WrapSound w) (hstep : w.tryStep cfg version vm .read = some w') :
    WrapSound w' := by
  simp only [WrapWorld.tryStep] at hstep
  split at hstep
  · cases hstep
  · split at hstep
    · split at hstep
      · -- The line is a marker: the tracker and the history move together.
        rename_i sig _
        obtain rfl := Option.some_inj.mp hstep
        refine ⟨.marked _ _ sig, h.shows.append fun o ho => (by cases ho), ?_, ?_⟩
        · intro l hl
          obtain ⟨hlinked, hsound⟩ := h.linked l hl
          exact ⟨hlinked, hsound.load, fun o ho => by simpa using hsound.acks o ho⟩
        · intro hcommitted
          simpa using h.committed hcommitted
      · obtain rfl := Option.some_inj.mp hstep
        exact ⟨h.tracks, h.shows, h.linked, h.committed⟩
    · cases hstep

/-- A host connects to the wrapper. -/
theorem WrapSound.connected (h : WrapSound w) {vmId : VmId} {announce : Option Timestamp}
    (hstep : w.tryStep cfg version vm (.connected vmId announce) = some w') : WrapSound w' := by
  simp only [WrapWorld.tryStep] at hstep
  split at hstep
  · rename_i hphase
    obtain rfl := Option.some_inj.mp hstep
    rw [hphase.1]
    -- The link is new: the responder has read nothing from the tracker for it.
    refine .goOn h.tracks h.shows (fun _ l hl => ?_) fun hcommitted => by cases hcommitted
    obtain rfl := Option.some_inj.mp hl
    exact ⟨Nat.le_refl 0, fun o ho => by cases ho⟩
  · cases hstep

/-- After a migration that returned, another one begins. -/
theorem WrapSound.again (h : WrapSound w) (hstep : w.tryStep cfg version vm .again = some w') :
    WrapSound w' := by
  simp only [WrapWorld.tryStep] at hstep
  split at hstep
  · obtain rfl := Option.some_inj.mp hstep
    exact h.leave rfl fun hcommitted => by cases hcommitted
  · obtain rfl := Option.some_inj.mp hstep
    refine .goOn h.tracks h.shows (fun hlinked => by cases hlinked) fun hcommitted => by
      cases hcommitted
  · cases hstep

/-- Whatever happens next, the world stays sound. -/
theorem WrapSound.step (h : WrapSound w) (label : WrapLabel) :
    WrapSound (w.step cfg version vm label) := by
  cases hstep : w.tryStep cfg version vm label with
  | none => simpa [WrapWorld.step, hstep] using h
  | some w' =>
    simp only [WrapWorld.step, hstep, Option.getD_some]
    cases label with
    | print line =>
      simp only [WrapWorld.tryStep] at hstep
      split at hstep
      · cases hstep
      · obtain rfl := Option.some_inj.mp hstep
        exact ⟨h.tracks, h.shows, h.linked, h.committed⟩
    | read => exact h.read hstep
    | respond delivered =>
      simp only [WrapWorld.tryStep] at hstep
      split at hstep
      · cases hstep
      · obtain ⟨⟨l', events⟩, hmove, hset⟩ := Option.map_eq_some_iff.mp hstep
        obtain ⟨l, hl, hmove⟩ := Option.bind_eq_some_iff.mp hmove
        obtain rfl : _ = w' := hset
        exact h.respond hl hmove
    | connected vmId announce => exact h.connected hstep
    | hostReads =>
      obtain ⟨l, hl, hread⟩ := Option.bind_eq_some_iff.mp hstep
      exact h.hostReads hl hread
    | host o effect => exact h.hostStep hstep
    | again => exact h.again hstep

theorem wrapSound_run (cfg : WrapConfig) (version : GuestdVersion) (vm : RunningVm)
    (labels : List WrapLabel) : WrapSound (WrapWorld.start.run cfg version vm labels) := by
  induction labels using List.reverseRecOn with
  | nil => exact wrapSound_start
  | append_singleton labels label ih =>
    rw [WrapWorld.run, List.foldl_append]
    exact ih.step label

end Runs

/-! ## Snapshots between turns -/

/-- In every run of a wrapped child, its reader, the responders and the host, no snapshot is taken
with the tracker in a turn if and only if the last marker before each snapshot that came after the
answer the host relied on was not a start. -/
theorem wrap_snapshots_idle_iff (cfg : WrapConfig) (version : GuestdVersion) (vm : RunningVm)
    (labels : List WrapLabel) :
    let history := (WrapWorld.start.run cfg version vm labels).history
    (∀ o, .snapshot o ∈ history → o = none) ↔ QuietWindows history := by
  intro history
  have hshows : SnapshotsShow history := (wrapSound_run cfg version vm labels).shows
  constructor
  · intro hidle pre o post hsplit
    refine (hshows pre o post hsplit).mp (hidle o ?_)
    rw [hsplit]
    exact List.mem_append_right pre List.mem_cons_self
  · intro hquiet o hmem
    obtain ⟨pre, post, hsplit⟩ := List.append_of_mem hmem
    exact (hshows pre o post hsplit).mpr (hquiet pre o post hsplit)

/-- A turn starts between the answer and the pause, and the VM is snapshotted in it. -/
theorem wrap_snapshot_in_turn :
    ¬ ∀ (vm : RunningVm) (labels : List WrapLabel) (o : Option TurnId),
      .snapshot o ∈ (WrapWorld.start.run {} ⟨"0.1.0"⟩ vm labels).history → o = none := by
  intro hidle
  let vm : RunningVm := { id := ⟨0⟩, proc := 0, vsockUds := "guest.vsock", net := none }
  let labels : List WrapLabel :=
    -- The handshake,
    [.connected ⟨1⟩ none, .respond true, .hostReads, .host .ok false, .respond true,
    -- the drain, which is answered from an idle tracker,
      .host .ok false, .respond true, .respond true, .hostReads,
    -- the turn, and then the metadata, the pause and the snapshot.
      .print "@@TURN_START@@", .read, .host .ok false, .host .ok false, .host .ok false]
  have hhistory : (WrapWorld.start.run {} ⟨"0.1.0"⟩ vm labels).history =
      [.answered none, .marked .start, .snapshot (some ⟨1⟩)] := by decide
  have hsnapshot := hidle vm labels (some ⟨1⟩) (by rw [hhistory]; decide)
  cases hsnapshot

end Sleepwalk.Hostd
