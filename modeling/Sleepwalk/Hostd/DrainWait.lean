import Sleepwalk.Hostd.Drain
import Sleepwalk.Hostd.GuestLink
import Mathlib.Data.List.Forall2

/-!
# Waiting for the turn in flight

The race rule has the host wait for the turn that a `DrainAck` reports, up to the deadline. The two
host-side readers of a drain differ in this: the app layer of `DrainCoordinator` goes on reading
until the turn's end, and `GuestLink::drain` returns with the ack it was waiting for.
`drain_waits_iff` says when that makes no difference.
-/

namespace Sleepwalk.Hostd.GuestLink

open Proto

/-- What a drain leaves unread of what there is to read before the deadline; `none` if it reads on
until the deadline has passed. It reads as `awaitAck` does. -/
def unread (parsers : Parsers) : List Incoming → Option (List Incoming)
  | [] => none
  | next :: incoming =>
    match recv parsers next with
    | .error _ => some incoming
    | .ok (.drainAck _) => some incoming
    | .ok _ => unread parsers incoming

/-- What the first ack among messages reports, and the messages after it. -/
def firstAck : List GuestToHost → Option (Option TurnId × List GuestToHost)
  | [] => none
  | .drainAck inFlight :: rest => some (inFlight, rest)
  | _ :: rest => firstAck rest

/-- The end of the turn is among the messages. -/
def Ended (t : TurnId) (messages : List GuestToHost) : Prop :=
  ∃ ts, .turnEnded t ts ∈ messages

/-- The messages delivered before the deadline show the guest idle: the first ack reports nothing
in flight, or a turn that ends after it. -/
def ShownIdle (messages : List GuestToHost) : Prop :=
  ∃ inFlight rest, firstAck messages = some (inFlight, rest) ∧ ∀ t ∈ inFlight, Ended t rest

/-- The first ack reports a turn that does not end among the messages after it. -/
def ShownBusy (messages : List GuestToHost) : Prop :=
  ∃ t rest, firstAck messages = some (some t, rest) ∧ ¬ Ended t rest

variable {parsers : Parsers} {incoming : List Incoming} {messages : List GuestToHost}

/-- A drain decides on the first ack alone. -/
theorem awaitAck_eq (h : List.Forall₂ (fun next msg => recv parsers next = .ok msg) incoming
    messages) :
    awaitAck parsers incoming =
      match firstAck messages with
      | some (inFlight, _) => .ok inFlight
      | none => .error .timedOut := by
  induction h with
  | nil => rfl
  | @cons next msg incoming messages hrecv _ ih =>
    rw [awaitAck, hrecv]
    cases msg with
    | drainAck inFlight => rfl
    | _ => exact ih

/-- A drain that comes to an ack leaves the rest unread: it does not wait for the deadline. -/
theorem unread_eq_none_iff
    (h : List.Forall₂ (fun next msg => recv parsers next = .ok msg) incoming messages) :
    unread parsers incoming = none ↔ firstAck messages = none := by
  induction h with
  | nil => simp [unread, firstAck]
  | @cons next msg incoming messages hrecv _ ih =>
    rw [unread, hrecv]
    cases msg with
    | drainAck inFlight => simp [firstAck]
    | _ => exact ih

theorem drain_eq (h : List.Forall₂ (fun next msg => recv parsers next = .ok msg) incoming
    messages) :
    drain parsers (.ok ()) incoming =
      match firstAck messages with
      | some (none, _) => .ok .quiescent
      | some (some _, _) => .ok .busy
      | none => .error .timedOut := by
  have hack := awaitAck_eq h
  simp only [drain]
  rw [hack]
  rcases firstAck messages with _ | ⟨_ | t, rest⟩ <;> rfl

/-- For every sequence of messages delivered before the deadline: the drain is quiescent if they
show the guest idle, and is busy only if the deadline has passed and they show it busy, if and only
if the first ack, if there is one, reports nothing in flight. The answers alone are those of a drain
that waits if and only if no first ack reports a turn that ends after it. -/
theorem drain_waits_iff (parsers : Parsers) (incoming : List Incoming)
    (messages : List GuestToHost)
    (h : List.Forall₂ (fun next msg => recv parsers next = .ok msg) incoming messages) :
    (((ShownIdle messages → drain parsers (.ok ()) incoming = .ok .quiescent) ∧
        (drain parsers (.ok ()) incoming = .ok .busy →
          unread parsers incoming = none ∧ ShownBusy messages)) ↔
      ∀ inFlight rest, firstAck messages = some (inFlight, rest) → inFlight = none) ∧
    (((ShownIdle messages → drain parsers (.ok ()) incoming = .ok .quiescent) ∧
        (drain parsers (.ok ()) incoming = .ok .busy → ShownBusy messages)) ↔
      ∀ t rest, firstAck messages = some (some t, rest) → ¬ Ended t rest) := by
  rw [unread_eq_none_iff h, drain_eq h]
  -- What the first ack reports decides every part of both statements.
  rcases hack : firstAck messages with _ | ⟨_ | t, rest⟩
  · have hidle : ¬ ShownIdle messages := by
      rintro ⟨inFlight, rest, hfirst, -⟩
      rw [hack] at hfirst
      cases hfirst
    simp [hidle]
  · simp
  · have hidle : ShownIdle messages ↔ Ended t rest := by
      simp [ShownIdle, hack]
    have hbusy : ShownBusy messages ↔ ¬ Ended t rest := by
      simp [ShownBusy, hack]
    simp [hidle, hbusy]

/-- What `serde_json` reads in three lines of a guest. -/
def guestLines (text : String) : Option Serde.Json :=
  if text = "\x7b\"type\":\"DrainAck\",\"in_flight\":null\x7d" then
    some (.object [("type", .string "DrainAck"), ("in_flight", .null)])
  else if text = "\x7b\"type\":\"DrainAck\",\"in_flight\":7\x7d" then
    some (.object [("type", .string "DrainAck"), ("in_flight", .uint 7)])
  else if text = "\x7b\"type\":\"TurnEnded\",\"turn_id\":7,\"ts\":5\x7d" then
    some (.object [("type", .string "TurnEnded"), ("turn_id", .uint 7), ("ts", .uint 5)])
  else none

/-- The end of a stray turn, then an ack of nothing in flight. -/
theorem drain_waits_idle_ack :
    let parsers : Parsers := ⟨guestLines, fun _ => none⟩
    let incoming : List Incoming :=
      [.line "\x7b\"type\":\"TurnEnded\",\"turn_id\":7,\"ts\":5\x7d\n",
        .line "\x7b\"type\":\"DrainAck\",\"in_flight\":null\x7d\n"]
    drain parsers (.ok ()) incoming = .ok .quiescent := by
  intro parsers incoming
  have h : List.Forall₂ (fun next msg => recv parsers next = .ok msg) incoming
      [.turnEnded ⟨7⟩ ⟨5⟩, .drainAck none] := .cons rfl (.cons rfl .nil)
  obtain ⟨hwaits, -⟩ := (drain_waits_iff parsers incoming _ h).1.mpr fun inFlight rest hfirst => by
    obtain ⟨rfl, rfl⟩ : none = inFlight ∧ [] = rest := by simpa [firstAck] using hfirst
    rfl
  exact hwaits ⟨none, [], rfl, by simp⟩

/-- A guest acks with turn 7 in flight, and the turn ends before the deadline: the app layer of a
fresh coordinator that has read both messages is quiet, and the drain answers busy without having
read the second. -/
theorem drain_does_not_wait :
    let parsers : Parsers := ⟨guestLines, fun _ => none⟩
    let incoming : List Incoming :=
      [.line "\x7b\"type\":\"DrainAck\",\"in_flight\":7\x7d\n",
        .line "\x7b\"type\":\"TurnEnded\",\"turn_id\":7,\"ts\":5\x7d\n"]
    let messages : List GuestToHost := [.drainAck (some ⟨7⟩), .turnEnded ⟨7⟩ ⟨5⟩]
    List.Forall₂ (fun next msg => recv parsers next = .ok msg) incoming messages ∧
      ShownIdle messages ∧ (hostView messages).isQuiet = true ∧
      drain parsers (.ok ()) incoming = .ok .busy ∧
      unread parsers incoming =
        some [.line "\x7b\"type\":\"TurnEnded\",\"turn_id\":7,\"ts\":5\x7d\n"] := by
  intro parsers incoming messages
  refine ⟨.cons rfl (.cons rfl .nil), ?_, rfl, rfl, rfl⟩
  refine ⟨some ⟨7⟩, [.turnEnded ⟨7⟩ ⟨5⟩], rfl, ?_⟩
  intro t ht
  obtain rfl := Option.some_inj.mp (Option.mem_def.mp ht)
  exact ⟨⟨5⟩, List.mem_singleton.mpr rfl⟩

end Sleepwalk.Hostd.GuestLink
