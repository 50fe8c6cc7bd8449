import Sleepwalk.Lib.Text
import Sleepwalk.Proto.Wire

/-!
# The host side of the guest protocol

`GuestLink` reads one line at a time, decodes it, and decides a drain on the first `DrainAck` it
reads (`hostd::guestlink`). The JSON parser and the UUID parser are parameters: everything here
holds whatever text they accept.

`drain_accepts_explicit_null_iff` says for which lines a quiescent answer rests on an explicit
`null`: derived deserialization reads a missing optional field as `None`.
-/

namespace Sleepwalk.Hostd

open Proto Serde

/-- The result of asking the guest to drain. -/
inductive DrainState where
  /-- Gated and idle: safe to snapshot. -/
  | quiescent
  /-- A turn is still in flight. -/
  | busy
deriving DecidableEq, Repr

/-- Why an operation on the link failed. -/
inductive LinkError where
  /-- The peer closed the connection. -/
  | unexpectedEof
  /-- Reading or writing failed. -/
  | io
  /-- A line did not decode to a message. -/
  | malformed
  /-- No ack came before the deadline. -/
  | timedOut
deriving DecidableEq, Repr

/-- What one attempt to read a line meets. -/
inductive Incoming where
  | line (text : String)
  | closed
  | failed
deriving DecidableEq, Repr

/-- The parsers the link relies on. -/
structure Parsers where
  /-- The JSON value a text stands for. -/
  json : String → Option Json
  /-- The bits of the UUID a text stands for. -/
  uuid : String → Option (BitVec 128)

namespace GuestLink

variable (parsers : Parsers)

/-- The value of a received line. -/
def value (line : String) : Option Json := parsers.json (Text.trimEnd line)

/-- Receive one message from the guest. -/
def recv : Incoming → Except LinkError GuestToHost
  | .closed => .error .unexpectedEof
  | .failed => .error .io
  | .line text =>
    match (value parsers text).bind (GuestToHost.decode parsers.uuid) with
    | some msg => .ok msg
    | none => .error .malformed

/-- Read until a `DrainAck`, skipping other messages. `incoming` is what there is to read before
the deadline. -/
def awaitAck : List Incoming → Except LinkError (Option TurnId)
  | [] => .error .timedOut
  | next :: incoming =>
    match recv parsers next with
    | .error e => .error e
    | .ok (.drainAck inFlight) => .ok inFlight
    | .ok _ => awaitAck incoming

/-- Request a drain and wait for the guest's ack: whether it reached quiescence. -/
def drain (sent : Except LinkError Unit) (incoming : List Incoming) :
    Except LinkError DrainState := do
  sent
  let ack ← awaitAck parsers incoming
  return if ack.isNone then .quiescent else .busy

/-! ## The lines a drain decides on -/

variable {parsers} {before after : List Incoming} {line : String}

/-- A message that `drain` skips: it decodes, and is no `DrainAck`. -/
def Skipped (parsers : Parsers) (next : Incoming) : Prop :=
  ∃ msg, recv parsers next = .ok msg ∧ ∀ o, msg ≠ .drainAck o

/-- Skipped messages do not matter to what is awaited. -/
theorem awaitAck_skipped (h : ∀ next ∈ before, Skipped parsers next) (rest : List Incoming) :
    awaitAck parsers (before ++ rest) = awaitAck parsers rest := by
  induction before with
  | nil => rfl
  | cons next before ih =>
    obtain ⟨msg, hrecv, hmsg⟩ := h next (by simp)
    rw [List.cons_append, awaitAck, hrecv]
    have hrest := ih fun n hn => h n (by simp [hn])
    cases msg with
    | drainAck o => exact absurd rfl (hmsg o)
    | _ => exact hrest

/-- A drain that reads one line after what it skips is quiescent exactly if that line is an ack of
nothing in flight. -/
theorem drain_eq_quiescent_iff (h : ∀ next ∈ before, Skipped parsers next) :
    drain parsers (.ok ()) (before ++ [.line line]) = .ok .quiescent ↔
      recv parsers (.line line) = .ok (.drainAck none) := by
  have hdrain : drain parsers (.ok ()) (before ++ [.line line]) =
      (fun ack : Option TurnId => if ack.isNone then .quiescent else .busy) <$>
        awaitAck parsers [.line line] := by
    rw [← awaitAck_skipped h]
    simp only [drain]
    cases awaitAck parsers (before ++ [.line line]) <;> rfl
  rw [hdrain, awaitAck]
  rcases recv parsers (.line line) with e | msg
  · simp [Functor.map, Except.map]
  · cases msg with
    | drainAck o => cases o <;> simp [Functor.map, Except.map]
    | _ => simp [Functor.map, Except.map, awaitAck]

/-- A drain rejects a malformed line that it comes to. -/
theorem drain_malformed (h : ∀ next ∈ before, Skipped parsers next)
    (hrecv : recv parsers (.line line) = .error .malformed) :
    drain parsers (.ok ()) (before ++ .line line :: after) = .error .malformed := by
  simp only [drain, awaitAck_skipped h, awaitAck, hrecv]
  rfl

/-- A received line decodes or is malformed, by its value. -/
theorem recv_line (line : String) :
    recv parsers (.line line) =
      match (value parsers line).bind (GuestToHost.decode parsers.uuid) with
      | some msg => .ok msg
      | none => .error .malformed := rfl

/-- A line is received as an ack of nothing in flight exactly if its value decodes to that. -/
theorem recv_line_eq_ack_iff :
    recv parsers (.line line) = .ok (.drainAck none) ↔
      ∃ v, value parsers line = some v ∧
        GuestToHost.decode parsers.uuid v = some (.drainAck none) := by
  rw [recv_line, ← Option.bind_eq_some_iff]
  split
  · rename_i msg hmsg
    rw [hmsg]
    constructor
    · intro h
      rw [Except.ok.inj h]
    · intro h
      rw [Option.some.inj h]
  · rename_i hnone
    rw [hnone]
    simp

/-! ## What the decoder takes for an idle guest -/

/-- An object whose tag says `DrainAck`. -/
def IsDrainAck (entries : List (String × Json)) : Prop := ("type", .string "DrainAck") ∈ entries

/-- A `DrainAck` object in which `in_flight` is present with value null. -/
def ExplicitNull (v : Json) : Prop :=
  ∃ entries, v = .object entries ∧ IsDrainAck entries ∧ ("in_flight", .null) ∈ entries

/-- A `DrainAck` object that omits `in_flight`. -/
def OmitsInFlight (v : Json) : Prop :=
  ∃ entries, v = .object entries ∧ IsDrainAck entries ∧ ∀ e ∈ entries, e.1 ≠ "in_flight"

/-- A `DrainAck` object that omits `in_flight` and is tagged once. -/
def OmitsInFlightOnly (v : Json) : Prop :=
  ∃ entries, v = .object entries ∧
    (entries.filter fun e => e.1 = "type") = [("type", .string "DrainAck")] ∧
    ∀ e ∈ entries, e.1 ≠ "in_flight"

/-- A `DrainAck` written as an array, its one field by position. -/
def PositionalNull (v : Json) : Prop := v = .array [.string "DrainAck", .null]

/-- The remaining entries of an object have the same entries under another key. -/
theorem filter_filter_of_ne {entries : List (String × Json)} {tag key : String} (h : key ≠ tag) :
    ((entries.filter fun e => e.1 ≠ tag).filter fun e => e.1 = key)
      = entries.filter fun e => e.1 = key := by
  rw [List.filter_filter]
  apply List.filter_congr
  intro e _
  by_cases he : e.1 = key
  · simp [he, h]
  · simp [he]

/-- An object decodes to an ack of nothing in flight exactly if it is tagged once, and has no
`in_flight` or one that is null. -/
theorem decode_object_iff {uuid : String → Option (BitVec 128)}
    {entries : List (String × Json)} :
    GuestToHost.decode uuid (.object entries) = some (.drainAck none) ↔
      (entries.filter fun e => e.1 = "type") = [("type", .string "DrainAck")] ∧
        ((∀ e ∈ entries, e.1 ≠ "in_flight") ∨
          (entries.filter fun e => e.1 = "in_flight") = [("in_flight", .null)]) := by
  rw [GuestToHost.decode_eq_drainAck_iff]
  simp only [GuestToHost.tag, tagged_object_iff]
  constructor
  · rintro ⟨content, ⟨htag, rfl⟩, hfield⟩
    rw [Content.struct1, GuestToHost.inFlightField, optional_fromMap_eq_none_iff,
      filter_filter_of_ne (by decide)] at hfield
    refine ⟨htag, hfield.imp_left fun hnone e he hkey => ?_⟩
    exact hnone e (List.mem_filter.mpr ⟨he, by simp [hkey]⟩) hkey
  · rintro ⟨htag, hfield⟩
    refine ⟨_, ⟨htag, rfl⟩, ?_⟩
    rw [Content.struct1, GuestToHost.inFlightField, optional_fromMap_eq_none_iff,
      filter_filter_of_ne (by decide)]
    exact hfield.imp_left fun hnone e he => hnone e (List.mem_filter.mp he).1

/-- An array decodes to an ack of nothing in flight exactly if it is the tag and a null. -/
theorem decode_array_iff {uuid : String → Option (BitVec 128)} {items : List Json} :
    GuestToHost.decode uuid (.array items) = some (.drainAck none) ↔
      items = [.string "DrainAck", .null] := by
  rw [GuestToHost.decode_eq_drainAck_iff]
  simp only [tagged_array_iff]
  constructor
  · rintro ⟨content, ⟨rest, rfl, rfl⟩, hfield⟩
    rcases rest with _ | ⟨first, _ | ⟨second, rest⟩⟩
    · simp [Content.struct1] at hfield
    · rw [optional_decode_eq_none hfield]
    · simp [Content.struct1] at hfield
  · rintro rfl
    exact ⟨_, ⟨_, rfl, rfl⟩, rfl⟩

/-- What the decoder takes for an idle guest: an explicit null, or one of the two values that say
nothing of the kind. -/
theorem decode_eq_ack_iff {uuid : String → Option (BitVec 128)} {v : Json} :
    GuestToHost.decode uuid v = some (.drainAck none) ↔
      (∃ entries, v = .object entries ∧
        (entries.filter fun e => e.1 = "type") = [("type", .string "DrainAck")] ∧
        (entries.filter fun e => e.1 = "in_flight") = [("in_flight", .null)]) ∨
      OmitsInFlightOnly v ∨ PositionalNull v := by
  constructor
  · intro h
    obtain ⟨content, htag, -⟩ := GuestToHost.decode_eq_drainAck_iff.mp h
    rcases eq_object_or_array_of_tagged htag with ⟨entries, rfl⟩ | ⟨items, rfl⟩
    · obtain ⟨hone, hnone | hnull⟩ := decode_object_iff.mp h
      · exact Or.inr (Or.inl ⟨entries, rfl, hone, hnone⟩)
      · exact Or.inl ⟨entries, rfl, hone, hnull⟩
    · exact Or.inr (Or.inr (congrArg Json.array (decode_array_iff.mp h)))
  · rintro (⟨entries, rfl, hone, hnull⟩ | ⟨entries, rfl, hone, hnone⟩ | rfl)
    · exact decode_object_iff.mpr ⟨hone, Or.inr hnull⟩
    · exact decode_object_iff.mpr ⟨hone, Or.inl hnone⟩
    · exact decode_array_iff.mpr rfl

/-- For every line that a drain comes to after messages it skips: it takes the line for a quiescent
ack only if that is a `DrainAck` object with an explicit null, and rejects a `DrainAck` object that
omits `in_flight`, if and only if the line is neither a singly tagged `DrainAck` object that omits
`in_flight` nor the array of the tag and a null. -/
theorem drain_accepts_explicit_null_iff (parsers : Parsers) (before : List Incoming)
    (hskipped : ∀ next ∈ before, Skipped parsers next) (line : String) :
    ((drain parsers (.ok ()) (before ++ [.line line]) = .ok .quiescent →
        ∃ v, value parsers line = some v ∧ ExplicitNull v) ∧
      ((∃ v, value parsers line = some v ∧ OmitsInFlight v) → ∀ after,
        drain parsers (.ok ()) (before ++ .line line :: after) = .error .malformed)) ↔
      ∀ v, value parsers line = some v → ¬ OmitsInFlightOnly v ∧ ¬ PositionalNull v := by
  rw [drain_eq_quiescent_iff hskipped, recv_line_eq_ack_iff]
  constructor
  · rintro ⟨haccepts, -⟩ v hv
    -- What decodes to an ack is accepted, so it has to be an object with an explicit null.
    have hexplicit : GuestToHost.decode parsers.uuid v = some (.drainAck none) →
        ExplicitNull v := by
      intro hack
      obtain ⟨v', hv', hnull⟩ := haccepts ⟨v, hv, hack⟩
      obtain rfl : v = v' := Option.some.inj (hv.symm.trans hv')
      exact hnull
    constructor
    · intro homits
      obtain ⟨entries, rfl, -, hnull⟩ := hexplicit (decode_eq_ack_iff.mpr (Or.inr (Or.inl homits)))
      obtain ⟨entries', hsame, -, hnone⟩ := homits
      obtain rfl : entries = entries' := Json.object.inj hsame
      exact hnone _ hnull rfl
    · intro hpositional
      obtain ⟨entries, rfl, -⟩ := hexplicit (decode_eq_ack_iff.mpr (Or.inr (Or.inr hpositional)))
      cases hpositional
  · intro hnever
    constructor
    · rintro ⟨v, hv, hack⟩
      obtain ⟨homits, hpositional⟩ := hnever v hv
      rcases decode_eq_ack_iff.mp hack with ⟨entries, rfl, hone, hnull⟩ | hbad | hbad
      · have hmem : ∀ {key value}, (entries.filter fun e => e.1 = key) = [(key, value)] →
            (key, value) ∈ entries := by
          intro key value hfilter
          have hentry : (key, value) ∈ entries.filter fun e => e.1 = key := by
            rw [hfilter]
            exact List.mem_singleton.mpr rfl
          exact (List.mem_filter.mp hentry).1
        exact ⟨_, hv, entries, rfl, hmem hone, hmem hnull⟩
      · exact absurd hbad homits
      · exact absurd hbad hpositional
    · rintro ⟨v, hv, entries, rfl, htag, hnone⟩ after
      -- An object that omits the field is rejected for its second tag.
      have hmore : (entries.filter fun e => e.1 = "type") ≠ [("type", .string "DrainAck")] :=
        fun hone => (hnever _ hv).1 ⟨entries, rfl, hone, hnone⟩
      refine drain_malformed hskipped ?_
      rw [recv_line, hv, Option.bind_some, GuestToHost.decode, GuestToHost.tag,
        tagged_object_eq_none htag hmore]
      rfl

/-- An idle guest's ack, which rests on its explicit null. -/
theorem drain_accepts_explicit_null_ack :
    let line := "\x7b\"type\":\"DrainAck\",\"in_flight\":null\x7d\n"
    let parsers : Parsers :=
      { json := fun _ => some (.object [("type", .string "DrainAck"), ("in_flight", .null)])
        uuid := fun _ => none }
    ∃ v, value parsers line = some v ∧ ExplicitNull v := by
  intro line parsers
  have hnever : ∀ v, value parsers line = some v → ¬ OmitsInFlightOnly v ∧ ¬ PositionalNull v := by
    intro v hv
    obtain rfl : Json.object [("type", .string "DrainAck"), ("in_flight", .null)] = v :=
      Option.some.inj hv
    refine ⟨?_, by simp [PositionalNull]⟩
    rintro ⟨entries, hentries, -, hnone⟩
    obtain rfl := Json.object.inj hentries
    exact hnone ("in_flight", .null) (by simp) rfl
  exact ((drain_accepts_explicit_null_iff parsers [] (by simp) line).mpr hnever).1 rfl

/-- A `DrainAck` without its field is taken for the ack of an idle guest. -/
theorem drain_accepts_missing_in_flight :
    let line := "\x7b\"type\":\"DrainAck\"\x7d\n"
    let parsers : Parsers :=
      { json := fun _ => some (.object [("type", .string "DrainAck")])
        uuid := fun _ => none }
    ¬ ((drain parsers (.ok ()) [.line line] = .ok .quiescent →
        ∃ v, value parsers line = some v ∧ ExplicitNull v) ∧
      ((∃ v, value parsers line = some v ∧ OmitsInFlight v) → ∀ after,
        drain parsers (.ok ()) (.line line :: after) = .error .malformed)) := by
  rintro line parsers ⟨haccepts, -⟩
  obtain ⟨v, hv, entries, rfl, -, hnull⟩ := haccepts rfl
  obtain rfl : [("type", Json.string "DrainAck")] = entries := Json.object.inj (Option.some.inj hv)
  simp at hnull

end GuestLink

end Sleepwalk.Hostd
