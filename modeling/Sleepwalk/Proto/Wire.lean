import Mathlib.Data.String.Basic
import Sleepwalk.Lib.JsonText
import Sleepwalk.Lib.Lines
import Sleepwalk.Lib.Text
import Sleepwalk.Proto.Messages

/-!
# Guest messages on the wire

The derived serialization and deserialization of `GuestToHost` and `HostToGuest`, both tagged by
`type`, and the line a message is framed as. Writing and parsing the text of a UUID is left to
parameters.
-/

namespace Sleepwalk.Proto

open Serde

/-- A transparent newtype over `u64`. -/
def decodeU64 : Json → Option UInt64
  | .uint n => some n
  | _ => none

/-- A transparent newtype over `String`. -/
def decodeString : Json → Option String
  | .string s => some s
  | _ => none

/-- A `TurnId` is its counter value. -/
def TurnId.decode (value : Json) : Option TurnId := (decodeU64 value).map TurnId.mk

/-- A `Timestamp` is its count of nanoseconds. -/
def Timestamp.decode (value : Json) : Option Timestamp := (decodeU64 value).map Timestamp.mk

/-- A `VmId` is the text of its UUID. -/
def VmId.decode (parseUuid : String → Option (BitVec 128)) (value : Json) : Option VmId :=
  ((decodeString value).bind parseUuid).map VmId.mk

/-- A `GuestdVersion` is its string. -/
def GuestdVersion.decode (value : Json) : Option GuestdVersion :=
  (decodeString value).map GuestdVersion.mk

namespace GuestToHost

/-- The key of the tag. -/
def tag : String := "type"

/-- The fields `turn_id` and `ts` of a turn marker. -/
def decodeMarker (content : Content) : Option (TurnId × Timestamp) :=
  content.struct2 (.required "turn_id" TurnId.decode) (.required "ts" Timestamp.decode)

/-- The one field of a `DrainAck`: its type is optional. -/
def inFlightField : Serde.Field (Option TurnId) := .optional "in_flight" TurnId.decode

/-- Decode one message. -/
def decode (parseUuid : String → Option (BitVec 128)) (value : Json) : Option GuestToHost := do
  let (variant, content) ← tagged tag value
  match variant with
  | "Hello" =>
    let (vmId, version) ← content.struct2 (.required "vm_id" (VmId.decode parseUuid))
      (.required "guestd_version" GuestdVersion.decode)
    return .hello vmId version
  | "TurnStarted" =>
    let (turnId, ts) ← decodeMarker content
    return .turnStarted turnId ts
  | "TurnEnded" =>
    let (turnId, ts) ← decodeMarker content
    return .turnEnded turnId ts
  | "DrainAck" => return .drainAck (← content.struct1 inFlightField)
  | "Resumed" => return .resumed (← content.struct1 (.required "ts" Timestamp.decode))
  | "Ping" =>
    content.unit
    return .ping
  | "Pong" =>
    content.unit
    return .pong
  | _ => none

variable {parseUuid : String → Option (BitVec 128)} {value : Json}

/-- Only the variant `DrainAck` decodes to an ack, by its one field. -/
theorem decode_eq_drainAck_iff {inFlight : Option TurnId} :
    decode parseUuid value = some (.drainAck inFlight) ↔
      ∃ content, tagged tag value = some ("DrainAck", content) ∧
        content.struct1 inFlightField = some inFlight := by
  unfold decode
  constructor
  · intro h
    obtain ⟨⟨variant, content⟩, htag, hvariant⟩ := Option.bind_eq_some_iff.mp h
    refine ⟨content, ?_⟩
    dsimp only at hvariant
    split at hvariant
    case h_4 =>
      obtain ⟨o, hfield, ho⟩ := Option.bind_eq_some_iff.mp hvariant
      obtain rfl : o = inFlight := by simpa using ho
      exact ⟨htag, hfield⟩
    -- No other variant builds an ack.
    all_goals simp [Option.bind_eq_some_iff] at hvariant
  · rintro ⟨content, htag, hfield⟩
    rw [htag]
    simp [hfield]

end GuestToHost

/-! ## Writing -/

/-- A value tagged with its variant. -/
def taggedObject (variant : String) (fields : List (String × Json)) : Json :=
  .object (("type", .string variant) :: fields)

/-- A `TurnId` is its counter value. -/
def TurnId.encode (t : TurnId) : Json := .uint t.get

/-- A `Timestamp` is its count of nanoseconds. -/
def Timestamp.encode (ts : Timestamp) : Json := .uint ts.nanos

/-- Encode one message. -/
def GuestToHost.encode (showUuid : BitVec 128 → String) : GuestToHost → Json
  | .hello vmId version => taggedObject "Hello"
      [("vm_id", .string (showUuid vmId.uuid)), ("guestd_version", .string version.version)]
  | .turnStarted turnId ts =>
    taggedObject "TurnStarted" [("turn_id", turnId.encode), ("ts", ts.encode)]
  | .turnEnded turnId ts =>
    taggedObject "TurnEnded" [("turn_id", turnId.encode), ("ts", ts.encode)]
  | .drainAck inFlight =>
    taggedObject "DrainAck" [("in_flight", (inFlight.map TurnId.encode).getD .null)]
  | .resumed ts => taggedObject "Resumed" [("ts", ts.encode)]
  | .ping => taggedObject "Ping" []
  | .pong => taggedObject "Pong" []

/-- `Duration::as_millis`. -/
def Duration.asMillis (d : Duration) : ℕ := d.nanos / 1000000

/-- `Duration::from_millis`. -/
def Duration.fromMillis (ms : UInt64) : Duration := ⟨ms.toNat * 1000000⟩

namespace millis

/-- Serialize as whole milliseconds. -/
def serialize (d : Duration) : Json := .uint (.ofNat (min d.asMillis (2 ^ 64 - 1)))

/-- Deserialize from whole milliseconds. -/
def deserialize (value : Json) : Option Duration := (decodeU64 value).map Duration.fromMillis

end millis

namespace HostToGuest

/-- Encode one message. -/
def encode : HostToGuest → Json
  | .secrets env => taggedObject "Secrets" [("env", .object (env.map fun e => (e.1, .string e.2)))]
  | .drainRequest deadline =>
    taggedObject "DrainRequest" [("deadline_ms", millis.serialize deadline)]
  | .drainCancel => taggedObject "DrainCancel" []
  | .runTurn turnId => taggedObject "RunTurn" [("turn_id", turnId.encode)]
  | .ping => taggedObject "Ping" []
  | .pong => taggedObject "Pong" []

/-- An entry of a map of strings. -/
def decodeEntry (e : String × Json) : Option (String × String) :=
  (decodeString e.2).map fun value => (e.1, value)

/-- A `BTreeMap` of strings: the entries of an object, in key order. -/
def decodeEnv : Json → Option (List (String × String))
  | .object entries => (entries.mapM decodeEntry).map orderedMap
  | _ => none

/-- Decode one message. -/
def decode (value : Json) : Option HostToGuest := do
  let (variant, content) ← tagged "type" value
  match variant with
  | "Secrets" => return .secrets (← content.struct1 (.required "env" decodeEnv))
  | "DrainRequest" =>
    return .drainRequest (← content.struct1 (.required "deadline_ms" millis.deserialize))
  | "DrainCancel" =>
    content.unit
    return .drainCancel
  | "RunTurn" => return .runTurn (← content.struct1 (.required "turn_id" TurnId.decode))
  | "Ping" =>
    content.unit
    return .ping
  | "Pong" =>
    content.unit
    return .pong
  | _ => none

end HostToGuest

/-! ## What is read back -/

section RoundTrip

variable {parseUuid : String → Option (BitVec 128)} {showUuid : BitVec 128 → String}

/-- A message reads back as itself if the UUID it carries does. -/
theorem GuestToHost.decode_encode {msg : GuestToHost}
    (huuid : ∀ vmId version, msg = .hello vmId version →
      parseUuid (showUuid vmId.uuid) = some vmId.uuid) :
    decode parseUuid (msg.encode showUuid) = some msg := by
  cases msg with
  | hello vmId version =>
    have hid : VmId.decode parseUuid (.string (showUuid vmId.uuid)) = some vmId := by
      simp [VmId.decode, decodeString, huuid vmId version rfl]
    have hfields : (Content.map [("vm_id", .string (showUuid vmId.uuid)),
        ("guestd_version", .string version.version)]).struct2
          (.required "vm_id" (VmId.decode parseUuid))
          (.required "guestd_version" GuestdVersion.decode) = some (vmId, version) := by
      show (do return (← VmId.decode parseUuid (.string (showUuid vmId.uuid)), version)) =
        some (vmId, version)
      rw [hid]
      rfl
    show (do
      let (vmId, version) ← (Content.map [("vm_id", .string (showUuid vmId.uuid)),
        ("guestd_version", .string version.version)]).struct2
          (.required "vm_id" (VmId.decode parseUuid))
          (.required "guestd_version" GuestdVersion.decode)
      return hello vmId version) = some (hello vmId version)
    rw [hfields]
    rfl
  | drainAck inFlight => cases inFlight <;> rfl
  | _ => rfl

/-- What the wire keeps of a message: of a deadline, its whole milliseconds, as many as fit. -/
def HostToGuest.onWire : HostToGuest → HostToGuest
  | .drainRequest deadline =>
    .drainRequest (.fromMillis (.ofNat (min deadline.asMillis (2 ^ 64 - 1))))
  | msg => msg

/-- A deadline, if any, is a whole number of milliseconds that fits 64 bits. -/
def HostToGuest.WholeMillis : HostToGuest → Prop
  | .drainRequest deadline => ∃ ms : UInt64, deadline = .fromMillis ms
  | _ => True

theorem HostToGuest.onWire_eq_self {msg : HostToGuest} (h : msg.WholeMillis) :
    msg.onWire = msg := by
  cases msg with
  | drainRequest deadline =>
    obtain ⟨ms, rfl⟩ := h
    have hlt := ms.toNat_lt
    have hmillis : min (Duration.fromMillis ms).asMillis (2 ^ 64 - 1) = ms.toNat := by
      simp only [Duration.fromMillis, Duration.asMillis]
      omega
    rw [onWire, hmillis, UInt64.ofNat_toNat]
  | _ => rfl

/-- The `BTreeMap` of a message is in key order. -/
def HostToGuest.Ordered : HostToGuest → Prop
  | .secrets env => Serde.Ordered env
  | _ => True

theorem HostToGuest.decode_encode {msg : HostToGuest} (hordered : msg.Ordered) :
    decode msg.encode = some msg.onWire := by
  cases msg with
  | secrets env =>
    have hentries : (env.map fun e => (e.1, Json.string e.2)).mapM decodeEntry = some env := by
      clear hordered
      induction env with
      | nil => rfl
      | cons e env ih =>
        rw [List.map_cons, List.mapM_cons, ih]
        rfl
    have henv : decodeEnv (.object (env.map fun e => (e.1, .string e.2))) = some env := by
      rw [decodeEnv, hentries, Option.map_some, orderedMap_eq_self hordered]
    show ((decodeEnv (.object (env.map fun e => (e.1, .string e.2)))).bind fun env =>
      some (HostToGuest.secrets env)) = some (.secrets env)
    rw [henv, Option.bind_some]
  | _ => rfl

end RoundTrip

/-! ## Lines -/

/-- The line a value is sent as. -/
def frame (value : Json) : List UInt8 := Bytes.ofText value.text ++ [Lines.LF]

/-- The texts of JSON values and of UUIDs, as the libraries in use write and read them. -/
structure Codec where
  /-- The JSON value a text stands for. -/
  json : String → Option Json
  /-- The bits of the UUID a text stands for. -/
  uuid : String → Option (BitVec 128)
  /-- The text of a UUID. -/
  showUuid : BitVec 128 → String
  /-- What is said of a text that does not decode. -/
  rejected : String → String

/-- The text of a value is read back as that value. -/
def Codec.Reads (codec : Codec) (value : Json) : Prop := codec.json value.text = some value

/-- The UUID a message carries, if any, is read back from its text. -/
def Codec.ReadsUuid (codec : Codec) (msg : GuestToHost) : Prop :=
  ∀ vmId version, msg = .hello vmId version →
    codec.uuid (codec.showUuid vmId.uuid) = some vmId.uuid

/-- A value whose text is one line that survives trimming. -/
structure OneLine (value : Json) : Prop where
  clean : Clean value.print
  isObject : ∃ entries, value = .object entries

section Frames

variable {value : Json} {rest : List UInt8}

theorem OneLine.readLine_frame (h : OneLine value) :
    Lines.readLine (frame value ++ rest) = (Bytes.ofText (value.text ++ "\n"), rest) := by
  rw [frame, List.append_assoc, List.singleton_append]
  exact Lines.readLine_ofText h.clean.newline_notMem

theorem OneLine.trimEnd_text (h : OneLine value) :
    Text.trimEnd (value.text ++ "\n") = value.text := by
  obtain ⟨entries, rfl⟩ := h.isObject
  rw [Json.text, Json.print_object_eq]
  exact Text.trimEnd_newline (by decide)

theorem ofText_line_ne_nil (text : String) : Bytes.ofText (text ++ "\n") ≠ [] := by
  rw [Lines.ofText_append]
  exact List.append_ne_nil_of_right_ne_nil _ (by decide)

/-- A tagged value is one line if its fields have no control characters. -/
theorem oneLine_taggedObject {variant : String} {fields : List (String × Json)}
    (h : ∀ e ∈ fields, Clean e.2.print) : OneLine (taggedObject variant fields) := by
  refine ⟨?_, _, rfl⟩
  rw [taggedObject, Json.clean_print_object]
  apply Json.clean_printEntries
  intro e he
  rcases List.mem_cons.mp he with rfl | he
  · exact Json.clean_print_string variant
  · exact h e he

theorem GuestToHost.oneLine_encode (showUuid : BitVec 128 → String) (msg : GuestToHost) :
    OneLine (msg.encode showUuid) := by
  cases msg with
  | drainAck inFlight =>
    cases inFlight <;> exact oneLine_taggedObject (by simp [TurnId.encode])
  | _ => exact oneLine_taggedObject (by simp [TurnId.encode, Timestamp.encode])

theorem readable_taggedObject {variant : String} {fields : List (String × Json)}
    (h : ∀ e ∈ fields, Json.Readable e.2) : Json.Readable (taggedObject variant fields) := by
  apply Json.readable_object
  intro e he
  rcases List.mem_cons.mp he with rfl | he
  · exact Json.readable_string variant
  · exact h e he

theorem GuestToHost.readable_encode (showUuid : BitVec 128 → String) (msg : GuestToHost) :
    Json.Readable (msg.encode showUuid) := by
  cases msg with
  | drainAck inFlight =>
    apply readable_taggedObject
    cases inFlight <;> simp [TurnId.encode, Json.readable_null, Json.readable_uint]
  | _ =>
    apply readable_taggedObject
    simp [TurnId.encode, Timestamp.encode, Json.readable_uint, Json.readable_string]

theorem HostToGuest.oneLine_encode (msg : HostToGuest) : OneLine msg.encode := by
  cases msg with
  | secrets env =>
    apply oneLine_taggedObject
    simp only [List.mem_singleton, forall_eq, Json.clean_print_object]
    apply Json.clean_printEntries
    intro e he
    obtain ⟨entry, -, rfl⟩ := List.mem_map.mp he
    exact Json.clean_print_string entry.2
  | _ => exact oneLine_taggedObject (by simp [TurnId.encode, millis.serialize])

theorem HostToGuest.readable_encode (msg : HostToGuest) : Json.Readable msg.encode := by
  cases msg with
  | secrets env =>
    apply readable_taggedObject
    simp only [List.mem_singleton, forall_eq]
    apply Json.readable_object
    intro e he
    obtain ⟨entry, -, rfl⟩ := List.mem_map.mp he
    exact Json.readable_string entry.2
  | _ =>
    apply readable_taggedObject
    simp [TurnId.encode, millis.serialize, Json.readable_uint]

end Frames

end Sleepwalk.Proto
