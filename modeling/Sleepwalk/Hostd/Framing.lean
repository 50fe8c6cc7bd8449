import Sleepwalk.Guestd.Framing
import Sleepwalk.Hostd.GuestLink

/-!
# The host's end of the framing

The stream side of `GuestLink`, the mirror of the guest's channel. What one end sends, the other
receives message by message.
-/

namespace Sleepwalk.Hostd.GuestLink

open Bytes Lines Proto Guestd

variable {codec : Codec}

/-- Send one message to the guest, after what has been written. -/
def send (written : List UInt8) (msg : HostToGuest) : Except LinkError Unit × List UInt8 :=
  (.ok (), written ++ frame msg.encode)

/-- Send messages one by one. -/
def sendAll (written : List UInt8) (msgs : List HostToGuest) : List UInt8 :=
  msgs.foldl (fun written msg => (send written msg).2) written

/-- What an attempt to read a line meets. -/
def incoming (line : List UInt8) : Incoming :=
  if line.isEmpty then
    .closed
  else
    match toText line with
    | none => .failed
    | some text => .line text

/-- Receive one message from a stream. -/
def recvFrom (codec : Codec) (reader : List UInt8) :
    Except LinkError GuestToHost × List UInt8 :=
  let (line, reader) := readLine reader
  (recv ⟨codec.json, codec.uuid⟩ (incoming line), reader)

theorem sendAll_eq (written : List UInt8) (msgs : List HostToGuest) :
    sendAll written msgs = written ++ msgs.flatMap fun msg => frame msg.encode := by
  induction msgs generalizing written with
  | nil => simp [sendAll]
  | cons msg msgs ih =>
    have hrest := ih (send written msg).2
    simp only [sendAll, List.foldl_cons] at hrest ⊢
    rw [hrest]
    simp [send]

/-- A guest's line is received as its message. -/
theorem recvFrom_frame {rest : List UInt8} {msg : GuestToHost}
    (huuid : codec.ReadsUuid msg) (hjson : codec.Reads (msg.encode codec.showUuid)) :
    recvFrom codec (frame (msg.encode codec.showUuid) ++ rest) = (.ok msg, rest) := by
  have hline := msg.oneLine_encode codec.showUuid
  have hnonempty : (ofText ((msg.encode codec.showUuid).text ++ "\n")).isEmpty = false := by
    simpa using ofText_line_ne_nil (msg.encode codec.showUuid).text
  have htext : toText (ofText ((msg.encode codec.showUuid).text ++ "\n")) =
      some ((msg.encode codec.showUuid).text ++ "\n") := toText_eq_some_iff.mpr rfl
  rw [Codec.Reads] at hjson
  rw [recvFrom, hline.readLine_frame]
  simp [incoming, hnonempty, htext, recv, value, hline.trimEnd_text, hjson,
    GuestToHost.decode_encode huuid]

/-- What either end sends, message by message, the other receives in order: a guest's messages as
they are, a host's as the wire keeps them, which is as they are when their deadlines are whole
milliseconds that fit. Nothing after the messages is touched. -/
theorem framing_round_trips (codec : Codec) (rest : List UInt8) :
    (∀ msgs : List GuestToHost, (∀ msg ∈ msgs, codec.ReadsUuid msg) →
      (∀ msg ∈ msgs, codec.Reads (msg.encode codec.showUuid)) →
        ∀ c : JsonLineChannel codec, c.writer = [] →
          receive (recvFrom codec) msgs.length ((c.sendAll msgs).writer ++ rest) =
            (msgs.map .ok, rest)) ∧
    (∀ msgs : List HostToGuest, (∀ msg ∈ msgs, msg.Ordered) →
      (∀ msg ∈ msgs, codec.Reads msg.encode) →
        ∀ writer, receive JsonLineChannel.recv msgs.length
            (⟨sendAll [] msgs ++ rest, writer⟩ : JsonLineChannel codec) =
          (msgs.map fun msg => .ok msg.onWire, ⟨rest, writer⟩)) ∧
    ∀ msg : HostToGuest, msg.WholeMillis → msg.onWire = msg := by
  refine ⟨?_, ?_, fun msg hwhole => HostToGuest.onWire_eq_self hwhole⟩
  · intro msgs huuid hjson c hempty
    rw [JsonLineChannel.writer_sendAll, hempty, List.nil_append]
    exact receive_frames id id fun msg hmsg rest => recvFrom_frame (huuid msg hmsg) (hjson msg hmsg)
  · intro msgs hordered hjson writer
    rw [sendAll_eq, List.nil_append]
    exact receive_frames (fun reader => (⟨reader, writer⟩ : JsonLineChannel codec))
      HostToGuest.onWire fun msg hmsg rest =>
        JsonLineChannel.recv_frame (hordered msg hmsg) (hjson msg hmsg)

/-- A codec that knows the nil UUID. -/
def nilCodec : Codec where
  json := Serde.Json.ofText
  uuid text := if text = "00000000-0000-0000-0000-000000000000" then some 0 else none
  showUuid _ := "00000000-0000-0000-0000-000000000000"
  rejected _ := "expected value"

/-- A greeting and a secret with line breaks and quotes in them, and a deadline that loses its
microseconds. -/
theorem framing_round_trips_hostile :
    receive (recvFrom nilCodec) 1
        (((⟨[], []⟩ : JsonLineChannel nilCodec).sendAll [.hello ⟨0⟩ ⟨"0.1\n\"β\""⟩]).writer ++ []) =
      ([.ok (.hello ⟨0⟩ ⟨"0.1\n\"β\""⟩)], []) ∧
    receive JsonLineChannel.recv 2
        (⟨sendAll [] [.secrets [("KEY", "sk\r\n\\")], .drainRequest ⟨250999999⟩] ++ [], []⟩ :
          JsonLineChannel nilCodec) =
      ([.ok (.secrets [("KEY", "sk\r\n\\")]), .ok (.drainRequest ⟨250000000⟩)], ⟨[], []⟩) := by
  obtain ⟨hguest, hhost, -⟩ := framing_round_trips nilCodec []
  constructor
  · refine hguest [_] ?_ ?_ ⟨[], []⟩ rfl
    · intro msg hmsg vmId version heq
      obtain rfl := List.mem_singleton.mp hmsg
      obtain ⟨rfl, rfl⟩ := GuestToHost.hello.inj heq
      rfl
    · exact fun msg _ => (msg.readable_encode _).ofText_text
  · refine hhost [_, _] ?_ (fun msg _ => msg.readable_encode.ofText_text) []
    intro msg hmsg
    simp only [List.mem_cons, List.not_mem_nil, or_false] at hmsg
    rcases hmsg with rfl | rfl
    · exact List.pairwise_singleton _ _
    · trivial

end Sleepwalk.Hostd.GuestLink
