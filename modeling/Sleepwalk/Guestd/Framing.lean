import Sleepwalk.Guestd.Channel
import Sleepwalk.Proto.Wire

/-!
# The guest's end of the framing

`JsonLineChannel` of `guestd::framing`: every message is one line of JSON. The stream it writes to
does not break.
-/

namespace Sleepwalk.Guestd

open Bytes Lines Proto

variable {codec : Codec}

/-- A guest channel that frames messages as newline-delimited JSON. -/
structure JsonLineChannel (codec : Codec) where
  /-- What there is to read. -/
  reader : List UInt8
  /-- What has been written. -/
  writer : List UInt8

namespace JsonLineChannel

/-- Send one message. -/
def send (c : JsonLineChannel codec) (msg : GuestToHost) :
    Except ChannelError Unit × JsonLineChannel codec :=
  (.ok (), { c with writer := c.writer ++ frame (msg.encode codec.showUuid) })

/-- What a line is received as. -/
def decodeLine (codec : Codec) (line : List UInt8) : Except ChannelError HostToGuest :=
  if line.isEmpty then
    .error .closed
  else
    match toText line with
    | none => .error (.io "stream did not contain valid UTF-8")
    | some text =>
      match (codec.json (Text.trimEnd text)).bind HostToGuest.decode with
      | some msg => .ok msg
      | none => .error (.malformed (codec.rejected (Text.trimEnd text)))

/-- Receive one message. -/
def recv (c : JsonLineChannel codec) : Except ChannelError HostToGuest × JsonLineChannel codec :=
  let (line, reader) := readLine c.reader
  (decodeLine codec line, { c with reader })

instance : GuestChannel (JsonLineChannel codec) := ⟨send, recv⟩

/-- Send messages one by one. -/
def sendAll (c : JsonLineChannel codec) (msgs : List GuestToHost) : JsonLineChannel codec :=
  msgs.foldl (fun c msg => (send c msg).2) c

theorem writer_sendAll (c : JsonLineChannel codec) (msgs : List GuestToHost) :
    (c.sendAll msgs).writer =
      c.writer ++ msgs.flatMap fun msg => frame (msg.encode codec.showUuid) := by
  induction msgs generalizing c with
  | nil => simp [sendAll]
  | cons msg msgs ih =>
    have hrest := ih (send c msg).2
    simp only [sendAll, List.foldl_cons] at hrest ⊢
    rw [hrest]
    simp [send]

/-- A host's line is received as what the wire keeps of its message. -/
theorem recv_frame {writer rest : List UInt8} {msg : HostToGuest} (hordered : msg.Ordered)
    (hjson : codec.Reads msg.encode) :
    recv (⟨frame msg.encode ++ rest, writer⟩ : JsonLineChannel codec) =
      (.ok msg.onWire, ⟨rest, writer⟩) := by
  have hline := msg.oneLine_encode
  have hnonempty : (ofText (msg.encode.text ++ "\n")).isEmpty = false := by
    simpa using ofText_line_ne_nil msg.encode.text
  have htext : toText (ofText (msg.encode.text ++ "\n")) = some (msg.encode.text ++ "\n") :=
    toText_eq_some_iff.mpr rfl
  rw [Codec.Reads] at hjson
  rw [recv, hline.readLine_frame]
  simp [decodeLine, hnonempty, htext, hline.trimEnd_text, hjson, HostToGuest.decode_encode hordered]

end JsonLineChannel

end Sleepwalk.Guestd
