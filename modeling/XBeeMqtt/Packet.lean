import XBeeMqtt.Lib.Framing
import XBeeMqtt.Types

/-!
# Packets of the protocol

A packet is a header byte, the length of what remains in one to four bytes, and
that many bytes.  `readPacket` is what is documented of `MQTTPacket_read`, which
is not part of the repository.

* `readPacket_packetBytes`: a packet that is given as a whole is recognised.
* `length_packetContents_le`: what is recognised fits the buffer that was given.
-/

namespace XBeeMqtt

/-- The type in the upper half of the header byte. -/
def MsgType.ofHeader (header : UInt8) : MsgType :=
  match (header >>> 4).toNat with
  | 1 => .connect
  | 2 => .connack
  | 3 => .publish
  | 4 => .puback
  | 5 => .pubrec
  | 6 => .pubrel
  | 7 => .pubcomp
  | 8 => .subscribe
  | 9 => .suback
  | 10 => .unsubscribe
  | 11 => .unsuback
  | 12 => .pingreq
  | 13 => .pingresp
  | 14 => .disconnect
  | value => .other value

/-- A header and the length of what follows it. -/
def fixedHeader (header : UInt8) (remLen : Nat) : List UInt8 :=
  header :: VarLength.encode 4 remLen

/-- A header byte, one to four bytes of remaining length, and that many bytes. -/
def packetBytes (header : UInt8) (body : List UInt8) : List UInt8 :=
  fixedHeader header body.length ++ body

/-- `MQTTPacket_read` fetches the header, the remaining length, and that many
bytes if they fit.  It writes the length back in its shortest form. -/
def readPacket (message payload : List UInt8) (buflen : Nat) : MsgType × List UInt8 :=
  match payload with
  | [] => (.other (-1), message)
  | header :: rest =>
    let (remLen, used) := VarLength.decode 4 rest
    let fixed := fixedHeader header remLen
    if remLen + fixed.length > buflen then
      (.other (-1), fixed ++ message.drop fixed.length)
    else
      let packet := fixed ++ (rest.drop used).take remLen
      (.ofHeader header, packet ++ message.drop packet.length)

/-- The size that the fixed header in front of a message announces. -/
def packetLength (message : List UInt8) : Nat :=
  let remLen := (VarLength.decode 4 message.tail).1
  (fixedHeader 0 remLen).length + remLen

/-- The packet in front of a message buffer. -/
def packetContents (message : List UInt8) : List UInt8 := message.take (packetLength message)

theorem MsgType.ofHeader_ne (header : UInt8) : MsgType.ofHeader header ≠ .other (-1) := by
  intro h
  unfold MsgType.ofHeader at h
  split at h
  case h_15 => exact absurd (MsgType.other.inj h) (by omega)
  all_goals exact absurd h (by decide)

theorem packetLength_fixedHeader {remLen : Nat} (h : remLen < 128 ^ 4) (header : UInt8)
    (rest : List UInt8) :
    packetLength (fixedHeader header remLen ++ rest) =
      (fixedHeader header remLen).length + remLen := by
  unfold packetLength fixedHeader
  rw [List.cons_append, List.tail_cons, VarLength.decode_encode h]
  rfl

/-- What is recognised is no longer than the buffer that was given. -/
theorem length_packetContents_le {message payload : List UInt8} {buflen : Nat}
    (h : (readPacket message payload buflen).1 ≠ .other (-1)) :
    (packetContents (readPacket message payload buflen).2).length ≤ buflen := by
  cases payload with
  | nil => exact absurd rfl h
  | cons header rest =>
    unfold readPacket at h ⊢
    dsimp only at h ⊢
    split at h
    · exact absurd rfl h
    · rename_i hfits
      rw [if_neg hfits]
      dsimp only
      unfold packetContents
      rw [List.append_assoc, packetLength_fixedHeader (VarLength.decode_lt 4 rest),
        List.length_take]
      omega

/-- A packet that is given as a whole is recognised. -/
theorem readPacket_packetBytes {body : List UInt8} (hbody : body.length < 128 ^ 4)
    (header : UInt8) (message rest : List UInt8) :
    (readPacket message (packetBytes header body ++ rest) (packetBytes header body).length).1 =
        .ofHeader header ∧
      packetContents (readPacket message (packetBytes header body ++ rest)
        (packetBytes header body).length).2 = packetBytes header body := by
  have hlen : (packetBytes header body).length =
      (fixedHeader header body.length).length + body.length := List.length_append
  have hdecode : VarLength.decode 4 (VarLength.encode 4 body.length ++ (body ++ rest)) =
      (body.length, (VarLength.encode 4 body.length).length) :=
    VarLength.decode_encode hbody _
  have hread : readPacket message (packetBytes header body ++ rest)
      (packetBytes header body).length =
      (.ofHeader header, packetBytes header body ++
        message.drop (packetBytes header body).length) := by
    have hsplit : packetBytes header body ++ rest =
        header :: (VarLength.encode 4 body.length ++ (body ++ rest)) := by
      unfold packetBytes fixedHeader
      rw [List.append_assoc, List.cons_append]
    rw [hsplit]
    unfold readPacket
    dsimp only
    rw [hdecode]
    dsimp only
    rw [if_neg (by omega)]
    rw [List.drop_left, List.take_left]
    rfl
  rw [hread]
  refine ⟨rfl, ?_⟩
  unfold packetContents
  rw [packetBytes, List.append_assoc, packetLength_fixedHeader hbody, ← List.append_assoc]
  exact List.take_left' hlen

/-- A packet that fits has the type of its header. -/
theorem readPacket_type (message : List UInt8) (header : UInt8) (rest : List UInt8)
    (buflen : Nat) : (readPacket message (header :: rest) buflen).1 = .other (-1) ∨
      (readPacket message (header :: rest) buflen).1 = .ofHeader header := by
  unfold readPacket
  dsimp only
  split
  · exact Or.inl rfl
  · exact Or.inr rfl

end XBeeMqtt
