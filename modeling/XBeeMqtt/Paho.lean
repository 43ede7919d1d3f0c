import XBeeMqtt.Packet

/-!
# The packet library

The functions of `MQTTPacket.h` that `GB4MQTT` calls.  The library is not part
of the repository, so they are parameters; what a result needs of them is a
hypothesis of that result.

`Paho.mqtt` is an instance with the packets of the protocol, which concrete runs
use.
-/

namespace XBeeMqtt

/-- The fields of `MQTTPacket_connectData` that `sendConnectRequest` sets. -/
structure ConnectData where
  clientID : List UInt8
  username : List UInt8
  password : List UInt8
  keepAliveInterval : UInt16
  cleansession : UInt8

structure Paho where
  /-- `MQTTPacket_read`, from what the message buffer holds, the payload that
  the fetch callback reads from, and the buffer length.  It answers the type
  and the message buffer. -/
  packetRead (message payload : List UInt8) (buflen : Nat) : MsgType × List UInt8
  /-- `MQTTDeserialize_connack`: the return code. -/
  deserializeConnack (message : List UInt8) (len : Nat) : Option UInt8
  /-- `MQTTDeserialize_ack`: the packet identifier. -/
  deserializeAck (message : List UInt8) (len : Nat) : Option UInt16
  /-- `MQTTSerialize_connect`: the length and the buffer. -/
  serializeConnect (buflen : Nat) (data : ConnectData) : Int × List UInt8
  /-- `MQTTSerialize_publish`: the length and the buffer. -/
  serializePublish (buflen : Nat) (dup qos retain : UInt8) (packetId : UInt16)
    (topic payload : List UInt8) (payloadLen : Nat) : Int × List UInt8
  /-- `MQTTSerialize_pingreq`: the length and the buffer. -/
  serializePingreq (buflen : Nat) : Int × List UInt8

/-! ## A library for concrete runs -/

namespace Paho

/-- What follows the fixed header of a message. -/
def messageBody (message : List UInt8) : List UInt8 :=
  let (remLen, used) := VarLength.decode 4 message.tail
  (message.tail.drop used).take remLen

/-- A C string, with its length in front. -/
def stringField (s : List UInt8) : List UInt8 :=
  let s := s.takeWhile (· ≠ 0)
  UInt8.ofNat (s.length / 256) :: UInt8.ofNat s.length :: s

/-- The length and the bytes of a packet that fits; else
`MQTTPACKET_BUFFER_TOO_SHORT`. -/
def serialized (buflen : Nat) (packet : List UInt8) : Int × List UInt8 :=
  if packet.length > buflen then (-2, []) else (packet.length, packet)

/-- A library with the packets of the protocol. -/
def mqtt : Paho where
  packetRead := readPacket
  deserializeConnack message _ :=
    if MsgType.ofHeader (message.headD 0) = .connack then (messageBody message)[1]? else none
  deserializeAck message _ :=
    match messageBody message with
    | hi :: lo :: _ => some (hi.toUInt16 * 256 + lo.toUInt16)
    | _ => none
  serializeConnect buflen data := serialized buflen <| packetBytes 0x10 <|
    [0x00, 0x04, 0x4D, 0x51, 0x54, 0x54, 0x04, 0xC0 + 2 * data.cleansession,
      (data.keepAliveInterval >>> 8).toUInt8, data.keepAliveInterval.toUInt8] ++
    stringField data.clientID ++ stringField data.username ++ stringField data.password
  serializePublish buflen dup qos retain packetId topic payload payloadLen :=
    serialized buflen <| packetBytes (0x30 + 8 * dup + 2 * qos + retain) <|
      stringField topic ++
      (if qos = 0 then [] else [(packetId >>> 8).toUInt8, packetId.toUInt8]) ++
      payload.take payloadLen
  serializePingreq buflen := serialized buflen (packetBytes 0xC0 [])

end Paho

end XBeeMqtt
