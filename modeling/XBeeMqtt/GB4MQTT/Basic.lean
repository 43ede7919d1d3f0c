import Mathlib.Algebra.Group.Int.Defs
import XBeeMqtt.GB4XBee.Step
import XBeeMqtt.Lib.Transition
import XBeeMqtt.Paho

/-!
# `GB4MQTT`

The session state machine of `gb4mqtt.cpp`, on top of the radio.  As there,
every function answers what the source returns and the record after the call.

`system` is the machine that the results are about: an object that was
constructed and begun, and any calls of the public functions on it.
-/

namespace XBeeMqtt

structure GB4MQTT where
  radio : GB4XBee
  state : GB4MQTT.State
  connectStartTime : Int32
  keepalivePeriodStartTime : Int32
  pingPeriodStartTime : Int32
  clientId : List UInt8
  clientName : List UInt8
  clientPassword : List UInt8
  port : UInt16
  address : Option (List UInt8)
  allowConnect : Bool
  packetId : UInt16
  mPublishRequest : MQTTRequest
  deriving DecidableEq, Repr, Inhabited

namespace GB4MQTT

open GB4XBee (sendTimeout)

def connackTimeout : UInt32 := 10000
def maxPacketSize : Nat := 128
def networkTimeoutIntervalSeconds : UInt16 := 120
def networkTimeoutInterval : Int32 := 120000
def keepaliveInterval : Int32 := 60000
def connectPacketSize : Nat := 80
def publishTimeout : UInt32 := 10000
def publishMaxTries : UInt8 := 4

def connectionAccepted : UInt8 := 0

/-- `int` to `size_t`. -/
def sizeT (n : Int) : Nat := (n % 2 ^ 32).toNat

/-! ## Construction and setters -/

/-- What the caller passes to the constructor. -/
structure Args where
  radioApn : List UInt8
  useTls : Bool
  networkPort : UInt16
  networkAddress : Option (List UInt8)
  id : List UInt8
  name : List UInt8
  pwd : List UInt8

/-- `GB4MQTT()`.  `mem` is what the memory of the object held before. -/
def construct (mem : GB4MQTT) (args : Args) : GB4MQTT :=
  { mem with
    radio := .construct mem.radio args.radioApn args.useTls
    port := args.networkPort
    address := args.networkAddress
    clientId := args.id
    clientName := args.name
    clientPassword := args.pwd
    connectStartTime := 0
    allowConnect := false
    state := .init
    packetId := 1
    mPublishRequest := .fresh mem.mPublishRequest.topic mem.mPublishRequest.message }

/-- `status` is what `xbee_dev_init` answers. -/
def begin (m : GB4MQTT) (status : Int) : Bool × GB4MQTT :=
  let (ok, radio) := m.radio.begin status
  if ok = false then (false, { m with radio := radio, state := .radioInitFailed })
  else (true, { m with radio := radio, state := .notConnected })

def setClientID (m : GB4MQTT) (id : List UInt8) : GB4MQTT := { m with clientId := id }
def setPassword (m : GB4MQTT) (pwd : List UInt8) : GB4MQTT := { m with clientPassword := pwd }
def setClientName (m : GB4MQTT) (name : List UInt8) : GB4MQTT := { m with clientName := name }
def setAddress (m : GB4MQTT) (addr : Option (List UInt8)) : GB4MQTT := { m with address := addr }
def setPort (m : GB4MQTT) (p : UInt16) : GB4MQTT := { m with port := p }
def startConnect (m : GB4MQTT) : GB4MQTT := { m with allowConnect := true }

def isReady (m : GB4MQTT) : Bool := m.state = .standby

/-! ## Publishing -/

/-- `PacketId::get_next`, which returns the low byte of a 16 bit counter. -/
def getNextPacketId (m : GB4MQTT) : UInt8 × GB4MQTT :=
  (m.packetId.toUInt8, { m with packetId := m.packetId + 1 })

/-- `memcpy(dst, src, n)`. -/
def memcpy (dst src : List UInt8) (n : Nat) : List UInt8 := src.take n ++ dst.drop n

/-- What `message[900]` holds after the copy of the topic, which goes on there
behind `topic[64]` and the four bytes of `topic_len`. -/
def spillTopic (array copied : List UInt8) : List UInt8 :=
  let spilled := copied.drop (MQTTRequest.topicMaxSize + 4)
  memcpy (array.take MQTTRequest.messageMaxSize) spilled spilled.length

/-- `topic` is a C string, `message` is a buffer of at least `messageLen` bytes.
Neither length is compared with its array; what is copied beyond the end of the
array is kept behind it (`MQTTRequest.messageMemory`). -/
def publish (m : GB4MQTT) (topic : List UInt8) (topicLen : Nat) (message : List UInt8)
    (messageLen : Nat) (qos : UInt8) (disconnect : Bool) (now : UInt32) : Return × GB4MQTT :=
  let req := m.mPublishRequest
  let (pid, m) := m.getNextPacketId
  let copied := GB4XBee.strncpy (req.topic.take MQTTRequest.topicMaxSize) topic topicLen
  let req := { req with
    topic := copied
    topicLen := topicLen
    message := memcpy (spillTopic req.message copied) message messageLen
    messageLen := messageLen
    qos := qos
    retain := 0
    duplicate := 0
    startTime := now.toInt32
    tries := 0
    packetId := pid.toUInt16
    disconnect := disconnect
    gotPuback := false
    readyToSend := true
    active := true }
  (.publishQueued,
    { m with mPublishRequest := req, radio := m.radio.record (.published req) })

/-! ## Sending -/

def sendConnectRequest (m : GB4MQTT) (paho : Paho) (env : Env) : Return × GB4MQTT :=
  let (len, packet) := paho.serializeConnect connectPacketSize
    { clientID := m.clientId
      username := m.clientName
      password := m.clientPassword
      keepAliveInterval := networkTimeoutIntervalSeconds
      cleansession := 1 }
  if len = 0 then
    (.connectPacketError, { m with radio := m.radio.record (.connectRequest .connectPacketError) })
  else
    let (r, radio) := m.radio.sendMessage packet (sizeT len) env
    let status := match r with
      | .messageSent => .connectSent
      | .inProgress => .inProgress
      | .packetError => .connectPacketError
      | _ => .connectSocketError
    let m := { m with radio := radio.record (.connectRequest status) }
    if r = .messageSent then
      (status, { m with connectStartTime := (env.millis .sendConnectRequest).toInt32 })
    else (status, m)

def publishHeaderSize : Nat := 6

/-- `PACKET_MAX_SIZE` of `sendPublishRequest`. -/
def publishPacketMaxSize : Nat :=
  MQTTRequest.topicMaxSize + MQTTRequest.messageMaxSize + publishHeaderSize

def sendPublishRequest (m : GB4MQTT) (paho : Paho) (env : Env) : Return × GB4MQTT :=
  let req := m.mPublishRequest
  let (len, packet) := paho.serializePublish publishPacketMaxSize
    req.duplicate req.qos req.retain req.packetId req.topicMemory req.messageMemory req.messageLen
  if len ≤ 0 then
    (.publishPacketError,
      { m with radio := m.radio.record (.publishRequest req .publishPacketError) })
  else
    let (r, radio) := m.radio.sendMessage packet (sizeT len) env
    let status := match r with
      | .messageSent => .publishSent
      | .inProgress => .inProgress
      | _ => .publishSocketError
    (status, { m with radio := radio.record (.publishRequest req status) })

/-- The two bytes of a DISCONNECT. -/
def sendDisconnect (m : GB4MQTT) (env : Env) : GB4MQTT :=
  { m with radio := (m.radio.sendMessage [0xE0, 0x00] 2 env).2 }

/-- Write the stored request. -/
def setRequest (m : GB4MQTT) (req : MQTTRequest) : GB4MQTT := { m with mPublishRequest := req }

/-- `handlePublishRequests` with `ready_to_send` set. -/
def handleReadyRequest (m : GB4MQTT) (paho : Paho) (env : Env) : Bool × GB4MQTT :=
  let m := m.setRequest { m.mPublishRequest with readyToSend := false }
  let (sendOk, m) := m.sendPublishRequest paho env
  let req := m.mPublishRequest
  match sendOk with
  | .publishSent =>
    if req.qos = 0 then (true, m.setRequest { req with active := false })
    else if req.qos ≠ 0 ∧ req.duplicate = 0 then
      let req := if req.disconnect = false then { req with duplicate := 1 } else req
      (true, m.setRequest { req with startTime := (env.millis .publishSent).toInt32 })
    else (true, m)
  | .publishPacketError => (true, m.setRequest { req with active := false })
  | .inProgress => (true, m)
  | _ => (false, m)

/-- `handlePublishRequests` with `ready_to_send` clear. -/
def handleWaitingRequest (m : GB4MQTT) (env : Env) : Bool × GB4MQTT :=
  let req := m.mPublishRequest
  if req.gotPuback = true then
    let m := m.setRequest { req with active := false }
    if req.disconnect = true then (false, m.sendDisconnect env) else (true, m)
  else if elapsed (env.millis .publishTimeout) req.startTime < publishTimeout then (true, m)
  else if req.disconnect = true then
    (false, (m.sendDisconnect env).setRequest { req with active := false })
  else if req.tries > publishMaxTries then (false, m.setRequest { req with active := false })
  else
    (true, m.setRequest { req with
      startTime := (env.millis .publishRetry).toInt32
      tries := req.tries + 1
      readyToSend := true })

def handlePublishRequests (m : GB4MQTT) (paho : Paho) (env : Env) : Bool × GB4MQTT :=
  if m.mPublishRequest.active = false then (true, m)
  else if m.mPublishRequest.readyToSend = true then m.handleReadyRequest paho env
  else m.handleWaitingRequest env

/-! ## Receiving -/

/-- What `pollIncomming` writes through its pointers. -/
structure Incoming where
  type : MsgType
  message : List UInt8
  messageLen : Nat

/-- `none` is `WAITING_MESSAGE`. -/
def pollIncomming (m : GB4MQTT) (paho : Paho) (env : Env) (messageLen : Nat) :
    Option Incoming × GB4MQTT :=
  let (status, bytes, radio) := m.radio.getReceivedMessage maxPacketSize
  if status = .waitingMessage then (none, { m with radio := radio })
  else
    let payload := bytes ++ env.payload.drop bytes.length
    let payloadLen := if bytes.length > messageLen then messageLen else bytes.length
    let (type, message) := paho.packetRead env.message payload payloadLen
    (some { type := type, message := message, messageLen := payloadLen },
      { m with radio := radio.record (.incoming bytes type message) })

/-- `code` is an enumeration of one byte, and the library fills it. -/
def checkConnack (paho : Paho) (message : List UInt8) (messageLen : Nat) : Return :=
  match paho.deserializeConnack message messageLen with
  | none => .connackError
  | some code => if code ≠ connectionAccepted then .connackRejected else .gotConnack

def checkPuback (m : GB4MQTT) (paho : Paho) (message : List UInt8) (messageLen : Nat) :
    Bool × GB4MQTT :=
  match paho.deserializeAck message messageLen with
  | none => (false, m)
  | some id =>
    if m.mPublishRequest.packetId ≠ id then (false, m)
    else (true, m.setRequest { m.mPublishRequest with gotPuback := true })

def resetKeepAliveTimer (m : GB4MQTT) (env : Env) : GB4MQTT :=
  { m with
    keepalivePeriodStartTime := (env.millis .keepalivePeriodStart).toInt32
    pingPeriodStartTime := (env.millis .pingPeriodStart).toInt32 }

/-- The switch of `dispatchIncomming`.  `PUBLISH` leaves `status` unassigned,
and `PUBACK` overwrites the status of a failed check. -/
def dispatch (m : GB4MQTT) (paho : Paho) (env : Env) (inc : Incoming) : Return × GB4MQTT :=
  match inc.type with
  | .connack => (checkConnack paho inc.message inc.messageLen, m.resetKeepAliveTimer env)
  | .pingresp => (.dispatchedPing, m.resetKeepAliveTimer env)
  | .publish => (env.status, m)
  | .puback =>
    let (_, m) := m.checkPuback paho inc.message inc.messageLen
    (.dispatchedPuback, m.resetKeepAliveTimer env)
  | .pubrec | .pubcomp | .suback | .unsuback => (.dispatchTypeError, m.resetKeepAliveTimer env)
  | _ => (.dispatchTypeError, m)

def dispatchIncomming (m : GB4MQTT) (paho : Paho) (env : Env) : Return × GB4MQTT :=
  match m.pollIncomming paho env maxPacketSize with
  | (none, m) => (.listening, m)
  | (some inc, m) => m.dispatch paho env inc

def pollConnackStatus (m : GB4MQTT) (paho : Paho) (env : Env) : Return × GB4MQTT :=
  let (status, m) := m.dispatchIncomming paho env
  if status = .gotConnack then (.gotConnack, m)
  else if elapsed (env.millis .pollConnackStatus) m.connectStartTime > connackTimeout then
    (.connackTimeout, m)
  else (status, m)

/-! ## Keepalive -/

def pingreqSize : Nat := 2

def sendPingRequest (m : GB4MQTT) (paho : Paho) (env : Env) : Return × GB4MQTT :=
  let (len, packet) := paho.serializePingreq pingreqSize
  if len ≠ pingreqSize then
    (.pingPacketError, { m with radio := m.radio.record (.pingRequest .pingPacketError) })
  else
    let (r, radio) := m.radio.sendMessage packet pingreqSize env
    let status := match r with
      | .messageSent => .pingSent
      | .inProgress => .inProgress
      | .packetError => .pingPacketError
      | _ => .pingSocketError
    let m := { m with radio := radio.record (.pingRequest status) }
    if r = .messageSent then
      (status, { m with pingPeriodStartTime := (env.millis .sendPingRequest).toInt32 })
    else (status, m)

/-- Both intervals are compared as signed numbers. -/
def pollKeepAliveTimer (m : GB4MQTT) (env : Env) : Return :=
  let networkInterval :=
    (elapsed (env.millis .networkInterval) m.keepalivePeriodStartTime).toInt32
  if networkInterval > networkTimeoutInterval then .keepaliveTimerReconnect
  else
    let pingInterval := (elapsed (env.millis .pingInterval) m.pingPeriodStartTime).toInt32
    if pingInterval > keepaliveInterval then .keepaliveTimerPing else .keepaliveTimerRunning

/-! ## The main machine -/

/-- `radio.resetSocket()`, and back to `NOT_CONNECTED`. -/
def drop (m : GB4MQTT) (env : Env) : GB4MQTT :=
  { m with radio := m.radio.resetSocket (env.millis .mqttResetSocket), state := .notConnected }

def standbyStep (m : GB4MQTT) (paho : Paho) (env : Env) : GB4MQTT :=
  let m := (m.dispatchIncomming paho env).2
  let (ok, m) := m.handlePublishRequests paho env
  if ok = false then m.drop env else m

/-- The switch of `poll`. -/
def mainStep (m : GB4MQTT) (paho : Paho) (env : Env) : GB4MQTT :=
  match m.state with
  | .notConnected =>
    if m.address = none ∨ m.mPublishRequest.active = false then m
    else
      let (ok, radio) := m.radio.connect env
      if ok = false then
        { m with radio := radio.resetSocket (env.millis .mqttResetSocket) }
      else { m with radio := radio, state := .connectingSocket }
  | .connectingSocket =>
    if m.radio.mState = .awaitConnection ∨ m.radio.mState = .awaitConnectResponse then m
    else if m.radio.mState ≠ .connected then m.drop env
    else { m with state := .connectMqtt }
  | .connectMqtt =>
    let (status, m) := m.sendConnectRequest paho env
    match status with
    | .connectSent => { m with state := .awaitConnack }
    | .connectSocketError => m.drop env
    | _ => m
  | .awaitConnack =>
    let (status, m) := m.pollConnackStatus paho env
    match status with
    | .listening => m
    | .gotConnack => { m with state := .beginStandby }
    | _ => m.drop env
  | .beginStandby => ({ m with state := .standby }).standbyStep paho env
  | .standby => m.standbyStep paho env
  | _ => m

/-- What `poll` answers after its switch. -/
def pollReturn (m : GB4MQTT) : Return :=
  if m.state = .notConnected then .radioReady
  else if m.state ≠ .beginStandby ∧ m.state ≠ .standby then .inProgress
  else .connected

/-- The radio part of `poll`: its own tick and switch. -/
def pollRadio (m : GB4MQTT) (env : Env) : GB4MQTT := { m with radio := m.radio.poll env }

def poll (m : GB4MQTT) (paho : Paho) (env : Env) : Return × GB4MQTT :=
  let m := m.pollRadio env
  if m.radio.mState < .socketReady then (.inProgress, { m with state := .notConnected })
  else
    let m := m.mainStep paho env
    (m.pollReturn, m)

/-! ## Runs -/

/-- A call of a public function. -/
inductive Call where
  | publish (topic : List UInt8) (topicLen : Nat) (message : List UInt8) (messageLen : Nat)
      (qos : UInt8) (disconnect : Bool) (now : UInt32)
  | poll (env : Env)
  | setClientID (id : List UInt8)
  | setPassword (pwd : List UInt8)
  | setClientName (name : List UInt8)
  | setAddress (addr : Option (List UInt8))
  | setPort (p : UInt16)
  | startConnect

/-- The object after a call. -/
def call (paho : Paho) (m : GB4MQTT) : Call → GB4MQTT
  | .publish topic topicLen message messageLen qos disconnect now =>
    (m.publish topic topicLen message messageLen qos disconnect now).2
  | .poll env => (m.poll paho env).2
  | .setClientID id => m.setClientID id
  | .setPassword pwd => m.setPassword pwd
  | .setClientName name => m.setClientName name
  | .setAddress addr => m.setAddress addr
  | .setPort p => m.setPort p
  | .startConnect => m.startConnect

/-- An object after a successful `begin()`, on any memory. -/
def Begun (m : GB4MQTT) : Prop :=
  ∃ mem args status, (construct mem args).begin status = (true, m)

/-- Any calls after a successful `begin()`. -/
def system (paho : Paho) : Transition.System GB4MQTT Call :=
  .ofFunction Begun (fun _ _ => True) (call paho)

end GB4MQTT

end XBeeMqtt
