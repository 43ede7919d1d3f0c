import XBeeMqtt.GB4MQTT.Basic

/-!
# What a session poll can do

The inversion lemmas of `GB4MQTT`.  Later proofs go through them and do not
unfold the member functions.

* `dispatchIncomming_cases`: nothing is pending, or the payload is taken and
  `dispatch` runs on it; the `dispatch_*` lemmas say what that changes.
* `sendConnectRequest_cases`, `sendPublishRequest_cases`: the packet does not
  fit, it is handed to the radio, or the radio refuses it.
* `Handled` lists what `handlePublishRequests` can do, one constructor for each
  way through the source.
-/

namespace XBeeMqtt

/-- The events that the switch of a session poll leaves. -/
def Event.ofSwitch : Event → Bool
  | .resetSocket | .socketConnect _ _ | .sendMessage _ _ _ _ | .incoming _ _ _
  | .connectRequest _ | .publishRequest _ _ => true
  | _ => false

def Event.isIncoming : Event → Bool
  | .incoming _ _ _ => true
  | _ => false

namespace GB4MQTT

variable {m : GB4MQTT} {paho : Paho} {env : Env}

/-! ## Receiving -/

/-- The bytes that `getReceivedMessage` copies out of the mailbox. -/
def bytesRead (m : GB4MQTT) : List UInt8 := (m.radio.gReceive.read maxPacketSize).1

/-- What `pollIncomming` makes of the bytes of a payload. -/
def readBytes (paho : Paho) (env : Env) (bytes : List UInt8) : Incoming :=
  let (type, message) :=
    paho.packetRead env.message (bytes ++ env.payload.drop bytes.length) bytes.length
  { type := type, message := message, messageLen := bytes.length }

/-- What `pollIncomming` makes of a pending payload. -/
def readIncoming (m : GB4MQTT) (paho : Paho) (env : Env) : Incoming :=
  readBytes paho env m.bytesRead

/-- The object after `pollIncomming` took a pending payload. -/
def taken (m : GB4MQTT) (paho : Paho) (env : Env) : GB4MQTT :=
  let inc := m.readIncoming paho env
  { m with radio := { m.radio with
      gReceive := { m.radio.gReceive with mPending := false }
      log := .incoming m.bytesRead inc.type inc.message :: m.radio.log } }

/-- The incoming packet is a PUBACK for the stored request. -/
def Acknowledges (m : GB4MQTT) (paho : Paho) (inc : Incoming) : Prop :=
  inc.type = .puback ∧
    paho.deserializeAck inc.message inc.messageLen = some m.mPublishRequest.packetId

instance (m : GB4MQTT) (paho : Paho) (inc : Incoming) : Decidable (m.Acknowledges paho inc) :=
  inferInstanceAs (Decidable (_ ∧ _))

/-- `dispatchIncomming` takes a PUBACK for the stored request. -/
def TakesPuback (m : GB4MQTT) (paho : Paho) (env : Env) : Prop :=
  m.radio.gReceive.mPending = true ∧ m.Acknowledges paho (m.readIncoming paho env)

instance (m : GB4MQTT) (paho : Paho) (env : Env) : Decidable (m.TakesPuback paho env) :=
  inferInstanceAs (Decidable (_ ∧ _))

/-- The status that `dispatchIncomming` answers for a packet. -/
def dispatchStatus (paho : Paho) (env : Env) (inc : Incoming) : Return :=
  match inc.type with
  | .connack => checkConnack paho inc.message inc.messageLen
  | .pingresp => .dispatchedPing
  | .publish => env.status
  | .puback => .dispatchedPuback
  | _ => .dispatchTypeError

theorem length_bytesRead_le (m : GB4MQTT) : m.bytesRead.length ≤ maxPacketSize := by
  unfold bytesRead XBeeReceive.read
  dsimp only
  rw [List.length_take]
  split <;> omega

theorem pollIncomming_cases (m : GB4MQTT) (paho : Paho) (env : Env) :
    m.radio.gReceive.mPending = false ∧ m.pollIncomming paho env maxPacketSize = (none, m) ∨
    m.radio.gReceive.mPending = true ∧ m.pollIncomming paho env maxPacketSize =
      (some (m.readIncoming paho env), m.taken paho env) := by
  unfold pollIncomming
  rcases m.radio.getReceivedMessage_cases maxPacketSize with ⟨hp, heq⟩ | ⟨hp, heq⟩
  · exact Or.inl ⟨hp, by rw [heq]; rfl⟩
  · refine Or.inr ⟨hp, ?_⟩
    have hlen : ¬(m.radio.gReceive.read maxPacketSize).1.length > maxPacketSize :=
      Nat.not_lt.2 m.length_bytesRead_le
    rw [heq]
    dsimp only
    rw [if_neg (by decide), if_neg hlen]
    rfl

theorem checkPuback_snd (m : GB4MQTT) (paho : Paho) (message : List UInt8)
    (messageLen : Nat) : (m.checkPuback paho message messageLen).2 =
      m.setRequest { m.mPublishRequest with
        gotPuback := m.mPublishRequest.gotPuback ||
          decide (paho.deserializeAck message messageLen = some m.mPublishRequest.packetId) } := by
  unfold checkPuback
  cases hid : paho.deserializeAck message messageLen with
  | none => simp [setRequest]
  | some id =>
    by_cases heq : m.mPublishRequest.packetId = id
    · simp [setRequest, heq]
    · simp [setRequest, heq, Ne.symm heq]

theorem dispatch_eq (m : GB4MQTT) (paho : Paho) (env : Env) (inc : Incoming) :
    ∃ keepalive ping, m.dispatch paho env inc = (dispatchStatus paho env inc, { m with
      keepalivePeriodStartTime := keepalive
      pingPeriodStartTime := ping
      mPublishRequest := { m.mPublishRequest with
        gotPuback := m.mPublishRequest.gotPuback || decide (m.Acknowledges paho inc) } }) := by
  obtain ⟨type, message, messageLen⟩ := inc
  by_cases hpub : type = .puback
  · subst hpub
    have hack : m.Acknowledges paho ⟨.puback, message, messageLen⟩ ↔
        paho.deserializeAck message messageLen = some m.mPublishRequest.packetId := by
      simp [Acknowledges]
    refine ⟨(env.millis .keepalivePeriodStart).toInt32, (env.millis .pingPeriodStart).toInt32, ?_⟩
    simp only [dispatch, checkPuback_snd, hack]
    rfl
  · have hack : ¬m.Acknowledges paho ⟨type, message, messageLen⟩ := fun h => hpub h.1
    simp only [hack, decide_false, Bool.or_false]
    cases type
    case puback => exact absurd rfl hpub
    all_goals exact ⟨_, _, rfl⟩

/-- Nothing is pending, or the payload is taken and dispatched. -/
theorem dispatchIncomming_cases (m : GB4MQTT) (paho : Paho) (env : Env) :
    m.radio.gReceive.mPending = false ∧ m.dispatchIncomming paho env = (.listening, m) ∨
    m.radio.gReceive.mPending = true ∧ ∃ keepalive ping, m.dispatchIncomming paho env =
      (dispatchStatus paho env (m.readIncoming paho env), { m.taken paho env with
        keepalivePeriodStartTime := keepalive
        pingPeriodStartTime := ping
        mPublishRequest := { m.mPublishRequest with
          gotPuback := m.mPublishRequest.gotPuback ||
            decide (m.Acknowledges paho (m.readIncoming paho env)) } }) := by
  unfold dispatchIncomming
  rcases m.pollIncomming_cases paho env with ⟨hp, heq⟩ | ⟨hp, heq⟩
  · exact Or.inl ⟨hp, by rw [heq]⟩
  · refine Or.inr ⟨hp, ?_⟩
    rw [heq]
    exact dispatch_eq (m.taken paho env) paho env (m.readIncoming paho env)

@[simp] theorem dispatchIncomming_state (m : GB4MQTT) (paho : Paho) (env : Env) :
    (m.dispatchIncomming paho env).2.state = m.state := by
  rcases m.dispatchIncomming_cases paho env with ⟨_, heq⟩ | ⟨_, _, _, heq⟩
  · rw [heq]
  · rw [heq]
    rfl

@[simp] theorem dispatchIncomming_mState (m : GB4MQTT) (paho : Paho) (env : Env) :
    (m.dispatchIncomming paho env).2.radio.mState = m.radio.mState := by
  rcases m.dispatchIncomming_cases paho env with ⟨_, heq⟩ | ⟨_, _, _, heq⟩
  · rw [heq]
  · rw [heq]
    rfl

@[simp] theorem dispatchIncomming_connectInProgress (m : GB4MQTT) (paho : Paho) (env : Env) :
    (m.dispatchIncomming paho env).2.radio.connectInProgress = m.radio.connectInProgress := by
  rcases m.dispatchIncomming_cases paho env with ⟨_, heq⟩ | ⟨_, _, _, heq⟩
  · rw [heq]
  · rw [heq]
    rfl

/-- The stored request can only become acknowledged. -/
theorem dispatchIncomming_request (m : GB4MQTT) (paho : Paho) (env : Env) :
    (m.dispatchIncomming paho env).2.mPublishRequest = { m.mPublishRequest with
      gotPuback := m.mPublishRequest.gotPuback || decide (m.TakesPuback paho env) } := by
  rcases m.dispatchIncomming_cases paho env with ⟨hp, heq⟩ | ⟨hp, _, _, heq⟩
  · have htake : ¬m.TakesPuback paho env := fun h => absurd (hp.symm.trans h.1) (by decide)
    rw [heq, decide_eq_false htake, Bool.or_false]
  · have htake : m.TakesPuback paho env ↔ m.Acknowledges paho (m.readIncoming paho env) :=
      ⟨fun h => h.2, fun h => ⟨hp, h⟩⟩
    rw [heq, decide_eq_decide.2 htake]

/-- `dispatchIncomming` leaves one event at most. -/
theorem dispatchIncomming_log (m : GB4MQTT) (paho : Paho) (env : Env) :
    m.radio.gReceive.mPending = false ∧
      (m.dispatchIncomming paho env).2.radio.log = m.radio.log ∨
    m.radio.gReceive.mPending = true ∧ ∃ bytes type message,
      (m.dispatchIncomming paho env).2.radio.log =
        .incoming bytes type message :: m.radio.log := by
  rcases m.dispatchIncomming_cases paho env with ⟨hp, heq⟩ | ⟨hp, _, _, heq⟩ <;> rw [heq]
  · exact Or.inl ⟨hp, rfl⟩
  · exact Or.inr ⟨hp, _, _, _, rfl⟩

/-- `pollConnackStatus` runs `dispatchIncomming`, and it answers `GOT_CONNACK`
exactly when that did. -/
theorem pollConnackStatus_cases (m : GB4MQTT) (paho : Paho) (env : Env) :
    (m.pollConnackStatus paho env).2 = (m.dispatchIncomming paho env).2 ∧
      ((m.pollConnackStatus paho env).1 = .gotConnack ↔
        (m.dispatchIncomming paho env).1 = .gotConnack) ∧
      ((m.pollConnackStatus paho env).1 = .listening →
        (m.dispatchIncomming paho env).1 = .listening) := by
  unfold pollConnackStatus
  dsimp only
  split
  · rename_i hgot
    exact ⟨rfl, by simp [hgot], by simp⟩
  · rename_i hgot
    split
    · exact ⟨rfl, by simp [hgot], by simp⟩
    · exact ⟨rfl, by simp [hgot], fun h => h⟩

/-! ## Publishing -/

/-- `strncpy` writes `n` bytes, also behind the end of `dst`. -/
theorem length_strncpy (dst src : List UInt8) (n : Nat) :
    (GB4XBee.strncpy dst src n).length = max n dst.length := by
  have hcopied : ((src.takeWhile (· ≠ 0)).take n).length ≤ n := List.length_take_le ..
  unfold GB4XBee.strncpy
  dsimp only
  rw [List.length_append, List.length_append, List.length_replicate, List.length_drop]
  omega

/-- A topic that fits its array leaves the message alone. -/
theorem spillTopic_strncpy {topicLen : Nat} (h : topicLen ≤ MQTTRequest.topicMaxSize)
    (array topic src : List UInt8) :
    spillTopic array (GB4XBee.strncpy (topic.take MQTTRequest.topicMaxSize) src topicLen) =
      array.take MQTTRequest.messageMaxSize := by
  have hlen := length_strncpy (topic.take MQTTRequest.topicMaxSize) src topicLen
  rw [List.length_take] at hlen
  unfold spillTopic
  dsimp only
  rw [List.drop_eq_nil_of_le (by omega)]
  rfl

/-- A request that fits its arrays does not go beyond the message. -/
theorem length_publish_message {topicLen messageLen : Nat}
    (htopic : topicLen ≤ MQTTRequest.topicMaxSize)
    (hmessage : messageLen ≤ MQTTRequest.messageMaxSize) (m : GB4MQTT)
    (topic message : List UInt8) (qos : UInt8) (disconnect : Bool) (now : UInt32) :
    (m.publish topic topicLen message messageLen qos disconnect now).2.mPublishRequest.message.length
      ≤ MQTTRequest.messageMaxSize := by
  unfold publish
  dsimp only
  rw [spillTopic_strncpy htopic]
  unfold memcpy
  rw [List.length_append, List.length_take, List.length_drop, List.length_take]
  omega

/-! ## Sending -/

/-- The packet that `sendPublishRequest` serialises. -/
def publishPacket (paho : Paho) (req : MQTTRequest) : Int × List UInt8 :=
  paho.serializePublish publishPacketMaxSize
    req.duplicate req.qos req.retain req.packetId req.topicMemory req.messageMemory req.messageLen

/-- The PUBLISH does not fit its buffer. -/
def publishMalformed (m : GB4MQTT) : GB4MQTT :=
  { m with radio := m.radio.record (.publishRequest m.mPublishRequest .publishPacketError) }

/-- The radio took the PUBLISH. -/
def publishSent (m : GB4MQTT) (paho : Paho) (env : Env) : GB4MQTT :=
  let (len, packet) := publishPacket paho m.mPublishRequest
  { m with radio := { m.radio with
      sendStartTime := (env.millis .sendMessage).toInt32
      mState := .sending
      log := .publishRequest m.mPublishRequest .publishSent ::
        .sendMessage .connected packet (sizeT len) .messageSent :: m.radio.log } }

/-- The radio refused the PUBLISH. -/
def publishRefused (m : GB4MQTT) (paho : Paho) (result : GB4XBee.Return) (status : Return) :
    GB4MQTT :=
  let (len, packet) := publishPacket paho m.mPublishRequest
  { m with radio := { m.radio with
      log := .publishRequest m.mPublishRequest status ::
        .sendMessage m.radio.mState packet (sizeT len) result :: m.radio.log } }

/-- The radio does not take a packet. -/
def Refuses (m : GB4MQTT) (env : Env) : Prop :=
  m.radio.mState ≠ .connected ∨ env.sockSend ≠ 0

instance (m : GB4MQTT) (env : Env) : Decidable (m.Refuses env) :=
  inferInstanceAs (Decidable (_ ∨ _))

/-- What `sendPublishRequest` makes of the answer of the radio. -/
def publishStatus : GB4XBee.Return → Return
  | .messageSent => .publishSent
  | .inProgress => .inProgress
  | _ => .publishSocketError

theorem sendPublishRequest_cases (m : GB4MQTT) (paho : Paho) (env : Env) :
    (publishPacket paho m.mPublishRequest).1 ≤ 0 ∧
      m.sendPublishRequest paho env = (.publishPacketError, m.publishMalformed) ∨
    0 < (publishPacket paho m.mPublishRequest).1 ∧ ¬m.Refuses env ∧
      m.sendPublishRequest paho env = (.publishSent, m.publishSent paho env) ∨
    0 < (publishPacket paho m.mPublishRequest).1 ∧ m.Refuses env ∧
      ∃ result status, result ≠ .messageSent ∧
        (status = .inProgress ∨ status = .publishSocketError) ∧
        m.sendPublishRequest paho env = (status, m.publishRefused paho result status) := by
  have hsend : m.sendPublishRequest paho env =
      if (publishPacket paho m.mPublishRequest).1 ≤ 0 then
        (.publishPacketError, m.publishMalformed)
      else
        let r := m.radio.sendMessage (publishPacket paho m.mPublishRequest).2
          (sizeT (publishPacket paho m.mPublishRequest).1) env
        (publishStatus r.1, { m with
          radio := r.2.record (.publishRequest m.mPublishRequest (publishStatus r.1)) }) := rfl
  rw [hsend]
  by_cases hlen : (publishPacket paho m.mPublishRequest).1 ≤ 0
  · exact Or.inl ⟨hlen, by rw [if_pos hlen]⟩
  · rw [if_neg hlen]
    have hpos : 0 < (publishPacket paho m.mPublishRequest).1 := by omega
    rcases m.radio.sendMessage_cases (publishPacket paho m.mPublishRequest).2
      (sizeT (publishPacket paho m.mPublishRequest).1) env with
      ⟨hconn, hok, heq⟩ | ⟨result, hne, hwhy, heq⟩
    · refine Or.inr (Or.inl ⟨hpos, ?_, ?_⟩)
      · intro hor
        rcases hor with h | h
        · exact h hconn
        · exact h hok
      · rw [heq]
        rfl
    · refine Or.inr (Or.inr ⟨hpos, hwhy, result, ?_⟩)
      rw [heq]
      cases result with
      | messageSent => exact absurd rfl hne
      | inProgress => exact ⟨_, hne, Or.inl rfl, rfl⟩
      | _ => exact ⟨_, hne, Or.inr rfl, rfl⟩

/-- The CONNECT that `sendConnectRequest` serialises. -/
def connectPacket (m : GB4MQTT) (paho : Paho) : Int × List UInt8 :=
  paho.serializeConnect connectPacketSize
    { clientID := m.clientId
      username := m.clientName
      password := m.clientPassword
      keepAliveInterval := networkTimeoutIntervalSeconds
      cleansession := 1 }

/-- The radio took the CONNECT. -/
def connectSent (m : GB4MQTT) (paho : Paho) (env : Env) : GB4MQTT :=
  let (len, packet) := m.connectPacket paho
  { m with
    connectStartTime := (env.millis .sendConnectRequest).toInt32
    radio := { m.radio with
      sendStartTime := (env.millis .sendMessage).toInt32
      mState := .sending
      log := .connectRequest .connectSent ::
        .sendMessage .connected packet (sizeT len) .messageSent :: m.radio.log } }

/-- The radio refused the CONNECT. -/
def connectRefused (m : GB4MQTT) (paho : Paho) (result : GB4XBee.Return) (status : Return) :
    GB4MQTT :=
  let (len, packet) := m.connectPacket paho
  { m with radio := { m.radio with
      log := .connectRequest status ::
        .sendMessage m.radio.mState packet (sizeT len) result :: m.radio.log } }

/-- What `sendConnectRequest` makes of the answer of the radio. -/
def connectStatus : GB4XBee.Return → Return
  | .messageSent => .connectSent
  | .inProgress => .inProgress
  | .packetError => .connectPacketError
  | _ => .connectSocketError

theorem sendConnectRequest_cases (m : GB4MQTT) (paho : Paho) (env : Env) :
    (m.connectPacket paho).1 = 0 ∧ m.sendConnectRequest paho env =
      (.connectPacketError,
        { m with radio := m.radio.record (.connectRequest .connectPacketError) }) ∨
    (m.connectPacket paho).1 ≠ 0 ∧ ¬m.Refuses env ∧
      m.sendConnectRequest paho env = (.connectSent, m.connectSent paho env) ∨
    (m.connectPacket paho).1 ≠ 0 ∧ m.Refuses env ∧
      ∃ result status, result ≠ .messageSent ∧ status ≠ .connectSent ∧
        m.sendConnectRequest paho env = (status, m.connectRefused paho result status) := by
  have hsend : m.sendConnectRequest paho env =
      if (m.connectPacket paho).1 = 0 then
        (.connectPacketError,
          { m with radio := m.radio.record (.connectRequest .connectPacketError) })
      else
        let r := m.radio.sendMessage (m.connectPacket paho).2 (sizeT (m.connectPacket paho).1) env
        let m := { m with radio := r.2.record (.connectRequest (connectStatus r.1)) }
        if r.1 = .messageSent then
          (connectStatus r.1,
            { m with connectStartTime := (env.millis .sendConnectRequest).toInt32 })
        else (connectStatus r.1, m) := rfl
  rw [hsend]
  by_cases hlen : (m.connectPacket paho).1 = 0
  · exact Or.inl ⟨hlen, by rw [if_pos hlen]⟩
  · rw [if_neg hlen]
    rcases m.radio.sendMessage_cases (m.connectPacket paho).2
      (sizeT (m.connectPacket paho).1) env with ⟨hconn, hok, heq⟩ | ⟨result, hne, hwhy, heq⟩
    · refine Or.inr (Or.inl ⟨hlen, ?_, ?_⟩)
      · intro hor
        rcases hor with h | h
        · exact h hconn
        · exact h hok
      · rw [heq]
        rfl
    · refine Or.inr (Or.inr ⟨hlen, hwhy, result, ?_⟩)
      rw [heq]
      cases result with
      | messageSent => exact absurd rfl hne
      | inProgress => exact ⟨.inProgress, hne, by decide, rfl⟩
      | packetError => exact ⟨.connectPacketError, hne, by decide, rfl⟩
      | _ => exact ⟨.connectSocketError, hne, by decide, rfl⟩

/-- The DISCONNECT only changes the radio, and leaves one event. -/
theorem sendDisconnect_eq (m : GB4MQTT) (env : Env) :
    ∃ s start result, m.sendDisconnect env = { m with radio := { m.radio with
      mState := s
      sendStartTime := start
      log := .sendMessage m.radio.mState [0xE0, 0x00] 2 result :: m.radio.log } } := by
  unfold sendDisconnect
  rcases m.radio.sendMessage_cases [0xE0, 0x00] 2 env with
    ⟨hconn, _, heq⟩ | ⟨result, _, _, heq⟩
  · exact ⟨.sending, (env.millis .sendMessage).toInt32, .messageSent, by rw [heq, hconn]⟩
  · exact ⟨m.radio.mState, m.radio.sendStartTime, result, by rw [heq]; rfl⟩

/-! ## `handlePublishRequests` -/

/-- `ready_to_send` is cleared before the send is attempted. -/
def claimed (m : GB4MQTT) : GB4MQTT :=
  m.setRequest { m.mPublishRequest with readyToSend := false }

/-- The stored request after its packet was sent. -/
def sentRequest (req : MQTTRequest) (env : Env) : MQTTRequest :=
  if req.qos = 0 then { req with active := false }
  else if req.duplicate = 0 then
    { req with
      duplicate := if req.disconnect = false then 1 else 0
      startTime := (env.millis .publishSent).toInt32 }
  else req

/-- Write the stored request back as inactive. -/
def finished (m : GB4MQTT) : GB4MQTT :=
  m.setRequest { m.mPublishRequest with active := false }

/-- The publish timeout is over. -/
def TimedOut (m : GB4MQTT) (env : Env) : Prop :=
  publishTimeout ≤ elapsed (env.millis .publishTimeout) m.mPublishRequest.startTime

/-- What `handlePublishRequests` can do, with its answer. -/
inductive Handled (m : GB4MQTT) (paho : Paho) (env : Env) : Bool → GB4MQTT → Prop where
  | idle : m.mPublishRequest.active = false → Handled m paho env true m
  | packetError : m.mPublishRequest.active = true → m.mPublishRequest.readyToSend = true →
      (publishPacket paho m.claimed.mPublishRequest).1 ≤ 0 →
      Handled m paho env true m.claimed.publishMalformed.finished
  | sent : m.mPublishRequest.active = true → m.mPublishRequest.readyToSend = true →
      0 < (publishPacket paho m.claimed.mPublishRequest).1 → ¬m.Refuses env →
      Handled m paho env true
        ((m.claimed.publishSent paho env).setRequest (sentRequest m.claimed.mPublishRequest env))
  | refused {result : GB4XBee.Return} {status : Return} : m.mPublishRequest.active = true →
      m.mPublishRequest.readyToSend = true →
      0 < (publishPacket paho m.claimed.mPublishRequest).1 → m.Refuses env →
      result ≠ .messageSent → status = .inProgress ∨ status = .publishSocketError →
      Handled m paho env (decide (status = .inProgress))
        (m.claimed.publishRefused paho result status)
  | acknowledged : m.mPublishRequest.active = true → m.mPublishRequest.readyToSend = false →
      m.mPublishRequest.gotPuback = true → m.mPublishRequest.disconnect = false →
      Handled m paho env true m.finished
  | acknowledgedDisconnect : m.mPublishRequest.active = true →
      m.mPublishRequest.readyToSend = false → m.mPublishRequest.gotPuback = true →
      m.mPublishRequest.disconnect = true →
      Handled m paho env false (m.finished.sendDisconnect env)
  | waiting : m.mPublishRequest.active = true → m.mPublishRequest.readyToSend = false →
      m.mPublishRequest.gotPuback = false → ¬m.TimedOut env → Handled m paho env true m
  | timeoutDisconnect : m.mPublishRequest.active = true →
      m.mPublishRequest.readyToSend = false → m.mPublishRequest.gotPuback = false →
      m.TimedOut env → m.mPublishRequest.disconnect = true →
      Handled m paho env false (m.sendDisconnect env).finished
  | givesUp : m.mPublishRequest.active = true → m.mPublishRequest.readyToSend = false →
      m.mPublishRequest.gotPuback = false → m.TimedOut env →
      m.mPublishRequest.disconnect = false → publishMaxTries < m.mPublishRequest.tries →
      Handled m paho env false m.finished
  | retry : m.mPublishRequest.active = true → m.mPublishRequest.readyToSend = false →
      m.mPublishRequest.gotPuback = false → m.TimedOut env →
      m.mPublishRequest.disconnect = false → m.mPublishRequest.tries ≤ publishMaxTries →
      Handled m paho env true (m.setRequest { m.mPublishRequest with
        startTime := (env.millis .publishRetry).toInt32
        tries := m.mPublishRequest.tries + 1
        readyToSend := true })

private theorem handleReadyRequest_handled (hactive : m.mPublishRequest.active = true)
    (hready : m.mPublishRequest.readyToSend = true) :
    Handled m paho env (m.handleReadyRequest paho env).1 (m.handleReadyRequest paho env).2 := by
  have hclaimed : m.setRequest { m.mPublishRequest with readyToSend := false } = m.claimed := rfl
  unfold handleReadyRequest
  rw [hclaimed]
  dsimp only
  rcases m.claimed.sendPublishRequest_cases paho env with
    ⟨hlen, heq⟩ | ⟨hlen, htake, heq⟩ | ⟨hlen, href, result, status, hne, hstatus, heq⟩
  · rw [heq]
    exact .packetError hactive hready hlen
  · have hsent := Handled.sent hactive hready hlen htake
    rw [heq]
    have hreq : (m.claimed.publishSent paho env).mPublishRequest = m.claimed.mPublishRequest := rfl
    dsimp only
    rw [hreq]
    unfold sentRequest at hsent
    by_cases hqos : m.claimed.mPublishRequest.qos = 0
    · rw [if_pos hqos] at hsent ⊢
      exact hsent
    · rw [if_neg hqos] at hsent ⊢
      by_cases hdup : m.claimed.mPublishRequest.duplicate = 0
      · rw [if_pos hdup] at hsent
        rw [if_pos ⟨hqos, hdup⟩]
        cases hdis : m.claimed.mPublishRequest.disconnect with
        | false =>
          simp only [hdis, if_true] at hsent ⊢
          exact hsent
        | true =>
          rw [if_neg (by simp [hdis])] at hsent ⊢
          rw [← hdup] at hsent
          exact hsent
      · rw [if_neg hdup] at hsent
        rw [if_neg (fun h => hdup h.2)]
        exact hsent
  · have href' := Handled.refused hactive hready hlen href hne hstatus
    rw [heq]
    rcases hstatus with rfl | rfl <;> exact href'

private theorem handleWaitingRequest_handled (hactive : m.mPublishRequest.active = true)
    (hready : m.mPublishRequest.readyToSend = false) :
    Handled m paho env (m.handleWaitingRequest env).1 (m.handleWaitingRequest env).2 := by
  unfold handleWaitingRequest
  dsimp only
  by_cases hack : m.mPublishRequest.gotPuback = true
  · rw [if_pos hack]
    by_cases hdis : m.mPublishRequest.disconnect = true
    · rw [if_pos hdis]
      exact .acknowledgedDisconnect hactive hready hack hdis
    · rw [if_neg hdis]
      exact .acknowledged hactive hready hack (by simpa using hdis)
  rw [if_neg hack]
  have hack : m.mPublishRequest.gotPuback = false := by simpa using hack
  by_cases htime :
      elapsed (env.millis .publishTimeout) m.mPublishRequest.startTime < publishTimeout
  · rw [if_pos htime]
    exact .waiting hactive hready hack (UInt32.not_le.2 htime)
  rw [if_neg htime]
  have htime : m.TimedOut env := UInt32.not_lt.1 htime
  by_cases hdis : m.mPublishRequest.disconnect = true
  · rw [if_pos hdis]
    have hreq : (m.sendDisconnect env).mPublishRequest = m.mPublishRequest := rfl
    rw [← hreq]
    exact .timeoutDisconnect hactive hready hack htime hdis
  rw [if_neg hdis]
  have hdis : m.mPublishRequest.disconnect = false := by simpa using hdis
  by_cases htries : publishMaxTries < m.mPublishRequest.tries
  · rw [if_pos htries]
    exact .givesUp hactive hready hack htime hdis htries
  · rw [if_neg htries]
    exact .retry hactive hready hack htime hdis (UInt8.not_lt.1 htries)

theorem handled (m : GB4MQTT) (paho : Paho) (env : Env) :
    Handled m paho env (m.handlePublishRequests paho env).1
      (m.handlePublishRequests paho env).2 := by
  unfold handlePublishRequests
  by_cases hactive : m.mPublishRequest.active = false
  · rw [if_pos hactive]
    exact .idle hactive
  rw [if_neg hactive]
  have hactive : m.mPublishRequest.active = true := by simpa using hactive
  by_cases hready : m.mPublishRequest.readyToSend = true
  · rw [if_pos hready]
    exact handleReadyRequest_handled hactive hready
  · rw [if_neg hready]
    exact handleWaitingRequest_handled hactive (by simpa using hready)

theorem not_refuses_iff : ¬m.Refuses env ↔ m.radio.mState = .connected ∧ env.sockSend = 0 := by
  unfold Refuses
  constructor
  · intro h
    exact ⟨Decidable.byContradiction fun hs => h (Or.inl hs),
      Decidable.byContradiction fun hs => h (Or.inr hs)⟩
  · intro h href
    exact href.elim (fun hs => hs h.1) (fun hs => hs h.2)

/-- What `handlePublishRequests` leaves alone. -/
theorem Handled.frame {b : Bool} {m' : GB4MQTT} (h : Handled m paho env b m') :
    m'.state = m.state ∧ m'.radio.connectInProgress = m.radio.connectInProgress ∧
      m'.radio.gReceive = m.radio.gReceive ∧
      (b = true → m'.radio.mState = m.radio.mState ∨
        m.radio.mState = .connected ∧ m'.radio.mState = .sending) := by
  cases h with
  | sent _ _ _ htake =>
    exact ⟨rfl, rfl, rfl, fun _ => Or.inr ⟨(not_refuses_iff.1 htake).1, rfl⟩⟩
  | acknowledgedDisconnect _ _ _ _ =>
    obtain ⟨s, start, result, heq⟩ := m.finished.sendDisconnect_eq env
    rw [heq]
    exact ⟨rfl, rfl, rfl, fun hfalse => absurd hfalse (by decide)⟩
  | timeoutDisconnect _ _ _ _ _ =>
    obtain ⟨s, start, result, heq⟩ := m.sendDisconnect_eq env
    rw [heq]
    exact ⟨rfl, rfl, rfl, fun hfalse => absurd hfalse (by decide)⟩
  | _ => exact ⟨rfl, rfl, rfl, fun _ => Or.inl rfl⟩

/-- The events of `handlePublishRequests`. -/
theorem Handled.log {b : Bool} {m' : GB4MQTT} (h : Handled m paho env b m') :
    ∃ new, m'.radio.log = new ++ m.radio.log ∧ ∀ e ∈ new,
      (∃ req status, e = .publishRequest req status) ∨
        ∃ message len result, e = .sendMessage m.radio.mState message len result := by
  cases h with
  | packetError _ _ _ =>
    exact ⟨[.publishRequest _ _], rfl, fun e he => Or.inl ⟨_, _, List.mem_singleton.1 he⟩⟩
  | sent _ _ _ htake =>
    refine ⟨[.publishRequest _ _, .sendMessage _ _ _ _], rfl, fun e he => ?_⟩
    rcases List.mem_cons.1 he with he | he
    · exact Or.inl ⟨_, _, he⟩
    · rw [(not_refuses_iff.1 htake).1]
      exact Or.inr ⟨_, _, _, List.mem_singleton.1 he⟩
  | refused _ _ _ _ _ _ =>
    refine ⟨[.publishRequest _ _, .sendMessage _ _ _ _], rfl, fun e he => ?_⟩
    rcases List.mem_cons.1 he with he | he
    · exact Or.inl ⟨_, _, he⟩
    · exact Or.inr ⟨_, _, _, List.mem_singleton.1 he⟩
  | acknowledgedDisconnect _ _ _ _ =>
    obtain ⟨s, start, result, heq⟩ := m.finished.sendDisconnect_eq env
    rw [heq]
    exact ⟨[.sendMessage _ _ _ _], rfl,
      fun e he => Or.inr ⟨_, _, _, List.mem_singleton.1 he⟩⟩
  | timeoutDisconnect _ _ _ _ _ =>
    obtain ⟨s, start, result, heq⟩ := m.sendDisconnect_eq env
    rw [heq]
    exact ⟨[.sendMessage _ _ _ _], rfl,
      fun e he => Or.inr ⟨_, _, _, List.mem_singleton.1 he⟩⟩
  | _ => exact ⟨[], rfl, by simp⟩

/-! ## `poll` -/

/-- What the switch of `poll` can make of an object, one constructor for each
way through the source. -/
inductive SwitchStep (m : GB4MQTT) (paho : Paho) (env : Env) : GB4MQTT → Prop where
  | idle : m.state = .notConnected →
      m.address = none ∨ m.mPublishRequest.active = false → SwitchStep m paho env m
  | connecting : m.state = .notConnected → m.mPublishRequest.active = true →
      env.sockConnect = 0 →
      SwitchStep m paho env { m with
        state := .connectingSocket
        radio := { m.radio with
          connectStartTime := (env.millis .connect).toInt32
          connectInProgress := true
          log := .socketConnect m.radio.mState 0 :: m.radio.log } }
  | connectFailed : m.state = .notConnected → env.sockConnect ≠ 0 →
      SwitchStep m paho env { m with
        state := .notConnected
        radio := ({ m.radio with
          err := env.sockConnect
          log := .socketConnect m.radio.mState env.sockConnect :: m.radio.log } :
            GB4XBee).resetSocket (env.millis .mqttResetSocket) }
  | stillConnecting : m.state = .connectingSocket →
      m.radio.mState = .awaitConnection ∨ m.radio.mState = .awaitConnectResponse →
      SwitchStep m paho env m
  | connectLost : m.state = .connectingSocket → SwitchStep m paho env (m.drop env)
  | socketConnected : m.state = .connectingSocket → m.radio.mState = .connected →
      SwitchStep m paho env { m with state := .connectMqtt }
  | connectMalformed : m.state = .connectMqtt →
      SwitchStep m paho env
        { m with radio := m.radio.record (.connectRequest .connectPacketError) }
  | connectSent : m.state = .connectMqtt → ¬m.Refuses env →
      SwitchStep m paho env { m.connectSent paho env with state := .awaitConnack }
  | connectRefused {result : GB4XBee.Return} {status : Return} : m.state = .connectMqtt →
      m.Refuses env → result ≠ .messageSent → status ≠ .connectSent →
      SwitchStep m paho env (m.connectRefused paho result status)
  | connectDropped {result : GB4XBee.Return} {status : Return} : m.state = .connectMqtt →
      m.Refuses env → result ≠ .messageSent → status ≠ .connectSent →
      SwitchStep m paho env ((m.connectRefused paho result status).drop env)
  | listening : m.state = .awaitConnack → (m.dispatchIncomming paho env).1 = .listening →
      SwitchStep m paho env (m.dispatchIncomming paho env).2
  | accepted : m.state = .awaitConnack → m.radio.gReceive.mPending = true →
      dispatchStatus paho env (m.readIncoming paho env) = .gotConnack →
      SwitchStep m paho env
        { (m.dispatchIncomming paho env).2 with state := .beginStandby }
  | rejected : m.state = .awaitConnack →
      SwitchStep m paho env ((m.dispatchIncomming paho env).2.drop env)
  | served {m' : GB4MQTT} : m.state = .beginStandby ∨ m.state = .standby →
      Handled (({ m with state := .standby } : GB4MQTT).dispatchIncomming paho env).2
        paho env true m' → SwitchStep m paho env m'
  | servedDrop {m' : GB4MQTT} : m.state = .beginStandby ∨ m.state = .standby →
      Handled (({ m with state := .standby } : GB4MQTT).dispatchIncomming paho env).2
        paho env false m' → SwitchStep m paho env (m'.drop env)
  | noCase : m.state ≠ .notConnected → m.state ≠ .connectingSocket →
      m.state ≠ .connectMqtt → m.state ≠ .awaitConnack → m.state ≠ .beginStandby →
      m.state ≠ .standby → SwitchStep m paho env m

private theorem standbyStep_step (paho : Paho) (env : Env)
    (hs : m.state = .beginStandby ∨ m.state = .standby) :
    SwitchStep m paho env (({ m with state := .standby } : GB4MQTT).standbyStep paho env) := by
  have hhandled := handled (({ m with state := .standby } : GB4MQTT).dispatchIncomming paho env).2
    paho env
  unfold standbyStep
  dsimp only
  split
  · rename_i hfalse
    rw [hfalse] at hhandled
    exact .servedDrop hs hhandled
  · rename_i htrue
    have htrue := (Bool.not_eq_false _).mp htrue
    rw [htrue] at hhandled
    exact .served hs hhandled

private theorem awaitConnack_step (hs : m.state = .awaitConnack) :
    SwitchStep m paho env (m.mainStep paho env) := by
  obtain ⟨hsnd, hgot, hlisten⟩ := m.pollConnackStatus_cases paho env
  simp only [mainStep, hs]
  rw [hsnd]
  split
  · rename_i hstatus
    exact .listening hs (hlisten hstatus)
  · rename_i hstatus
    have hst := hgot.1 hstatus
    rcases m.dispatchIncomming_cases paho env with ⟨hp, heq⟩ | ⟨hp, keepalive, ping, heq⟩
    · rw [heq] at hst
      simp at hst
    · have hacc := hst
      rw [heq] at hacc
      exact .accepted hs hp hacc
  · exact .rejected hs

private theorem connectMqtt_step (hs : m.state = .connectMqtt) :
    SwitchStep m paho env (m.mainStep paho env) := by
  simp only [mainStep, hs]
  rcases m.sendConnectRequest_cases paho env with
    ⟨_, heq⟩ | ⟨_, htake, heq⟩ | ⟨_, href, result, status, hne, hstatus, heq⟩
  · rw [heq]
    exact .connectMalformed hs
  · rw [heq]
    exact .connectSent hs htake
  · rw [heq]
    dsimp only
    split
    · exact absurd rfl hstatus
    · exact .connectDropped hs href hne hstatus
    · exact .connectRefused hs href hne hstatus

private theorem notConnected_step (hs : m.state = .notConnected) :
    SwitchStep m paho env (m.mainStep paho env) := by
  simp only [mainStep, hs]
  split
  · rename_i hidle
    exact .idle hs hidle
  · rename_i hbusy
    have hactive : m.mPublishRequest.active = true :=
      (Bool.not_eq_false _).mp fun hact => hbusy (Or.inr hact)
    rcases m.radio.connect_cases env with ⟨hok, heq⟩ | ⟨hfail, heq⟩
    · rw [heq]
      exact .connecting hs hactive hok
    · rw [heq]
      exact .connectFailed hs hfail

theorem mainStep_step (m : GB4MQTT) (paho : Paho) (env : Env) :
    SwitchStep m paho env (m.mainStep paho env) := by
  cases hs : m.state
  case notConnected => exact notConnected_step hs
  case connectingSocket =>
    simp only [mainStep, hs]
    split
    · rename_i hwait
      exact .stillConnecting hs hwait
    · split
      · exact .connectLost hs
      · rename_i hconn
        exact .socketConnected hs (by simpa using hconn)
  case connectMqtt => exact connectMqtt_step hs
  case awaitConnack => exact awaitConnack_step hs
  case beginStandby =>
    have hstep := standbyStep_step paho env (Or.inl hs)
    simpa only [mainStep, hs] using hstep
  case standby =>
    have hstep := standbyStep_step paho env (Or.inr hs)
    have hsame : ({ m with state := .standby } : GB4MQTT) = m := by rw [← hs]
    rw [hsame] at hstep
    simpa only [mainStep, hs] using hstep
  all_goals
    have hstay : m.mainStep paho env = m := by simp only [mainStep, hs]
    rw [hstay]
    exact .noCase (by simp [hs]) (by simp [hs]) (by simp [hs]) (by simp [hs]) (by simp [hs])
      (by simp [hs])

/-- `CONNECTING_SOCKET` waits for the radio. -/
theorem mainStep_connectingSocket (hs : m.state = .connectingSocket) :
    (m.radio.mState = .awaitConnection ∨ m.radio.mState = .awaitConnectResponse →
      m.mainStep paho env = m) ∧
    (m.radio.mState = .connected → m.mainStep paho env = { m with state := .connectMqtt }) := by
  simp only [mainStep, hs]
  refine ⟨fun hwait => if_pos hwait, fun hconn => ?_⟩
  rw [hconn, if_neg (by decide), if_neg (not_not_intro rfl)]

/-- A poll that does not end below `SOCKET_READY` runs its switch. -/
theorem poll_eq_mainStep (hge : .socketReady ≤ (m.radio.poll env).mState) :
    (m.poll paho env).2 = (m.pollRadio env).mainStep paho env := by
  have hnot : ¬(m.pollRadio env).radio.mState < .socketReady := GB4XBee.State.not_lt.2 hge
  unfold poll
  dsimp only
  rw [if_neg hnot]

/-- A poll ends below `SOCKET_READY` in `NOT_CONNECTED`, or its switch runs. -/
theorem poll_cases (m : GB4MQTT) (paho : Paho) (env : Env) :
    (m.radio.poll env).mState < .socketReady ∧
      (m.poll paho env).2 = { m.pollRadio env with state := .notConnected } ∨
    .socketReady ≤ (m.radio.poll env).mState ∧
      SwitchStep (m.pollRadio env) paho env (m.poll paho env).2 := by
  by_cases hlt : (m.radio.poll env).mState < .socketReady
  · refine Or.inl ⟨hlt, ?_⟩
    have hlow : (m.pollRadio env).radio.mState < .socketReady := hlt
    unfold poll
    dsimp only
    rw [if_pos hlow]
  · have hge := GB4XBee.State.not_lt.1 hlt
    refine Or.inr ⟨hge, ?_⟩
    rw [poll_eq_mainStep hge]
    exact mainStep_step _ _ _

/-- The switch moves the radio to `SENDING` and to the cooldown only. -/
theorem SwitchStep.radio_mState {m' : GB4MQTT} (h : SwitchStep m paho env m') :
    m'.radio.mState = m.radio.mState ∨ m'.radio.mState = .sending ∨
      m'.radio.mState = .socketCooldownPeriod := by
  cases h with
  | connectFailed _ _ => exact Or.inr (Or.inr rfl)
  | connectLost _ => exact Or.inr (Or.inr rfl)
  | connectSent _ _ => exact Or.inr (Or.inl rfl)
  | connectDropped _ _ _ _ => exact Or.inr (Or.inr rfl)
  | listening _ _ => exact Or.inl (m.dispatchIncomming_mState paho env)
  | accepted _ _ _ => exact Or.inl (m.dispatchIncomming_mState paho env)
  | rejected _ => exact Or.inr (Or.inr rfl)
  | served _ hhandled =>
    have hsame := ({ m with state := .standby } : GB4MQTT).dispatchIncomming_mState paho env
    rcases hhandled.frame.2.2.2 rfl with hstay | ⟨_, hsent⟩
    · exact Or.inl (hstay.trans hsame)
    · exact Or.inr (Or.inl hsent)
  | servedDrop _ _ => exact Or.inr (Or.inr rfl)
  | _ => exact Or.inl rfl

/-! ## The events of a poll -/

/-- The switch takes a payload at most once, before its other events. -/
def Adds (m m' : GB4MQTT) : Prop :=
  ∃ new, (∀ e ∈ new, e.ofSwitch = true ∧ e.isIncoming = false) ∧
    (m'.radio.log = new ++ m.radio.log ∧ m'.radio.gReceive = m.radio.gReceive ∨
      m.radio.gReceive.mPending = true ∧ m'.radio.gReceive.mPending = false ∧
        ∃ type message, m'.radio.log = new ++ .incoming m.bytesRead type message :: m.radio.log)

theorem Adds.log {m' : GB4MQTT} (h : m.Adds m') :
    ∃ new, m'.radio.log = new ++ m.radio.log ∧ ∀ e ∈ new, e.ofSwitch = true := by
  obtain ⟨new, hnew, ⟨hlog, _⟩ | ⟨_, _, type, message, hlog⟩⟩ := h
  · exact ⟨new, hlog, fun e he => (hnew e he).1⟩
  · refine ⟨new ++ [.incoming m.bytesRead type message], ?_, fun e he => ?_⟩
    · rw [hlog, List.append_assoc]
      rfl
    · rcases List.mem_append.1 he with he | he
      · exact (hnew e he).1
      · rw [List.mem_singleton.1 he]
        rfl

private theorem Adds.quiet {m' : GB4MQTT} (new : List Event)
    (hnew : ∀ e ∈ new, e.ofSwitch = true ∧ e.isIncoming = false)
    (hlog : m'.radio.log = new ++ m.radio.log) (hrec : m'.radio.gReceive = m.radio.gReceive) :
    m.Adds m' :=
  ⟨new, hnew, Or.inl ⟨hlog, hrec⟩⟩

private theorem Adds.same {m' : GB4MQTT} (hlog : m'.radio.log = m.radio.log)
    (hrec : m'.radio.gReceive = m.radio.gReceive) : m.Adds m' :=
  .quiet [] (by simp) hlog hrec

/-- Events of the switch after a step. -/
private theorem Adds.after {m' m'' : GB4MQTT} (h : m.Adds m') (new : List Event)
    (hnew : ∀ e ∈ new, e.ofSwitch = true ∧ e.isIncoming = false)
    (hlog : m''.radio.log = new ++ m'.radio.log) (hrec : m''.radio.gReceive = m'.radio.gReceive) :
    m.Adds m'' := by
  obtain ⟨mid, hmid, hcases⟩ := h
  refine ⟨new ++ mid, fun e he => ?_, ?_⟩
  · rcases List.mem_append.1 he with he | he
    · exact hnew e he
    · exact hmid e he
  · rcases hcases with ⟨hlog', hrec'⟩ | ⟨hp, hp', type, message, hlog'⟩
    · exact Or.inl ⟨by rw [hlog, hlog', List.append_assoc], hrec.trans hrec'⟩
    · refine Or.inr ⟨hp, by rw [hrec]; exact hp', type, message, ?_⟩
      rw [hlog, hlog', List.append_assoc]

private theorem Adds.drop {m' : GB4MQTT} (h : m.Adds m') (env : Env) : m.Adds (m'.drop env) :=
  h.after [.resetSocket] (by simp [Event.ofSwitch, Event.isIncoming]) rfl rfl

theorem adds_dispatchIncomming (m : GB4MQTT) (paho : Paho) (env : Env) :
    m.Adds (m.dispatchIncomming paho env).2 := by
  rcases m.dispatchIncomming_cases paho env with ⟨_, heq⟩ | ⟨hp, _, _, heq⟩
  · rw [heq]
    exact .same rfl rfl
  · rw [heq]
    exact ⟨[], by simp, Or.inr ⟨hp, rfl, _, _, rfl⟩⟩

theorem Handled.adds {b : Bool} {m' : GB4MQTT}
    (h : Handled (m.dispatchIncomming paho env).2 paho env b m') : m.Adds m' := by
  obtain ⟨new, hlog, hnew⟩ := h.log
  refine (m.adds_dispatchIncomming paho env).after new (fun e he => ?_) hlog h.frame.2.2.1
  rcases hnew e he with ⟨req, status, rfl⟩ | ⟨message, len, result, rfl⟩
  · exact ⟨rfl, rfl⟩
  · exact ⟨rfl, rfl⟩

theorem SwitchStep.adds {m' : GB4MQTT} (h : SwitchStep m paho env m') : m.Adds m' := by
  cases h with
  | connecting _ _ _ =>
    exact .quiet [.socketConnect _ _] (by simp [Event.ofSwitch, Event.isIncoming]) rfl rfl
  | connectFailed _ _ =>
    exact .quiet [.resetSocket, .socketConnect _ _]
      (by simp [Event.ofSwitch, Event.isIncoming]) rfl rfl
  | connectLost _ => exact (Adds.same rfl rfl).drop env
  | connectMalformed _ =>
    exact .quiet [.connectRequest _] (by simp [Event.ofSwitch, Event.isIncoming]) rfl rfl
  | connectSent _ _ =>
    exact .quiet [.connectRequest _, .sendMessage _ _ _ _]
      (by simp [Event.ofSwitch, Event.isIncoming]) rfl rfl
  | connectRefused _ _ _ _ =>
    exact .quiet [.connectRequest _, .sendMessage _ _ _ _]
      (by simp [Event.ofSwitch, Event.isIncoming]) rfl rfl
  | connectDropped _ _ _ _ =>
    exact .quiet [.resetSocket, .connectRequest _, .sendMessage _ _ _ _]
      (by simp [Event.ofSwitch, Event.isIncoming]) rfl rfl
  | listening _ _ => exact m.adds_dispatchIncomming paho env
  | accepted _ _ _ => exact m.adds_dispatchIncomming paho env
  | rejected _ => exact (m.adds_dispatchIncomming paho env).drop env
  | served _ hhandled => exact hhandled.adds
  | servedDrop _ hhandled => exact (Handled.adds hhandled).drop env
  | _ => exact .same rfl rfl

/-- The events of a poll are events of the radio and of the switch. -/
theorem poll_log (m : GB4MQTT) (paho : Paho) (env : Env) :
    ∃ new, (m.poll paho env).2.radio.log = new ++ m.radio.log ∧
      ∀ e ∈ new, e.ofSwitch = true ∨ e.ofRadio = true := by
  obtain ⟨old, hold, hradio⟩ := m.radio.poll_log env
  rcases m.poll_cases paho env with ⟨_, heq⟩ | ⟨_, hstep⟩
  · exact ⟨old, by rw [heq]; exact hold, fun e he => Or.inr (hradio e he)⟩
  · obtain ⟨new, hlog, hswitch⟩ := hstep.adds.log
    refine ⟨new ++ old, ?_, fun e he => ?_⟩
    · rw [hlog, List.append_assoc, ← hold]
      rfl
    · rcases List.mem_append.1 he with he | he
      · exact Or.inl (hswitch e he)
      · exact Or.inr (hradio e he)

/-- The events that the log of `m'` has before those of `m`. -/
def added (m m' : GB4MQTT) : List Event :=
  m'.radio.log.take (m'.radio.log.length - m.radio.log.length)

theorem added_eq {m' : GB4MQTT} (new : List Event) (h : m'.radio.log = new ++ m.radio.log) :
    m.added m' = new := by
  unfold added
  rw [h, List.length_append, Nat.add_sub_cancel, List.take_left']
  rfl

/-- What a successful `begin()` makes of a constructed object. -/
theorem Begun.eq (h : m.Begun) : ∃ mem args, m = { construct mem args with
    radio := { (construct mem args).radio with mState := .start }
    state := .notConnected } := by
  obtain ⟨mem, args, status, hbegin⟩ := h
  unfold begin GB4XBee.begin at hbegin
  dsimp only at hbegin
  split at hbegin
  · simp at hbegin
  · exact ⟨mem, args, (Prod.mk.inj hbegin).2.symm⟩

end GB4MQTT

end XBeeMqtt
