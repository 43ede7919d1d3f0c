import XBeeMqtt.GB4MQTT.Attempts

/-!
# The lengths that are handed to the radio

Four functions serialise a packet into a buffer of their own and hand the length
to `sendMessage`.  The serialiser answers the length of a packet that fits, and
else zero or a negative code (`Paho.Lengths`).

`sendPublishRequest` and `sendPingRequest` refuse both, and the DISCONNECT is
always two bytes.  `sendConnectRequest` only refuses zero: a negative code becomes
a length of over 2 ^ 31 bytes.  `withinBuffers_iff` says that nothing else goes
wrong.
-/

namespace XBeeMqtt

/-- A serialiser answers for a packet of some length in a buffer. -/
def Answers (buflen length : Nat) (answer : Int) : Prop :=
  0 < length ∧ (length ≤ buflen → answer = length) ∧
    (buflen < length → -2 ^ 31 ≤ answer ∧ answer ≤ 0)

/-- The lengths of the packets of a library, which its serialisers answer if they
fit. -/
structure Paho.Lengths (paho : Paho) where
  connect (data : ConnectData) : Nat
  publish (dup qos retain : UInt8) (packetId : UInt16) (topic payload : List UInt8)
    (payloadLen : Nat) : Nat
  pingreq : Nat
  serializeConnect : ∀ buflen data,
    Answers buflen (connect data) (paho.serializeConnect buflen data).1
  serializePublish : ∀ buflen dup qos retain packetId topic payload payloadLen,
    Answers buflen (publish dup qos retain packetId topic payload payloadLen)
      (paho.serializePublish buflen dup qos retain packetId topic payload payloadLen).1
  serializePingreq : ∀ buflen, Answers buflen pingreq (paho.serializePingreq buflen).1

theorem answers_serialized {packet : List UInt8} (h : packet ≠ []) (buflen : Nat) :
    Answers buflen packet.length (Paho.serialized buflen packet).1 := by
  refine ⟨List.length_pos_iff.2 h, fun hfits => ?_, fun hshort => ?_⟩
  · unfold Paho.serialized
    rw [if_neg (Nat.not_lt.2 hfits)]
  · unfold Paho.serialized
    rw [if_pos hshort]
    exact ⟨by decide, by decide⟩

theorem packetBytes_ne_nil (header : UInt8) (body : List UInt8) : packetBytes header body ≠ [] :=
  List.cons_ne_nil _ _

/-- The lengths of the packets of `Paho.mqtt`. -/
def Paho.mqttLengths : Paho.mqtt.Lengths where
  connect data := (packetBytes 0x10 <|
    [0x00, 0x04, 0x4D, 0x51, 0x54, 0x54, 0x04, 0xC0 + 2 * data.cleansession,
      (data.keepAliveInterval >>> 8).toUInt8, data.keepAliveInterval.toUInt8] ++
    stringField data.clientID ++ stringField data.username ++
    stringField data.password).length
  publish dup qos retain packetId topic payload payloadLen :=
    (packetBytes (0x30 + 8 * dup + 2 * qos + retain) <|
      stringField topic ++
      (if qos = 0 then [] else [(packetId >>> 8).toUInt8, packetId.toUInt8]) ++
      payload.take payloadLen).length
  pingreq := (packetBytes 0xC0 []).length
  serializeConnect buflen _ := answers_serialized (packetBytes_ne_nil _ _) buflen
  serializePublish buflen _ _ _ _ _ _ _ := answers_serialized (packetBytes_ne_nil _ _) buflen
  serializePingreq buflen := answers_serialized (packetBytes_ne_nil _ _) buflen

/-- The length that was given to `sendMessage`. -/
def Event.sentLength? : Event → Option Nat
  | .sendMessage _ _ len _ => some len
  | _ => none

namespace GB4MQTT

variable {m m' : GB4MQTT} {paho : Paho} {env : Env}

/-- The lengths that were given to `sendMessage` between two states, the newest
first. -/
def sentLengths (m m' : GB4MQTT) : List Nat := (m.added m').filterMap Event.sentLength?

theorem sentLengths_eq (new : List Event) (h : m'.radio.log = new ++ m.radio.log) :
    m.sentLengths m' = new.filterMap Event.sentLength? := by
  unfold sentLengths
  rw [added_eq new h]

/-- A call of a sender from `m`, with its answer: what it hands to the radio lies
within its buffer, and a packet that does not fit is refused with an error. -/
structure SendsWithin (m : GB4MQTT) (answer : Return × GB4MQTT) (size length : Nat)
    (error : Return) : Prop where
  within : ∀ len ∈ m.sentLengths answer.2, 0 < len ∧ len ≤ size
  refused : size < length → m.sentLengths answer.2 = [] ∧ answer.1 = error

/-- The data of the CONNECT. -/
def connectData (m : GB4MQTT) : ConnectData where
  clientID := m.clientId
  username := m.clientName
  password := m.clientPassword
  keepAliveInterval := networkTimeoutIntervalSeconds
  cleansession := 1

/-- The length of the PUBLISH for the stored request. -/
def publishLength (m : GB4MQTT) (lengths : paho.Lengths) : Nat :=
  let req := m.mPublishRequest
  lengths.publish req.duplicate req.qos req.retain req.packetId req.topicMemory req.messageMemory
    req.messageLen

theorem sizeT_of_nat {n : Nat} (h : n < 2 ^ 32) : sizeT n = n := by
  unfold sizeT
  omega

theorem sizeT_of_negative {n : Int} (h : -2 ^ 31 ≤ n) (hneg : n < 0) : 2 ^ 31 ≤ sizeT n := by
  unfold sizeT
  omega

/-! ## PUBLISH and PINGREQ -/

theorem sendPublishRequest_sentLengths (m : GB4MQTT) (paho : Paho) (env : Env) :
    (publishPacket paho m.mPublishRequest).1 ≤ 0 ∧
      m.sentLengths (m.sendPublishRequest paho env).2 = [] ∧
      (m.sendPublishRequest paho env).1 = .publishPacketError ∨
    0 < (publishPacket paho m.mPublishRequest).1 ∧
      m.sentLengths (m.sendPublishRequest paho env).2 =
        [sizeT (publishPacket paho m.mPublishRequest).1] := by
  rcases m.sendPublishRequest_cases paho env with
    ⟨hlen, heq⟩ | ⟨hlen, _, heq⟩ | ⟨hlen, _, result, status, _, _, heq⟩
  · refine Or.inl ⟨hlen, ?_, by rw [heq]⟩
    rw [heq]
    exact sentLengths_eq [.publishRequest _ _] rfl
  · refine Or.inr ⟨hlen, ?_⟩
    rw [heq]
    exact sentLengths_eq [.publishRequest _ _, .sendMessage _ _ _ _] rfl
  · refine Or.inr ⟨hlen, ?_⟩
    rw [heq]
    exact sentLengths_eq [.publishRequest _ _, .sendMessage _ _ _ _] rfl

theorem sendPublishRequest_within (lengths : paho.Lengths) (m : GB4MQTT) (env : Env) :
    SendsWithin m (m.sendPublishRequest paho env) publishPacketMaxSize (m.publishLength lengths)
      .publishPacketError := by
  obtain ⟨hpos, hfits, hshort⟩ : Answers publishPacketMaxSize (m.publishLength lengths)
    (publishPacket paho m.mPublishRequest).1 := lengths.serializePublish _ _ _ _ _ _ _ _
  have hmax : publishPacketMaxSize = 970 := rfl
  rcases m.sendPublishRequest_sentLengths paho env with ⟨_, hnone, herror⟩ | ⟨hlen, hone⟩
  · refine ⟨?_, fun _ => ⟨hnone, herror⟩⟩
    rw [hnone]
    exact fun len hmem => absurd hmem List.not_mem_nil
  · have hle : m.publishLength lengths ≤ publishPacketMaxSize := by
      apply Nat.le_of_not_lt
      intro hlong
      have := (hshort hlong).2
      omega
    refine ⟨fun len hmem => ?_, fun hlong => absurd hle (Nat.not_le.2 hlong)⟩
    rw [hone, hfits hle, sizeT_of_nat (by omega), List.mem_singleton] at hmem
    rw [hmem]
    exact ⟨hpos, hle⟩

theorem sendPingRequest_sentLengths (m : GB4MQTT) (paho : Paho) (env : Env) :
    (paho.serializePingreq pingreqSize).1 ≠ pingreqSize ∧
      m.sentLengths (m.sendPingRequest paho env).2 = [] ∧
      (m.sendPingRequest paho env).1 = .pingPacketError ∨
    (paho.serializePingreq pingreqSize).1 = pingreqSize ∧
      m.sentLengths (m.sendPingRequest paho env).2 = [pingreqSize] := by
  by_cases hlen : (paho.serializePingreq pingreqSize).1 ≠ pingreqSize
  · have hsend : m.sendPingRequest paho env = (.pingPacketError,
        { m with radio := m.radio.record (.pingRequest .pingPacketError) }) := by
      unfold sendPingRequest
      dsimp only
      rw [if_pos hlen]
    refine Or.inl ⟨hlen, ?_, by rw [hsend]⟩
    rw [hsend]
    exact sentLengths_eq [.pingRequest _] rfl
  · refine Or.inr ⟨Decidable.not_not.1 hlen, ?_⟩
    unfold sendPingRequest
    dsimp only
    rw [if_neg hlen]
    rcases m.radio.sendMessage_cases (paho.serializePingreq pingreqSize).2 pingreqSize env with
      ⟨_, _, heq⟩ | ⟨result, hne, _, heq⟩
    · rw [heq]
      exact sentLengths_eq [.pingRequest _, .sendMessage _ _ _ _] rfl
    · rw [heq, if_neg hne]
      exact sentLengths_eq [.pingRequest _, .sendMessage _ _ _ _] rfl

theorem sendPingRequest_within (lengths : paho.Lengths) (m : GB4MQTT) (env : Env) :
    SendsWithin m (m.sendPingRequest paho env) pingreqSize lengths.pingreq .pingPacketError := by
  obtain ⟨hpos, hfits, hshort⟩ := lengths.serializePingreq pingreqSize
  have hsize : pingreqSize = 2 := rfl
  rcases m.sendPingRequest_sentLengths paho env with ⟨_, hnone, herror⟩ | ⟨hlen, hone⟩
  · refine ⟨?_, fun _ => ⟨hnone, herror⟩⟩
    rw [hnone]
    exact fun len hmem => absurd hmem List.not_mem_nil
  · refine ⟨fun len hmem => ?_, fun hlong => ?_⟩
    · rw [hone, List.mem_singleton] at hmem
      omega
    · have := (hshort hlong).2
      omega

/-! ## `handlePublishRequests` -/

private theorem sendMessage_inj {found found' : GB4XBee.State} {message message' : List UInt8}
    {len len' : Nat} {result result' : GB4XBee.Return}
    (h : Event.sendMessage found message len result =
      .sendMessage found' message' len' result') : message = message' ∧ len = len' := by
  obtain ⟨_, hmessage, hlen, _⟩ := Event.sendMessage.inj h
  exact ⟨hmessage, hlen⟩

private theorem mem_attempt {req : MQTTRequest} {status : Return} {e e' : Event}
    (h : e ∈ [.publishRequest req status, e'])
    (hne : ∀ req status, e ≠ .publishRequest req status) : e = e' :=
  (List.mem_cons.1 h).elim (fun heq => absurd heq (hne _ _)) List.mem_singleton.1

/-- What `handlePublishRequests` hands to the radio: the two bytes of a
DISCONNECT, or the PUBLISH. -/
theorem Handled.sends {b : Bool} (h : Handled m paho env b m') :
    ∃ new, m'.radio.log = new ++ m.radio.log ∧ ∀ found message len result,
      .sendMessage found message len result ∈ new →
      message = [0xE0, 0x00] ∧ len = 2 ∨
        message = (publishPacket paho m.claimed.mPublishRequest).2 ∧
          len = sizeT (publishPacket paho m.claimed.mPublishRequest).1 ∧
          0 < (publishPacket paho m.claimed.mPublishRequest).1 := by
  cases h with
  | packetError _ _ _ => exact ⟨[.publishRequest _ _], rfl, by simp⟩
  | sent _ _ hlen _ =>
    refine ⟨[.publishRequest _ _, .sendMessage _ _ _ _], rfl, fun _ _ _ _ hmem => Or.inr ?_⟩
    obtain ⟨hmessage, hsize⟩ := sendMessage_inj (mem_attempt hmem (by simp))
    exact ⟨hmessage, hsize, hlen⟩
  | refused _ _ hlen _ _ _ =>
    refine ⟨[.publishRequest _ _, .sendMessage _ _ _ _], rfl, fun _ _ _ _ hmem => Or.inr ?_⟩
    obtain ⟨hmessage, hsize⟩ := sendMessage_inj (mem_attempt hmem (by simp))
    exact ⟨hmessage, hsize, hlen⟩
  | acknowledgedDisconnect _ _ _ _ =>
    obtain ⟨s, start, result, heq⟩ := m.finished.sendDisconnect_eq env
    rw [heq]
    refine ⟨[.sendMessage _ _ _ _], rfl, fun _ _ _ _ hmem => Or.inl ?_⟩
    exact sendMessage_inj (List.mem_singleton.1 hmem)
  | timeoutDisconnect _ _ _ _ _ =>
    obtain ⟨s, start, result, heq⟩ := m.sendDisconnect_eq env
    rw [heq]
    refine ⟨[.sendMessage _ _ _ _], rfl, fun _ _ _ _ hmem => Or.inl ?_⟩
    exact sendMessage_inj (List.mem_singleton.1 hmem)
  | _ => exact ⟨[], rfl, by simp⟩

/-! ## All senders -/

/-- Everything that the senders hand to the radio from this state lies within its
buffer. -/
structure WithinBuffers (lengths : paho.Lengths) (m : GB4MQTT) (env : Env) : Prop where
  connect : SendsWithin m (m.sendConnectRequest paho env) connectPacketSize
    (lengths.connect m.connectData) .connectPacketError
  publish : SendsWithin m (m.sendPublishRequest paho env) publishPacketMaxSize
    (m.publishLength lengths) .publishPacketError
  ping : SendsWithin m (m.sendPingRequest paho env) pingreqSize lengths.pingreq .pingPacketError
  handle : ∀ found message len result, .sendMessage found message len result ∈
      m.added (m.handlePublishRequests paho env).2 →
    message = [0xE0, 0x00] ∧ len = 2 ∨
      message = (publishPacket paho m.claimed.mPublishRequest).2 ∧ 0 < len ∧
        len ≤ publishPacketMaxSize

theorem handlePublishRequests_within (lengths : paho.Lengths) (m : GB4MQTT) (env : Env)
    {found : GB4XBee.State} {message : List UInt8} {len : Nat} {result : GB4XBee.Return}
    (hmem : .sendMessage found message len result ∈
      m.added (m.handlePublishRequests paho env).2) :
    message = [0xE0, 0x00] ∧ len = 2 ∨
      message = (publishPacket paho m.claimed.mPublishRequest).2 ∧ 0 < len ∧
        len ≤ publishPacketMaxSize := by
  obtain ⟨new, hlog, hsends⟩ := (m.handled paho env).sends
  rw [added_eq new hlog] at hmem
  rcases hsends _ _ _ _ hmem with hdisconnect | ⟨hmessage, hlen, hpos⟩
  · exact Or.inl hdisconnect
  · refine Or.inr ⟨hmessage, ?_⟩
    have hmax : publishPacketMaxSize = 970 := rfl
    obtain ⟨hlength, hfits, hshort⟩ : Answers publishPacketMaxSize (m.claimed.publishLength lengths)
      (publishPacket paho m.claimed.mPublishRequest).1 := lengths.serializePublish _ _ _ _ _ _ _ _
    have hle : m.claimed.publishLength lengths ≤ publishPacketMaxSize := by
      apply Nat.le_of_not_lt
      intro hlong
      have := (hshort hlong).2
      omega
    rw [hfits hle, sizeT_of_nat (by omega)] at hlen
    omega

theorem sendConnectRequest_sentLengths (m : GB4MQTT) (paho : Paho) (env : Env) :
    (m.connectPacket paho).1 = 0 ∧ m.sentLengths (m.sendConnectRequest paho env).2 = [] ∧
      (m.sendConnectRequest paho env).1 = .connectPacketError ∨
    (m.connectPacket paho).1 ≠ 0 ∧
      m.sentLengths (m.sendConnectRequest paho env).2 = [sizeT (m.connectPacket paho).1] := by
  rcases m.sendConnectRequest_cases paho env with
    ⟨hlen, heq⟩ | ⟨hlen, _, heq⟩ | ⟨hlen, _, result, status, _, _, heq⟩
  · refine Or.inl ⟨hlen, ?_, by rw [heq]⟩
    rw [heq]
    exact sentLengths_eq [.connectRequest _] rfl
  · refine Or.inr ⟨hlen, ?_⟩
    rw [heq]
    exact sentLengths_eq [.connectRequest _, .sendMessage _ _ _ _] rfl
  · refine Or.inr ⟨hlen, ?_⟩
    rw [heq]
    exact sentLengths_eq [.connectRequest _, .sendMessage _ _ _ _] rfl

/-- `sendConnectRequest` keeps to its buffer unless the serialiser answers a
negative code. -/
theorem sendConnectRequest_within_iff (lengths : paho.Lengths) (m : GB4MQTT) (env : Env) :
    SendsWithin m (m.sendConnectRequest paho env) connectPacketSize
        (lengths.connect m.connectData) .connectPacketError ↔
      lengths.connect m.connectData ≤ connectPacketSize ∨ (m.connectPacket paho).1 = 0 := by
  obtain ⟨hpos, hfits, hshort⟩ : Answers connectPacketSize (lengths.connect m.connectData)
    (m.connectPacket paho).1 := lengths.serializeConnect _ _
  have hsize : connectPacketSize = 80 := rfl
  rcases m.sendConnectRequest_sentLengths paho env with ⟨hzero, hnone, herror⟩ | ⟨hlen, hone⟩
  · refine ⟨fun _ => Or.inr hzero, fun _ => ⟨?_, fun _ => ⟨hnone, herror⟩⟩⟩
    rw [hnone]
    exact fun len hmem => absurd hmem List.not_mem_nil
  · constructor
    · intro h
      apply Or.inl
      apply Nat.le_of_not_lt
      intro hlong
      have hsent := (h.refused hlong).1
      rw [hone] at hsent
      exact absurd hsent (List.cons_ne_nil _ _)
    · intro h
      have hle : lengths.connect m.connectData ≤ connectPacketSize :=
        h.elim id fun hzero => absurd hzero hlen
      refine ⟨fun len hmem => ?_, fun hlong => absurd hle (Nat.not_le.2 hlong)⟩
      rw [hone, hfits hle, sizeT_of_nat (by omega), List.mem_singleton] at hmem
      omega

/-- All senders keep to their buffers, in every state, exactly when the CONNECT
fits or the serialiser answers zero for it. -/
theorem withinBuffers_iff (lengths : paho.Lengths) (m : GB4MQTT) (env : Env) :
    WithinBuffers lengths m env ↔
      lengths.connect m.connectData ≤ connectPacketSize ∨ (m.connectPacket paho).1 = 0 := by
  constructor
  · intro h
    exact (sendConnectRequest_within_iff lengths m env).1 h.connect
  · intro h
    exact {
      connect := (sendConnectRequest_within_iff lengths m env).2 h
      publish := sendPublishRequest_within lengths m env
      ping := sendPingRequest_within lengths m env
      handle := fun _ _ _ _ hmem => handlePublishRequests_within lengths m env hmem }

/-- A client with short credentials. -/
theorem withinBuffers_sampleBegun : WithinBuffers Paho.mqttLengths sampleBegun {} :=
  (withinBuffers_iff Paho.mqttLengths sampleBegun {}).2 (Or.inl (by decide +kernel))

/-- With a password of 80 bytes the serialiser answers
`MQTTPACKET_BUFFER_TOO_SHORT`, and `sendMessage` is called with a length of
2 ^ 32 - 2. -/
theorem not_withinBuffers : ¬∀ (paho : Paho) (lengths : paho.Lengths) (m : GB4MQTT) (env : Env),
    (system paho).Reach m → WithinBuffers lengths m env := by
  intro h
  let m := afterCalls [.setPassword (List.replicate 80 0x70)]
  have hwithin := (h .mqtt Paho.mqttLengths m {} (reach_afterCalls _)).connect.within
  have hmem : 2 ^ 32 - 2 ∈ m.sentLengths (m.sendConnectRequest .mqtt {}).2 := by
    decide +kernel
  exact absurd (hwithin _ hmem).2 (by decide)

end GB4MQTT

end XBeeMqtt
