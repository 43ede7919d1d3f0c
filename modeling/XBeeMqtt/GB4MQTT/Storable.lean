import XBeeMqtt.GB4MQTT.Attempts

/-!
# Every request fits its packet

`sendPublishRequest` serialises into a buffer of `PACKET_MAX_SIZE` bytes, which
allows six bytes beside the topic and the message.  A PUBLISH with an identifier
and two bytes of remaining length needs seven; the seventh is the place of the
zero behind the topic.

* `publishEncoding` is the packet of the protocol, `publishSize` its size.
* `publishSize_le`: the packet of a `Storable` request fits, and
  `publishSize_full`: the longest one leaves no byte over.
* `storable_fits`: so the request is never given up as too long.  What is needed
  of the packet library is `Paho.FailsOnlyWhenLong`, and `Paho.mqtt` has it.
-/

namespace XBeeMqtt

/-- The array of the topic has a string of less than `TOPIC_MAX_SIZE` bytes with a
zero behind it, and the message is no longer than its array. -/
structure MQTTRequest.Storable (req : MQTTRequest) : Prop where
  topic : ∃ topic rest, req.topic = topic ++ 0 :: rest ∧
    topic.length ≤ topicMaxSize - 1
  message : req.messageLen ≤ messageMaxSize

/-! ## The size of a PUBLISH -/

/-- A PUBLISH: the topic behind its length, the identifier if there is one, and the
payload. -/
def publishEncoding (dup qos retain : UInt8) (packetId : UInt16) (topic payload : List UInt8)
    (payloadLen : Nat) : List UInt8 :=
  packetBytes (0x30 + 8 * dup + 2 * qos + retain) <|
    Paho.stringField topic ++
    (if qos = 0 then [] else [(packetId >>> 8).toUInt8, packetId.toUInt8]) ++
    payload.take payloadLen

/-- What follows the fixed header. -/
def publishRemaining (qos : UInt8) (topic : List UInt8) (payloadLen : Nat) : Nat :=
  2 + (topic.takeWhile (· ≠ 0)).length + (if qos = 0 then 0 else 2) + payloadLen

/-- The size of a PUBLISH. -/
def publishSize (qos : UInt8) (topic : List UInt8) (payloadLen : Nat) : Nat :=
  let remLen := publishRemaining qos topic payloadLen
  1 + (VarLength.encode 4 remLen).length + remLen

theorem length_packetBytes (header : UInt8) (body : List UInt8) :
    (packetBytes header body).length =
      1 + (VarLength.encode 4 body.length).length + body.length := by
  unfold packetBytes fixedHeader
  rw [List.length_append, List.length_cons, Nat.add_comm 1]

section Size

variable {dup qos retain : UInt8} {packetId : UInt16} {topic payload : List UInt8}
  {payloadLen : Nat}

/-- The size counts a payload that is there. -/
theorem length_publishEncoding (h : payloadLen ≤ payload.length) :
    (publishEncoding dup qos retain packetId topic payload payloadLen).length =
      publishSize qos topic payloadLen := by
  have hbody : (Paho.stringField topic ++
      (if qos = 0 then [] else [(packetId >>> 8).toUInt8, packetId.toUInt8]) ++
      payload.take payloadLen).length = publishRemaining qos topic payloadLen := by
    unfold Paho.stringField publishRemaining
    dsimp only
    rw [List.length_append, List.length_append, List.length_take_of_le h, List.length_cons,
      List.length_cons]
    split <;> simp only [List.length_cons, List.length_nil] <;> omega
  unfold publishEncoding publishSize
  rw [length_packetBytes, hbody]

theorem publishSize_mono {payloadLen' : Nat} (h : payloadLen ≤ payloadLen') :
    publishSize qos topic payloadLen ≤ publishSize qos topic payloadLen' := by
  have hrem : publishRemaining qos topic payloadLen ≤ publishRemaining qos topic payloadLen' :=
    Nat.add_le_add_left h _
  have hencode := VarLength.length_encode_le_of_le 4 hrem
  unfold publishSize
  dsimp only
  omega

/-- A payload that is cut off makes the packet shorter. -/
theorem length_publishEncoding_le (dup qos retain : UInt8) (packetId : UInt16)
    (topic payload : List UInt8) (payloadLen : Nat) :
    (publishEncoding dup qos retain packetId topic payload payloadLen).length ≤
      publishSize qos topic payloadLen := by
  have htake : publishEncoding dup qos retain packetId topic payload payloadLen =
      publishEncoding dup qos retain packetId topic payload (min payloadLen payload.length) := by
    unfold publishEncoding
    rw [List.take_eq_take_min]
  rw [htake, length_publishEncoding (Nat.min_le_right _ _)]
  exact publishSize_mono (Nat.min_le_left _ _)

/-- The C string is no longer than what stands in front of a zero. -/
theorem length_takeWhile_le (topic : List UInt8) {rest : List UInt8} (h : rest.headD 0 = 0) :
    ((topic ++ rest).takeWhile (· ≠ 0)).length ≤ topic.length := by
  induction topic with
  | nil =>
    cases rest with
    | nil => exact Nat.le_refl 0
    | cons b rest =>
      rw [show b = 0 from h]
      exact Nat.le_refl 0
  | cons b topic ih =>
    by_cases hb : b = 0
    · rw [hb]
      exact Nat.zero_le _
    · rw [List.cons_append, List.takeWhile_cons_of_pos (by simpa using hb), List.length_cons]
      exact Nat.succ_le_succ ih

/-- The packet fits with a topic that leaves the byte of its terminator. -/
theorem publishSize_le (qos : UInt8)
    (htopic : (topic.takeWhile (· ≠ 0)).length ≤ MQTTRequest.topicMaxSize - 1)
    (hmessage : payloadLen ≤ MQTTRequest.messageMaxSize) :
    publishSize qos topic payloadLen ≤ GB4MQTT.publishPacketMaxSize := by
  have htopicMax : MQTTRequest.topicMaxSize = 64 := rfl
  have hmessageMax : MQTTRequest.messageMaxSize = 900 := rfl
  have hmax : GB4MQTT.publishPacketMaxSize = 970 := rfl
  have hids : (if qos = 0 then 0 else 2) ≤ 2 := by split <;> omega
  have hrem : publishRemaining qos topic payloadLen ≤ 967 := by
    unfold publishRemaining
    omega
  have hencode : (VarLength.encode 4 (publishRemaining qos topic payloadLen)).length ≤ 2 :=
    VarLength.length_encode_le_of_lt 4 (by omega)
  unfold publishSize
  dsimp only
  omega

/-- The topic of a request that can be stored, as its array has it and as it is
read. -/
theorem MQTTRequest.Storable.length_le {req : MQTTRequest} (h : req.Storable) :
    (req.topic.takeWhile (· ≠ 0)).length ≤ topicMaxSize - 1 ∧
      (req.topicMemory.takeWhile (· ≠ 0)).length ≤ topicMaxSize - 1 := by
  obtain ⟨topic, rest, htopic, hlen⟩ := h.topic
  have hmax : topicMaxSize = 64 := rfl
  obtain ⟨behind, hmemory, hbehind⟩ := req.topicMemory_append htopic (by omega)
  constructor
  · rw [htopic]
    exact Nat.le_trans (length_takeWhile_le topic rfl) hlen
  · rw [hmemory]
    exact Nat.le_trans (length_takeWhile_le topic hbehind) hlen

/-- The longest topic and the longest message with an identifier fill the buffer. -/
theorem publishSize_full (hqos : qos ≠ 0)
    (htopic : (topic.takeWhile (· ≠ 0)).length = MQTTRequest.topicMaxSize - 1) :
    publishSize qos topic MQTTRequest.messageMaxSize = GB4MQTT.publishPacketMaxSize := by
  have hrem : publishRemaining qos topic MQTTRequest.messageMaxSize = 967 := by
    unfold publishRemaining
    rw [htopic, if_neg hqos]
    rfl
  unfold publishSize
  rw [hrem]
  rfl

end Size

/-! ## What is needed of the packet library -/

/-- `MQTTSerialize_publish` only fails for a packet that is longer than the
buffer. -/
def Paho.FailsOnlyWhenLong (paho : Paho) : Prop :=
  ∀ buflen dup qos retain packetId topic payload payloadLen,
    (paho.serializePublish buflen dup qos retain packetId topic payload payloadLen).1 ≤ 0 →
    buflen < publishSize qos topic payloadLen

theorem Paho.mqtt_failsOnlyWhenLong : Paho.mqtt.FailsOnlyWhenLong := by
  intro buflen dup qos retain packetId topic payload payloadLen hfails
  have hpacket : Paho.mqtt.serializePublish buflen dup qos retain packetId topic payload
      payloadLen = Paho.serialized buflen
        (publishEncoding dup qos retain packetId topic payload payloadLen) := rfl
  have hle := length_publishEncoding_le dup qos retain packetId topic payload payloadLen
  rw [hpacket] at hfails
  unfold Paho.serialized at hfails
  split at hfails
  · omega
  · -- a packet that fits has at least its header byte
    have hpos : 0 < (publishEncoding dup qos retain packetId topic payload payloadLen).length :=
      List.length_pos_iff.2 (List.cons_ne_nil _ _)
    omega

namespace GB4MQTT

variable {m m' : GB4MQTT} {paho : Paho} {env : Env}

/-- The serialiser takes every request that can be stored. -/
theorem publishPacket_pos (hpaho : paho.FailsOnlyWhenLong) {req : MQTTRequest}
    (h : req.Storable) : 0 < (publishPacket paho req).1 := by
  apply Int.lt_of_not_ge
  intro hfails
  exact absurd (publishSize_le req.qos h.length_le.2 h.message)
    (Nat.not_le.2 (hpaho _ _ _ _ _ _ _ _ hfails))

theorem sendPublishRequest_ne_packetError (hpaho : paho.FailsOnlyWhenLong)
    (h : m.mPublishRequest.Storable) (env : Env) :
    (m.sendPublishRequest paho env).1 ≠ .publishPacketError := by
  rcases m.sendPublishRequest_cases paho env with
    ⟨hfails, _⟩ | ⟨_, _, heq⟩ | ⟨_, _, result, status, _, hstatus, heq⟩
  · exact absurd (publishPacket_pos hpaho h) (Int.not_lt.2 hfails)
  · rw [heq]
    exact show Return.publishSent ≠ _ by decide
  · rw [heq]
    rcases hstatus with rfl | rfl
    · exact show Return.inProgress ≠ _ by decide
    · exact show Return.publishSocketError ≠ _ by decide

/-! ## Until the next `publish()` -/

theorem Storable.of_sameMessage {req req' : MQTTRequest} (h : req.Storable)
    (hsame : SameMessage req' req) : req'.Storable :=
  ⟨by rw [hsame.topic]; exact h.topic, by rw [hsame.messageLen]; exact h.message⟩

/-- The history grows, and no request is given up as too long. -/
def NeverTooLong (m m' : GB4MQTT) : Prop :=
  ∃ new, m'.radio.log = new ++ m.radio.log ∧ ∀ e ∈ new, e.isPublishPacketError = false

theorem NeverTooLong.trans {m₁ : GB4MQTT} (h : m.NeverTooLong m₁) (h' : m₁.NeverTooLong m') :
    m.NeverTooLong m' := by
  obtain ⟨new, hlog, hnew⟩ := h
  obtain ⟨new', hlog', hnew'⟩ := h'
  refine ⟨new' ++ new, by rw [hlog', hlog, List.append_assoc], fun e he => ?_⟩
  rcases List.mem_append.1 he with he | he
  · exact hnew' e he
  · exact hnew e he

theorem Quiet.neverTooLong (h : m.Quiet m') : m.NeverTooLong m' := by
  obtain ⟨new, hlog, hnew⟩ := h
  exact ⟨new, hlog, fun e he => Event.isPublishPacketError_of_isQuiet (hnew e he)⟩

/-- With a packet that the serialiser takes, `handlePublishRequests` leaves no
`PUBLISH_PACKET_ERROR`. -/
theorem Handled.neverTooLong {b : Bool} (h : Handled m paho env b m')
    (hpos : 0 < (publishPacket paho m.claimed.mPublishRequest).1) : m.NeverTooLong m' := by
  cases h with
  | packetError _ _ hfails => exact absurd hpos (Int.not_lt.2 hfails)
  | sent _ _ _ _ =>
    exact ⟨[.publishRequest _ .publishSent, .sendMessage _ _ _ _], rfl,
      by simp [Event.isPublishPacketError]⟩
  | refused _ _ _ _ _ hstatus =>
    refine ⟨[.publishRequest _ _, .sendMessage _ _ _ _], rfl, ?_⟩
    rcases hstatus with rfl | rfl <;> simp [Event.isPublishPacketError]
  | acknowledgedDisconnect _ _ _ _ =>
    obtain ⟨s, start, result, heq⟩ := m.finished.sendDisconnect_eq env
    rw [heq]
    exact ⟨[.sendMessage _ _ _ _], rfl, by simp [Event.isPublishPacketError]⟩
  | timeoutDisconnect _ _ _ _ _ =>
    obtain ⟨s, start, result, heq⟩ := m.sendDisconnect_eq env
    rw [heq]
    exact ⟨[.sendMessage _ _ _ _], rfl, by simp [Event.isPublishPacketError]⟩
  | _ => exact ⟨[], rfl, by simp⟩

theorem poll_neverTooLong (hpaho : paho.FailsOnlyWhenLong) (h : m.mPublishRequest.Storable)
    (env : Env) : m.NeverTooLong (m.poll paho env).2 := by
  cases m.poll_requestStep paho env with
  | left _ hl => exact hl.quiet.neverTooLong
  | listened _ _ hl => exact hl.quiet.neverTooLong
  | @handled _ d _ _ _ _ hl _ hhandled hafter =>
    have hpos : 0 < (publishPacket paho d.claimed.mPublishRequest).1 := by
      rw [hl.requestToSend]
      exact publishPacket_pos hpaho (Storable.of_sameMessage h (sameMessage_requestToSend _ _ _))
    exact (hl.quiet.neverTooLong.trans (hhandled.neverTooLong hpos)).trans
      hafter.quiet.neverTooLong

theorem neverTooLong_of_reach (hpaho : paho.FailsOnlyWhenLong) (h : m.mPublishRequest.Storable)
    (hreach : (untilPublish paho m).Reach m') :
    m'.mPublishRequest.Storable ∧ m.NeverTooLong m' := by
  refine hreach.invariant (fun m' => m'.mPublishRequest.Storable ∧ m.NeverTooLong m')
    (fun m₁ heq => ?_) fun m₁ c m₂ _ hkept hstep => ?_
  · rw [show m₁ = m from heq]
    exact ⟨h, [], rfl, by simp⟩
  · obtain ⟨hc, rfl⟩ := hstep
    cases c with
    | publish _ _ _ _ _ _ _ => exact absurd hc.symm Bool.false_ne_true
    | poll env =>
      exact ⟨Storable.of_sameMessage hkept.1 (m₁.poll_tries paho env).sameMessage,
        hkept.2.trans (poll_neverTooLong hpaho hkept.1 env)⟩
    | _ => exact hkept

/-- A request that can be stored fits its packet, `sendPublishRequest` does not
refuse it, and up to the next `publish()` it is never given up as too long. -/
theorem storable_fits (hpaho : paho.FailsOnlyWhenLong) (h : m.mPublishRequest.Storable) :
    let req := m.mPublishRequest
    (publishEncoding req.duplicate req.qos req.retain req.packetId req.topic req.message
        req.messageLen).length ≤ publishPacketMaxSize ∧
      (∀ env, (m.sendPublishRequest paho env).1 ≠ .publishPacketError) ∧
      ∀ m', (untilPublish paho m).Reach m' →
        (m.added m').any Event.isPublishPacketError = false := by
  refine ⟨?_, sendPublishRequest_ne_packetError hpaho h, fun m' hreach => ?_⟩
  · exact Nat.le_trans (length_publishEncoding_le _ _ _ _ _ _ _)
      (publishSize_le _ h.length_le.1 h.message)
  · obtain ⟨new, hlog, hnew⟩ := (neverTooLong_of_reach hpaho h hreach).2
    rw [added_eq new hlog, List.any_eq_false]
    intro e he
    rw [hnew e he]
    exact Bool.false_ne_true

/-- The longest request with an identifier. -/
def longestRequest : MQTTRequest :=
  { MQTTRequest.fresh (List.replicate 63 0x74 ++ [0]) (List.replicate 900 0x31) with
    topicLen := 63, messageLen := 900, qos := 1, readyToSend := true, active := true }

theorem storable_fits_longest :
    let m := (afterCalls []).setRequest longestRequest
    (publishEncoding 0 1 0 0 longestRequest.topic longestRequest.message 900).length ≤
        publishPacketMaxSize ∧
      (∀ env, (m.sendPublishRequest .mqtt env).1 ≠ .publishPacketError) ∧
      ∀ m', (untilPublish .mqtt m).Reach m' →
        (m.added m').any Event.isPublishPacketError = false :=
  @storable_fits ((afterCalls []).setRequest longestRequest) .mqtt Paho.mqtt_failsOnlyWhenLong
    ⟨⟨List.replicate 63 0x74, [], rfl, by decide⟩, by decide⟩

end GB4MQTT

end XBeeMqtt
