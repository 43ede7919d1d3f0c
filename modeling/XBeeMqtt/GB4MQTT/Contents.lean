import XBeeMqtt.GB4MQTT.Attempts

/-!
# The topic and the payload of a PUBLISH

`publish()` copies `topic_len` bytes of the topic and no terminator, and
`sendPublishRequest` hands the buffer to the serialiser as a C string.  So the
packet has the published topic exactly when the buffer happened to have a zero
behind it (`carriesContents_iff`); else what is left of an older topic follows.

What is needed of the packet library is `Paho.EncodesPublish`, and `Paho.mqtt`
has it.
-/

namespace XBeeMqtt

/-! ## Reading a PUBLISH -/

/-- The topic of a PUBLISH: two bytes of length, and that many bytes. -/
def publishTopic (packet : List UInt8) : List UInt8 :=
  match Paho.messageBody packet with
  | hi :: lo :: rest => rest.take (256 * hi.toNat + lo.toNat)
  | _ => []

/-- The payload behind the topic, and behind the identifier if there is one. -/
def publishPayload (qos : UInt8) (packet : List UInt8) : List UInt8 :=
  match Paho.messageBody packet with
  | hi :: lo :: rest => rest.drop (256 * hi.toNat + lo.toNat + if qos = 0 then 0 else 2)
  | _ => []

/-- A serialised PUBLISH has the topic up to its first zero, and the payload. -/
structure Paho.EncodesPublish (paho : Paho) : Prop where
  topic : ∀ dup qos retain packetId topic payload payloadLen,
    0 < (paho.serializePublish GB4MQTT.publishPacketMaxSize dup qos retain packetId topic payload
      payloadLen).1 →
    publishTopic (paho.serializePublish GB4MQTT.publishPacketMaxSize dup qos retain packetId
      topic payload payloadLen).2 = topic.takeWhile (· ≠ 0)
  payload : ∀ dup qos retain packetId topic payload payloadLen,
    0 < (paho.serializePublish GB4MQTT.publishPacketMaxSize dup qos retain packetId topic payload
      payloadLen).1 →
    publishPayload qos (paho.serializePublish GB4MQTT.publishPacketMaxSize dup qos retain
      packetId topic payload payloadLen).2 = payload.take payloadLen

namespace Paho

theorem messageBody_packetBytes {body : List UInt8} (h : body.length < 128 ^ 4)
    (header : UInt8) : messageBody (packetBytes header body) = body := by
  unfold messageBody packetBytes fixedHeader
  rw [List.cons_append, List.tail_cons, VarLength.decode_encode h]
  dsimp only
  rw [List.drop_left, List.take_length]

/-- A packet that was serialised is in the buffer as a whole. -/
theorem serialized_of_pos {buflen : Nat} {packet : List UInt8}
    (h : 0 < (serialized buflen packet).1) :
    (serialized buflen packet).2 = packet ∧ packet.length ≤ buflen := by
  unfold serialized at h ⊢
  split at h
  · exact absurd h (by decide)
  · rename_i hfits
    rw [if_neg hfits]
    exact ⟨rfl, Nat.le_of_not_lt hfits⟩

theorem length_le_packetBytes (header : UInt8) (body : List UInt8) :
    body.length ≤ (packetBytes header body).length := by
  unfold packetBytes
  rw [List.length_append]
  omega

/-- The two bytes in front of a C string are its length. -/
theorem stringField_eq {s : List UInt8} (h : (s.takeWhile (· ≠ 0)).length < 65536) :
    ∃ hi lo, stringField s = hi :: lo :: s.takeWhile (· ≠ 0) ∧
      256 * hi.toNat + lo.toNat = (s.takeWhile (· ≠ 0)).length := by
  refine ⟨_, _, rfl, ?_⟩
  rw [UInt8.toNat_ofNat', UInt8.toNat_ofNat']
  omega

section Mqtt

variable {buflen : Nat} {dup qos retain : UInt8} {packetId : UInt16} {topic payload : List UInt8}
  {payloadLen : Nat}

/-- A PUBLISH that fits a buffer of less than 2 ^ 16 bytes starts with its topic. -/
theorem mqtt_messageBody (hbuflen : buflen < 65536)
    (h : 0 < (mqtt.serializePublish buflen dup qos retain packetId topic payload payloadLen).1) :
    ∃ hi lo ids, ids.length = (if qos = 0 then 0 else 2) ∧
      256 * hi.toNat + lo.toNat = (topic.takeWhile (· ≠ 0)).length ∧
      messageBody
        (mqtt.serializePublish buflen dup qos retain packetId topic payload payloadLen).2 =
        hi :: lo :: (topic.takeWhile (· ≠ 0) ++ (ids ++ payload.take payloadLen)) := by
  obtain ⟨hpacket, hlen⟩ := serialized_of_pos h
  have hbody := Nat.le_trans (length_le_packetBytes _ _) hlen
  have hfield : (stringField topic).length = (topic.takeWhile (· ≠ 0)).length + 2 := rfl
  have hshort : (topic.takeWhile (· ≠ 0)).length < 65536 := by
    rw [List.length_append, List.length_append, hfield] at hbody
    omega
  obtain ⟨hi, lo, htopic, hcount⟩ := stringField_eq hshort
  refine ⟨hi, lo, if qos = 0 then [] else [(packetId >>> 8).toUInt8, packetId.toUInt8], ?_,
    hcount, ?_⟩
  · split <;> rfl
  · have hread := messageBody_packetBytes
      (Nat.lt_of_le_of_lt hbody (Nat.lt_trans hbuflen (by decide)))
      (0x30 + 8 * dup + 2 * qos + retain)
    refine (congrArg messageBody hpacket).trans (hread.trans ?_)
    rw [htopic, List.cons_append, List.cons_append, List.cons_append, List.cons_append,
      List.append_assoc]

theorem mqtt_encodesPublish : mqtt.EncodesPublish where
  topic := by
    intro dup qos retain packetId topic payload payloadLen h
    obtain ⟨hi, lo, ids, _, hcount, hbody⟩ := mqtt_messageBody (by decide) h
    unfold publishTopic
    rw [hbody]
    dsimp only
    rw [hcount, List.take_left]
  payload := by
    intro dup qos retain packetId topic payload payloadLen h
    obtain ⟨hi, lo, ids, hids, hcount, hbody⟩ := mqtt_messageBody (by decide) h
    unfold publishPayload
    rw [hbody]
    dsimp only
    rw [hcount, ← hids, ← List.drop_drop, List.drop_left, List.drop_left]

end Mqtt

end Paho

/-! ## What `publish()` copies -/

/-- A C string that starts with some bytes is these bytes exactly when a zero
follows them. -/
theorem takeWhile_append_eq_iff {bytes rest : List UInt8} (h : ∀ b ∈ bytes, b ≠ 0) :
    (bytes ++ rest).takeWhile (· ≠ 0) = bytes ↔ rest.headD 0 = 0 := by
  rw [List.takeWhile_append_of_pos fun b hb => decide_eq_true (h b hb)]
  cases rest with
  | nil => simp
  | cons b rest =>
    by_cases hb : b = 0
    · simp [hb]
    · simp [hb]

/-- `strncpy` of a string that has no zero in its first `n` bytes. -/
theorem strncpy_eq {dst src : List UInt8} {n : Nat} (hlen : n ≤ src.length)
    (h : ∀ b ∈ src.take n, b ≠ 0) : GB4XBee.strncpy dst src n = src.take n ++ dst.drop n := by
  have hsplit : src.takeWhile (· ≠ 0) = src.take n ++ (src.drop n).takeWhile (· ≠ 0) := by
    rw [← List.takeWhile_append_of_pos fun b hb => decide_eq_true (h b hb),
      List.take_append_drop]
  have hcopied : (src.takeWhile (· ≠ 0)).take n = src.take n := by
    rw [hsplit, List.take_left' (List.length_take_of_le hlen)]
  unfold GB4XBee.strncpy
  dsimp only
  rw [hcopied, List.length_take_of_le hlen, Nat.sub_self, List.replicate_zero, List.append_nil]

namespace GB4MQTT

variable {m m' : GB4MQTT} {paho : Paho}

/-- A packet has the given topic and payload. -/
structure CarriesContents (paho : Paho) (req : MQTTRequest) (topic message : List UInt8) :
    Prop where
  topic : publishTopic (publishPacket paho req).2 = topic
  payload : publishPayload req.qos (publishPacket paho req).2 = message

/-- Every PUBLISH that is serialised for a request, up to the next `publish()`, has
the topic and the message that were published, exactly when the topic buffer had
a zero behind the new topic. -/
theorem carriesContents_iff (henc : paho.EncodesPublish) {topic message : List UInt8}
    {topicLen messageLen : Nat} (htopic : topicLen ≤ topic.length)
    (hnul : ∀ b ∈ topic.take topicLen, b ≠ 0) (hmessage : messageLen ≤ message.length)
    (htopicMax : topicLen < MQTTRequest.topicMaxSize)
    (hmessageMax : messageLen ≤ MQTTRequest.messageMaxSize)
    (qos : UInt8) (disconnect : Bool) (now : UInt32)
    (h : (untilPublish paho
      (m.publish topic topicLen message messageLen qos disconnect now).2).Reach m')
    {req : MQTTRequest} (hreq : req ∈ attempts m'.radio.log)
    (hlen : 0 < (publishPacket paho req).1) :
    CarriesContents paho req (topic.take topicLen) (message.take messageLen) ↔
      m.mPublishRequest.topic.getD topicLen 0 = 0 := by
  have hsame :=
    ((stored_publish m topic topicLen message messageLen qos disconnect now).of_reach h).attempts
      req hreq
  have hbuffer : req.topic = topic.take topicLen ++
      (m.mPublishRequest.topic.take MQTTRequest.topicMaxSize).drop topicLen :=
    hsame.topic.trans (strncpy_eq htopic hnul)
  have hcount : (topic.take topicLen).length = topicLen := List.length_take_of_le htopic
  obtain ⟨behind, hmemory, hbehind⟩ := req.topicMemory_append hbuffer (by rwa [hcount])
  have hnext : behind.headD 0 = m.mPublishRequest.topic.getD topicLen 0 := by
    rw [hbehind, List.headD_eq_head?_getD, List.head?_drop, List.getElem?_take_of_lt htopicMax,
      List.getD_eq_getElem?_getD]
  have hread : publishTopic (publishPacket paho req).2 = topic.take topicLen ↔
      m.mPublishRequest.topic.getD topicLen 0 = 0 := by
    rw [publishPacket, henc.topic _ _ _ _ _ _ _ hlen, hmemory, takeWhile_append_eq_iff hnul, hnext]
  have hmessage' : req.messageMemory.take req.messageLen = message.take messageLen := by
    rw [hsame.messageLen]
    refine (req.messageMemory_take hmessageMax).trans ?_
    rw [hsame.message]
    exact List.take_left' (List.length_take_of_le hmessage)
  constructor
  · intro hcarries
    exact hread.1 hcarries.topic
  · intro hzero
    refine ⟨hread.2 hzero, ?_⟩
    rw [publishPacket, henc.payload _ _ _ _ _ _ _ hlen, hmessage']

/-- The calls that bring a begun object with a request to its first send. -/
def sendCalls : List Call := startupCalls ++ sessionCalls 26000 ++ [pollAt 28000 []]

theorem reach_untilPublish {calls : List Call}
    (h : Transition.Accepted (fun _ c => c.isPublish = false) (call paho) m calls) :
    (untilPublish paho m).Reach (Transition.replay (call paho) m calls) :=
  Transition.reach_replay calls (.init rfl) h

/-- The first topic of an object on cleared memory. -/
theorem carriesContents_first :
    let m := afterCalls []
    let m₁ := (m.publish [0x74] 1 [0x31] 1 1 false 0).2
    let m' := Transition.replay (call .mqtt) m₁ sendCalls
    ∃ req ∈ attempts m'.radio.log, CarriesContents .mqtt req [0x74] [0x31] := by
  intro m m₁ m'
  have hreach : (untilPublish .mqtt m₁).Reach m' := reach_untilPublish (by decide +kernel)
  have hreq : (attempts m'.radio.log).headD default ∈ attempts m'.radio.log := by
    decide +kernel
  refine ⟨_, hreq, ?_⟩
  exact (carriesContents_iff Paho.mqtt_encodesPublish (by decide) (by simp) (by decide) (by decide)
    (by decide) 1 false 0 hreach hreq (by decide +kernel)).2 (by decide +kernel)

/-- After the topic `tt`, a request for the topic `t` is sent with the topic
`tt`. -/
theorem not_carriesContents : ¬∀ (paho : Paho) (m m' : GB4MQTT) (topic message : List UInt8)
    (topicLen messageLen : Nat) (qos : UInt8) (disconnect : Bool) (now : UInt32)
    (req : MQTTRequest), paho.EncodesPublish → (system paho).Reach m →
    topicLen ≤ topic.length → (∀ b ∈ topic.take topicLen, b ≠ 0) →
    topicLen < MQTTRequest.topicMaxSize → messageLen ≤ message.length →
    messageLen ≤ MQTTRequest.messageMaxSize →
    (untilPublish paho
      (m.publish topic topicLen message messageLen qos disconnect now).2).Reach m' →
    req ∈ attempts m'.radio.log → 0 < (publishPacket paho req).1 →
    CarriesContents paho req (topic.take topicLen) (message.take messageLen) := by
  intro h
  let m := afterCalls [.publish [0x74, 0x74] 2 [0x31] 1 1 false 0]
  let m' := Transition.replay (call .mqtt) (m.publish [0x74] 1 [0x31] 1 1 false 0).2 sendCalls
  have hcarries := h .mqtt m m' [0x74] [0x31] 1 1 1 false 0
    ((attempts m'.radio.log).headD default) Paho.mqtt_encodesPublish (reach_afterCalls _)
    (by decide) (by simp) (by decide) (by decide) (by decide)
    (reach_untilPublish (by decide +kernel)) (by decide +kernel) (by decide +kernel)
  exact absurd hcarries.topic (by decide +kernel)

end GB4MQTT

end XBeeMqtt
