import XBeeMqtt.GB4MQTT.Buffers
import XBeeMqtt.GB4MQTT.Contents
import XBeeMqtt.GB4MQTT.Redelivery
import XBeeMqtt.Main.Sending

/-!
# What goes over the air

A PUBLISH of `main` byte by byte, from the reports down to the buffer that the radio sends.

* `packet` is the PUBLISH of an array; `FromMain` is what the session knows of it.
* `wire_of_reach`: whenever the session reports that it sent a request, the radio has just
  sent the packet of an array of six reports.
-/

namespace XBeeMqtt

/-- `MQTTSerialize_publish` writes the packet of the protocol if it fits the buffer. -/
def Paho.WritesPublish (paho : Paho) : Prop :=
  ∀ buflen dup qos retain packetId topic payload payloadLen,
    publishSize qos topic payloadLen ≤ buflen →
    let bytes := publishEncoding dup qos retain packetId topic payload payloadLen
    paho.serializePublish buflen dup qos retain packetId topic payload payloadLen =
      ((bytes.length : Int), bytes)

theorem Paho.mqtt_writesPublish : Paho.mqtt.WritesPublish := by
  intro buflen dup qos retain packetId topic payload payloadLen hfits
  have hle := length_publishEncoding_le dup qos retain packetId topic payload payloadLen
  exact if_neg (Nat.not_lt.2 (Nat.le_trans hle hfits))

open GB4MQTT

namespace Main

/-- The PUBLISH of a message, with QoS 1 and without a flag. -/
def packet (packetId : UInt16) (message : List UInt8) : List UInt8 :=
  packetBytes 0x32 <|
    0x00 :: 0x21 :: topic ++ [(packetId >>> 8).toUInt8, packetId.toUInt8] ++ message

/-- A request as `main` publishes it. -/
structure FromMain (req : MQTTRequest) : Prop where
  topic : ∃ rest, req.topic = topic ++ 0 :: rest
  qos : req.qos = 1
  retain : req.retain = 0
  duplicate : req.duplicate = 0
  disconnect : req.disconnect = true
  messageLen : req.messageLen ≤ MQTTRequest.messageMaxSize

theorem FromMain.of_sameMessage {req req' : MQTTRequest} (h : FromMain req)
    (hsame : SameMessage req' req) (hdup : req'.duplicate = req.duplicate) : FromMain req' where
  topic := by rw [hsame.topic]; exact h.topic
  qos := hsame.qos.trans h.qos
  retain := hsame.retain.trans h.retain
  duplicate := hdup.trans h.duplicate
  disconnect := hsame.disconnect.trans h.disconnect
  messageLen := by rw [hsame.messageLen]; exact h.messageLen

theorem FromMain.storable {req : MQTTRequest} (h : FromMain req) : req.Storable := by
  obtain ⟨rest, htopic⟩ := h.topic
  exact ⟨⟨Main.topic, rest, htopic, by decide⟩, h.messageLen⟩

/-- The library is given the packet of the message. -/
theorem FromMain.publishEncoding {req : MQTTRequest} (h : FromMain req) :
    XBeeMqtt.publishEncoding req.duplicate req.qos req.retain req.packetId req.topicMemory
      req.messageMemory req.messageLen = packet req.packetId (payload req) := by
  obtain ⟨rest, htopic⟩ := h.topic
  have hall : ∀ b ∈ Main.topic, b ≠ 0 := fun b hb => of_decide_eq_true
    (List.all_eq_true.1 (show Main.topic.all (fun b => decide (b ≠ 0)) = true by decide) b hb)
  have hstring : Paho.stringField req.topicMemory = 0x00 :: 0x21 :: Main.topic := by
    obtain ⟨behind, hmemory, hbehind⟩ := req.topicMemory_append htopic (by decide)
    unfold Paho.stringField
    rw [hmemory, (takeWhile_append_eq_iff hall).2 hbehind]
    rfl
  unfold XBeeMqtt.publishEncoding packet payload
  rw [hstring, req.messageMemory_take h.messageLen, h.qos, h.retain, h.duplicate]
  rfl

theorem FromMain.publishSize_le {req : MQTTRequest} (h : FromMain req) :
    publishSize req.qos req.topicMemory req.messageLen ≤ publishPacketMaxSize :=
  XBeeMqtt.publishSize_le req.qos h.storable.length_le.2 h.messageLen

theorem FromMain.publishPacket {paho : Paho} (hpaho : paho.WritesPublish) {req : MQTTRequest}
    (h : FromMain req) : GB4MQTT.publishPacket paho req =
      (((packet req.packetId (payload req)).length : Int), packet req.packetId (payload req)) := by
  rw [← h.publishEncoding]
  exact hpaho _ _ _ _ _ _ _ _ h.publishSize_le

/-- With `disconnect` the DUP flag stays clear. -/
theorem answered_duplicate {req : MQTTRequest} (h : req.disconnect = true) (status : Return)
    (env : Env) : (answered req status env).duplicate = req.duplicate := by
  have hkeeps : ¬req.disconnect = false := fun hnot => Bool.false_ne_true (hnot.symm.trans h)
  unfold answered sentRequest
  split
  · split
    · rfl
    · split
      · rename_i hzero
        exact hzero.symm
      · rfl
  · rfl
  · rfl

section Session

variable {m m' : GB4MQTT} {paho : Paho} {env : Env}

/-- What `main` published is stored and was tried, and the radio sent what it reported. -/
structure Wired (paho : Paho) (m : GB4MQTT) : Prop where
  stored : m.mPublishRequest.active = true →
    FromMain m.mPublishRequest ∧ payload m.mPublishRequest ∈ messages m.radio.log
  attempts : ∀ req ∈ attempted m.radio.log, FromMain req ∧ payload req ∈ messages m.radio.log
  carried : Carried paho m.radio.log

theorem Wired.tries (h : Wired paho m) (ht : Tries m paho env m')
    (hmessages : messages m'.radio.log = messages m.radio.log) : Wired paho m' := by
  have hsame := ht.sameMessage
  have hpayload := payload_of_sameMessage hsame
  cases ht with
  | left hl =>
    refine ⟨fun hactive => ?_, ?_, ?_⟩
    · have hreq := hl.request
      rw [hreq] at hactive
      obtain ⟨hmain, hmem⟩ := h.stored hactive
      rw [hpayload, hmessages]
      exact ⟨hmain.of_sameMessage hsame (by rw [hreq]), hmem⟩
    · rw [attempted_quiet hl.quiet, hmessages]
      exact h.attempts
    · obtain ⟨new, hlog, hnew⟩ := hl.quiet
      rw [hlog]
      exact h.carried.append hnew
  | ended _ hquiet hreq =>
    refine ⟨fun hactive => ?_, ?_, ?_⟩
    · rw [hreq] at hactive
      exact absurd hactive Bool.false_ne_true
    · rw [attempted_quiet hquiet, hmessages]
      exact h.attempts
    · obtain ⟨new, hlog, hnew⟩ := hquiet
      rw [hlog]
      exact h.carried.append hnew
  | retried hactive _ hnot _ _ _ =>
    exact absurd (hnot.symm.trans (h.stored hactive).1.disconnect) Bool.false_ne_true
  | @attempted ack status _ hactive _ hattempt hreq =>
    obtain ⟨hmain, hmem⟩ := h.stored hactive
    refine ⟨fun _ => ?_, ?_, hattempt.carried h.carried⟩
    · have hdup : m'.mPublishRequest.duplicate = m.mPublishRequest.duplicate := by
        rw [hreq]
        exact answered_duplicate
          (show ({ m.acknowledged ack with readyToSend := false } : MQTTRequest).disconnect = true
            from hmain.disconnect) status env
      rw [hpayload, hmessages]
      exact ⟨hmain.of_sameMessage hsame hdup, hmem⟩
    · rw [attempted_attempt hattempt, hmessages]
      refine List.forall_mem_cons.2 ⟨⟨?_, hmem⟩, h.attempts⟩
      exact hmain.of_sameMessage ⟨rfl, rfl, rfl, rfl, rfl, rfl, rfl, rfl⟩ rfl

theorem Wired.poll (h : Wired paho m) (env : Env) : Wired paho (m.poll paho env).2 :=
  h.tries (m.poll_tries paho env) (messages_poll m paho env)

theorem Wired.publish (h : Wired paho m) {messageLen : Nat}
    (hle : messageLen ≤ MQTTRequest.messageMaxSize) (message : List UInt8) (now : UInt32) :
    Wired paho (m.publish topic topicSize message messageLen 1 true now).2 := by
  refine ⟨fun _ => ⟨⟨⟨_, strncpy_topic _⟩, rfl, rfl, rfl, rfl, hle⟩, List.mem_cons_self⟩,
    fun req hreq => ?_, ⟨fun req heq => ?_, h.carried⟩⟩
  · obtain ⟨hmain, hmem⟩ := h.attempts req hreq
    exact ⟨hmain, List.mem_cons_of_mem _ hmem⟩
  · exact absurd heq (by simp)

end Session

variable {s : Main} {paho : Paho}

theorem Wired.of_reach (h : (system paho).Reach s) : Wired paho s.mqtt := by
  refine session_invariant (Wired paho) (fun m hlog hidle => ⟨fun hactive => ?_, ?_, ?_⟩)
    (fun m env h => h.poll env) (fun m message _ now hle h => h.publish hle message now) h
  · exact absurd (hidle.symm.trans hactive) Bool.false_ne_true
  · rw [hlog]
    exact List.forall_mem_nil _
  · rw [hlog]
    exact trivial

/-- Whenever the session has reported a request as sent, the radio has sent just before that,
in the connected state, the PUBLISH of an array of six reports that `main` published. -/
theorem wire_of_reach (hpaho : paho.WritesPublish) (h : (system paho).Reach s)
    {new past : List Event} {req : MQTTRequest}
    (hlog : s.mqtt.radio.log = new ++ .publishRequest req .publishSent :: past) :
    ∃ reports : List (List UInt8), reports.length = numberOfReports ∧
      jsonArray reports ∈ messages s.mqtt.radio.log ∧
      past.head? = some (.sendMessage .connected (packet req.packetId (jsonArray reports))
        (packet req.packetId (jsonArray reports)).length .messageSent) := by
  obtain ⟨_, hattempts, hcarried⟩ := Wired.of_reach h
  obtain ⟨batches, _, hbatches, _⟩ := Inv.of_reach h
  have hreq : req ∈ attempted s.mqtt.radio.log := by
    rw [hlog]
    exact List.mem_filterMap.2 ⟨_, List.mem_append_right _ List.mem_cons_self, rfl⟩
  obtain ⟨hmain, hmem⟩ := hattempts req hreq
  obtain ⟨batch, hbatch, hpayload⟩ : ∃ batch ∈ batches, jsonArray batch = payload req := by
    rw [← List.mem_map, ← hbatches.published]
    exact List.mem_reverse.2 hmem
  have hsize : (packet req.packetId (jsonArray batch)).length < 2 ^ 32 := by
    have hle := Nat.le_trans (length_publishEncoding_le req.duplicate req.qos req.retain
      req.packetId req.topicMemory req.messageMemory req.messageLen) hmain.publishSize_le
    have hmax : publishPacketMaxSize = 970 := rfl
    rw [hmain.publishEncoding, ← hpayload] at hle
    omega
  refine ⟨batch, hbatches.full batch hbatch, by rw [hpayload]; exact hmem, ?_⟩
  rw [hlog] at hcarried
  have hsent := (History.Always.of_append hcarried).1 req rfl
  unfold Carries at hsent
  rw [hmain.publishPacket hpaho, ← hpayload, sizeT_of_nat hsize] at hsent
  exact hsent

/-- The array of the six rounds, as it was sent. -/
theorem wire_session :
    ∃ new past req, afterSession.mqtt.radio.log = new ++ .publishRequest req .publishSent :: past ∧
      ∃ reports : List (List UInt8), reports.length = numberOfReports ∧
        jsonArray reports ∈ messages afterSession.mqtt.radio.log ∧
        past.head? = some (.sendMessage .connected (packet req.packetId (jsonArray reports))
          (packet req.packetId (jsonArray reports)).length .messageSent) := by
  have hsent : ∃ e ∈ afterSession.mqtt.radio.log, e.isPublishSent = true :=
    List.any_eq_true.1 (by decide +kernel)
  obtain ⟨e, he, hsent⟩ := hsent
  obtain ⟨new, past, hlog⟩ := List.append_of_mem he
  cases e with
  | publishRequest req status =>
    cases status with
    | publishSent =>
      exact ⟨new, past, req, hlog,
        wire_of_reach Paho.mqtt_writesPublish reach_afterSession hlog⟩
    | _ => exact absurd hsent Bool.false_ne_true
  | _ => exact absurd hsent Bool.false_ne_true

end Main

end XBeeMqtt
