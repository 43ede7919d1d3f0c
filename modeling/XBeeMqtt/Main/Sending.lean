import XBeeMqtt.GB4MQTT.Retries
import XBeeMqtt.Main.Reports

/-!
# What becomes of a published array

`main` publishes with `disconnect`, so the session tries an array once at most, and it may
be replaced by the next one before that.

* `tried_of_reach`: what is tried are published arrays, in their order, each once at most.
* `fitsPacket_of_reach`: the session never refuses one of them as too long.
-/

namespace XBeeMqtt

namespace GB4MQTT

variable {m m' : GB4MQTT} {paho : Paho} {env : Env}

/-- A request that is not active is left alone. -/
theorem Tries.quiet_of_inactive (h : Tries m paho env m')
    (hidle : m.mPublishRequest.active = false) : m.Quiet m' := by
  cases h with
  | left hl => exact hl.quiet
  | ended hactive _ _ => exact absurd (hidle.symm.trans hactive) Bool.false_ne_true
  | retried hactive _ _ _ _ _ => exact absurd (hidle.symm.trans hactive) Bool.false_ne_true
  | attempted hactive _ _ _ => exact absurd (hidle.symm.trans hactive) Bool.false_ne_true

/-- Only `publish()` makes it active. -/
theorem Tries.active_of_active (h : Tries m paho env m')
    (hactive : m'.mPublishRequest.active = true) : m.mPublishRequest.active = true := by
  cases h with
  | left hl =>
    rw [hl.request] at hactive
    exact hactive
  | ended hbefore _ _ => exact hbefore
  | retried hbefore _ _ _ _ _ => exact hbefore
  | attempted hbefore _ _ _ => exact hbefore

end GB4MQTT

open GB4MQTT

namespace Main

/-- The requests that `sendPublishRequest` was called for, the newest first. -/
def attempted (log : List Event) : List MQTTRequest := log.filterMap Event.attempt?

/-- The bytes that were read for their payloads. -/
def tried (log : List Event) : List (List UInt8) := (attempted log).map MQTTRequest.sentMessage

section Session

variable {m m' : GB4MQTT} {paho : Paho} {env : Env}

theorem attempted_append {new log : List Event} (hnew : ∀ e ∈ new, e.isQuiet = true) :
    attempted (new ++ log) = attempted log := by
  unfold attempted
  rw [List.filterMap_append, List.filterMap_eq_nil_iff.2 fun e he =>
    Event.attempt?_of_isQuiet (hnew e he), List.nil_append]

theorem attempted_quiet (h : m.Quiet m') : attempted m'.radio.log = attempted m.radio.log := by
  obtain ⟨new, hlog, hnew⟩ := h
  rw [hlog, attempted_append hnew]

theorem attempted_attempt {req : MQTTRequest} {status : Return}
    (h : Attempt paho m req status m') :
    attempted m'.radio.log = req :: attempted m.radio.log := by
  obtain ⟨new, old, hlog, hnew, hold, _⟩ := h
  rw [hlog, attempted_append hnew]
  show req :: attempted (old ++ m.radio.log) = _
  rw [attempted_append hold]

theorem tried_quiet (h : m.Quiet m') : tried m'.radio.log = tried m.radio.log :=
  congrArg (List.map MQTTRequest.sentMessage) (attempted_quiet h)

theorem tried_attempt {req : MQTTRequest} {status : Return} (h : Attempt paho m req status m') :
    tried m'.radio.log = req.sentMessage :: tried m.radio.log :=
  congrArg (List.map MQTTRequest.sentMessage) (attempted_attempt h)

theorem payload_of_sameMessage {req req' : MQTTRequest} (h : SameMessage req' req) :
    payload req' = payload req := by
  unfold payload
  rw [h.message, h.messageLen]

/-- A message that fits its array is read as it was stored. -/
theorem sentMessage_of_sameMessage {req req' : MQTTRequest} (h : SameMessage req' req)
    (hlen : req.messageLen ≤ MQTTRequest.messageMaxSize) : req'.sentMessage = payload req := by
  have hread : req'.sentMessage = payload req' :=
    MQTTRequest.messageMemory_take (by rwa [h.messageLen])
  rw [hread, payload_of_sameMessage h]

/-- Every try is for another message, and the stored request is the newest message, which is
not tried as long as it is ready to send. -/
structure TriedOnce (m : GB4MQTT) : Prop where
  sublist : (tried m.radio.log).Sublist (messages m.radio.log)
  stored : m.mPublishRequest.active = true → m.mPublishRequest.disconnect = true ∧
    m.mPublishRequest.messageLen ≤ MQTTRequest.messageMaxSize ∧ ∃ earlier, messages m.radio.log = payload m.mPublishRequest :: earlier ∧
      (m.mPublishRequest.readyToSend = true → (tried m.radio.log).Sublist earlier)

theorem TriedOnce.tries (h : TriedOnce m) (ht : Tries m paho env m')
    (hmessages : messages m'.radio.log = messages m.radio.log) : TriedOnce m' := by
  have hsame := ht.sameMessage
  cases ht with
  | left hl =>
    refine ⟨?_, fun hactive => ?_⟩
    · rw [tried_quiet hl.quiet, hmessages]
      exact h.sublist
    · rw [hl.request] at hactive
      obtain ⟨hdis, hlen, earlier, hstored, hready⟩ := h.stored hactive
      refine ⟨hsame.disconnect.trans hdis, by rwa [hsame.messageLen], earlier, ?_,
        fun hready' => ?_⟩
      · rw [hmessages, payload_of_sameMessage hsame, hstored]
      · rw [hl.request] at hready'
        rw [tried_quiet hl.quiet]
        exact hready hready'
  | ended _ hquiet hreq =>
    refine ⟨?_, fun hactive => ?_⟩
    · rw [tried_quiet hquiet, hmessages]
      exact h.sublist
    · rw [hreq] at hactive
      exact absurd hactive Bool.false_ne_true
  | retried hactive _ hnot _ _ _ =>
    exact absurd (hnot.symm.trans (h.stored hactive).1) Bool.false_ne_true
  | @attempted ack status _ hactive hready hattempt hreq =>
    obtain ⟨hdis, hlen, earlier, hstored, hnot⟩ := h.stored hactive
    refine ⟨?_, fun _ => ⟨hsame.disconnect.trans hdis, by rwa [hsame.messageLen], earlier, ?_,
      fun hready' => ?_⟩⟩
    · -- the stored message is the newest one, and it was not tried before
      have hread : ({ m.acknowledged ack with readyToSend := false } : MQTTRequest).sentMessage =
          payload m.mPublishRequest :=
        sentMessage_of_sameMessage ⟨rfl, rfl, rfl, rfl, rfl, rfl, rfl, rfl⟩ hlen
      rw [tried_attempt hattempt, hread, hmessages, hstored]
      exact (hnot hready).cons_cons _
    · rw [hmessages, payload_of_sameMessage hsame, hstored]
    · rw [hreq, (answered_tries _ status env).2] at hready'
      exact absurd hready' Bool.false_ne_true

theorem TriedOnce.poll (h : TriedOnce m) (paho : Paho) (env : Env) :
    TriedOnce (m.poll paho env).2 :=
  h.tries (m.poll_tries paho env) (messages_poll m paho env)

/-- A new message, with nothing tried for it. -/
theorem TriedOnce.publish (h : TriedOnce m) (topic : List UInt8) (topicLen : Nat)
    (message : List UInt8) {messageLen : Nat} (hle : messageLen ≤ MQTTRequest.messageMaxSize)
    (qos : UInt8) (now : UInt32) :
    TriedOnce (m.publish topic topicLen message messageLen qos true now).2 :=
  ⟨h.sublist.cons _, fun _ => ⟨rfl, hle, _, rfl, fun _ => h.sublist⟩⟩

end Session

variable {s : Main} {paho : Paho}

/-- The induction rule for the session of `main`: what holds of a session without a request
and a history, and is kept by a poll and by what `main` publishes, always holds. -/
theorem session_invariant (P : GB4MQTT → Prop)
    (h0 : ∀ m, m.radio.log = [] → m.mPublishRequest.active = false → P m)
    (hpoll : ∀ m env, P m → P (m.poll paho env).2)
    (hpublish : ∀ m message messageLen now, messageLen ≤ MQTTRequest.messageMaxSize → P m →
      P (m.publish topic topicSize message messageLen 1 true now).2)
    (h : (system paho).Reach s) : P s.mqtt := by
  refine h.invariant (fun s => P s.mqtt) (fun s hstarted => ?_) fun s i s' hreach hs hstep => ?_
  · obtain ⟨mem, status, now, rfl⟩ := hstarted
    obtain ⟨hlog, hreq⟩ := begin_eq (GB4MQTT.construct mem args) status
    refine h0 _ hlog ?_
    show ((GB4MQTT.construct mem args).begin status).2.mPublishRequest.active = false
    rw [hreq]
    rfl
  · obtain ⟨hfits, rfl⟩ := hstep
    have hinv := Inv.of_reach hreach
    have hloop := loop_step hinv.cnt_ne paho i
    generalize loop paho s i = s' at hloop ⊢
    cases hloop with
    | idle _ => exact hpoll _ i.env hs
    | added _ _ => exact hpoll _ i.env hs
    | published _ _ =>
      exact hpoll _ i.env (hpublish _ _ _ _ (hinv.reportIndex_le hfits) hs)

theorem TriedOnce.of_reach (h : (system paho).Reach s) : TriedOnce s.mqtt := by
  refine session_invariant TriedOnce (fun m hlog hidle => ⟨?_, fun hactive => ?_⟩)
    (fun m env h => h.poll paho env) (fun m message _ now hle h => h.publish topic topicSize message hle 1 now) h
  · rw [hlog]
    exact .slnil
  · exact absurd (hidle.symm.trans hactive) Bool.false_ne_true

/-- The payloads that the session was made to send are messages that `main` published: they
come in the same order, each of them once at most, and byte by byte as they were published. -/
theorem tried_of_reach (h : (system paho).Reach s) :
    (tried s.mqtt.radio.log).Sublist (messages s.mqtt.radio.log) :=
  (TriedOnce.of_reach h).sublist

/-! ## The packet -/

section Session

variable {m m' : GB4MQTT} {env : Env}

/-- No request was refused as too long, and the stored one will not be. -/
structure FitsPacket (m : GB4MQTT) : Prop where
  log : ∀ e ∈ m.radio.log, e.isPublishPacketError = false
  stored : m.mPublishRequest.active = true → m.mPublishRequest.Storable

theorem FitsPacket.poll (hpaho : paho.FailsOnlyWhenLong) (h : FitsPacket m) (env : Env) :
    FitsPacket (m.poll paho env).2 := by
  have htries := m.poll_tries paho env
  have hstep : m.NeverTooLong (m.poll paho env).2 := by
    cases hactive : m.mPublishRequest.active with
    | true => exact poll_neverTooLong hpaho (h.stored hactive) env
    | false => exact (htries.quiet_of_inactive hactive).neverTooLong
  obtain ⟨new, hlog, hnew⟩ := hstep
  refine ⟨fun e he => ?_, fun hactive => ?_⟩
  · rw [hlog] at he
    exact (List.mem_append.1 he).elim (hnew e) (h.log e)
  · exact Storable.of_sameMessage (h.stored (htries.active_of_active hactive))
      htries.sameMessage

/-- `topicSize` leaves room for one zero. -/
theorem strncpy_topic (array : List UInt8) : GB4XBee.strncpy array topic topicSize =
    topic ++ 0 :: array.drop topicSize := by
  show topic ++ [0] ++ array.drop topicSize = _
  rw [List.append_assoc, List.singleton_append]

theorem FitsPacket.publish (h : FitsPacket m) {messageLen : Nat}
    (hle : messageLen ≤ MQTTRequest.messageMaxSize) (message : List UInt8) (now : UInt32) :
    FitsPacket (m.publish topic topicSize message messageLen 1 true now).2 := by
  refine ⟨fun e he => ?_, fun _ => ⟨⟨topic, _, strncpy_topic _, by decide⟩, hle⟩⟩
  rcases List.mem_cons.1 he with rfl | he
  · rfl
  · exact h.log e he

end Session

/-- The session never gives up what `main` publishes because it is too long for its packet.
What is needed of the packet library is that it only fails for that reason. -/
theorem fitsPacket_of_reach (hpaho : paho.FailsOnlyWhenLong) (h : (system paho).Reach s) :
    s.mqtt.radio.log.any Event.isPublishPacketError = false := by
  suffices hfits : FitsPacket s.mqtt by
    rw [List.any_eq_false]
    intro e he
    rw [hfits.log e he]
    exact Bool.false_ne_true
  refine session_invariant FitsPacket (fun m hlog hidle => ⟨?_, fun hactive => ?_⟩)
    (fun m env h => h.poll hpaho env) (fun m message _ now hle h => h.publish hle message now) h
  · rw [hlog]
    exact List.forall_mem_nil _
  · exact absurd (hidle.symm.trans hactive) Bool.false_ne_true

/-- A round in which no report is due. -/
def idleInput : Call → Input
  | .poll env => { now := 60006, delayStart := 60006, env := env }
  | _ => {}

/-- Six reports, and rounds in which the radio starts up and the session connects. -/
def afterSession : Main :=
  Transition.replay (loop .mqtt) (afterRounds 6)
    ((startupCalls ++ sessionCalls 26000 ++ [pollAt 28000 []]).map idleInput)

theorem reach_afterSession : (system .mqtt).Reach afterSession :=
  Transition.reach_replay _ (reach_afterRounds 6) (by decide +kernel)

/-- The array is tried. -/
theorem tried_session : tried afterSession.mqtt.radio.log ≠ [] ∧
    (tried afterSession.mqtt.radio.log).Sublist (messages afterSession.mqtt.radio.log) :=
  ⟨by decide +kernel, tried_of_reach reach_afterSession⟩

/-- It was published, and it is not given up. -/
theorem fitsPacket_session : messages afterSession.mqtt.radio.log ≠ [] ∧
    afterSession.mqtt.radio.log.any Event.isPublishPacketError = false :=
  ⟨by decide +kernel, fitsPacket_of_reach Paho.mqtt_failsOnlyWhenLong reach_afterSession⟩

end Main

end XBeeMqtt
