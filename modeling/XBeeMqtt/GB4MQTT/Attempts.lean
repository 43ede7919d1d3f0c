import XBeeMqtt.GB4MQTT.Loss

/-!
# The attempts to send a request

The history since the last `publish()` holds every call of `sendPublishRequest`
(`attempts`) and those that succeeded (`transmissions`).

`Tries` is what one poll can do to the stored request and to these two.  From it
follows `Stored`: between two calls of `publish()`, only the request of the first
one is ever sent, and its contents stay as they were published.
-/

namespace XBeeMqtt

open History

/-- The fields that only `publish()` writes are the same. -/
structure SameMessage (a b : MQTTRequest) : Prop where
  packetId : a.packetId = b.packetId
  topic : a.topic = b.topic
  topicLen : a.topicLen = b.topicLen
  message : a.message = b.message
  messageLen : a.messageLen = b.messageLen
  qos : a.qos = b.qos
  retain : a.retain = b.retain
  disconnect : a.disconnect = b.disconnect

theorem SameMessage.refl (a : MQTTRequest) : SameMessage a a :=
  ⟨rfl, rfl, rfl, rfl, rfl, rfl, rfl, rfl⟩

theorem SameMessage.trans {a b c : MQTTRequest} (h : SameMessage a b) (h' : SameMessage b c) :
    SameMessage a c where
  packetId := h.packetId.trans h'.packetId
  topic := h.topic.trans h'.topic
  topicLen := h.topicLen.trans h'.topicLen
  message := h.message.trans h'.message
  messageLen := h.messageLen.trans h'.messageLen
  qos := h.qos.trans h'.qos
  retain := h.retain.trans h'.retain
  disconnect := h.disconnect.trans h'.disconnect

/-- And the same bytes are read for a PUBLISH. -/
structure SameContents (a b : MQTTRequest) : Prop extends SameMessage a b where
  sentTopic : a.sentTopic = b.sentTopic
  sentMessage : a.sentMessage = b.sentMessage

/-- A message that lies in its array is read as it was copied, whatever became of
the members behind it. -/
theorem SameMessage.contents {a b : MQTTRequest} (h : SameMessage a b)
    (hlen : b.message.length ≤ MQTTRequest.messageMaxSize) : SameContents a b := by
  have hmessage : a.messageMemory = b.messageMemory := by
    rw [MQTTRequest.messageMemory_eq hlen, MQTTRequest.messageMemory_eq (by rwa [h.message]),
      h.message]
  have htopic : a.topicMemory = b.topicMemory := by
    unfold MQTTRequest.topicMemory
    rw [h.topic, h.topicLen, hmessage]
  refine ⟨h, ?_, ?_⟩
  · unfold MQTTRequest.sentTopic
    rw [htopic]
  · unfold MQTTRequest.sentMessage
    rw [hmessage, h.messageLen]

/-! ## What the history says of a request -/

/-- The request that `publish()` stored. -/
def Event.published? : Event → Option MQTTRequest
  | .published req => some req
  | _ => none

/-- The request that `sendPublishRequest` was called for. -/
def Event.attempt? : Event → Option MQTTRequest
  | .publishRequest req _ => some req
  | _ => none

/-- The request whose PUBLISH was sent. -/
def Event.transmission? : Event → Option MQTTRequest
  | .publishRequest req .publishSent => some req
  | _ => none

/-- The request of the last `publish()`. -/
def lastPublished (log : List Event) : Option MQTTRequest := log.findSome? Event.published?

/-- The calls of `sendPublishRequest` since the last `publish()`, the newest
first. -/
def attempts (log : List Event) : List MQTTRequest :=
  (since Event.isPublished log).filterMap Event.attempt?

/-- Those that answered `PUBLISH_SENT`. -/
def transmissions (log : List Event) : List MQTTRequest :=
  (since Event.isPublished log).filterMap Event.transmission?

theorem Event.published?_of_isQuiet {e : Event} (h : e.isQuiet = true) : e.published? = none := by
  cases e with
  | published _ => exact absurd h Bool.false_ne_true
  | _ => rfl

theorem Event.attempt?_of_isQuiet {e : Event} (h : e.isQuiet = true) : e.attempt? = none := by
  cases e with
  | publishRequest req status => exact absurd h Bool.false_ne_true
  | _ => rfl

theorem Event.transmission?_of_isQuiet {e : Event} (h : e.isQuiet = true) :
    e.transmission? = none := by
  cases e with
  | publishRequest req status => exact absurd h Bool.false_ne_true
  | _ => rfl

section Quiet

variable {new log : List Event}

theorem lastPublished_append (hnew : ∀ e ∈ new, e.isQuiet = true) :
    lastPublished (new ++ log) = lastPublished log := by
  unfold lastPublished
  rw [List.findSome?_append, List.findSome?_eq_none_iff.2 fun e he =>
    Event.published?_of_isQuiet (hnew e he), Option.none_or]

private theorem filterMap_since_append {f : Event → Option MQTTRequest}
    (hf : ∀ e, e.isQuiet = true → f e = none) (hnew : ∀ e ∈ new, e.isQuiet = true) :
    (since Event.isPublished (new ++ log)).filterMap f =
      (since Event.isPublished log).filterMap f := by
  rw [since_append fun e he => Event.isPublished_of_isQuiet (hnew e he), List.filterMap_append,
    List.filterMap_eq_nil_iff.2 fun e he => hf e (hnew e he), List.nil_append]

theorem attempts_append (hnew : ∀ e ∈ new, e.isQuiet = true) :
    attempts (new ++ log) = attempts log :=
  filterMap_since_append (fun _ => Event.attempt?_of_isQuiet) hnew

theorem transmissions_append (hnew : ∀ e ∈ new, e.isQuiet = true) :
    transmissions (new ++ log) = transmissions log :=
  filterMap_since_append (fun _ => Event.transmission?_of_isQuiet) hnew

end Quiet

theorem attempts_publishRequest (req : MQTTRequest) (status : GB4MQTT.Return)
    (log : List Event) : attempts (.publishRequest req status :: log) = req :: attempts log := by
  unfold attempts
  rw [since_cons rfl]
  rfl

theorem transmissions_publishSent (req : MQTTRequest) (log : List Event) :
    transmissions (.publishRequest req .publishSent :: log) = req :: transmissions log := by
  unfold transmissions
  rw [since_cons rfl]
  rfl

theorem transmissions_publishRequest {status : GB4MQTT.Return} (h : status ≠ .publishSent)
    (req : MQTTRequest) (log : List Event) :
    transmissions (.publishRequest req status :: log) = transmissions log := by
  unfold transmissions
  rw [since_cons rfl, List.filterMap_cons_none]
  cases status <;> first | rfl | exact absurd rfl h

theorem attempts_published (req : MQTTRequest) (log : List Event) :
    attempts (.published req :: log) = [] := by
  unfold attempts
  rw [since_cons_mark rfl]
  rfl

theorem transmissions_published (req : MQTTRequest) (log : List Event) :
    transmissions (.published req :: log) = [] := by
  unfold transmissions
  rw [since_cons_mark rfl]
  rfl

/-- A successful attempt is an attempt. -/
theorem mem_attempts_of_mem_transmissions {req : MQTTRequest} {log : List Event}
    (h : req ∈ transmissions log) : req ∈ attempts log := by
  obtain ⟨e, he, heq⟩ := List.mem_filterMap.1 h
  refine List.mem_filterMap.2 ⟨e, he, ?_⟩
  unfold Event.transmission? at heq
  split at heq
  · exact heq
  · exact absurd heq (by simp)

theorem transmissions_eq_nil {log : List Event} (h : ¬SentSince log) : transmissions log = [] := by
  have hnone : ∀ e ∈ since Event.isPublished log, ¬e.isPublishSent = true :=
    List.any_eq_false.1 ((Bool.not_eq_true _).mp h)
  apply List.filterMap_eq_nil_iff.2
  intro e he
  have hunsent := hnone e he
  unfold Event.transmission?
  split
  · exact absurd rfl hunsent
  · rfl

namespace GB4MQTT

variable {m m' : GB4MQTT} {paho : Paho} {env : Env}

/-! ## What a poll does to the request -/

/-- The stored request after a PUBACK, or without one. -/
def acknowledged (m : GB4MQTT) (ack : Bool) : MQTTRequest :=
  { m.mPublishRequest with gotPuback := m.mPublishRequest.gotPuback || ack }

/-- The stored request after `sendPublishRequest` answered for it. -/
def answered (req : MQTTRequest) (status : Return) (env : Env) : MQTTRequest :=
  match status with
  | .publishSent => sentRequest req env
  | .publishPacketError => { req with active := false }
  | _ => req

/-- The radio was given the packet of the request. -/
def Carries (paho : Paho) (req : MQTTRequest) (past : List Event) : Prop :=
  past.head? = some (.sendMessage .connected (publishPacket paho req).2
    (sizeT (publishPacket paho req).1) .messageSent)

/-- `sendPublishRequest` was called for a request, between quiet events. -/
def Attempt (paho : Paho) (m : GB4MQTT) (req : MQTTRequest) (status : Return)
    (m' : GB4MQTT) : Prop :=
  ∃ new old, m'.radio.log = new ++ .publishRequest req status :: (old ++ m.radio.log) ∧
    (∀ e ∈ new, e.isQuiet = true) ∧ (∀ e ∈ old, e.isQuiet = true) ∧
    (status = .publishSent → Carries paho req (old ++ m.radio.log))

/-- A poll leaves the stored request alone, or ends it, or asks for another try,
or calls `sendPublishRequest` for it. -/
inductive Tries (m : GB4MQTT) (paho : Paho) (env : Env) : GB4MQTT → Prop where
  | left {ack : Bool} {m' : GB4MQTT} : m.Leaves ack m' → Tries m paho env m'
  | ended {ack : Bool} {m' : GB4MQTT} : m.mPublishRequest.active = true → m.Quiet m' →
      m'.mPublishRequest = { m.acknowledged ack with active := false } → Tries m paho env m'
  | retried {ack : Bool} {start : Int32} {m' : GB4MQTT} : m.mPublishRequest.active = true →
      m.mPublishRequest.readyToSend = false → m.mPublishRequest.disconnect = false →
      m.mPublishRequest.tries ≤ publishMaxTries → m.Quiet m' →
      m'.mPublishRequest = { m.acknowledged ack with
        startTime := start
        tries := m.mPublishRequest.tries + 1
        readyToSend := true } → Tries m paho env m'
  | attempted {ack : Bool} {status : Return} {m' : GB4MQTT} :
      m.mPublishRequest.active = true → m.mPublishRequest.readyToSend = true →
      Attempt paho m { m.acknowledged ack with readyToSend := false } status m' →
      m'.mPublishRequest = answered { m.acknowledged ack with readyToSend := false } status env →
      Tries m paho env m'

theorem Attempt.around {d m₁ : GB4MQTT} {req : MQTTRequest} {status : Return}
    (hbefore : m.Quiet d) (h : Attempt paho d req status m₁) (hafter : m₁.Quiet m') :
    Attempt paho m req status m' := by
  obtain ⟨old, hold, hquiet⟩ := hbefore
  obtain ⟨new', hnew', hquiet'⟩ := hafter
  obtain ⟨mid, prior, hlog, hmid, hprior, hcarries⟩ := h
  refine ⟨new' ++ mid, prior ++ old, ?_, ?_, ?_, ?_⟩
  · rw [hnew', hlog, hold, List.append_assoc, List.append_assoc]
  · intro e he
    exact (List.mem_append.1 he).elim (hquiet' e) (hmid e)
  · intro e he
    exact (List.mem_append.1 he).elim (hprior e) (hquiet e)
  · rw [List.append_assoc, ← hold]
    exact hcarries

/-- `handlePublishRequests` asks for another try while there are tries left. -/
theorem Handled.tries_le {b : Bool} (h : Handled m paho env b m')
    (hready : m.mPublishRequest.readyToSend = false)
    (hready' : m'.mPublishRequest.readyToSend = true) :
    m.mPublishRequest.tries ≤ publishMaxTries := by
  cases h with
  | retry _ _ _ _ _ htries => exact htries
  | sent _ htrue _ _ => exact absurd (hready.symm.trans htrue) Bool.false_ne_true
  | packetError _ htrue _ => exact absurd (hready.symm.trans htrue) Bool.false_ne_true
  | refused _ htrue _ _ _ _ => exact absurd (hready.symm.trans htrue) Bool.false_ne_true
  | _ => exact absurd (hready.symm.trans hready') Bool.false_ne_true

/-- `handlePublishRequests` with `ready_to_send` set calls `sendPublishRequest`. -/
theorem Handled.attempt {b : Bool} (h : Handled m paho env b m')
    (hactive : m.mPublishRequest.active = true) (hready : m.mPublishRequest.readyToSend = true) :
    ∃ status, Attempt paho m m.claimed.mPublishRequest status m' ∧
      m'.mPublishRequest = answered m.claimed.mPublishRequest status env := by
  have hnot : m.mPublishRequest.readyToSend ≠ false := by
    rw [hready]
    exact Bool.false_ne_true.symm
  cases h with
  | packetError _ _ _ =>
    exact ⟨.publishPacketError, ⟨[], [], rfl, by simp, by simp, by simp⟩, rfl⟩
  | sent _ _ _ _ =>
    exact ⟨.publishSent, ⟨[], [.sendMessage _ _ _ _], rfl, by simp, by simp [Event.isQuiet],
      fun _ => rfl⟩, rfl⟩
  | @refused result status _ _ _ _ _ hstatus =>
    refine ⟨status, ⟨[], [.sendMessage _ _ _ _], rfl, by simp, by simp [Event.isQuiet], ?_⟩, ?_⟩
    · intro hsent
      rcases hstatus with hs | hs <;> exact absurd (hs.symm.trans hsent) (by decide)
    · rcases hstatus with hs | hs <;> rw [hs] <;> rfl
  | idle hinactive => exact absurd (hinactive.symm.trans hactive) Bool.false_ne_true
  | acknowledged _ hfalse _ _ => exact absurd hfalse hnot
  | acknowledgedDisconnect _ hfalse _ _ => exact absurd hfalse hnot
  | waiting _ hfalse _ _ => exact absurd hfalse hnot
  | timeoutDisconnect _ hfalse _ _ _ => exact absurd hfalse hnot
  | givesUp _ hfalse _ _ _ _ => exact absurd hfalse hnot
  | retry _ hfalse _ _ _ _ => exact absurd hfalse hnot

private theorem Handled.tries {d m₁ : GB4MQTT} {b ack : Bool} (hbefore : m.Leaves ack d)
    (h : Handled d paho env b m₁) (hafter : m₁.Leaves false m') : Tries m paho env m' := by
  have hreq : d.mPublishRequest = m.acknowledged ack := hbefore.request
  have hreq' : m'.mPublishRequest = m₁.mPublishRequest := by
    rw [hafter.request, Bool.or_false]
  cases hactive : m.mPublishRequest.active with
  | false =>
    cases h with
    | idle _ => exact .left (hbefore.trans hafter)
    | _ htrue =>
      rw [hreq] at htrue
      exact absurd (hactive.symm.trans htrue) Bool.false_ne_true
  | true =>
    have hactive' : d.mPublishRequest.active = true := by rw [hreq]; exact hactive
    cases hready : m.mPublishRequest.readyToSend with
    | true =>
      obtain ⟨status, hattempt, heq⟩ := h.attempt hactive' (by rw [hreq]; exact hready)
      have hclaimed : d.claimed.mPublishRequest =
          { m.acknowledged ack with readyToSend := false } := by
        rw [← hreq]
        rfl
      rw [hclaimed] at hattempt heq
      exact .attempted hactive hready (hattempt.around hbefore.quiet hafter.quiet)
        (hreq'.trans heq)
    | false =>
      have hready' : d.mPublishRequest.readyToSend = false := by rw [hreq]; exact hready
      obtain ⟨hquiet, hcases⟩ := h.of_waiting hactive' hready'
      have hquiet' := (hbefore.quiet.trans hquiet).trans hafter.quiet
      rcases hcases with ⟨heq, _⟩ | heq | ⟨_, hdis, start, heq⟩
      · exact .ended hactive hquiet' (by rw [hreq', heq, hreq])
      · exact .left ⟨by rw [hreq', heq]; exact hbefore.request, hquiet'⟩
      · have htries := h.tries_le hready' (by rw [heq])
        rw [hreq] at hdis htries
        exact .retried hactive hready hdis htries hquiet' (by rw [hreq', heq, hreq]; rfl)

theorem poll_tries (m : GB4MQTT) (paho : Paho) (env : Env) :
    Tries m paho env (m.poll paho env).2 := by
  cases m.poll_requestStep paho env with
  | left _ hl => exact .left hl
  | listened _ _ hl => exact .left hl
  | handled _ _ hl _ hhandled hafter => exact Handled.tries hl hhandled hafter

theorem Attempt.attempts_eq {req : MQTTRequest} {status : Return}
    (h : Attempt paho m req status m') :
    attempts m'.radio.log = req :: attempts m.radio.log := by
  obtain ⟨new, old, hlog, hnew, hold, _⟩ := h
  rw [hlog, attempts_append hnew, attempts_publishRequest, attempts_append hold]

theorem Attempt.transmissions_eq {req : MQTTRequest} {status : Return}
    (h : Attempt paho m req status m') : transmissions m'.radio.log =
      if status = .publishSent then req :: transmissions m.radio.log
      else transmissions m.radio.log := by
  obtain ⟨new, old, hlog, hnew, hold, _⟩ := h
  rw [hlog, transmissions_append hnew]
  split
  · rename_i hsent
    rw [hsent, transmissions_publishSent, transmissions_append hold]
  · rename_i hunsent
    rw [transmissions_publishRequest hunsent, transmissions_append hold]

theorem Attempt.lastPublished_eq {req : MQTTRequest} {status : Return}
    (h : Attempt paho m req status m') :
    lastPublished m'.radio.log = lastPublished m.radio.log := by
  obtain ⟨new, old, hlog, hnew, hold, _⟩ := h
  rw [hlog, lastPublished_append hnew]
  show lastPublished (old ++ m.radio.log) = _
  rw [lastPublished_append hold]

theorem Quiet.attempts_eq (h : m.Quiet m') : attempts m'.radio.log = attempts m.radio.log := by
  obtain ⟨new, hlog, hnew⟩ := h
  rw [hlog, attempts_append hnew]

theorem Quiet.transmissions_eq (h : m.Quiet m') :
    transmissions m'.radio.log = transmissions m.radio.log := by
  obtain ⟨new, hlog, hnew⟩ := h
  rw [hlog, transmissions_append hnew]

theorem Quiet.lastPublished_eq (h : m.Quiet m') :
    lastPublished m'.radio.log = lastPublished m.radio.log := by
  obtain ⟨new, hlog, hnew⟩ := h
  rw [hlog, lastPublished_append hnew]

/-! ## Only the stored request is sent -/

theorem sentRequest_sameMessage (req : MQTTRequest) (env : Env) :
    SameMessage (sentRequest req env) req := by
  unfold sentRequest
  split
  · exact ⟨rfl, rfl, rfl, rfl, rfl, rfl, rfl, rfl⟩
  · split
    · exact ⟨rfl, rfl, rfl, rfl, rfl, rfl, rfl, rfl⟩
    · exact .refl req

theorem answered_sameMessage (req : MQTTRequest) (status : Return) (env : Env) :
    SameMessage (answered req status env) req := by
  unfold answered
  split
  · exact sentRequest_sameMessage req env
  · exact ⟨rfl, rfl, rfl, rfl, rfl, rfl, rfl, rfl⟩
  · exact .refl req

theorem sameMessage_requestToSend (m : GB4MQTT) (paho : Paho) (env : Env) :
    SameMessage (m.requestToSend paho env) m.mPublishRequest := by
  have hreq := m.dispatchIncomming_request paho env
  unfold requestToSend claimed setRequest
  rw [hreq]
  exact ⟨rfl, rfl, rfl, rfl, rfl, rfl, rfl, rfl⟩

theorem Tries.sameMessage (h : Tries m paho env m') :
    SameMessage m'.mPublishRequest m.mPublishRequest := by
  cases h with
  | left hl =>
    rw [hl.request]
    exact ⟨rfl, rfl, rfl, rfl, rfl, rfl, rfl, rfl⟩
  | ended _ _ hreq =>
    rw [hreq]
    exact ⟨rfl, rfl, rfl, rfl, rfl, rfl, rfl, rfl⟩
  | retried _ _ _ _ _ hreq =>
    rw [hreq]
    exact ⟨rfl, rfl, rfl, rfl, rfl, rfl, rfl, rfl⟩
  | attempted _ _ _ hreq =>
    rw [hreq]
    refine (answered_sameMessage _ _ env).trans ?_
    exact ⟨rfl, rfl, rfl, rfl, rfl, rfl, rfl, rfl⟩

/-- A request is stored, and it is the only one that was tried since it was
published. -/
structure Stored (m : GB4MQTT) (stored : MQTTRequest) : Prop where
  published : lastPublished m.radio.log = some stored
  request : SameMessage m.mPublishRequest stored
  attempts : ∀ req ∈ attempts m.radio.log, SameMessage req stored

theorem Stored.tries {stored : MQTTRequest} (h : m.Stored stored) (ht : Tries m paho env m') :
    m'.Stored stored := by
  have hreq := ht.sameMessage.trans h.request
  cases ht with
  | left hl =>
    exact ⟨hl.quiet.lastPublished_eq.trans h.published, hreq,
      by rw [hl.quiet.attempts_eq]; exact h.attempts⟩
  | ended _ hquiet _ =>
    exact ⟨hquiet.lastPublished_eq.trans h.published, hreq,
      by rw [hquiet.attempts_eq]; exact h.attempts⟩
  | retried _ _ _ _ hquiet _ =>
    exact ⟨hquiet.lastPublished_eq.trans h.published, hreq,
      by rw [hquiet.attempts_eq]; exact h.attempts⟩
  | attempted _ _ hattempt _ =>
    refine ⟨hattempt.lastPublished_eq.trans h.published, hreq, fun req hmem => ?_⟩
    rw [hattempt.attempts_eq] at hmem
    rcases List.mem_cons.1 hmem with hmem | hmem
    · rw [hmem]
      refine .trans ?_ h.request
      exact ⟨rfl, rfl, rfl, rfl, rfl, rfl, rfl, rfl⟩
    · exact h.attempts req hmem

/-- `publish()` stores its request, whatever was stored before. -/
theorem stored_publish (m : GB4MQTT) (topic : List UInt8) (topicLen : Nat)
    (message : List UInt8) (messageLen : Nat) (qos : UInt8) (disconnect : Bool) (now : UInt32) :
    let m' := (m.publish topic topicLen message messageLen qos disconnect now).2
    m'.Stored m'.mPublishRequest := by
  refine ⟨rfl, .refl _, fun req hmem => ?_⟩
  rw [show (m.publish topic topicLen message messageLen qos disconnect now).2.radio.log =
    .published _ :: m.radio.log from rfl, attempts_published] at hmem
  exact absurd hmem List.not_mem_nil

def Call.isPublish : Call → Bool
  | .publish _ _ _ _ _ _ _ => true
  | _ => false

theorem Stored.call {stored : MQTTRequest} (h : m.Stored stored) {c : Call}
    (hc : c.isPublish = false) : (call paho m c).Stored stored := by
  cases c with
  | publish _ _ _ _ _ _ _ => exact absurd hc.symm Bool.false_ne_true
  | poll env => exact h.tries (m.poll_tries paho env)
  | _ => exact ⟨h.published, h.request, h.attempts⟩

/-- The object from some point on, up to the next `publish()`. -/
def untilPublish (paho : Paho) (m : GB4MQTT) : Transition.System GB4MQTT Call :=
  .ofFunction (· = m) (fun _ c => c.isPublish = false) (call paho)

theorem Stored.of_reach {stored : MQTTRequest} (h : m.Stored stored)
    (hreach : (untilPublish paho m).Reach m') : m'.Stored stored := by
  refine hreach.invariant (Stored · stored) (fun m₁ heq => ?_) fun m₁ c m₂ _ hstored hstep => ?_
  · rw [show m₁ = m from heq]
    exact h
  · obtain ⟨hc, rfl⟩ := hstep
    exact hstored.call hc

/-- Before the first `publish()` there is nothing to send. -/
def Unpublished (m : GB4MQTT) : Prop :=
  m.mPublishRequest.active = false ∧ attempts m.radio.log = [] ∧
    lastPublished m.radio.log = none

theorem Unpublished.tries (h : m.Unpublished) (ht : Tries m paho env m') : m'.Unpublished := by
  have hidle : m.mPublishRequest.active ≠ true := by
    rw [h.1]
    exact Bool.false_ne_true
  cases ht with
  | left hl =>
    exact ⟨by rw [hl.request]; exact h.1, hl.quiet.attempts_eq.trans h.2.1,
      hl.quiet.lastPublished_eq.trans h.2.2⟩
  | ended hactive _ _ => exact absurd hactive hidle
  | retried hactive _ _ _ _ _ => exact absurd hactive hidle
  | attempted hactive _ _ _ => exact absurd hactive hidle

theorem stored_of_reach (h : (system paho).Reach m) :
    (∃ stored, m.Stored stored) ∨ m.Unpublished := by
  refine h.invariant (fun m => (∃ stored, m.Stored stored) ∨ m.Unpublished)
    (fun m hbegun => ?_) fun m c m' _ hstored hstep => ?_
  · obtain ⟨mem, args, rfl⟩ := Begun.eq hbegun
    exact Or.inr ⟨rfl, rfl, rfl⟩
  · obtain ⟨_, rfl⟩ := hstep
    cases c with
    | publish topic topicLen message messageLen qos disconnect now =>
      exact Or.inl ⟨_, stored_publish m topic topicLen message messageLen qos disconnect now⟩
    | poll env =>
      exact hstored.imp (fun ⟨stored, h⟩ => ⟨stored, h.tries (m.poll_tries paho env)⟩)
        fun h => h.tries (m.poll_tries paho env)
    | _ => exact hstored.imp (fun ⟨stored, h⟩ => ⟨stored, h.call rfl⟩) fun h => h

theorem Stored.of_lastPublished {stored : MQTTRequest} (h : (system paho).Reach m)
    (hstored : lastPublished m.radio.log = some stored) : m.Stored stored := by
  rcases stored_of_reach h with ⟨stored', h'⟩ | ⟨_, _, hnone⟩
  · have heq : stored' = stored := Option.some.inj (h'.published.symm.trans hstored)
    rwa [← heq]
  · exact absurd (hnone.symm.trans hstored) (by simp)

/-- `publish()` takes every request that fits its arrays, and the new one replaces
the old one: up to the next `publish()` it is the only one that is sent. -/
theorem publish_replaces (m : GB4MQTT) (topic : List UInt8) (topicLen : Nat)
    (message : List UInt8) (messageLen : Nat) (qos : UInt8) (disconnect : Bool) (now : UInt32)
    (htopic : topicLen ≤ MQTTRequest.topicMaxSize)
    (hmessage : messageLen ≤ MQTTRequest.messageMaxSize)
    (h : (untilPublish paho
      (m.publish topic topicLen message messageLen qos disconnect now).2).Reach m') :
    (m.publish topic topicLen message messageLen qos disconnect now).1 = .publishQueued ∧
    (m.publish topic topicLen message messageLen qos disconnect now).2.mPublishRequest =
      { topic := GB4XBee.strncpy (m.mPublishRequest.topic.take MQTTRequest.topicMaxSize)
          topic topicLen
        topicLen := topicLen
        message := memcpy (m.mPublishRequest.message.take MQTTRequest.messageMaxSize)
          message messageLen
        messageLen := messageLen
        qos := qos
        retain := 0
        duplicate := 0
        packetId := m.packetId.toUInt8.toUInt16
        startTime := now.toInt32
        tries := 0
        gotPuback := false
        readyToSend := true
        disconnect := disconnect
        active := true } ∧
    SameContents m'.mPublishRequest
      (m.publish topic topicLen message messageLen qos disconnect now).2.mPublishRequest ∧
    ∀ req ∈ attempts m'.radio.log, SameContents req
      (m.publish topic topicLen message messageLen qos disconnect now).2.mPublishRequest := by
  have hstored :=
    (stored_publish m topic topicLen message messageLen qos disconnect now).of_reach h
  have hlen := length_publish_message htopic hmessage m topic message qos disconnect now
  refine ⟨rfl, ?_, hstored.request.contents hlen,
    fun req hreq => (hstored.attempts req hreq).contents hlen⟩
  unfold publish
  dsimp only
  rw [spillTopic_strncpy htopic]
  rfl

/-- A second `publish()` on an object that has not sent the first request, and a
poll after it. -/
theorem publish_replaces_unsent :
    let m := afterCalls [samplePublish 1 false]
    let m₁ := (m.publish [0x75] 1 [0x32] 1 1 true 0).2
    m.mPublishRequest.active = true ∧
      SameContents (m₁.poll .mqtt {}).2.mPublishRequest m₁.mPublishRequest := by
  intro m m₁
  have hreach : (untilPublish .mqtt m₁).Reach (call .mqtt m₁ (.poll {})) :=
    .step (.init rfl) ⟨rfl, rfl⟩
  refine ⟨by decide +kernel, ?_⟩
  exact (publish_replaces m [0x75] 1 [0x32] 1 1 true 0 (by decide) (by decide) hreach).2.2.1

/-- The first request is lost when the second one is stored, and both calls say
that they queued it. -/
theorem publish_keeps_not : ¬∀ (paho : Paho) (m : GB4MQTT) (topic : List UInt8) (topicLen : Nat)
    (message : List UInt8) (messageLen : Nat) (qos : UInt8) (disconnect : Bool) (now : UInt32),
    (system paho).Reach m → m.mPublishRequest.active = true → ¬SentSince m.radio.log →
    (m.publish topic topicLen message messageLen qos disconnect now).2.mPublishRequest =
        m.mPublishRequest ∧
      (m.publish topic topicLen message messageLen qos disconnect now).1 ≠ .publishQueued := by
  intro h
  have hkept := h .mqtt (afterCalls [samplePublish 1 false]) [0x75] 1 [0x32] 1 1 true 0
    (reach_afterCalls _) (by decide +kernel) (by decide +kernel)
  exact hkept.2 rfl

end GB4MQTT

end XBeeMqtt
