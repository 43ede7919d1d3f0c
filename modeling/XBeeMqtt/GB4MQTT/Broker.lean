import Mathlib.Data.List.Nodup
import XBeeMqtt.GB4MQTT.Bounds
import XBeeMqtt.GB4MQTT.Lifetime
import XBeeMqtt.GB4MQTT.PacketIds

/-!
# The device, the network and the broker

`network` puts the device beside a broker.  The network brings the broker any PUBLISH
that the radio has ever taken, late, more than once, out of order, or never, and on any
connection; the broker may answer a PUBLISH that it has with a PUBACK at any time, and
the answer travels the same way.  So all that is asked of the network is that it makes
up no packet: `Genuine` for the PUBACKs, and the rule of `Action.deliver` for the rest.

`received_of_acknowledged`: a request that counts as acknowledged is with the broker,
in the first 256 requests of a run, if all of them fit their arrays.  Beyond them the
identifiers come round again, and `receivedId_of_reach` is what is left: the broker has
some request of that identifier.
-/

namespace XBeeMqtt

theorem SameMessage.symm {a b : MQTTRequest} (h : SameMessage a b) : SameMessage b a where
  packetId := h.packetId.symm
  topic := h.topic.symm
  topicLen := h.topicLen.symm
  message := h.message.symm
  messageLen := h.messageLen.symm
  qos := h.qos.symm
  retain := h.retain.symm
  disconnect := h.disconnect.symm

namespace GB4MQTT

variable {m m' : GB4MQTT} {paho : Paho} {env : Env}

/-! ## Requests and their acknowledgement -/

theorem Handled.gotPuback {b : Bool} (h : Handled m paho env b m') :
    m'.mPublishRequest.gotPuback = m.mPublishRequest.gotPuback := by
  cases h with
  | sent _ _ _ _ => exact sentRequest_gotPuback _ env
  | _ => rfl

/-- A request becomes acknowledged by a PUBACK that the switch reads. -/
theorem poll_gotPuback (h : (m.poll paho env).2.mPublishRequest.gotPuback = true) :
    m.mPublishRequest.gotPuback = true ∨
      m.Listens ∧ (m.pollRadio env).TakesPuback paho env := by
  have hack : ∀ {d : GB4MQTT}, m.Leaves (decide ((m.pollRadio env).TakesPuback paho env)) d →
      m.Listens → d.mPublishRequest.gotPuback = true → m.mPublishRequest.gotPuback = true ∨
        m.Listens ∧ (m.pollRadio env).TakesPuback paho env := by
    intro d hleaves hlistens hgot
    rw [hleaves.request] at hgot
    rcases Bool.or_eq_true_iff.1 hgot with hold | hnew
    · exact Or.inl hold
    · exact Or.inr ⟨hlistens, of_decide_eq_true hnew⟩
  have hstep := m.poll_requestStep paho env
  generalize (m.poll paho env).2 = m' at hstep h
  cases hstep with
  | left _ hl =>
    rw [hl.request] at h
    exact Or.inl (by simpa using h)
  | listened _ hs hl => exact hack hl (Or.inl hs) h
  | handled _ hs hl _ hhandled hafter =>
    refine hack hl (Or.inr hs) ?_
    rw [hafter.request, hhandled.gotPuback] at h
    simpa using h

/-- Every request that was tried is one that was published. -/
def OnlyPublished (log : List Event) : Prop :=
  ∀ req status, .publishRequest req status ∈ log →
    ∃ stored, .published stored ∈ log ∧ SameMessage req stored

theorem OnlyPublished.append {log new : List Event} (h : OnlyPublished log)
    (hnew : ∀ req status, .publishRequest req status ∈ new →
      ∃ stored, .published stored ∈ log ∧ SameMessage req stored) :
    OnlyPublished (new ++ log) := by
  intro req status hmem
  obtain ⟨stored, hstored, hsame⟩ : ∃ stored, .published stored ∈ log ∧ SameMessage req stored :=
    (List.mem_append.1 hmem).elim (hnew req status) (h req status)
  exact ⟨stored, List.mem_append_right _ hstored, hsame⟩

theorem OnlyPublished.quiet {log new : List Event} (h : OnlyPublished log)
    (hnew : ∀ e ∈ new, e.isQuiet = true) : OnlyPublished (new ++ log) :=
  h.append fun _ _ hmem => absurd (hnew _ hmem) Bool.false_ne_true

theorem published_of_lastPublished {log : List Event} {stored : MQTTRequest}
    (h : lastPublished log = some stored) : .published stored ∈ log := by
  obtain ⟨newer, e, older, rfl, he, _⟩ := List.findSome?_eq_some_iff.1 h
  cases e with
  | published req =>
    rw [Option.some.inj he]
    simp
  | _ => exact absurd he (by simp [Event.published?])

theorem OnlyPublished.tries (h : OnlyPublished m.radio.log)
    (hstored : (∃ stored, m.Stored stored) ∨ m.Unpublished) (ht : Tries m paho env m') :
    OnlyPublished m'.radio.log := by
  have hquiet : m.Quiet m' → OnlyPublished m'.radio.log := by
    intro hq
    obtain ⟨new, hlog, hnew⟩ := hq
    rw [hlog]
    exact h.quiet hnew
  cases ht with
  | left hl => exact hquiet hl.quiet
  | ended _ hq _ => exact hquiet hq
  | retried _ _ _ _ hq _ => exact hquiet hq
  | attempted hactive _ hattempt _ =>
    rcases hstored with ⟨stored, hstored⟩ | hnone
    · obtain ⟨new, old, hlog, hnew, hold, _⟩ := hattempt
      have hpub : Event.published stored ∈ old ++ m.radio.log :=
        List.mem_append_right _ (published_of_lastPublished hstored.published)
      rw [hlog]
      refine .quiet (@OnlyPublished.append _ [_] (h.quiet hold) fun req status hmem => ?_) hnew
      have heq := List.mem_singleton.1 hmem
      rw [Event.publishRequest.injEq] at heq
      refine ⟨stored, hpub, ?_⟩
      rw [heq.1]
      refine .trans ?_ hstored.request
      exact ⟨rfl, rfl, rfl, rfl, rfl, rfl, rfl, rfl⟩
    · rw [hnone.1] at hactive
      exact absurd hactive Bool.false_ne_true

theorem OnlyPublished.of_reach (h : (system paho).Reach m) : OnlyPublished m.radio.log := by
  refine h.invariant (fun m => OnlyPublished m.radio.log) (fun m hbegun => ?_)
    fun m c m' hreach honly hstep => ?_
  · obtain ⟨mem, args, rfl⟩ := Begun.eq hbegun
    exact fun _ _ hmem => absurd hmem List.not_mem_nil
  · obtain ⟨_, rfl⟩ := hstep
    cases c with
    | publish topic topicLen message messageLen qos disconnect now =>
      exact @OnlyPublished.append _ [_] honly fun _ _ hmem =>
        absurd (List.mem_singleton.1 hmem) (by simp)
    | poll env => exact honly.tries (stored_of_reach hreach) (m.poll_tries paho env)
    | _ => exact honly

/-- Two requests among the first 256 that have the same identifier are the same. -/
theorem eq_of_packetId (h : (system paho).Reach m) (hlen : (packetIds m.radio.log).length ≤ 256)
    {a b : MQTTRequest} (ha : .published a ∈ m.radio.log) (hb : .published b ∈ m.radio.log)
    (hid : a.packetId = b.packetId) : a = b := by
  obtain ⟨n, hids, _⟩ := Counts.of_reach h
  have hn : n ≤ 256 := by
    rw [hids, List.length_map, List.length_range] at hlen
    exact hlen
  have hnodup : (packetIds m.radio.log).Nodup := by
    rw [hids]
    refine List.nodup_range.map_on fun i hi j hj hsame => ?_
    have hi := List.mem_range.1 hi
    have hj := List.mem_range.1 hj
    have hnat := congrArg UInt16.toNat hsame
    rw [packetIdAt_toNat, packetIdAt_toNat] at hnat
    omega
  have hmem : ∀ req, .published req ∈ m.radio.log →
      req ∈ m.radio.log.filterMap Event.published? :=
    fun req hreq => List.mem_filterMap.2 ⟨_, hreq, rfl⟩
  exact List.inj_on_of_nodup_map (List.nodup_reverse.1 hnodup) (hmem a ha) (hmem b hb) hid

/-! ## The network -/

/-- A device, and what its broker has received and acknowledged. -/
structure World where
  device : GB4MQTT
  received : List MQTTRequest
  acknowledged : List UInt16

/-- A step of one of the three parties. -/
inductive Action where
  | call (c : Call)
  /-- The network brings the broker the PUBLISH of a request. -/
  | deliver (req : MQTTRequest)
  /-- The broker answers a PUBLISH. -/
  | acknowledge (req : MQTTRequest)

namespace World

variable {w : World}

/-- A PUBACK for the stored request that a poll reads is one that the broker has sent. -/
def Genuine (paho : Paho) (w : World) (env : Env) : Prop :=
  w.device.Listens → (w.device.pollRadio env).TakesPuback paho env →
    w.device.mPublishRequest.packetId ∈ w.acknowledged

instance (paho : Paho) (w : World) (env : Env) : Decidable (w.Genuine paho env) :=
  inferInstanceAs (Decidable (_ → _ → _))

/-- What the network and the broker may do. -/
def Accepts (paho : Paho) (w : World) : Action → Prop
  | .call (.poll env) => w.Genuine paho env
  | .call _ => True
  | .deliver req => .publishRequest req .publishSent ∈ w.device.radio.log
  | .acknowledge req => req ∈ w.received

instance (paho : Paho) (w : World) : (a : Action) → Decidable (Accepts paho w a)
  | .call (.poll env) => inferInstanceAs (Decidable (w.Genuine paho env))
  | .call (.publish _ _ _ _ _ _ _) | .call (.setClientID _) | .call (.setPassword _)
  | .call (.setClientName _) | .call (.setAddress _) | .call (.setPort _)
  | .call .startConnect => .isTrue trivial
  | .deliver _ => inferInstanceAs (Decidable (_ ∈ w.device.radio.log))
  | .acknowledge req => inferInstanceAs (Decidable (req ∈ w.received))

def next (paho : Paho) (w : World) : Action → World
  | .call c => { w with device := GB4MQTT.call paho w.device c }
  | .deliver req => { w with received := req :: w.received }
  | .acknowledge req => { w with acknowledged := req.packetId :: w.acknowledged }

/-- A request that is published fits its arrays. -/
def Fits : Action → Prop
  | .call c => c.Fits
  | _ => True

instance : (a : Action) → Decidable (Fits a)
  | .call c => inferInstanceAs (Decidable c.Fits)
  | .deliver _ | .acknowledge _ => .isTrue trivial

/-- A begun device, and a broker that has heard nothing. -/
def Begun (w : World) : Prop := w.device.Begun ∧ w.received = [] ∧ w.acknowledged = []

/-- The device, the network and the broker. -/
def network (paho : Paho) : Transition.System World Action :=
  .ofFunction Begun (Accepts paho) (next paho)

/-- Beside a network the device makes a run of its own. -/
theorem reach_device (h : (network paho).Reach w) : (system paho).Reach w.device := by
  induction h with
  | init hinit => exact .init hinit.1
  | @step w a _ _ hstep ih =>
    obtain ⟨_, rfl⟩ := hstep
    cases a with
    | call c => exact .step ih ⟨trivial, rfl⟩
    | deliver req => exact ih
    | acknowledge req => exact ih

/-- And if all requests fit, it makes a run in which they do. -/
theorem reach_device_fits (h : ((network paho).restrict fun _ a => Fits a).Reach w) :
    ((system paho).restrict fun _ c => c.Fits).Reach w.device := by
  induction h with
  | init hinit => exact .init hinit.1
  | @step w a _ _ hstep ih =>
    obtain ⟨⟨_, rfl⟩, hfits⟩ := hstep
    cases a with
    | call c => exact .step ih ⟨⟨trivial, rfl⟩, hfits⟩
    | deliver req => exact ih
    | acknowledge req => exact ih

/-- Everything that the broker has comes from the device, and everything that the
device takes for acknowledged comes from the broker. -/
structure Sound (w : World) : Prop where
  received : ∀ req ∈ w.received, .publishRequest req .publishSent ∈ w.device.radio.log
  acknowledged : ∀ id ∈ w.acknowledged, ∃ req ∈ w.received, req.packetId = id
  gotPuback : w.device.mPublishRequest.gotPuback = true →
    w.device.mPublishRequest.packetId ∈ w.acknowledged

theorem Sound.poll (h : w.Sound) (hgenuine : w.Genuine paho env) :
    (w.next paho (.call (.poll env))).Sound := by
  refine ⟨fun req hreq => ?_, h.acknowledged, fun hgot => ?_⟩
  · obtain ⟨new, hlog, _⟩ := w.device.poll_log paho env
    show _ ∈ (w.device.poll paho env).2.radio.log
    rw [hlog]
    exact List.mem_append_right _ (h.received req hreq)
  · show (w.device.poll paho env).2.mPublishRequest.packetId ∈ w.acknowledged
    rw [(w.device.poll_tries paho env).sameMessage.packetId]
    rcases poll_gotPuback hgot with hold | ⟨hlistens, htakes⟩
    · exact h.gotPuback hold
    · exact hgenuine hlistens htakes

theorem Sound.of_reach (h : (network paho).Reach w) : w.Sound := by
  refine h.invariant Sound (fun w hbegun => ?_) fun w a w' _ hsound hstep => ?_
  · obtain ⟨hbegun, hreceived, hacknowledged⟩ := hbegun
    obtain ⟨mem, args, heq⟩ := hbegun.eq
    refine ⟨fun req hreq => ?_, fun id hid => ?_, fun hgot => ?_⟩
    · rw [hreceived] at hreq
      exact absurd hreq List.not_mem_nil
    · rw [hacknowledged] at hid
      exact absurd hid List.not_mem_nil
    · rw [heq] at hgot
      exact absurd hgot Bool.false_ne_true
  · obtain ⟨hacc, rfl⟩ := hstep
    cases a with
    | deliver req =>
      refine ⟨fun req' hreq => ?_, fun id hid => ?_, hsound.gotPuback⟩
      · rcases List.mem_cons.1 hreq with rfl | hreq
        · exact hacc
        · exact hsound.received req' hreq
      · obtain ⟨req', hreq, heq⟩ := hsound.acknowledged id hid
        exact ⟨req', List.mem_cons_of_mem _ hreq, heq⟩
    | acknowledge req =>
      refine ⟨hsound.received, fun id hid => ?_, fun hgot =>
        List.mem_cons_of_mem _ (hsound.gotPuback hgot)⟩
      rcases List.mem_cons.1 hid with rfl | hid
      · exact ⟨req, hacc, rfl⟩
      · exact hsound.acknowledged id hid
    | call c =>
      cases c with
      | poll env => exact hsound.poll hacc
      | publish topic topicLen message messageLen qos disconnect now =>
        exact ⟨fun req hreq => List.mem_cons_of_mem _ (hsound.received req hreq),
          hsound.acknowledged, fun hgot => absurd hgot Bool.false_ne_true⟩
      | _ => exact ⟨hsound.received, hsound.acknowledged, hsound.gotPuback⟩

/-- The broker has a request with the identifier of every request that counts as
acknowledged. -/
theorem receivedId_of_reach (h : (network paho).Reach w)
    (hgot : w.device.mPublishRequest.gotPuback = true) :
    ∃ req ∈ w.received, req.packetId = w.device.mPublishRequest.packetId :=
  (Sound.of_reach h).acknowledged _ ((Sound.of_reach h).gotPuback hgot)

/-- Among the first 256 requests of a run, the one of that identifier is the last that was
published. -/
theorem received_stored (h : (network paho).Reach w)
    (hlen : (packetIds w.device.radio.log).length ≤ 256)
    (hgot : w.device.mPublishRequest.gotPuback = true) :
    ∃ req ∈ w.received, ∃ stored, w.device.Stored stored ∧ SameMessage req stored := by
  have hreach := reach_device h
  obtain ⟨req, hreq, hid⟩ := receivedId_of_reach h hgot
  obtain ⟨stored', hpub', hsame'⟩ :=
    OnlyPublished.of_reach hreach req _ ((Sound.of_reach h).received req hreq)
  rcases stored_of_reach hreach with ⟨stored, hstored⟩ | ⟨_, _, hnone⟩
  · have heq : stored' = stored := by
      refine eq_of_packetId hreach hlen hpub' (published_of_lastPublished hstored.published) ?_
      rw [← hsame'.packetId, hid, hstored.request.packetId]
    rw [heq] at hsame'
    exact ⟨req, hreq, stored, hstored, hsame'⟩
  · have hall := List.findSome?_eq_none_iff.1 hnone _ hpub'
    exact absurd hall (by simp [Event.published?])

/-- Up to the 256th `publish()` of a run whose requests all fit their arrays, a request
that counts as acknowledged is with the broker: the same topic, message, QoS and
identifier, whatever was lost, repeated, delayed or reordered on the way, and however
often the connection was made again. -/
theorem received_of_acknowledged (h : ((network paho).restrict fun _ a => Fits a).Reach w)
    (hlen : (packetIds w.device.radio.log).length ≤ 256)
    (hgot : w.device.mPublishRequest.gotPuback = true) :
    ∃ req ∈ w.received, SameContents req w.device.mPublishRequest := by
  obtain ⟨req, hreq, stored, hstored, hsame⟩ := received_stored h.of_restrict hlen hgot
  have hin : w.device.mPublishRequest.InBounds := by
    rcases inBounds_of_reach (reach_device_fits h) with hin | ⟨_, _, hnone⟩
    · exact hin
    · exact absurd (hstored.published.symm.trans hnone) (by simp)
  exact ⟨req, hreq, (hsame.trans hstored.request.symm).contents hin.message⟩

/-- The calls of a device that publishes one request and sends it. -/
def sentCalls : List Call :=
  samplePublish 1 false :: startupCalls ++ sessionCalls 26000 ++ [pollAt 28000 []]

/-- The broker receives the PUBLISH and answers it, and the answer is read. -/
def ackedActions : List Action :=
  let sent := (transmissions (afterCalls sentCalls).radio.log).headD default
  sentCalls.map .call ++ [.deliver sent, .acknowledge sent,
    .call (pollAt 28100 [.receive 1 [0x40, 0x02, 0x00, 0x01]])]

/-- The device after them. -/
theorem received_acked :
    let w := Transition.replay (next .mqtt) ⟨sampleBegun, [], []⟩ ackedActions
    w.device.mPublishRequest.gotPuback = true ∧
      ∃ req ∈ w.received, SameContents req w.device.mPublishRequest := by
  intro w
  have hgot : w.device.mPublishRequest.gotPuback = true := by decide +kernel
  have hreach : ((network .mqtt).restrict fun _ a => Fits a).Reach w :=
    Transition.reach_replay_restrict ackedActions (.init ⟨begun_sampleBegun, rfl, rfl⟩)
      (by decide +kernel)
  exact ⟨hgot, received_of_acknowledged hreach (by decide +kernel) hgot⟩

/-- The PUBACK of the first request is late: it is read when the 257th request, which has
the same identifier and another message, waits to be sent. -/
def lateActions : List Action :=
  let sent := (transmissions (afterCalls sentCalls).radio.log).headD default
  sentCalls.map .call ++ [.deliver sent, .acknowledge sent] ++
    List.replicate 256 (.call (.publish [0x74] 1 [0x32] 1 1 false 0)) ++
    [.call (pollAt 28100 [.receive 1 [0x40, 0x02, 0x00, 0x01]])]

/-- The bound on the number of requests is needed, and it is exact. -/
theorem not_received_late : ¬∀ (paho : Paho) (w : World),
    ((network paho).restrict fun _ a => Fits a).Reach w →
    (packetIds w.device.radio.log).length ≤ 257 → w.device.mPublishRequest.gotPuback = true →
    ∃ req ∈ w.received, SameContents req w.device.mPublishRequest := by
  intro h
  have hreach : ((network .mqtt).restrict fun _ a => Fits a).Reach
      (Transition.replay (next .mqtt) ⟨sampleBegun, [], []⟩ lateActions) :=
    Transition.reach_replay_restrict lateActions (.init ⟨begun_sampleBegun, rfl, rfl⟩)
      (by decide +kernel)
  obtain ⟨req, hreq, hsame⟩ := h _ _ hreach (by decide +kernel) (by decide +kernel)
  have hmessages : ∀ req ∈ (Transition.replay (next .mqtt) ⟨sampleBegun, [], []⟩
      lateActions).received, req.message.take 1 = [0x31] := by decide +kernel
  have hmessage : (Transition.replay (next .mqtt) ⟨sampleBegun, [], []⟩
      lateActions).device.mPublishRequest.message.take 1 = [0x32] := by decide +kernel
  have hfirst := hmessages req hreq
  rw [hsame.message, hmessage] at hfirst
  exact absurd hfirst (by decide)

end World

end GB4MQTT

end XBeeMqtt
