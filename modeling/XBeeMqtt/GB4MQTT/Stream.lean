import XBeeMqtt.GB4MQTT.Isolation

/-!
# Packets and payloads

`pollIncomming` reads one packet from each payload and drops what follows it;
nothing is kept for the next payload.  So how the byte stream is cut into
payloads matters: `recognised_iff` says that the packets that are recognised are
those that were sent exactly when each payload is one packet.

The length of a recognised packet is at most that of its payload
(`resultOf_bounded`), so packets that are not the payloads cannot all be found
(`Framing.Bounded.chunks_eq_packets`).
-/

namespace XBeeMqtt

open History

/-- The packet that `MQTTPacket_read` recognised, with its type. -/
def Event.packet? : Event → Option (MsgType × List UInt8)
  | .incoming _ type message =>
    if type = .other (-1) then none else some (type, packetContents message)
  | _ => none

theorem packet?_of_not_incoming {e : Event} (h : e.isIncoming = false) : e.packet? = none := by
  cases e with
  | incoming bytes type message => exact absurd h.symm Bool.false_ne_true
  | _ => rfl

theorem packet?_bounded {message payload bytes : List UInt8} {buflen : Nat}
    {packet : MsgType × List UInt8}
    (h : Event.packet? (.incoming bytes (readPacket message payload buflen).1
      (readPacket message payload buflen).2) = some packet) : packet.2.length ≤ buflen := by
  unfold Event.packet? at h
  dsimp only at h
  split at h
  · exact absurd h.symm (Option.some_ne_none packet)
  · rename_i htype
    rw [← Option.some.inj h]
    exact length_packetContents_le htype

/-- The packets of a log, the oldest first. -/
def packetsOf (log : List Event) : List (MsgType × List UInt8) :=
  log.reverse.filterMap Event.packet?

theorem packetsOf_append (new log : List Event) :
    packetsOf (new ++ log) = packetsOf log ++ packetsOf new := by
  unfold packetsOf
  rw [List.reverse_append, List.filterMap_append]

theorem packetsOf_of_not_incoming {log : List Event} (h : ∀ e ∈ log, e.isIncoming = false) :
    packetsOf log = [] := by
  unfold packetsOf
  rw [List.filterMap_eq_nil_iff]
  intro e he
  exact packet?_of_not_incoming (h e (List.mem_reverse.1 he))

/-- One packet at most, among events that are none. -/
theorem packetsOf_one {new log : List Event} (e : Event) (hnew : ∀ e ∈ new, e.isIncoming = false)
    (hlog : ∀ e ∈ log, e.isIncoming = false) :
    packetsOf (new ++ e :: log) = e.packet?.toList := by
  have hsplit : new ++ e :: log = new ++ ([e] ++ log) := rfl
  rw [hsplit, packetsOf_append, packetsOf_append, packetsOf_of_not_incoming hnew,
    packetsOf_of_not_incoming hlog, List.append_nil, List.nil_append]
  unfold packetsOf
  rw [List.reverse_singleton, List.filterMap_cons]
  cases e.packet? with
  | none => rfl
  | some packet => rfl

/-- The type and the bytes of a packet that was sent. -/
def sentPacket (packet : List UInt8) : MsgType × List UInt8 :=
  (.ofHeader (packet.headD 0), packet)

namespace GB4MQTT

variable {m : GB4MQTT} {paho : Paho} {env : Env}

/-! ## One payload -/

/-- The broker library reads packets as documented. -/
def ReadsPackets (paho : Paho) : Prop :=
  ∀ message payload buflen, paho.packetRead message payload buflen =
    readPacket message payload buflen

/-- The event that the processing of a payload leaves. -/
def incomingOf (paho : Paho) (payload : List UInt8) (env : Env) : Event :=
  let inc := readBytes paho env (payload.take maxPacketSize)
  .incoming (payload.take maxPacketSize) inc.type inc.message

/-- What is recognised in a payload. -/
def resultOf (paho : Paho) (payload : List UInt8) (env : Env) : Option (MsgType × List UInt8) :=
  (incomingOf paho payload env).packet?

theorem resultOf_bounded (hread : ReadsPackets paho) {payload : List UInt8}
    {packet : MsgType × List UInt8} (h : resultOf paho payload env = some packet) :
    packet.2.length ≤ payload.length := by
  unfold resultOf incomingOf readBytes at h
  rw [hread] at h
  have hlen := packet?_bounded h
  rw [List.length_take] at hlen
  exact Nat.le_trans hlen (Nat.min_le_right _ _)

/-- A packet of the broker that fits the buffer. -/
def WellFormed (packet : List UInt8) : Prop :=
  packet.length ≤ maxPacketSize ∧ ∃ header body, packet = packetBytes header body

theorem resultOf_packet (hread : ReadsPackets paho) {packet : List UInt8}
    (h : WellFormed packet) (env : Env) : resultOf paho packet env = some (sentPacket packet) := by
  obtain ⟨hlen, header, body, rfl⟩ := h
  have hbody : body.length < 128 ^ 4 := by
    have hle : body.length ≤ (packetBytes header body).length := by
      unfold packetBytes
      rw [List.length_append]
      omega
    have hmax : maxPacketSize = 128 := rfl
    omega
  obtain ⟨htype, hcontents⟩ := readPacket_packetBytes hbody header env.message
    (env.payload.drop (packetBytes header body).length)
  have hne := MsgType.ofHeader_ne header
  unfold resultOf incomingOf readBytes
  rw [List.take_of_length_le hlen, hread]
  dsimp only [Event.packet?]
  rw [htype, if_neg hne, hcontents]
  rfl

/-! ## One poll -/

/-- A tick that delivers one payload. -/
def DeliversOne (env : Env) (payload : List UInt8) : Prop :=
  (tickEvents env.frames).filterMap Event.payload? = [payload]

instance (env : Env) (payload : List UInt8) : Decidable (DeliversOne env payload) :=
  inferInstanceAs (Decidable (_ = _))

theorem DeliversOne.last {payload : List UInt8} (h : DeliversOne env payload) :
    lastReceived (tickEvents env.frames) = some payload := by
  unfold lastReceived
  rw [← List.head?_filterMap, h]
  rfl

/-- The switch takes a pending payload in `STANDBY`. -/
theorem standby_takes (hs : m.state = .standby) (hp : m.radio.gReceive.mPending = true)
    {m' : GB4MQTT} (hstep : SwitchStep m paho env m') :
    ∃ new, (∀ e ∈ new, e.isIncoming = false) ∧ m'.radio.log =
      new ++ .incoming m.bytesRead (m.readIncoming paho env).type
        (m.readIncoming paho env).message :: m.radio.log := by
  have htaken : ∀ {b : Bool} {m₁ : GB4MQTT},
      Handled (({ m with state := .standby } : GB4MQTT).dispatchIncomming paho env).2
        paho env b m₁ → ∃ new, (∀ e ∈ new, e.isIncoming = false) ∧ m₁.radio.log =
      new ++ .incoming m.bytesRead (m.readIncoming paho env).type
        (m.readIncoming paho env).message :: m.radio.log := by
    intro b m₁ hhandled
    obtain ⟨new, hlog, hnew⟩ := hhandled.log
    refine ⟨new, fun e he => ?_, ?_⟩
    · rcases hnew e he with ⟨req, status, rfl⟩ | ⟨message, len, result, rfl⟩
      · rfl
      · rfl
    · rcases ({ m with state := .standby } : GB4MQTT).dispatchIncomming_cases paho env with
        ⟨hp', _⟩ | ⟨_, keepalive, ping, heq⟩
      · exact absurd (hp'.symm.trans hp) (by decide)
      · rw [hlog, heq]
        rfl
  cases hstep with
  | served _ hhandled => exact htaken hhandled
  | servedDrop _ hhandled =>
    obtain ⟨new, hnew, hlog⟩ := htaken hhandled
    refine ⟨.resetSocket :: new, fun e he => ?_, congrArg (List.cons _) hlog⟩
    rcases List.mem_cons.1 he with he | he
    · rw [he]
      rfl
    · exact hnew e he
  | noCase _ _ _ _ _ hne => exact absurd hs hne
  | idle h _ | connecting h _ _ | connectFailed h _ | stillConnecting h _ | connectLost h
  | socketConnected h _ | connectMalformed h | connectSent h _ | connectRefused h _ _ _
  | connectDropped h _ _ _ | listening h _ | accepted h _ _ | rejected h =>
    exact absurd (hs.symm.trans h) (by decide)

/-- A poll in `STANDBY` recognises what is recognised in its payload. -/
theorem poll_packets (m : GB4MQTT) (paho : Paho) (hs : m.state = .standby)
    (hge : .socketReady ≤ (m.radio.poll env).mState) {payload : List UInt8}
    (hone : DeliversOne env payload) :
    ∃ events, (m.poll paho env).2.radio.log = events ++ m.radio.log ∧
      packetsOf events = (resultOf paho payload env).toList := by
  obtain ⟨hticked, hrec⟩ := GB4XBee.poll_ticked hge
  obtain ⟨hp, hholds⟩ := m.radio.gReceive.tick_holds hone.last
  rw [← hrec] at hp hholds
  have hbytes : (m.pollRadio env).bytesRead = payload.take maxPacketSize :=
    XBeeReceive.read_of_holds hholds (by decide)
  rcases m.poll_cases paho env with ⟨hlt, _⟩ | ⟨_, hstep⟩
  · exact absurd hge (Nat.not_le.2 hlt)
  · obtain ⟨new, hnew, hlog⟩ := standby_takes (m := m.pollRadio env) hs hp hstep
    have hmid : (m.pollRadio env).radio.log = tickEvents env.frames ++ m.radio.log := hticked
    unfold readIncoming at hlog
    rw [hbytes, hmid] at hlog
    refine ⟨new ++ incomingOf paho payload env :: tickEvents env.frames, ?_, ?_⟩
    · rw [hlog, List.append_assoc]
      rfl
    · apply packetsOf_one _ hnew
      intro e he
      exact isIncoming_of_ofRadio (GB4XBee.ofRadio_of_mem_tickEvents he)

/-! ## A stream of payloads -/

/-- The object after polls with their payloads. -/
def afterPolls (paho : Paho) : GB4MQTT → List (List UInt8 × Env) → GB4MQTT
  | m, [] => m
  | m, poll :: polls => afterPolls paho (m.poll paho poll.2).2 polls

/-- Every poll finds `STANDBY` over a connected radio, and its tick delivers its
payload. -/
def Fed (paho : Paho) : GB4MQTT → List (List UInt8 × Env) → Prop
  | _, [] => True
  | m, poll :: polls => m.state = .standby ∧
      ((m.radio.poll poll.2).mState = .connected ∨ (m.radio.poll poll.2).mState = .sending) ∧
      DeliversOne poll.2 poll.1 ∧ Fed paho (m.poll paho poll.2).2 polls

instance Fed.instDecidable (paho : Paho) :
    (m : GB4MQTT) → (polls : List (List UInt8 × Env)) → Decidable (Fed paho m polls)
  | _, [] => .isTrue trivial
  | m, poll :: polls =>
    have := Fed.instDecidable paho (m.poll paho poll.2).2 polls
    inferInstanceAs (Decidable (_ ∧ _ ∧ _ ∧ Fed paho (m.poll paho poll.2).2 polls))

/-- The payloads of the polls. -/
def payloads (polls : List (List UInt8 × Env)) : List (List UInt8) := polls.map Prod.fst

/-- What is recognised in the payloads, one by one. -/
def resultsOf (paho : Paho) (polls : List (List UInt8 × Env)) :
    List (Option (MsgType × List UInt8)) :=
  polls.map fun poll => resultOf paho poll.1 poll.2

theorem fed_packets {polls : List (List UInt8 × Env)} (h : Fed paho m polls) :
    ∃ events, (afterPolls paho m polls).radio.log = events ++ m.radio.log ∧
      packetsOf events = (resultsOf paho polls).reduceOption := by
  induction polls generalizing m with
  | nil => exact ⟨[], rfl, rfl⟩
  | cons poll polls ih =>
    obtain ⟨hs, hr, hone, hfed⟩ := h
    have hge : GB4XBee.State.socketReady ≤ (m.radio.poll poll.2).mState := by
      rcases hr with hr | hr <;> rw [hr] <;> decide
    obtain ⟨events, hlog, hpackets⟩ := m.poll_packets paho hs hge hone
    obtain ⟨events', hlog', hpackets'⟩ := ih hfed
    refine ⟨events' ++ events, ?_, ?_⟩
    · rw [List.append_assoc, ← hlog]
      exact hlog'
    · rw [packetsOf_append, hpackets, hpackets']
      unfold resultsOf
      rw [List.map_cons]
      cases resultOf paho poll.1 poll.2 with
      | none => rw [List.reduceOption_cons_of_none]; rfl
      | some packet => rw [List.reduceOption_cons_of_some]; rfl

theorem results_bounded (hread : ReadsPackets paho) (polls : List (List UInt8 × Env)) :
    Framing.Bounded (payloads polls) ((resultsOf paho polls).map (Option.map Prod.snd)) := by
  induction polls with
  | nil => exact .nil
  | cons poll polls ih =>
    refine .cons (fun packet hpacket => ?_) ih
    obtain ⟨result, hresult, rfl⟩ := Option.map_eq_some_iff.1 hpacket
    exact resultOf_bounded hread hresult

theorem results_of_packets (hread : ReadsPackets paho) {polls : List (List UInt8 × Env)}
    (h : ∀ packet ∈ payloads polls, WellFormed packet) :
    (resultsOf paho polls).reduceOption = (payloads polls).map sentPacket := by
  induction polls with
  | nil => rfl
  | cons poll polls ih =>
    have hhead := resultOf_packet hread (h poll.1 (by simp [payloads])) poll.2
    have htail := ih fun packet hpacket => h packet (List.mem_cons_of_mem _ hpacket)
    unfold resultsOf payloads at htail ⊢
    rw [List.map_cons, hhead, List.reduceOption_cons_of_some, htail]
    rfl

/-- The packets that are recognised are those that were sent exactly when every
payload is one packet. -/
theorem recognised_iff (hread : ReadsPackets paho) {polls : List (List UInt8 × Env)}
    (hfed : Fed paho m polls) (hne : ∀ payload ∈ payloads polls, payload ≠ [])
    {packets : List (List UInt8)} (hpackets : ∀ packet ∈ packets, WellFormed packet)
    (hstream : (payloads polls).flatten = packets.flatten) :
    packetsOf (m.added (afterPolls paho m polls)) = packets.map sentPacket ↔
      payloads polls = packets := by
  obtain ⟨events, hlog, hresults⟩ := fed_packets hfed
  rw [added_eq events hlog, hresults]
  constructor
  · intro hrecognised
    have hbytes : ((resultsOf paho polls).map (Option.map Prod.snd)).reduceOption = packets := by
      rw [List.reduceOption_map, hrecognised, List.map_map]
      exact List.map_id packets
    exact (results_bounded hread polls).chunks_eq_packets hne hstream hbytes
  · intro hcut
    subst hcut
    exact results_of_packets hread hpackets

/-- A run that has sent its request and stands by. -/
def standbyRun : GB4MQTT :=
  afterCalls (samplePublish 0 false :: startupCalls ++ sessionCalls 26000 ++ [pollAt 28000 []])

/-- A poll at 28 seconds with a payload. -/
def payloadAt (payload : List UInt8) : List UInt8 × Env :=
  (payload, { frames := [.receive 1 payload], millis := fun _ => 28000 })

def pingresp : List UInt8 := [0xD0, 0x00]

theorem wellFormed_pingresps : ∀ packet ∈ [pingresp, pingresp], WellFormed packet := by
  intro packet hpacket
  rw [List.mem_cons, List.mem_singleton, or_self] at hpacket
  rw [hpacket]
  exact ⟨by decide, 0xD0, [], rfl⟩

/-- Two packets in two payloads. -/
theorem recognised_two_payloads :
    packetsOf (standbyRun.added
        (afterPolls .mqtt standbyRun [payloadAt pingresp, payloadAt pingresp])) =
      [pingresp, pingresp].map sentPacket :=
  (recognised_iff (fun _ _ _ => rfl) (by decide +kernel) (by decide)
    wellFormed_pingresps rfl).2 rfl

/-- Two packets in one payload: the second is lost. -/
theorem unrecognised_one_payload : ¬∀ (paho : Paho) (m : GB4MQTT)
    (polls : List (List UInt8 × Env)) (packets : List (List UInt8)),
    ReadsPackets paho → (system paho).Reach m → Fed paho m polls →
    (∀ payload ∈ payloads polls, payload ≠ []) → (∀ packet ∈ packets, WellFormed packet) →
    (payloads polls).flatten = packets.flatten →
    packetsOf (m.added (afterPolls paho m polls)) = packets.map sentPacket := by
  intro h
  have hlost := h .mqtt standbyRun [payloadAt (pingresp ++ pingresp)] [pingresp, pingresp]
    (fun _ _ _ => rfl) (reach_afterCalls _) (by decide +kernel) (by decide)
    wellFormed_pingresps rfl
  exact absurd hlost (by decide +kernel)

end GB4MQTT

end XBeeMqtt
