import XBeeMqtt.GB4MQTT.Dispatch
import XBeeMqtt.GB4MQTT.Isolation

/-!
# A PUBLISH needs an accepted session

A PUBLISH should only be handed to the radio when, on the present socket, a
CONNECT was sent and a CONNACK that accepts was delivered after it
(`Established`).  The source takes a session for accepted without one in two
ways:

* `status` of `dispatchIncomming` is unassigned for a PUBLISH, and
  `AWAIT_CONNACK` may read `GOT_CONNACK` from it;
* the payload that is pending when the CONNECT is sent is read as its answer.

`Trusts` says that a poll in `AWAIT_CONNACK` takes neither way, and
`inSession_of_reach` that a run of such polls only publishes in a session.  Any
other poll leaves a session that nothing accepted (`baseless_of_not_trusts`), and
what is published on such a connection is not in a session (`not_inSession_of_sent`).
-/

namespace XBeeMqtt

open History

namespace GB4MQTT

/-- The packet is a CONNACK with `MQTT_CONNECTION_ACCEPTED`. -/
def Accepts (paho : Paho) (inc : Incoming) : Prop :=
  inc.type = .connack ∧
    paho.deserializeConnack inc.message inc.messageLen = some connectionAccepted

instance (paho : Paho) (inc : Incoming) : Decidable (Accepts paho inc) :=
  inferInstanceAs (Decidable (_ ∧ _))

/-- The payload is read as such a CONNACK, for some contents of the buffers. -/
def AcceptsPayload (paho : Paho) (payload : List UInt8) : Prop :=
  ∃ env, Accepts paho (readBytes paho env (payload.take maxPacketSize))

/-- Since the last socket creation a CONNECT was sent, and after it an accepting
CONNACK was delivered. -/
def Established (paho : Paho) (log : List Event) : Prop :=
  ∃ newer payload older,
    since Event.isSocketCreate log = newer ++ .received payload :: older ∧
      .connectRequest .connectSent ∈ older ∧ AcceptsPayload paho payload

/-- A PUBLISH that is handed to the radio finds a session. -/
def InSession (paho : Paho) (e : Event) (older : List Event) : Prop :=
  match e with
  | .publishRequest _ status => status ≠ .publishPacketError → Established paho older
  | _ => True

variable {m : GB4MQTT} {paho : Paho} {env : Env} {log : List Event}

theorem Established.append (h : Established paho log) (new : List Event)
    (hnew : ∀ e ∈ new, e.isSocketCreate = false) : Established paho (new ++ log) := by
  obtain ⟨newer, payload, older, hsince, hsent, haccepts⟩ := h
  refine ⟨new ++ newer, payload, older, ?_, hsent, haccepts⟩
  rw [since_append hnew, hsince, List.append_assoc]

theorem inSession_of_established (h : Established paho log) (e : Event) :
    InSession paho e log := by
  cases e with
  | publishRequest req status => exact fun _ => h
  | _ => trivial

/-- In a session any events but a socket creation can follow. -/
theorem inSession_append (h : Established paho log) (halways : Always (InSession paho) log)
    (new : List Event) (hnew : ∀ e ∈ new, e.isSocketCreate = false) :
    Always (InSession paho) (new ++ log) := by
  apply always_append halways
  intro newer e older hsplit
  apply inSession_of_established
  apply h.append
  intro e' he'
  exact hnew e' (by rw [hsplit]; simp [he'])

theorem inSession_of_ofRadio {e : Event} (h : e.ofRadio = true) (older : List Event) :
    InSession paho e older := by
  cases e with
  | publishRequest req status => exact absurd h Bool.false_ne_true
  | _ => trivial

/-! ## Polls that trust no other packet -/

/-- What `AWAIT_CONNACK` takes for an accepted session is a CONNACK, and it was
delivered in the tick of this poll. -/
structure Trusts (m : GB4MQTT) (paho : Paho) (env : Env) : Prop where
  publish : m.state = .awaitConnack → m.radio.gReceive.mPending = true →
    (m.readIncoming paho env).type = .publish → env.status ≠ .gotConnack
  stale : m.state = .awaitConnack → m.radio.gReceive.mPending = true →
    lastReceived (tickEvents env.frames) = none → ¬Accepts paho (m.readIncoming paho env)

instance (m : GB4MQTT) (paho : Paho) (env : Env) : Decidable (m.Trusts paho env) :=
  decidable_of_iff
    ((m.state = .awaitConnack → m.radio.gReceive.mPending = true →
        (m.readIncoming paho env).type = .publish → env.status ≠ .gotConnack) ∧
      (m.state = .awaitConnack → m.radio.gReceive.mPending = true →
        lastReceived (tickEvents env.frames) = none → ¬Accepts paho (m.readIncoming paho env)))
    ⟨fun h => ⟨h.1, h.2⟩, fun h => ⟨h.publish, h.stale⟩⟩

/-- The condition on a call: a poll whose switch runs trusts no other packet. -/
def TrustsConnack (paho : Paho) (m : GB4MQTT) (c : Call) : Prop :=
  match c with
  | .poll env => .socketReady ≤ (m.radio.poll env).mState → (m.pollRadio env).Trusts paho env
  | _ => True

instance (paho : Paho) (m : GB4MQTT) : (c : Call) → Decidable (TrustsConnack paho m c)
  | .poll env => inferInstanceAs (Decidable (_ → (m.pollRadio env).Trusts paho env))
  | .publish _ _ _ _ _ _ _ | .setClientID _ | .setPassword _ | .setClientName _ | .setAddress _
  | .setPort _ | .startConnect => .isTrue trivial

/-- What the state of the session says about the log. -/
structure Tracks (paho : Paho) (m : GB4MQTT) : Prop where
  sent : m.state = .awaitConnack →
    .connectRequest .connectSent ∈ since Event.isSocketCreate m.radio.log
  established : m.state = .beginStandby ∨ m.state = .standby → Established paho m.radio.log
  inSession : Always (InSession paho) m.radio.log

theorem Tracks.of_other (hs : m.state ≠ .awaitConnack) (hs' : m.state ≠ .beginStandby)
    (hs'' : m.state ≠ .standby) (h : Always (InSession paho) m.radio.log) : Tracks paho m :=
  ⟨fun hs₁ => absurd hs₁ hs, fun hs₁ => absurd hs₁ (not_or.2 ⟨hs', hs''⟩), h⟩

theorem Tracks.drop (h : Always (InSession paho) m.radio.log) (env : Env) :
    Tracks paho (m.drop env) :=
  .of_other (show State.notConnected ≠ _ by decide) (show State.notConnected ≠ _ by decide)
    (show State.notConnected ≠ _ by decide) ⟨trivial, h⟩

/-! ## One poll -/

/-- An accepted status means an accepting CONNACK. -/
theorem accepts_of_gotConnack {inc : Incoming}
    (hstatus : dispatchStatus paho env inc = .gotConnack)
    (hpublish : inc.type = .publish → env.status ≠ .gotConnack) : Accepts paho inc := by
  by_cases htype : inc.type = .publish
  · have hgarbage : env.status = .gotConnack := by
      rw [← hstatus]
      simp only [dispatchStatus, htype]
    exact absurd hgarbage (hpublish htype)
  · exact (dispatchStatus_eq_gotConnack htype).1 hstatus

/-- A payload of this tick that is read as an accepting CONNACK. -/
theorem established_of_accepts (hge : .socketReady ≤ (m.radio.poll env).mState)
    (hsent : .connectRequest .connectSent ∈ since Event.isSocketCreate m.radio.log)
    {payload : List UInt8} (hlast : lastReceived (tickEvents env.frames) = some payload)
    (haccepts : Accepts paho ((m.pollRadio env).readIncoming paho env)) :
    Established paho (m.pollRadio env).radio.log := by
  obtain ⟨hlog, hrec⟩ := GB4XBee.poll_ticked hge
  obtain ⟨newer, e, older, hsplit, he, _⟩ := List.findSome?_eq_some_iff.1 hlast
  have he : e = .received payload := by
    cases e with
    | received payload' =>
      rw [Option.some.inj he]
    | _ => exact absurd he.symm (Option.some_ne_none payload)
  subst he
  have hbytes : (m.pollRadio env).bytesRead = payload.take maxPacketSize := by
    have hholds := (m.radio.gReceive.tick_holds hlast).2
    rw [← hrec] at hholds
    exact XBeeReceive.read_of_holds hholds (by decide)
  refine ⟨newer, payload, older ++ since Event.isSocketCreate m.radio.log, ?_, ?_, env, ?_⟩
  · show since _ (m.radio.poll env).log = _
    rw [hlog, since_append fun e he => isSocketCreate_of_tick he, hsplit, List.append_assoc]
    rfl
  · exact List.mem_append_right _ hsent
  · unfold readIncoming at haccepts
    rwa [hbytes] at haccepts

/-- What the switch adds to the log, as far as `since` sees it. -/
theorem since_of_adds {m' : GB4MQTT} (h : m.Adds m') : ∃ new,
    m'.radio.log = new ++ m.radio.log ∧ (∀ e ∈ new, e.isSocketCreate = false) ∧
      since Event.isSocketCreate m'.radio.log =
        new ++ since Event.isSocketCreate m.radio.log := by
  obtain ⟨new, hlog, hnew⟩ := h.log
  have hcreate : ∀ e ∈ new, e.isSocketCreate = false := by
    intro e he
    exact (quiet_of_ofSwitch (hnew e he)).2
  exact ⟨new, hlog, hcreate, by rw [hlog, since_append hcreate]⟩

theorem dispatched_inSession (h : Always (InSession paho) m.radio.log) (paho' : Paho)
    (env : Env) : Always (InSession paho) (m.dispatchIncomming paho' env).2.radio.log := by
  rcases m.dispatchIncomming_log paho' env with ⟨_, hlog⟩ | ⟨_, bytes, type, message, hlog⟩
  · rwa [hlog]
  · rw [hlog]
    exact ⟨trivial, h⟩

/-- The switch, when an accepted status means a session. -/
theorem Tracks.switch (h : Tracks paho m) {m' : GB4MQTT}
    (haccepted : m.state = .awaitConnack → m.radio.gReceive.mPending = true →
      dispatchStatus paho env (m.readIncoming paho env) = .gotConnack →
      Established paho m.radio.log)
    (hstep : SwitchStep m paho env m') : Tracks paho m' := by
  obtain ⟨new, hlog, hcreate, hsince⟩ := since_of_adds hstep.adds
  have hserved : m.state = .beginStandby ∨ m.state = .standby →
      Established paho m'.radio.log ∧ Always (InSession paho) m'.radio.log := by
    intro hs
    have hsession := h.established hs
    rw [hlog]
    exact ⟨hsession.append new hcreate, inSession_append hsession h.inSession new hcreate⟩
  cases hstep with
  | idle _ _ => exact h
  | connecting hs _ _ =>
    exact .of_other (by simp) (by simp) (by simp) ⟨trivial, h.inSession⟩
  | connectFailed _ _ =>
    exact .of_other (by simp) (by simp) (by simp) ⟨trivial, trivial, h.inSession⟩
  | stillConnecting _ _ => exact h
  | connectLost _ => exact .drop h.inSession env
  | socketConnected _ _ => exact .of_other (by simp) (by simp) (by simp) h.inSession
  | connectMalformed hs =>
    exact .of_other (by simp [hs]) (by simp [hs]) (by simp [hs]) ⟨trivial, h.inSession⟩
  | connectSent hs _ =>
    refine ⟨fun _ => ?_, fun hs' => absurd hs' (by simp), ⟨trivial, trivial, h.inSession⟩⟩
    unfold connectSent
    dsimp only
    rw [since_cons rfl]
    exact List.mem_cons_self
  | connectRefused hs _ _ _ =>
    exact .of_other (by simp [connectRefused, hs]) (by simp [connectRefused, hs])
      (by simp [connectRefused, hs]) ⟨trivial, trivial, h.inSession⟩
  | @connectDropped result status _ _ _ _ =>
    have hdropped : Always (InSession paho) (m.connectRefused paho result status).radio.log :=
      ⟨trivial, trivial, h.inSession⟩
    exact .drop hdropped env
  | listening hs _ =>
    refine ⟨fun _ => ?_, fun hs' => ?_, dispatched_inSession h.inSession paho env⟩
    · rw [hsince]
      exact List.mem_append_right _ (h.sent hs)
    · rw [dispatchIncomming_state, hs] at hs'
      exact absurd hs' (by decide)
  | accepted hs hp hstatus =>
    have hsession := haccepted hs hp hstatus
    refine ⟨fun hs' => absurd hs' (by simp), fun _ => ?_, dispatched_inSession h.inSession paho env⟩
    rw [hlog]
    exact hsession.append new hcreate
  | rejected _ => exact .drop (dispatched_inSession h.inSession paho env) env
  | served hs hhandled =>
    obtain ⟨hsession, halways⟩ := hserved hs
    have hstate : m'.state = .standby := hhandled.frame.1.trans (dispatchIncomming_state _ _ _)
    refine ⟨fun hs' => ?_, fun _ => hsession, halways⟩
    rw [hstate] at hs'
    exact absurd hs' (by decide)
  | servedDrop hs _ =>
    exact .of_other (show State.notConnected ≠ _ by decide)
      (show State.notConnected ≠ _ by decide) (show State.notConnected ≠ _ by decide)
      (hserved hs).2
  | noCase _ _ _ _ _ _ => exact h

theorem Tracks.poll (h : Tracks paho m) (htrusts : TrustsConnack paho m (.poll env)) :
    Tracks paho (m.poll paho env).2 := by
  obtain ⟨new, hlog, hnew⟩ := m.radio.poll_log env
  have halways : Always (InSession paho) (m.pollRadio env).radio.log := by
    show Always _ (m.radio.poll env).log
    rw [hlog]
    exact h.inSession.append fun e he => inSession_of_ofRadio (hnew e he)
  rcases m.poll_cases paho env with ⟨_, heq⟩ | ⟨hge, hstep⟩
  · rw [heq]
    exact .of_other (by simp) (by simp) (by simp) halways
  · have hticked : (m.pollRadio env).radio.log = tickEvents env.frames ++ m.radio.log :=
      (GB4XBee.poll_ticked hge).1
    have hcreate : ∀ e ∈ tickEvents env.frames, e.isSocketCreate = false :=
      fun e he => isSocketCreate_of_tick he
    have hmid : Tracks paho (m.pollRadio env) := by
      refine ⟨fun hs => ?_, fun hs => ?_, halways⟩
      · rw [hticked, since_append hcreate]
        exact List.mem_append_right _ (h.sent hs)
      · rw [hticked]
        exact (h.established hs).append _ hcreate
    apply hmid.switch _ hstep
    intro hs hp hstatus
    have htrust := htrusts hge
    have haccepts := accepts_of_gotConnack hstatus (htrust.publish hs hp)
    cases hlast : lastReceived (tickEvents env.frames) with
    | none => exact absurd haccepts (htrust.stale hs hp hlast)
    | some payload => exact established_of_accepts hge (h.sent hs) hlast haccepts

/-! ## Runs -/

theorem Tracks.of_reach (h : ((system paho).restrict (TrustsConnack paho)).Reach m) :
    Tracks paho m := by
  refine h.invariant (Tracks paho) (fun m hbegun => ?_) (fun m c m' _ htracks hstep => ?_)
  · obtain ⟨mem, args, rfl⟩ := Begun.eq hbegun
    exact .of_other (by simp) (by simp) (by simp) trivial
  · obtain ⟨⟨_, rfl⟩, htrusts⟩ := hstep
    cases c with
    | publish topic topicLen message messageLen qos disconnect now =>
      refine ⟨fun hs => ?_, fun hs => ?_, trivial, htracks.inSession⟩
      · exact List.mem_cons_of_mem _ (htracks.sent hs)
      · exact (htracks.established hs).append [.published _] (by simp [Event.isSocketCreate])
    | poll env => exact htracks.poll htrusts
    | _ => exact ⟨htracks.sent, htracks.established, htracks.inSession⟩

/-- A PUBLISH with the topic `"t"` and no message. -/
def incomingPublish : List UInt8 := [0x30, 0x03, 0x00, 0x01, 0x74]

/-- A PUBLISH arrives in `AWAIT_CONNACK`, and `status` happens to hold
`GOT_CONNACK`. -/
def unassignedCalls : List Call :=
  samplePublish 1 false :: startupCalls ++ connectCalls 26000 ++
    [.poll {
      frames := [.receive 1 incomingPublish]
      millis := fun _ => 26000
      status := .gotConnack }]

theorem not_acceptsPayload_incomingPublish : ¬AcceptsPayload .mqtt incomingPublish := by
  intro haccepts
  obtain ⟨env, htype, _⟩ := haccepts
  rcases readPacket_type env.message 0x30
    ([0x03, 0x00, 0x01, 0x74] ++ env.payload.drop 5) 5 with hread | hread
  · exact absurd (hread.symm.trans htype) (by decide)
  · exact absurd (hread.symm.trans htype) (by decide)

/-- The session counts as accepted, and no CONNACK has accepted it. -/
structure Baseless (paho : Paho) (m : GB4MQTT) : Prop where
  state : m.state = .beginStandby ∨ m.state = .standby
  unaccepted : ¬Established paho m.radio.log

/-- What `AWAIT_CONNACK` takes for an accepted session all the same. -/
theorem accepted_of_not_trusts (h : ¬m.Trusts paho env) :
    m.state = .awaitConnack ∧ m.radio.gReceive.mPending = true ∧
      dispatchStatus paho env (m.readIncoming paho env) = .gotConnack ∧
      ((m.readIncoming paho env).type = .publish ∨
        lastReceived (tickEvents env.frames) = none) := by
  apply Classical.byContradiction
  intro hnot
  refine h ⟨fun hs hp htype hstatus => hnot ⟨hs, hp, ?_, Or.inl htype⟩,
    fun hs hp hlast haccepts => hnot ⟨hs, hp, ?_, Or.inr hlast⟩⟩
  · simpa only [dispatchStatus, htype] using hstatus
  · have htype : (m.readIncoming paho env).type ≠ .publish := by
      rw [haccepts.1]
      decide
    exact (dispatchStatus_eq_gotConnack htype).2 haccepts

/-- The payload that is read says nothing about a session. -/
theorem established_of_dispatched (h : Established paho (m.dispatchIncomming paho env).2.radio.log) :
    Established paho m.radio.log := by
  rcases m.dispatchIncomming_log paho env with ⟨_, hlog⟩ | ⟨_, bytes, type, message, hlog⟩
  · rwa [hlog] at h
  · rw [hlog] at h
    obtain ⟨newer, payload, older, hsince, hrest⟩ := h
    rw [since_cons rfl] at hsince
    cases newer with
    | nil => exact absurd (List.cons.inj hsince).1 (by simp)
    | cons e newer => exact ⟨newer, payload, older, (List.cons.inj hsince).2, hrest⟩

/-- A poll that trusts another packet goes to `BEGIN_STANDBY`, and leaves a session that
nothing accepted unless a CONNACK was delivered before. -/
theorem baseless_of_not_trusts (h : ¬TrustsConnack paho m (.poll env)) :
    (m.poll paho env).2.state = .beginStandby ∧
      (¬Established paho (m.pollRadio env).radio.log → Baseless paho (m.poll paho env).2) := by
  obtain ⟨hge, htrusts⟩ := Classical.not_imp.1 h
  obtain ⟨hs, hp, hstatus, _⟩ := accepted_of_not_trusts htrusts
  have hgot : ((m.pollRadio env).dispatchIncomming paho env).1 = .gotConnack := by
    rcases (m.pollRadio env).dispatchIncomming_cases paho env with ⟨hnone, _⟩ | ⟨_, _, _, heq⟩
    · exact absurd (hnone.symm.trans hp) Bool.false_ne_true
    · rw [heq]
      exact hstatus
  obtain ⟨hsnd, hiff, _⟩ := (m.pollRadio env).pollConnackStatus_cases paho env
  have hpoll : (m.poll paho env).2 =
      { ((m.pollRadio env).dispatchIncomming paho env).2 with state := .beginStandby } := by
    rw [poll_eq_mainStep hge]
    simp only [mainStep, hs, hiff.2 hgot, hsnd]
  rw [hpoll]
  exact ⟨rfl, fun hnone => ⟨Or.inl rfl, fun hestablished => hnone
    (established_of_dispatched hestablished)⟩⟩

/-- What a poll publishes on a connection that nothing has accepted is not in a session. -/
theorem not_inSession_of_sent (h : ¬Established paho (m.poll paho env).2.radio.log)
    {req : MQTTRequest} {status : Return}
    (hsent : .publishRequest req status ∈ m.added (m.poll paho env).2)
    (hstatus : status ≠ .publishPacketError) :
    ¬Always (InSession paho) (m.poll paho env).2.radio.log := by
  intro halways
  rcases m.poll_cases paho env with ⟨_, heq⟩ | ⟨hge, hstep⟩
  · obtain ⟨new, hlog, hnew⟩ := m.radio.poll_log env
    have hadded : m.added (m.poll paho env).2 = new := added_eq new (by rw [heq]; exact hlog)
    rw [hadded] at hsent
    exact absurd (hnew _ hsent) Bool.false_ne_true
  · -- no event of such a poll creates a socket, so a session would still be there
    obtain ⟨new, hlog, hcreate, _⟩ := since_of_adds hstep.adds
    have hlog : (m.poll paho env).2.radio.log =
        (new ++ tickEvents env.frames) ++ m.radio.log := by
      rw [hlog, List.append_assoc, ← (GB4XBee.poll_ticked hge).1]
      rfl
    rw [added_eq _ hlog] at hsent
    obtain ⟨newer, older, hsplit⟩ := List.append_of_mem hsent
    rw [hlog, hsplit, List.append_assoc] at halways
    have hestablished : Established paho (older ++ m.radio.log) := halways.of_append.1 hstatus
    refine h ?_
    rw [hlog, hsplit, List.append_assoc, List.cons_append, List.append_cons]
    refine hestablished.append _ fun e he => ?_
    have hmem : e ∈ new ++ tickEvents env.frames := by
      rw [hsplit]
      rcases List.mem_append.1 he with he | he
      · exact List.mem_append_left _ he
      · rw [List.mem_singleton.1 he]
        exact List.mem_append_right _ List.mem_cons_self
    rcases List.mem_append.1 hmem with he | he
    · exact hcreate e he
    · exact isSocketCreate_of_tick he

end GB4MQTT

end XBeeMqtt
