import XBeeMqtt.GB4MQTT.Attempts

/-!
# What `disconnect` does when a request ends

A request that was published with `disconnect` should take the connection down
in the poll that ends it, and one without should leave it up (`Honours`).

`handlePublishRequests` answers `false` to have the socket reset.  Where it ends a
request because its packet does not fit, or because it was sent with QoS 0, it
answers `true` without a look at `disconnect` (`Overlooks`).  `Handled.ended`
lists all the ways in which a request ends.
-/

namespace XBeeMqtt

namespace GB4MQTT

variable {m m' : GB4MQTT} {paho : Paho} {env : Env} {stored : MQTTRequest}

/-- A poll from `m` to `m'` that ends the published request takes the connection
down if that was asked for, and else leaves it up after a send with QoS 0 and
after a PUBACK. -/
structure Honours (stored : MQTTRequest) (m m' : GB4MQTT) : Prop where
  torn : m.mPublishRequest.active = true → m'.mPublishRequest.active = false →
    stored.disconnect = true →
    m'.state = .notConnected ∧ m'.radio.mState = .socketCooldownPeriod
  kept : m.mPublishRequest.active = true → m'.mPublishRequest.active = false →
    stored.disconnect = false →
    stored.qos = 0 ∧ (m.added m').any Event.isPublishSent = true ∨
      m'.mPublishRequest.gotPuback = true →
    m'.state = .standby

/-- The switch ends a request that would be disconnected, with a packet that does
not fit or with a send at QoS 0. -/
def Overlooks (m : GB4MQTT) (paho : Paho) (env : Env) : Prop :=
  .socketReady ≤ (m.radio.poll env).mState ∧ (m.state = .beginStandby ∨ m.state = .standby) ∧
    m.mPublishRequest.active = true ∧ m.mPublishRequest.readyToSend = true ∧
    m.mPublishRequest.disconnect = true ∧
    ((publishPacket paho ((m.pollRadio env).requestToSend paho env)).1 ≤ 0 ∨
      m.mPublishRequest.qos = 0 ∧ ¬(m.pollRadio env).Refuses env)

instance (m : GB4MQTT) (paho : Paho) (env : Env) : Decidable (m.Overlooks paho env) :=
  inferInstanceAs (Decidable (_ ∧ _))

theorem sentRequest_active {req : MQTTRequest} (env : Env) :
    (sentRequest req env).active = (req.active && decide (req.qos ≠ 0)) := by
  unfold sentRequest
  by_cases hqos : req.qos = 0
  · rw [if_pos hqos]
    simp [hqos]
  · rw [if_neg hqos]
    split <;> simp [hqos]

/-- The ways in which `handlePublishRequests` ends a request, with its answer. -/
theorem Handled.ended {b : Bool} (h : Handled m paho env b m')
    (hactive : m.mPublishRequest.active = true) (hend : m'.mPublishRequest.active = false) :
    b = true ∧ m.mPublishRequest.readyToSend = true ∧
        ((publishPacket paho m.claimed.mPublishRequest).1 ≤ 0 ∨
          m.mPublishRequest.qos = 0 ∧ ¬m.Refuses env) ∨
      b = true ∧ m.mPublishRequest.readyToSend = false ∧ m.mPublishRequest.disconnect = false ∨
      b = false ∧ m.mPublishRequest.readyToSend = false ∧
        (m.mPublishRequest.disconnect = true ∨ m'.mPublishRequest.gotPuback = false) := by
  have hstill : m'.mPublishRequest.active ≠ true := by
    rw [hend]
    exact Bool.false_ne_true
  cases h with
  | idle _ => exact absurd hactive hstill
  | packetError _ hready hlen => exact Or.inl ⟨rfl, hready, Or.inl hlen⟩
  | sent _ hready _ htake =>
    refine Or.inl ⟨rfl, hready, Or.inr ⟨?_, htake⟩⟩
    apply Decidable.byContradiction
    intro hqos
    apply hstill
    show (sentRequest m.claimed.mPublishRequest env).active = true
    rw [sentRequest_active]
    show (m.mPublishRequest.active && decide (m.mPublishRequest.qos ≠ 0)) = true
    rw [hactive, decide_eq_true hqos]
    rfl
  | refused _ _ _ _ _ _ => exact absurd hactive hstill
  | acknowledged _ hready _ hdis => exact Or.inr (Or.inl ⟨rfl, hready, hdis⟩)
  | acknowledgedDisconnect _ hready _ hdis => exact Or.inr (Or.inr ⟨rfl, hready, Or.inl hdis⟩)
  | waiting _ _ _ _ => exact absurd hactive hstill
  | timeoutDisconnect _ hready _ _ hdis => exact Or.inr (Or.inr ⟨rfl, hready, Or.inl hdis⟩)
  | givesUp _ hready hack _ _ _ => exact Or.inr (Or.inr ⟨rfl, hready, Or.inr hack⟩)
  | retry _ _ _ _ _ _ => exact absurd hactive hstill

/-- `handlePublishRequests` ends a request that `Overlooks` speaks of, and
answers `true`. -/
theorem Handled.of_overlooked {b : Bool} (h : Handled m paho env b m')
    (hactive : m.mPublishRequest.active = true) (hready : m.mPublishRequest.readyToSend = true)
    (hwhy : (publishPacket paho m.claimed.mPublishRequest).1 ≤ 0 ∨
      m.mPublishRequest.qos = 0 ∧ ¬m.Refuses env) :
    b = true ∧ m'.mPublishRequest.active = false := by
  have hnot : m.mPublishRequest.readyToSend ≠ false := by
    rw [hready]
    exact Bool.false_ne_true.symm
  cases h with
  | idle hinactive => exact absurd (hinactive.symm.trans hactive) Bool.false_ne_true
  | packetError _ _ _ => exact ⟨rfl, rfl⟩
  | sent _ _ hlen _ =>
    refine ⟨rfl, ?_⟩
    rcases hwhy with hshort | ⟨hqos, _⟩
    · exact absurd hlen (Int.not_lt.2 hshort)
    · show (sentRequest m.claimed.mPublishRequest env).active = false
      rw [sentRequest_active, decide_eq_false (fun hne => hne hqos), Bool.and_false]
  | refused _ _ hlen href _ _ =>
    rcases hwhy with hshort | ⟨_, htake⟩
    · exact absurd hlen (Int.not_lt.2 hshort)
    · exact absurd href htake
  | acknowledged _ hfalse _ _ => exact absurd hfalse hnot
  | acknowledgedDisconnect _ hfalse _ _ => exact absurd hfalse hnot
  | waiting _ hfalse _ _ => exact absurd hfalse hnot
  | timeoutDisconnect _ hfalse _ _ _ => exact absurd hfalse hnot
  | givesUp _ hfalse _ _ _ _ => exact absurd hfalse hnot
  | retry _ hfalse _ _ _ _ => exact absurd hfalse hnot

/-- The switch of a poll in `BEGIN_STANDBY` or `STANDBY`. -/
theorem poll_standby (paho : Paho) (hge : .socketReady ≤ (m.radio.poll env).mState)
    (hs : m.state = .beginStandby ∨ m.state = .standby) :
    (m.poll paho env).2 =
      ({ m.pollRadio env with state := .standby } : GB4MQTT).standbyStep paho env := by
  rw [poll_eq_mainStep hge]
  rcases hs with hs | hs
  · have hs : (m.pollRadio env).state = .beginStandby := hs
    simp only [mainStep, hs]
  · have hs : (m.pollRadio env).state = .standby := hs
    simp only [mainStep, hs]
    rw [← hs]

/-- Such a poll reads the mailbox, runs `handlePublishRequests`, and resets the
socket if that answers `false`. -/
theorem poll_handled (paho : Paho) (hge : .socketReady ≤ (m.radio.poll env).mState)
    (hs : m.state = .beginStandby ∨ m.state = .standby) :
    ∃ b d m₁, m.Leaves (decide ((m.pollRadio env).TakesPuback paho env)) d ∧ d.state = .standby ∧
      d.radio.mState = (m.pollRadio env).radio.mState ∧ Handled d paho env b m₁ ∧
      (m.poll paho env).2 = if b = false then m₁.drop env else m₁ := by
  let s : GB4MQTT := { m.pollRadio env with state := .standby }
  have hradio := m.leaves_pollRadio env
  have hread := s.leaves_dispatchIncomming paho env
  refine ⟨_, (s.dispatchIncomming paho env).2, _, hradio.trans ⟨hread.request, hread.quiet⟩,
    dispatchIncomming_state s paho env, dispatchIncomming_mState s paho env,
    handled (s.dispatchIncomming paho env).2 paho env, ?_⟩
  rw [poll_standby paho hge hs]
  rfl

/-- Other polls do not end a request. -/
theorem poll_active (paho : Paho) (h : ¬(.socketReady ≤ (m.radio.poll env).mState ∧
    (m.state = .beginStandby ∨ m.state = .standby))) :
    (m.poll paho env).2.mPublishRequest.active = m.mPublishRequest.active := by
  cases m.poll_requestStep paho env with
  | left _ hl => rw [hl.request]
  | listened _ _ hl => rw [hl.request]
  | handled hge hs _ _ _ _ => exact absurd ⟨hge, hs⟩ h

/-- A poll that overlooks `disconnect` ends the request and stays connected. -/
theorem Overlooks.ended (h : m.Overlooks paho env) :
    (m.poll paho env).2.mPublishRequest.active = false ∧ (m.poll paho env).2.state = .standby := by
  obtain ⟨hge, hs, hactive, hready, _, hwhy⟩ := h
  obtain ⟨b, d, m₁, hl, hstate, hradio, hhandled, heq⟩ := poll_handled paho hge hs
  have hreq := hl.request
  have hwhy' : (publishPacket paho d.claimed.mPublishRequest).1 ≤ 0 ∨
      d.mPublishRequest.qos = 0 ∧ ¬d.Refuses env := by
    unfold Refuses at hwhy ⊢
    rw [hl.requestToSend, hreq, hradio]
    exact hwhy
  obtain ⟨hb, hend⟩ := hhandled.of_overlooked (by rw [hreq]; exact hactive)
    (by rw [hreq]; exact hready) hwhy'
  rw [heq, hb]
  exact ⟨hend, hhandled.frame.1.trans hstate⟩

theorem Quiet.no_publishSent (h : m.Quiet m') :
    (m.added m').any Event.isPublishSent ≠ true := by
  obtain ⟨new, hlog, hnew⟩ := h
  rw [added_eq new hlog]
  intro hsent
  obtain ⟨e, he, hsent⟩ := List.any_eq_true.1 hsent
  rw [Event.isPublishSent_of_isQuiet (hnew e he)] at hsent
  exact Bool.false_ne_true hsent

theorem honours_of_not_overlooks (h : ¬m.Overlooks paho env)
    (hdis : m.mPublishRequest.disconnect = stored.disconnect) :
    Honours stored m (m.poll paho env).2 := by
  by_cases hrun : .socketReady ≤ (m.radio.poll env).mState ∧
      (m.state = .beginStandby ∨ m.state = .standby)
  · obtain ⟨hge, hs⟩ := hrun
    obtain ⟨b, d, m₁, hl, hstate, hradio, hhandled, heq⟩ := poll_handled paho hge hs
    have hreq := hl.request
    have hreq' : (m.poll paho env).2.mPublishRequest = m₁.mPublishRequest := by
      rw [heq]
      split <;> rfl
    have hmissed : m.mPublishRequest.active = true → stored.disconnect = true →
        d.mPublishRequest.readyToSend = true →
        ¬((publishPacket paho d.claimed.mPublishRequest).1 ≤ 0 ∨
          d.mPublishRequest.qos = 0 ∧ ¬d.Refuses env) := by
      intro hactive hdis' hready hwhy
      unfold Refuses at hwhy
      rw [hl.requestToSend, hreq, hradio] at hwhy
      rw [hreq] at hready
      exact h ⟨hge, hs, hactive, hready, hdis.trans hdis', hwhy⟩
    have hsame : d.mPublishRequest.disconnect = stored.disconnect := by
      rw [hreq]
      exact hdis
    refine ⟨fun hactive hend hdis' => ?_, fun hactive hend hdis' hwhy => ?_⟩
    · rw [hreq'] at hend
      rcases hhandled.ended (by rw [hreq]; exact hactive) hend with
        ⟨_, hready, hwhy⟩ | ⟨_, _, hnodis⟩ | ⟨hb, _, _⟩
      · exact absurd hwhy (hmissed hactive hdis' hready)
      · exact absurd (hnodis.symm.trans (hsame.trans hdis')) Bool.false_ne_true
      · rw [heq, if_pos hb]
        exact ⟨rfl, rfl⟩
    · rw [hreq'] at hend hwhy
      have hup : b = true → (m.poll paho env).2.state = .standby := by
        intro hb
        rw [heq, hb]
        exact hhandled.frame.1.trans hstate
      rcases hhandled.ended (by rw [hreq]; exact hactive) hend with
        ⟨hb, _⟩ | ⟨hb, _⟩ | ⟨hb, hready, hdis'' | hnack⟩
      · exact hup hb
      · exact hup hb
      · exact absurd (hdis'.symm.trans (hsame.symm.trans hdis'')) Bool.false_ne_true
      · rcases hwhy with ⟨_, hsent⟩ | hack
        · obtain ⟨hquiet, _⟩ := hhandled.of_waiting (by rw [hreq]; exact hactive) hready
          have hall : m.Quiet (m.poll paho env).2 := by
            rw [heq, if_pos hb]
            exact (hl.quiet.trans hquiet).trans (Leaves.drop m₁ env).quiet
          exact absurd hsent hall.no_publishSent
        · exact absurd (hnack.symm.trans hack) Bool.false_ne_true
  · have hsame := poll_active paho hrun
    refine ⟨fun hactive hend => ?_, fun hactive hend => ?_⟩
    · exact absurd (hend.symm.trans (hsame.trans hactive)) Bool.false_ne_true
    · exact absurd (hend.symm.trans (hsame.trans hactive)) Bool.false_ne_true

/-- A poll of a run honours `disconnect` unless it overlooks it. -/
theorem honours_iff (h : (system paho).Reach m)
    (hstored : lastPublished m.radio.log = some stored) :
    Honours stored m (m.poll paho env).2 ↔ ¬m.Overlooks paho env := by
  have hdis := (Stored.of_lastPublished h hstored).request.disconnect
  constructor
  · intro hhonours hoverlooks
    obtain ⟨hend, hstate⟩ := hoverlooks.ended
    have htorn := hhonours.torn hoverlooks.2.2.1 hend (hdis.symm.trans hoverlooks.2.2.2.2.1)
    exact absurd (hstate.symm.trans htorn.1) (by decide)
  · intro hnot
    exact honours_of_not_overlooks hnot hdis

/-- A request with `disconnect` that times out after it was sent. -/
theorem honours_iff_timeout :
    let m := afterCalls (samplePublish 1 true :: startupCalls ++ sessionCalls 26000 ++
      [pollAt 28000 []])
    let m' := (m.poll .mqtt { millis := fun _ => 38000 }).2
    m.mPublishRequest.active = true ∧ m'.mPublishRequest.active = false ∧
      ∃ stored, stored.disconnect = true ∧ Honours stored m m' := by
  intro m m'
  have hstored : lastPublished m.radio.log = some ((lastPublished m.radio.log).getD default) := by
    decide +kernel
  refine ⟨by decide +kernel, by decide +kernel, (lastPublished m.radio.log).getD default, ?_, ?_⟩
  · decide +kernel
  · exact (honours_iff (reach_afterCalls _) hstored).2 (by decide +kernel)

/-- A request with QoS 0 and `disconnect` is sent, and the session goes on. -/
theorem overlooks_qos0 : ¬∀ (paho : Paho) (m : GB4MQTT) (env : Env) (stored : MQTTRequest),
    (system paho).Reach m → lastPublished m.radio.log = some stored →
    Honours stored m (m.poll paho env).2 := by
  intro h
  let m := afterCalls (samplePublish 0 true :: startupCalls ++ sessionCalls 26000)
  have hhonours := h .mqtt m { millis := fun _ => 28000 }
    ((lastPublished m.radio.log).getD default) (reach_afterCalls _) (by decide +kernel)
  have htorn := hhonours.torn (by decide +kernel) (by decide +kernel) (by decide +kernel)
  exact absurd htorn.1 (by decide +kernel)

end GB4MQTT

end XBeeMqtt
