import XBeeMqtt.GB4MQTT.Redelivery

/-!
# How often a request is tried

`handlePublishRequests` asks for another try while the retry counter is at most
`GB4MQTT_PUBLISH_MAX_TRIES`, and counts it after the test.  So the counter ends
at one more than the limit (`TriesCount`), and the last try is one too many:
`StaysWithin` says that no poll makes it.
-/

namespace XBeeMqtt

namespace GB4MQTT

variable {m m' : GB4MQTT} {paho : Paho} {env : Env}

theorem answered_tries (req : MQTTRequest) (status : Return) (env : Env) :
    (answered req status env).tries = req.tries ∧
      (answered req status env).readyToSend = req.readyToSend := by
  unfold answered
  split
  · unfold sentRequest
    split
    · exact ⟨rfl, rfl⟩
    · split
      · exact ⟨rfl, rfl⟩
      · exact ⟨rfl, rfl⟩
  · exact ⟨rfl, rfl⟩
  · exact ⟨rfl, rfl⟩

/-- The retry counter counts the attempts, and `handlePublishRequests` stops it
at one more than `GB4MQTT_PUBLISH_MAX_TRIES`. -/
structure TriesCount (m : GB4MQTT) : Prop where
  active : m.mPublishRequest.active = true → (attempts m.radio.log).length =
    m.mPublishRequest.tries.toNat + if m.mPublishRequest.readyToSend = true then 0 else 1
  tries : m.mPublishRequest.tries.toNat ≤ publishMaxTries.toNat + 1

theorem TriesCount.step (h : m.TriesCount) (ht : Tries m paho env m') : m'.TriesCount := by
  have hcount := h.active
  have htries := h.tries
  cases ht with
  | left hl =>
    refine ⟨?_, by rw [hl.request]; exact htries⟩
    rw [hl.request, hl.quiet.attempts_eq]
    exact hcount
  | ended _ hquiet hreq =>
    refine ⟨fun hactive => ?_, by rw [hreq]; exact htries⟩
    rw [hreq] at hactive
    exact absurd hactive Bool.false_ne_true
  | retried hactive hready _ hle hquiet hreq =>
    have hle : m.mPublishRequest.tries.toNat ≤ publishMaxTries.toNat :=
      UInt8.le_iff_toNat_le.1 hle
    have hsucc : (m.mPublishRequest.tries + 1).toNat = m.mPublishRequest.tries.toNat + 1 := by
      have hmax : publishMaxTries.toNat = 4 := rfl
      rw [UInt8.toNat_add]
      show (m.mPublishRequest.tries.toNat + 1) % 256 = _
      omega
    have hold := hcount hactive
    rw [if_neg (by rw [hready]; exact Bool.false_ne_true)] at hold
    refine ⟨fun _ => ?_, ?_⟩
    · rw [hreq, hquiet.attempts_eq, hold]
      show _ = (m.mPublishRequest.tries + 1).toNat + 0
      rw [hsucc]
    · rw [hreq]
      show (m.mPublishRequest.tries + 1).toNat ≤ _
      omega
  | @attempted ack status _ hactive hready hattempt hreq =>
    obtain ⟨hsame, hfalse⟩ :=
      answered_tries { m.acknowledged ack with readyToSend := false } status env
    have hold := hcount hactive
    rw [if_pos hready] at hold
    refine ⟨fun _ => ?_, by rw [hreq, hsame]; exact htries⟩
    rw [hreq, hsame, hfalse, hattempt.attempts_eq, List.length_cons, hold]
    rfl

theorem TriesCount.of_reach (h : (system paho).Reach m) : m.TriesCount := by
  refine h.invariant TriesCount (fun m hbegun => ?_) fun m c m' _ hcount hstep => ?_
  · obtain ⟨mem, args, rfl⟩ := Begun.eq hbegun
    exact ⟨fun hactive => absurd hactive Bool.false_ne_true, Nat.zero_le _⟩
  · obtain ⟨_, rfl⟩ := hstep
    cases c with
    | publish topic topicLen message messageLen qos disconnect now =>
      refine ⟨fun _ => ?_, Nat.zero_le _⟩
      have hnone : attempts (call paho m (.publish topic topicLen message messageLen qos
          disconnect now)).radio.log = [] := attempts_published _ _
      rw [hnone]
      rfl
    | poll env => exact hcount.step (m.poll_tries paho env)
    | _ => exact ⟨hcount.active, hcount.tries⟩

/-- The switch of the poll tries to send a request that was already retried more
often than `GB4MQTT_PUBLISH_MAX_TRIES`. -/
def TriesAgain (m : GB4MQTT) (env : Env) : Prop :=
  .socketReady ≤ (m.radio.poll env).mState ∧ (m.state = .beginStandby ∨ m.state = .standby) ∧
    m.mPublishRequest.active = true ∧ m.mPublishRequest.readyToSend = true ∧
    publishMaxTries < m.mPublishRequest.tries

instance (m : GB4MQTT) (env : Env) : Decidable (m.TriesAgain env) :=
  inferInstanceAs (Decidable (_ ∧ _))

/-- The condition on a call: a poll does not try once more. -/
def StaysWithin (m : GB4MQTT) (c : Call) : Prop :=
  match c with
  | .poll env => ¬m.TriesAgain env
  | _ => True

instance (m : GB4MQTT) : (c : Call) → Decidable (StaysWithin m c)
  | .poll env => inferInstanceAs (Decidable (¬m.TriesAgain env))
  | .publish _ _ _ _ _ _ _ | .setClientID _ | .setPassword _ | .setClientName _ | .setAddress _
  | .setPort _ | .startConnect => .isTrue trivial

theorem poll_attempts_le (h : m.TriesCount) (hwithin : ¬m.TriesAgain env)
    (hle : (attempts m.radio.log).length ≤ 1 + publishMaxTries.toNat) :
    (attempts (m.poll paho env).2.radio.log).length ≤ 1 + publishMaxTries.toNat := by
  have htries := m.poll_tries paho env
  have hstep := m.poll_requestStep paho env
  generalize (m.poll paho env).2 = m' at htries hstep ⊢
  cases hstep with
  | left _ hl => rwa [hl.quiet.attempts_eq]
  | listened _ _ hl => rwa [hl.quiet.attempts_eq]
  | handled hge hs _ _ _ _ =>
    cases htries with
    | left hl => rwa [hl.quiet.attempts_eq]
    | ended _ hquiet _ => rwa [hquiet.attempts_eq]
    | retried _ _ _ _ hquiet _ => rwa [hquiet.attempts_eq]
    | attempted hactive hready hattempt _ =>
      have htries : m.mPublishRequest.tries.toNat ≤ publishMaxTries.toNat :=
        UInt8.le_iff_toNat_le.1 <| UInt8.not_lt.1 fun hlt =>
          hwithin ⟨hge, hs, hactive, hready, hlt⟩
      have hcount := h.active hactive
      rw [if_pos hready] at hcount
      rw [hattempt.attempts_eq, List.length_cons]
      omega

/-- A poll that tries again adds an attempt. -/
theorem poll_attempts_of_triesAgain (paho : Paho) (hagain : m.TriesAgain env) :
    (attempts (m.poll paho env).2.radio.log).length = (attempts m.radio.log).length + 1 := by
  obtain ⟨hge, hs, hactive, hready, _⟩ := hagain
  have hstep := m.poll_requestStep paho env
  generalize (m.poll paho env).2 = m' at hstep ⊢
  cases hstep with
  | left hnot _ => exact absurd ⟨hge, Or.inr hs⟩ hnot
  | listened _ hs' _ =>
    rw [hs'] at hs
    exact absurd hs (by decide)
  | handled _ _ hl _ hhandled hafter =>
    obtain ⟨status, hattempt, _⟩ := hhandled.attempt (by rw [hl.request]; exact hactive)
      (by rw [hl.request]; exact hready)
    rw [(hattempt.around hl.quiet hafter.quiet).attempts_eq, List.length_cons]

/-- In a run whose polls never try a request again that has used up its tries,
no request is tried more often than the limit says; and any other poll breaks
the limit. -/
theorem attempts_within_limit (paho : Paho) :
    (∀ m, ((system paho).restrict StaysWithin).Reach m →
      (attempts m.radio.log).length ≤ 1 + publishMaxTries.toNat) ∧
    ∀ m env, (system paho).Reach m → ¬StaysWithin m (.poll env) →
      1 + publishMaxTries.toNat < (attempts (m.poll paho env).2.radio.log).length := by
  refine ⟨fun m h => ?_, fun m env h hagain => ?_⟩
  · refine h.invariant (fun m => (attempts m.radio.log).length ≤ 1 + publishMaxTries.toNat)
      (fun m hbegun => ?_) fun m c m' hreach hle hstep => ?_
    · obtain ⟨mem, args, rfl⟩ := Begun.eq hbegun
      exact Nat.zero_le _
    · obtain ⟨⟨_, rfl⟩, hwithin⟩ := hstep
      cases c with
      | publish topic topicLen message messageLen qos disconnect now =>
        have hnone : attempts (call paho m (.publish topic topicLen message messageLen qos
            disconnect now)).radio.log = [] := attempts_published _ _
        rw [hnone]
        exact Nat.zero_le _
      | poll env => exact poll_attempts_le (.of_reach hreach.of_restrict) hwithin hle
      | _ => exact hle
  · have hagain := Decidable.not_not.1 hagain
    have hcount := (TriesCount.of_reach h).active hagain.2.2.1
    have hmore : publishMaxTries.toNat < m.mPublishRequest.tries.toNat :=
      UInt8.lt_iff_toNat_lt.1 hagain.2.2.2.2
    rw [poll_attempts_of_triesAgain paho hagain]
    omega

/-- The limit in a run with five attempts, and the poll that makes the sixth. -/
theorem attempts_within_limit_run :
    (attempts (afterCalls (retryRun 9)).radio.log).length ≤ 1 + publishMaxTries.toNat ∧
      1 + publishMaxTries.toNat < (attempts ((afterCalls (retryRun 10)).poll .mqtt
        { millis := fun _ => 128000 }).2.radio.log).length :=
  ⟨(attempts_within_limit .mqtt).1 _ (reach_afterCalls_restrict _ (by decide +kernel)),
    (attempts_within_limit .mqtt).2 _ _ (reach_afterCalls _) (by decide +kernel)⟩

/-- Without an acknowledgement the source makes six attempts. -/
theorem attempts_over_limit : ¬∀ (paho : Paho) (m : GB4MQTT), (system paho).Reach m →
    (attempts m.radio.log).length ≤ 1 + publishMaxTries.toNat := by
  intro h
  exact absurd (h .mqtt _ (reach_afterCalls (retryRun 11))) (by decide +kernel)

end GB4MQTT

end XBeeMqtt
