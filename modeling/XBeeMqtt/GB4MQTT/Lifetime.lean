import XBeeMqtt.GB4MQTT.Retries
import XBeeMqtt.GB4MQTT.Teardown
import XBeeMqtt.Lib.Progress

/-!
# How long a request lives

* A request of QoS 0 is sent once at most, and a request with `disconnect` is tried once
  at most (`once_of_reach`).
* A request that is acknowledged is tried once more at most, when a retry was already
  asked for (`attempts_of_gotPuback`).
* A request does not live forever (`finishes_of_fair`): as long as it is active and the
  session comes back to `STANDBY` with its timeout over, it comes to an end.  `lives`
  counts down to it.
-/

namespace XBeeMqtt

open Transition

namespace GB4MQTT

variable {m m' : GB4MQTT} {paho : Paho} {env : Env}

/-! ## At most once -/

/-- What QoS 0 and `disconnect` say about the history of a request. -/
structure Once (m : GB4MQTT) : Prop where
  qos : m.mPublishRequest.qos = 0 → (transmissions m.radio.log).length ≤ 1 ∧
    (m.mPublishRequest.active = true → transmissions m.radio.log = [])
  disconnect : m.mPublishRequest.disconnect = true → (attempts m.radio.log).length ≤ 1 ∧
    (m.mPublishRequest.active = true → m.mPublishRequest.readyToSend = true →
      attempts m.radio.log = [])

/-- A request that nothing was done for. -/
theorem Once.of_nil (h : attempts m.radio.log = []) (h' : transmissions m.radio.log = []) :
    m.Once := by
  refine ⟨fun _ => ⟨?_, fun _ => h'⟩, fun _ => ⟨?_, fun _ _ => h⟩⟩
  · rw [h']
    exact Nat.zero_le 1
  · rw [h]
    exact Nat.zero_le 1

theorem Once.tries (h : m.Once) (ht : Tries m paho env m') : m'.Once := by
  cases ht with
  | left hl =>
    have hreq := hl.request
    refine ⟨fun hqos => ?_, fun hdis => ?_⟩
    · rw [hreq] at hqos ⊢
      rw [hl.quiet.transmissions_eq]
      exact h.qos hqos
    · rw [hreq] at hdis ⊢
      rw [hl.quiet.attempts_eq]
      exact h.disconnect hdis
  | ended _ hquiet hreq =>
    refine ⟨fun hqos => ?_, fun hdis => ?_⟩
    · rw [hreq] at hqos ⊢
      rw [hquiet.transmissions_eq]
      exact ⟨(h.qos hqos).1, fun hactive => absurd hactive Bool.false_ne_true⟩
    · rw [hreq] at hdis ⊢
      rw [hquiet.attempts_eq]
      exact ⟨(h.disconnect hdis).1, fun hactive => absurd hactive Bool.false_ne_true⟩
  | retried hactive _ hnot _ hquiet hreq =>
    refine ⟨fun hqos => ?_, fun hdis => ?_⟩
    · rw [hreq] at hqos
      rw [hquiet.transmissions_eq]
      exact ⟨(h.qos hqos).1, fun _ => (h.qos hqos).2 hactive⟩
    · rw [hreq] at hdis
      exact absurd (hnot.symm.trans hdis) Bool.false_ne_true
  | @attempted ack status _ hactive hready hattempt hreq =>
    have hsame := answered_sameMessage { m.acknowledged ack with readyToSend := false } status env
    have hqos' : m'.mPublishRequest.qos = m.mPublishRequest.qos := by rw [hreq, hsame.qos]; rfl
    have hdis' : m'.mPublishRequest.disconnect = m.mPublishRequest.disconnect := by
      rw [hreq, hsame.disconnect]
      rfl
    refine ⟨fun hqos => ?_, fun hdis => ?_⟩
    · rw [hqos'] at hqos
      have hnone := (h.qos hqos).2 hactive
      rw [hattempt.transmissions_eq, hnone]
      split
      · rename_i hsent
        refine ⟨Nat.le_refl 1, fun hactive' => ?_⟩
        rw [hreq, hsent] at hactive'
        have hends :=
          @sentRequest_active { m.acknowledged ack with readyToSend := false } env
        rw [decide_eq_false (fun hne => hne hqos), Bool.and_false] at hends
        exact absurd (hends.symm.trans hactive') Bool.false_ne_true
      · exact ⟨Nat.zero_le 1, fun _ => rfl⟩
    · rw [hdis'] at hdis
      have hnone := (h.disconnect hdis).2 hactive hready
      rw [hattempt.attempts_eq, hnone]
      refine ⟨Nat.le_refl 1, fun _ hready' => ?_⟩
      rw [hreq, (answered_tries _ status env).2] at hready'
      exact absurd hready' Bool.false_ne_true

theorem Once.of_reach (h : (system paho).Reach m) : m.Once := by
  refine h.invariant Once (fun m hbegun => ?_) fun m c m' _ honce hstep => ?_
  · obtain ⟨mem, args, rfl⟩ := Begun.eq hbegun
    exact .of_nil rfl rfl
  · obtain ⟨_, rfl⟩ := hstep
    cases c with
    | publish topic topicLen message messageLen qos disconnect now =>
      exact .of_nil (attempts_published _ _) (transmissions_published _ _)
    | poll env => exact honce.tries (m.poll_tries paho env)
    | _ => exact ⟨honce.qos, honce.disconnect⟩

/-- Since a request was published, it was sent once at most if its QoS is 0, and tried once
at most if it asks for a disconnect, whatever the radio and the broker did. -/
theorem once_of_reach (h : (system paho).Reach m) :
    (m.mPublishRequest.qos = 0 → (transmissions m.radio.log).length ≤ 1) ∧
      (m.mPublishRequest.disconnect = true → (attempts m.radio.log).length ≤ 1) :=
  ⟨fun hqos => ((Once.of_reach h).qos hqos).1, fun hdis => ((Once.of_reach h).disconnect hdis).1⟩

/-- A request of QoS 0 that was sent. -/
theorem once_sent :
    let m := afterCalls (samplePublish 0 true :: startupCalls ++ sessionCalls 26000 ++
      [pollAt 28000 [], pollAt 40000 []])
    transmissions m.radio.log ≠ [] ∧
      (m.mPublishRequest.qos = 0 → (transmissions m.radio.log).length ≤ 1) ∧
      (m.mPublishRequest.disconnect = true → (attempts m.radio.log).length ≤ 1) :=
  ⟨by decide +kernel, once_of_reach (reach_afterCalls _)⟩

/-! ## After the PUBACK -/

theorem sentRequest_gotPuback (req : MQTTRequest) (env : Env) :
    (sentRequest req env).gotPuback = req.gotPuback := by
  unfold sentRequest
  split
  · rfl
  · split <;> rfl

theorem answered_gotPuback (req : MQTTRequest) (status : Return) (env : Env) :
    (answered req status env).gotPuback = req.gotPuback := by
  unfold answered
  split
  · exact sentRequest_gotPuback req env
  · rfl
  · rfl

theorem Tries.gotPuback (h : Tries m paho env m') (hgot : m.mPublishRequest.gotPuback = true) :
    m'.mPublishRequest.gotPuback = true := by
  have hack : ∀ ack, (m.acknowledged ack).gotPuback = true := by
    intro ack
    show (m.mPublishRequest.gotPuback || ack) = true
    rw [hgot, Bool.true_or]
  cases h with
  | @left ack _ hl =>
    rw [hl.request]
    exact hack ack
  | @ended ack _ _ _ hreq =>
    rw [hreq]
    exact hack ack
  | @retried ack _ _ _ _ _ _ _ hreq =>
    rw [hreq]
    exact hack ack
  | @attempted ack status _ _ _ _ hreq =>
    rw [hreq, answered_gotPuback]
    exact hack ack

/-- Another try is only asked for without a PUBACK. -/
theorem poll_readyToSend (hready : m.mPublishRequest.readyToSend = false)
    (hready' : (m.poll paho env).2.mPublishRequest.readyToSend = true) :
    m.mPublishRequest.gotPuback = false := by
  have hstep := m.poll_requestStep paho env
  generalize (m.poll paho env).2 = m' at hstep hready'
  cases hstep with
  | left _ hl =>
    rw [hl.request] at hready'
    exact absurd (hready.symm.trans hready') Bool.false_ne_true
  | listened _ _ hl =>
    rw [hl.request] at hready'
    exact absurd (hready.symm.trans hready') Bool.false_ne_true
  | @handled b d m₁ _ _ _ hl _ hhandled hafter =>
    rw [hafter.request] at hready'
    have hgot : d.mPublishRequest.gotPuback = false → m.mPublishRequest.gotPuback = false := by
      rw [hl.request]
      intro hor
      exact (Bool.or_eq_false_iff.1 hor).1
    have hd : d.mPublishRequest.readyToSend = false := by rw [hl.request]; exact hready
    cases hhandled with
    | retry _ _ hack _ _ _ => exact hgot hack
    | packetError _ htrue _ => exact absurd (hd.symm.trans htrue) Bool.false_ne_true
    | sent _ htrue _ _ => exact absurd (hd.symm.trans htrue) Bool.false_ne_true
    | refused _ htrue _ _ _ _ => exact absurd (hd.symm.trans htrue) Bool.false_ne_true
    | _ => exact absurd (hd.symm.trans hready') Bool.false_ne_true

/-- The request will be tried by the next `handlePublishRequests`. -/
def pendingTry (m : GB4MQTT) : Nat :=
  if m.mPublishRequest.active = true ∧ m.mPublishRequest.readyToSend = true then 1 else 0

theorem poll_attempts_of_gotPuback (hgot : m.mPublishRequest.gotPuback = true) (paho : Paho)
    (env : Env) : (attempts (m.poll paho env).2.radio.log).length +
      (m.poll paho env).2.pendingTry ≤ (attempts m.radio.log).length + m.pendingTry := by
  have hready := @poll_readyToSend m paho env
  have htries := m.poll_tries paho env
  generalize (m.poll paho env).2 = m' at htries hready ⊢
  cases htries with
  | left hl =>
    have hsame : m'.pendingTry = m.pendingTry := by
      unfold pendingTry
      rw [hl.request]
    exact Nat.le_of_eq (by rw [hsame, hl.quiet.attempts_eq])
  | ended _ hquiet hreq =>
    have hnone : m'.pendingTry = 0 := by
      unfold pendingTry
      rw [hreq]
      exact if_neg fun hor => absurd hor.1 Bool.false_ne_true
    have hlen := congrArg List.length hquiet.attempts_eq
    omega
  | retried _ hnot _ _ _ hreq =>
    exact absurd ((hready hnot (by rw [hreq])).symm.trans hgot) Bool.false_ne_true
  | @attempted ack status _ hactive hready hattempt hreq =>
    have hone : m.pendingTry = 1 := if_pos ⟨hactive, hready⟩
    have hnone : m'.pendingTry = 0 := by
      unfold pendingTry
      rw [hreq, (answered_tries _ status env).2]
      exact if_neg fun hor => absurd hor.2 Bool.false_ne_true
    have hlen := congrArg List.length hattempt.attempts_eq
    rw [List.length_cons] at hlen
    omega

/-- Once its PUBACK was taken, a request is tried at most once more before the next
`publish()`, and not at all unless a retry was pending. -/
theorem attempts_of_gotPuback (hgot : m.mPublishRequest.gotPuback = true)
    (h : (untilPublish paho m).Reach m') :
    (attempts m'.radio.log).length ≤ (attempts m.radio.log).length + m.pendingTry := by
  have hinv := h.invariant
    (fun m' => m'.mPublishRequest.gotPuback = true ∧ (attempts m'.radio.log).length +
      m'.pendingTry ≤ (attempts m.radio.log).length + m.pendingTry)
    (fun m₁ heq => ?_) fun m₁ c m₂ _ hold hstep => ?_
  · have := hinv.2
    omega
  · rw [show m₁ = m from heq]
    exact ⟨hgot, Nat.le_refl _⟩
  · obtain ⟨hc, rfl⟩ := hstep
    cases c with
    | publish _ _ _ _ _ _ _ => exact absurd hc.symm Bool.false_ne_true
    | poll env =>
      exact ⟨(m₁.poll_tries paho env).gotPuback hold.1,
        Nat.le_trans (poll_attempts_of_gotPuback hold.1 paho env) hold.2⟩
    | _ => exact hold

/-- A request that was sent and acknowledged, and a poll after it. -/
theorem attempts_acknowledged :
    let m := afterCalls (samplePublish 1 false :: startupCalls ++ sessionCalls 26000 ++
      [pollAt 28000 [], pollAt 28100 [.receive 1 [0x40, 0x02, 0x00, 0x01]]])
    let m' := call .mqtt m (pollAt 40000 [])
    m.mPublishRequest.gotPuback = true ∧
      (attempts m'.radio.log).length ≤ (attempts m.radio.log).length + m.pendingTry := by
  intro m m'
  have hgot : m.mPublishRequest.gotPuback = true := by decide +kernel
  exact ⟨hgot, attempts_of_gotPuback hgot (.step (.init rfl) ⟨rfl, rfl⟩)⟩

/-! ## The end -/

/-- How many polls that do something for the request are left: two for each try, but for
the first half of the one that is pending. -/
def lives (m : GB4MQTT) : Nat :=
  2 * (publishMaxTries.toNat + 2 - m.mPublishRequest.tries.toNat) -
    if m.mPublishRequest.readyToSend = true then 0 else 1

/-- The switch of the poll gets to `handlePublishRequests`. -/
def Serves (m : GB4MQTT) (env : Env) : Prop :=
  .socketReady ≤ (m.radio.poll env).mState ∧ (m.state = .beginStandby ∨ m.state = .standby)

instance (m : GB4MQTT) (env : Env) : Decidable (m.Serves env) :=
  inferInstanceAs (Decidable (_ ∧ _))

/-- There is something to do for the request: it is to be sent, or it was acknowledged,
or its timeout is over. -/
def Due (m : GB4MQTT) (env : Env) : Prop :=
  m.mPublishRequest.readyToSend = true ∨ m.mPublishRequest.gotPuback = true ∨ m.TimedOut env

instance (m : GB4MQTT) (env : Env) : Decidable (m.TimedOut env) :=
  inferInstanceAs (Decidable (_ ≤ _))

instance (m : GB4MQTT) (env : Env) : Decidable (m.Due env) :=
  inferInstanceAs (Decidable (_ ∨ _))

/-- The call is a poll that serves the request when it is due. -/
def ServesDue (m : GB4MQTT) : Call → Prop
  | .poll env => m.Serves env ∧ m.Due env
  | _ => False

instance (m : GB4MQTT) : (c : Call) → Decidable (m.ServesDue c)
  | .poll _ => inferInstanceAs (Decidable (_ ∧ _))
  | .publish _ _ _ _ _ _ _ | .setClientID _ | .setPassword _ | .setClientName _ | .setAddress _
  | .setPort _ | .startConnect => .isFalse id

theorem lives_lt_of_sent (hready : m.mPublishRequest.readyToSend = true)
    (htries : m.mPublishRequest.tries.toNat ≤ publishMaxTries.toNat + 1)
    (hsame : m'.mPublishRequest.tries = m.mPublishRequest.tries)
    (hready' : m'.mPublishRequest.readyToSend = false) : m'.lives < m.lives := by
  unfold lives
  rw [hsame, hready, hready', if_pos rfl, if_neg Bool.false_ne_true]
  omega

theorem lives_lt_of_retry (hready : m.mPublishRequest.readyToSend = false)
    (htries : m.mPublishRequest.tries ≤ publishMaxTries)
    (hnext : m'.mPublishRequest.tries = m.mPublishRequest.tries + 1)
    (hready' : m'.mPublishRequest.readyToSend = true) : m'.lives < m.lives := by
  have hle : m.mPublishRequest.tries.toNat ≤ publishMaxTries.toNat :=
    UInt8.le_iff_toNat_le.1 htries
  have hmax : publishMaxTries.toNat = 4 := rfl
  have hsucc : (m.mPublishRequest.tries + 1).toNat = m.mPublishRequest.tries.toNat + 1 := by
    rw [UInt8.toNat_add]
    show (m.mPublishRequest.tries.toNat + 1) % 256 = _
    omega
  unfold lives
  rw [hnext, hsucc, hready, hready', if_pos rfl, if_neg Bool.false_ne_true]
  omega

/-- No poll gives a request more lives. -/
theorem Tries.lives_le (h : Tries m paho env m') (hcount : m.TriesCount) :
    m'.lives ≤ m.lives := by
  cases h with
  | left hl => exact Nat.le_of_eq (by unfold lives; rw [hl.request])
  | ended _ _ hreq => exact Nat.le_of_eq (by unfold lives; rw [hreq]; rfl)
  | retried _ hready _ hle _ hreq =>
    exact Nat.le_of_lt (lives_lt_of_retry hready hle (by rw [hreq]) (by rw [hreq]))
  | @attempted ack status _ _ hready _ hreq =>
    obtain ⟨hsame, hfalse⟩ :=
      answered_tries { m.acknowledged ack with readyToSend := false } status env
    exact Nat.le_of_lt (lives_lt_of_sent hready hcount.tries (by rw [hreq, hsame]; rfl)
      (by rw [hreq, hfalse]))

/-- A poll that serves a due request ends it, or takes a life. -/
theorem poll_lives_lt (hcount : m.TriesCount) (hactive : m.mPublishRequest.active = true)
    (hserves : m.Serves env) (hdue : m.Due env) (paho : Paho) :
    (m.poll paho env).2.mPublishRequest.active = false ∨ (m.poll paho env).2.lives < m.lives := by
  have hstep := m.poll_requestStep paho env
  generalize (m.poll paho env).2 = m' at hstep ⊢
  cases hstep with
  | left hnot _ => exact absurd ⟨hserves.1, Or.inr hserves.2⟩ hnot
  | listened _ hs _ =>
    rcases hserves.2 with hs' | hs' <;> rw [hs] at hs' <;> exact absurd hs' (by decide)
  | @handled b d m₁ _ _ _ hl _ hhandled hafter =>
    have hreq : m'.mPublishRequest = m₁.mPublishRequest := by rw [hafter.request, Bool.or_false]
    have hd := hl.request
    have hcount' : d.mPublishRequest.tries = m.mPublishRequest.tries := by rw [hd]
    have hready' : d.mPublishRequest.readyToSend = m.mPublishRequest.readyToSend := by rw [hd]
    rw [hreq]
    cases hhandled with
    | idle hinactive =>
      rw [hd] at hinactive
      exact absurd (hinactive.symm.trans hactive) Bool.false_ne_true
    | packetError _ _ _ => exact Or.inl rfl
    | sent _ hready _ _ =>
      refine Or.inr (lives_lt_of_sent (hready'.symm.trans hready) hcount.tries ?_ ?_)
      · rw [hreq]
        exact (answered_tries d.claimed.mPublishRequest .publishSent env).1.trans hcount'
      · rw [hreq]
        exact (answered_tries d.claimed.mPublishRequest .publishSent env).2
    | refused _ hready _ _ _ _ =>
      exact Or.inr (lives_lt_of_sent (hready'.symm.trans hready) hcount.tries
        (by rw [hreq]; exact hcount') (by rw [hreq]; rfl))
    | acknowledged _ _ _ _ => exact Or.inl rfl
    | acknowledgedDisconnect _ _ _ _ =>
      obtain ⟨s, start, result, heq⟩ := d.finished.sendDisconnect_eq env
      rw [heq]
      exact Or.inl rfl
    | waiting _ hready hack hnot =>
      -- a request that waits on is not due
      rcases hdue with hdue | hdue | hdue
      · exact absurd (hready.symm.trans (hready'.trans hdue)) Bool.false_ne_true
      · rw [hd] at hack
        have hor := (Bool.or_eq_false_iff.1 hack).1
        exact absurd (hor.symm.trans hdue) Bool.false_ne_true
      · refine absurd ?_ hnot
        unfold TimedOut at hdue ⊢
        rw [hd]
        exact hdue
    | timeoutDisconnect _ _ _ _ _ => exact Or.inl rfl
    | givesUp _ _ _ _ _ _ => exact Or.inl rfl
    | retry _ hready _ _ _ hle =>
      exact Or.inr (lives_lt_of_retry (hready'.symm.trans hready) (by rw [← hcount']; exact hle)
        (by rw [hreq, ← hcount']; rfl) (by rw [hreq]; rfl))

/-- A request that has come to an end stays so until the next `publish()`. -/
theorem call_inactive (h : m.mPublishRequest.active = false) {c : Call}
    (hc : c.isPublish = false) : (call paho m c).mPublishRequest.active = false := by
  cases c with
  | publish _ _ _ _ _ _ _ => exact absurd hc.symm Bool.false_ne_true
  | poll env =>
    have htries := m.poll_tries paho env
    show (m.poll paho env).2.mPublishRequest.active = false
    cases htries with
    | left hl => rw [hl.request]; exact h
    | ended hactive _ _ => exact absurd (h.symm.trans hactive) Bool.false_ne_true
    | retried hactive _ _ _ _ _ => exact absurd (h.symm.trans hactive) Bool.false_ne_true
    | attempted hactive _ _ _ => exact absurd (h.symm.trans hactive) Bool.false_ne_true
  | _ => exact h

theorem call_lives_le (hcount : m.TriesCount) {c : Call} (hc : c.isPublish = false) :
    (call paho m c).lives ≤ m.lives := by
  cases c with
  | publish _ _ _ _ _ _ _ => exact absurd hc.symm Bool.false_ne_true
  | poll env => exact (m.poll_tries paho env).lives_le hcount
  | _ => exact Nat.le_refl _

/-- A request comes to an end.  In every infinite run after its `publish()`, however often
the connection is lost and made again: if the polls, as long as it is active, go on to
serve it when it is due, then from some point on it is not active any more. -/
theorem finishes_of_fair (h : (system paho).Reach m) (calls : Nat → Call)
    (hcalls : ∀ n, (calls n).isPublish = false)
    (hfair : ∀ n, (states (call paho) m calls n).mPublishRequest.active = true →
      ∃ k, n ≤ k ∧ (states (call paho) m calls k).ServesDue (calls k)) :
    ∃ n, ∀ k, n ≤ k → (states (call paho) m calls k).mPublishRequest.active = false := by
  have hcount : ∀ n, (states (call paho) m calls n).TriesCount := fun n =>
    TriesCount.of_reach (reach_states h (fun _ => trivial) n)
  have hserved : ∀ n, ¬(states (call paho) m calls n).mPublishRequest.active = false →
      (states (call paho) m calls n).ServesDue (calls n) →
      (states (call paho) m calls (n + 1)).mPublishRequest.active = false ∨
        (states (call paho) m calls (n + 1)).lives < (states (call paho) m calls n).lives := by
    intro n hactive hserves
    have hactive := (Bool.not_eq_false _).mp hactive
    show (call paho _ (calls n)).mPublishRequest.active = false ∨ (call paho _ (calls n)).lives < _
    cases hc : calls n with
    | poll env =>
      rw [hc] at hserves
      exact poll_lives_lt (hcount n) hactive hserves.1 hserves.2 paho
    | _ =>
      rw [hc] at hserves
      exact absurd hserves not_false
  obtain ⟨n, _, hend⟩ := @eventually_of_rank _ _ (call paho) calls m
    (fun m => m.mPublishRequest.active = false) lives ServesDue
    (fun n _ => Or.inr (call_lives_le (hcount n) (hcalls n))) hserved
    (fun n hactive => hfair n ((Bool.not_eq_false _).mp hactive)) 0
  refine ⟨n, fun k hnk => ?_⟩
  induction hnk with
  | refl => exact hend
  | @step k _ ih => exact call_inactive ih (hcalls k)

/-- Polls ten seconds apart, and the broker never answers. -/
def unansweredCalls (n : Nat) : Call := pollAt (28000 + 10000 * UInt32.ofNat n) []

/-- A request of QoS 1: it is sent six times, and the twelfth poll gives it up. -/
theorem finishes_unanswered :
    let m := afterCalls (samplePublish 1 false :: startupCalls ++ sessionCalls 26000)
    (states (call .mqtt) m unansweredCalls 11).mPublishRequest.active = true ∧ ∃ n, ∀ k, n ≤ k →
      (states (call .mqtt) m unansweredCalls k).mPublishRequest.active = false := by
  intro m
  have hserves : (List.range 12).all
      (fun n => (states (call .mqtt) m unansweredCalls n).ServesDue (unansweredCalls n)) = true := by
    decide +kernel
  have hend : ∀ k, 12 ≤ k →
      (states (call .mqtt) m unansweredCalls k).mPublishRequest.active = false := by
    intro k hk
    induction hk with
    | refl => decide +kernel
    | step _ ih => exact call_inactive ih rfl
  refine ⟨by decide +kernel, finishes_of_fair (reach_afterCalls _) unansweredCalls
    (fun _ => rfl) fun n hactive => ⟨n, Nat.le_refl n, ?_⟩⟩
  have hlt : n < 12 := by
    apply Nat.lt_of_not_le
    intro hle
    exact absurd ((hend n hle).symm.trans hactive) Bool.false_ne_true
  exact of_decide_eq_true (List.all_eq_true.1 hserves n (List.mem_range.2 hlt))

end GB4MQTT

end XBeeMqtt
