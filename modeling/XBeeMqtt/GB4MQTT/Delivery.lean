import XBeeMqtt.GB4MQTT.InStep

/-!
# What becomes of a published request

A request that `poll` makes inactive should have been sent, or be too large, or
have used up its tries (`Delivered`).  The source loses a request in two ways:

* `ready_to_send` is cleared before the send, so a request with `disconnect`
  that the radio refuses waits for the timeout as if it had been sent, and is
  dropped there;
* a PUBACK with its packet id finishes a request that was never sent.

`Keeps` says that a poll takes neither way.  `delivered_of_reach`: a run of such
polls delivers every request.

`RequestStep` is what the proofs see of a poll: all of it leaves the request
alone but for a PUBACK (`Leaves`), except for `handlePublishRequests`.
-/

namespace XBeeMqtt

open History

def Event.isPublished : Event → Bool
  | .published _ => true
  | _ => false

def Event.isPublishSent : Event → Bool
  | .publishRequest _ .publishSent => true
  | _ => false

def Event.isPublishPacketError : Event → Bool
  | .publishRequest _ .publishPacketError => true
  | _ => false

/-- Neither `publish()` nor `sendPublishRequest` made the event. -/
def Event.isQuiet : Event → Bool
  | .published _ | .publishRequest _ _ => false
  | _ => true

theorem Event.isPublished_of_isQuiet {e : Event} (h : e.isQuiet = true) :
    e.isPublished = false := by
  cases e with
  | published _ => exact absurd h Bool.false_ne_true
  | _ => rfl

theorem Event.isPublishSent_of_isQuiet {e : Event} (h : e.isQuiet = true) :
    e.isPublishSent = false := by
  cases e with
  | publishRequest req status => exact absurd h Bool.false_ne_true
  | _ => rfl

theorem Event.isPublishPacketError_of_isQuiet {e : Event} (h : e.isQuiet = true) :
    e.isPublishPacketError = false := by
  cases e with
  | publishRequest req status => exact absurd h Bool.false_ne_true
  | _ => rfl

theorem Event.isQuiet_of_ofRadio {e : Event} (h : e.ofRadio = true) : e.isQuiet = true := by
  cases e with
  | published _ => exact absurd h Bool.false_ne_true
  | publishRequest req status => exact absurd h Bool.false_ne_true
  | _ => rfl

/-- A PUBLISH was sent since the last call of `publish()`. -/
def SentSince (log : List Event) : Prop :=
  (since Event.isPublished log).any Event.isPublishSent = true

instance (log : List Event) : Decidable (SentSince log) := inferInstanceAs (Decidable (_ = true))

theorem SentSince.append {log : List Event} (h : SentSince log) (new : List Event)
    (hnew : ∀ e ∈ new, e.isPublished = false) : SentSince (new ++ log) := by
  unfold SentSince at h ⊢
  rw [since_append hnew, List.any_append, h, Bool.or_true]

theorem sentSince_unsent {log : List Event} (new : List Event)
    (hnew : ∀ e ∈ new, e.isPublished = false) (hunsent : ∀ e ∈ new, e.isPublishSent = false) :
    SentSince (new ++ log) ↔ SentSince log := by
  have hnone : new.any Event.isPublishSent = false := by
    rw [List.any_eq_false]
    intro e he
    rw [hunsent e he]
    exact Bool.false_ne_true
  unfold SentSince
  rw [since_append hnew, List.any_append, hnone, Bool.false_or]

theorem sentSince_cons {req : MQTTRequest} {log : List Event} :
    SentSince (.publishRequest req .publishSent :: log) := by
  unfold SentSince
  rw [since_cons rfl]
  rfl

namespace GB4MQTT

variable {m m' : GB4MQTT} {paho : Paho} {env : Env}

/-- A request that a poll from `m` to `m'` made inactive was sent since it was
published, or it has just not fitted into a packet, or it has used up its
tries. -/
def Delivered (m m' : GB4MQTT) : Prop :=
  m.mPublishRequest.active = true → m'.mPublishRequest.active = false →
    SentSince m'.radio.log ∨ (m.added m').any Event.isPublishPacketError = true ∨
      publishMaxTries < m'.mPublishRequest.tries

instance (m m' : GB4MQTT) : Decidable (m.Delivered m') :=
  inferInstanceAs (Decidable (_ → _ → _))

/-! ## Polls that lose nothing -/

/-- The request as the switch sends it: a PUBACK of the same poll is noted, and
`ready_to_send` is cleared. -/
def requestToSend (m : GB4MQTT) (paho : Paho) (env : Env) : MQTTRequest :=
  (m.dispatchIncomming paho env).2.claimed.mPublishRequest

/-- The switch tries to send a request that was not sent yet and has tries left,
and the radio refuses it. -/
def RefusesUnsent (m : GB4MQTT) (paho : Paho) (env : Env) : Prop :=
  (m.state = .beginStandby ∨ m.state = .standby) ∧ m.mPublishRequest.active = true ∧
    m.mPublishRequest.readyToSend = true ∧ m.mPublishRequest.duplicate = 0 ∧
    m.mPublishRequest.tries ≤ publishMaxTries ∧
    0 < (publishPacket paho (m.requestToSend paho env)).1 ∧ m.Refuses env

/-- The states whose switch reads the mailbox. -/
def Listens (m : GB4MQTT) : Prop :=
  m.state = .awaitConnack ∨ m.state = .beginStandby ∨ m.state = .standby

/-- The switch reads the mailbox while a refused request waits for its next try. -/
def WaitsUnsent (m : GB4MQTT) : Prop :=
  m.Listens ∧ m.mPublishRequest.active = true ∧ m.mPublishRequest.readyToSend = false ∧
    m.mPublishRequest.duplicate = 0 ∧ m.mPublishRequest.tries ≤ publishMaxTries ∧
    m.mPublishRequest.disconnect = false

/-- No request that would be disconnected or counts as acknowledged is refused,
and no PUBACK finishes a request that waits unsent. -/
structure Keeps (m : GB4MQTT) (paho : Paho) (env : Env) : Prop where
  refused : m.RefusesUnsent paho env → m.mPublishRequest.disconnect = false ∧
    m.mPublishRequest.gotPuback = false ∧ ¬m.TakesPuback paho env
  waiting : m.WaitsUnsent → ¬m.TakesPuback paho env

/-- The condition on a call: a poll whose switch runs keeps the request. -/
def KeepsRequest (paho : Paho) (m : GB4MQTT) (c : Call) : Prop :=
  match c with
  | .poll env => .socketReady ≤ (m.radio.poll env).mState → (m.pollRadio env).Keeps paho env
  | _ => True

instance (m : GB4MQTT) (paho : Paho) (env : Env) : Decidable (m.RefusesUnsent paho env) :=
  inferInstanceAs (Decidable (_ ∧ _))

instance (m : GB4MQTT) : Decidable m.Listens := inferInstanceAs (Decidable (_ ∨ _))

instance (m : GB4MQTT) : Decidable m.WaitsUnsent := inferInstanceAs (Decidable (_ ∧ _))

instance (m : GB4MQTT) (paho : Paho) (env : Env) : Decidable (m.Keeps paho env) :=
  decidable_of_iff ((m.RefusesUnsent paho env → m.mPublishRequest.disconnect = false ∧
      m.mPublishRequest.gotPuback = false ∧ ¬m.TakesPuback paho env) ∧
    (m.WaitsUnsent → ¬m.TakesPuback paho env))
    ⟨fun h => ⟨h.1, h.2⟩, fun h => ⟨h.refused, h.waiting⟩⟩

instance (paho : Paho) (m : GB4MQTT) : (c : Call) → Decidable (KeepsRequest paho m c)
  | .poll env => inferInstanceAs (Decidable (_ → (m.pollRadio env).Keeps paho env))
  | .publish _ _ _ _ _ _ _ | .setClientID _ | .setPassword _ | .setClientName _ | .setAddress _
  | .setPort _ | .startConnect => .isTrue trivial

/-! ## A poll, as the request sees it -/

/-- The log of `m'` only has quiet events more. -/
def Quiet (m m' : GB4MQTT) : Prop :=
  ∃ new, m'.radio.log = new ++ m.radio.log ∧ ∀ e ∈ new, e.isQuiet = true

theorem Quiet.of_eq (h : m'.radio.log = m.radio.log) : m.Quiet m' := ⟨[], h, by simp⟩

theorem Quiet.trans {m₁ : GB4MQTT} (h : m.Quiet m₁) (h' : m₁.Quiet m') : m.Quiet m' := by
  obtain ⟨new, hlog, hnew⟩ := h
  obtain ⟨new', hlog', hnew'⟩ := h'
  refine ⟨new' ++ new, by rw [hlog', hlog, List.append_assoc], fun e he => ?_⟩
  rcases List.mem_append.1 he with he | he
  · exact hnew' e he
  · exact hnew e he

theorem Quiet.sentSince (h : m.Quiet m') : SentSince m'.radio.log ↔ SentSince m.radio.log := by
  obtain ⟨new, hlog, hnew⟩ := h
  rw [hlog]
  exact sentSince_unsent new (fun e he => Event.isPublished_of_isQuiet (hnew e he))
    fun e he => Event.isPublishSent_of_isQuiet (hnew e he)

theorem Quiet.no_packetError (h : m.Quiet m') :
    (m.added m').any Event.isPublishPacketError = false := by
  obtain ⟨new, hlog, hnew⟩ := h
  rw [added_eq new hlog, List.any_eq_false]
  intro e he
  rw [Event.isPublishPacketError_of_isQuiet (hnew e he)]
  exact Bool.false_ne_true

/-- The request is as before, but for a PUBACK, and no PUBLISH was tried. -/
structure Leaves (m : GB4MQTT) (ack : Bool) (m' : GB4MQTT) : Prop where
  request : m'.mPublishRequest =
    { m.mPublishRequest with gotPuback := m.mPublishRequest.gotPuback || ack }
  quiet : m.Quiet m'

theorem Leaves.of_quiet (hreq : m'.mPublishRequest = m.mPublishRequest) (h : m.Quiet m') :
    m.Leaves false m' :=
  ⟨by rw [hreq, Bool.or_false], h⟩

theorem Leaves.of_same (hreq : m'.mPublishRequest = m.mPublishRequest) (new : List Event)
    (hlog : m'.radio.log = new ++ m.radio.log) (hnew : ∀ e ∈ new, e.isQuiet = true) :
    m.Leaves false m' :=
  .of_quiet hreq ⟨new, hlog, hnew⟩

theorem Leaves.trans {m₁ : GB4MQTT} {ack ack' : Bool} (h : m.Leaves ack m₁)
    (h' : m₁.Leaves ack' m') : m.Leaves (ack || ack') m' := by
  refine ⟨?_, h.quiet.trans h'.quiet⟩
  rw [h'.request, h.request, Bool.or_assoc]

theorem Leaves.drop (m : GB4MQTT) (env : Env) : m.Leaves false (m.drop env) :=
  .of_same rfl [.resetSocket] rfl (by simp [Event.isQuiet])

theorem leaves_pollRadio (m : GB4MQTT) (env : Env) : m.Leaves false (m.pollRadio env) := by
  obtain ⟨new, hlog, hnew⟩ := m.radio.poll_log env
  exact .of_same rfl new hlog fun e he => Event.isQuiet_of_ofRadio (hnew e he)

theorem Leaves.requestToSend (h : m.Leaves (decide ((m.pollRadio env).TakesPuback paho env)) m') :
    m'.claimed.mPublishRequest = (m.pollRadio env).requestToSend paho env := by
  have hreq := (m.pollRadio env).dispatchIncomming_request paho env
  unfold GB4MQTT.requestToSend claimed setRequest
  dsimp only
  rw [h.request, hreq]
  rfl

theorem leaves_dispatchIncomming (m : GB4MQTT) (paho : Paho) (env : Env) :
    m.Leaves (decide (m.TakesPuback paho env)) (m.dispatchIncomming paho env).2 := by
  refine ⟨m.dispatchIncomming_request paho env, ?_⟩
  rcases m.dispatchIncomming_log paho env with ⟨_, hlog⟩ | ⟨_, bytes, type, message, hlog⟩
  · exact ⟨[], hlog, by simp⟩
  · exact ⟨[.incoming bytes type message], hlog, by simp [Event.isQuiet]⟩

/-- What a poll does to the request. -/
inductive RequestStep (m : GB4MQTT) (paho : Paho) (env : Env) : GB4MQTT → Prop where
  | left {m' : GB4MQTT} : ¬(.socketReady ≤ (m.radio.poll env).mState ∧ m.Listens) →
      m.Leaves false m' → RequestStep m paho env m'
  | listened {m' : GB4MQTT} : .socketReady ≤ (m.radio.poll env).mState →
      m.state = .awaitConnack →
      m.Leaves (decide ((m.pollRadio env).TakesPuback paho env)) m' → RequestStep m paho env m'
  | handled {b : Bool} {d m₁ m' : GB4MQTT} : .socketReady ≤ (m.radio.poll env).mState →
      m.state = .beginStandby ∨ m.state = .standby →
      m.Leaves (decide ((m.pollRadio env).TakesPuback paho env)) d →
      d.radio.mState = (m.pollRadio env).radio.mState →
      Handled d paho env b m₁ → m₁.Leaves false m' → RequestStep m paho env m'

private theorem not_listens {s : GB4MQTT.State} (hs : m.state = s)
    (h : ¬(s = .awaitConnack ∨ s = .beginStandby ∨ s = .standby)) : ¬m.Listens := by
  rwa [← hs] at h

theorem poll_requestStep (m : GB4MQTT) (paho : Paho) (env : Env) :
    RequestStep m paho env (m.poll paho env).2 := by
  have hradio := m.leaves_pollRadio env
  rcases m.poll_cases paho env with ⟨hlt, heq⟩ | ⟨hge, hstep⟩
  · rw [heq]
    exact .left (fun h => GB4XBee.State.not_lt.2 h.1 hlt) ⟨hradio.request, hradio.quiet⟩
  generalize (m.poll paho env).2 = m' at hstep ⊢
  have hleft : ¬m.Listens → (m.pollRadio env).Leaves false m' → RequestStep m paho env m' :=
    fun hn hl => .left (fun h => hn h.2) (hradio.trans hl)
  have hdispatch := (m.pollRadio env).leaves_dispatchIncomming paho env
  have hlistened := hradio.trans hdispatch
  have hserved : m.Leaves (decide ((m.pollRadio env).TakesPuback paho env))
      (({ m.pollRadio env with state := .standby } : GB4MQTT).dispatchIncomming paho env).2 := by
    have hl := leaves_dispatchIncomming
      ({ m.pollRadio env with state := .standby } : GB4MQTT) paho env
    exact hradio.trans ⟨hl.request, hl.quiet⟩
  cases hstep with
  | idle hs _ => exact hleft (not_listens hs (by decide)) (.of_same rfl [] rfl (by simp))
  | connecting hs _ _ =>
    exact hleft (not_listens hs (by decide))
      (.of_same rfl [.socketConnect _ _] rfl (by simp [Event.isQuiet]))
  | connectFailed hs _ =>
    exact hleft (not_listens hs (by decide))
      (.of_same rfl [.resetSocket, .socketConnect _ _] rfl (by simp [Event.isQuiet]))
  | stillConnecting hs _ =>
    exact hleft (not_listens hs (by decide)) (.of_same rfl [] rfl (by simp))
  | connectLost hs => exact hleft (not_listens hs (by decide)) (.drop _ env)
  | socketConnected hs _ =>
    exact hleft (not_listens hs (by decide)) (.of_same rfl [] rfl (by simp))
  | connectMalformed hs =>
    exact hleft (not_listens hs (by decide))
      (.of_same rfl [.connectRequest _] rfl (by simp [Event.isQuiet]))
  | connectSent hs _ =>
    exact hleft (not_listens hs (by decide))
      (.of_same rfl [.connectRequest _, .sendMessage _ _ _ _] rfl (by simp [Event.isQuiet]))
  | connectRefused hs _ _ _ =>
    exact hleft (not_listens hs (by decide))
      (.of_same rfl [.connectRequest _, .sendMessage _ _ _ _] rfl (by simp [Event.isQuiet]))
  | connectDropped hs _ _ _ =>
    exact hleft (not_listens hs (by decide))
      (.of_same rfl [.resetSocket, .connectRequest _, .sendMessage _ _ _ _] rfl
        (by simp [Event.isQuiet]))
  | listening hs _ => exact .listened hge hs hlistened
  | accepted hs _ _ => exact .listened hge hs ⟨hlistened.request, hlistened.quiet⟩
  | rejected hs =>
    have hl := hlistened.trans (.drop _ env)
    rw [Bool.or_false] at hl
    exact .listened hge hs hl
  | served hs hhandled =>
    exact .handled hge hs hserved (dispatchIncomming_mState _ paho env) hhandled
      (.of_same rfl [] rfl (by simp))
  | servedDrop hs hhandled =>
    exact .handled hge hs hserved (dispatchIncomming_mState _ paho env) hhandled (.drop _ env)
  | noCase _ _ _ h4 h5 h6 =>
    exact hleft (fun hl => hl.elim h4 fun hl => hl.elim h5 h6) (.of_same rfl [] rfl (by simp))

/-- `handlePublishRequests` with `ready_to_send` set: the packet does not fit, or
it is sent, or the radio refuses it. -/
theorem Handled.of_ready {b : Bool} (h : Handled m paho env b m')
    (hactive : m.mPublishRequest.active = true) (hready : m.mPublishRequest.readyToSend = true) :
    (publishPacket paho m.claimed.mPublishRequest).1 ≤ 0 ∧
      m' = m.claimed.publishMalformed.finished ∨
    ¬m.Refuses env ∧ m' =
      (m.claimed.publishSent paho env).setRequest (sentRequest m.claimed.mPublishRequest env) ∨
    0 < (publishPacket paho m.claimed.mPublishRequest).1 ∧ m.Refuses env ∧
      ∃ result status, status ≠ .publishSent ∧
        m' = m.claimed.publishRefused paho result status := by
  have hnot : m.mPublishRequest.readyToSend ≠ false := by
    rw [hready]
    exact Bool.false_ne_true.symm
  cases h with
  | idle hinactive => exact absurd (hinactive.symm.trans hactive) Bool.false_ne_true
  | packetError _ _ hlen => exact Or.inl ⟨hlen, rfl⟩
  | sent _ _ _ htake => exact Or.inr (Or.inl ⟨htake, rfl⟩)
  | refused _ _ hlen href _ hstatus =>
    refine Or.inr (Or.inr ⟨hlen, href, _, _, ?_, rfl⟩)
    rcases hstatus with hs | hs <;> rw [hs] <;> decide
  | acknowledged _ hfalse _ _ => exact absurd hfalse hnot
  | acknowledgedDisconnect _ hfalse _ _ => exact absurd hfalse hnot
  | waiting _ hfalse _ _ => exact absurd hfalse hnot
  | timeoutDisconnect _ hfalse _ _ _ => exact absurd hfalse hnot
  | givesUp _ hfalse _ _ _ _ => exact absurd hfalse hnot
  | retry _ hfalse _ _ _ _ => exact absurd hfalse hnot

/-- `handlePublishRequests` with `ready_to_send` clear: it finishes the request,
or waits, or asks for another try. -/
theorem Handled.of_waiting {b : Bool} (h : Handled m paho env b m')
    (hactive : m.mPublishRequest.active = true) (hready : m.mPublishRequest.readyToSend = false) :
    m.Quiet m' ∧
    (m'.mPublishRequest = { m.mPublishRequest with active := false } ∧
        (m.mPublishRequest.gotPuback = true ∨ m.mPublishRequest.disconnect = true ∨
          publishMaxTries < m.mPublishRequest.tries) ∨
      m'.mPublishRequest = m.mPublishRequest ∨
      m.mPublishRequest.gotPuback = false ∧ m.mPublishRequest.disconnect = false ∧
        ∃ start, m'.mPublishRequest = { m.mPublishRequest with
          startTime := start
          tries := m.mPublishRequest.tries + 1
          readyToSend := true }) := by
  have hnot : m.mPublishRequest.readyToSend ≠ true := by
    rw [hready]
    exact Bool.false_ne_true
  cases h with
  | idle hinactive => exact absurd (hinactive.symm.trans hactive) Bool.false_ne_true
  | packetError _ htrue _ => exact absurd htrue hnot
  | sent _ htrue _ _ => exact absurd htrue hnot
  | refused _ htrue _ _ _ _ => exact absurd htrue hnot
  | acknowledged _ _ hack _ => exact ⟨.of_eq rfl, Or.inl ⟨rfl, Or.inl hack⟩⟩
  | acknowledgedDisconnect _ _ hack _ =>
    obtain ⟨s, start, result, heq⟩ := m.finished.sendDisconnect_eq env
    refine ⟨⟨[.sendMessage _ _ _ _], by rw [heq]; rfl, by simp [Event.isQuiet]⟩, Or.inl ⟨?_, ?_⟩⟩
    · rw [heq]
      rfl
    · exact Or.inl hack
  | waiting _ _ _ _ => exact ⟨.of_eq rfl, Or.inr (Or.inl rfl)⟩
  | timeoutDisconnect _ _ _ _ hdis =>
    obtain ⟨s, start, result, heq⟩ := m.sendDisconnect_eq env
    refine ⟨⟨[.sendMessage _ _ _ _], by rw [heq]; rfl, by simp [Event.isQuiet]⟩, Or.inl ⟨?_, ?_⟩⟩
    · rw [heq]
      rfl
    · exact Or.inr (Or.inl hdis)
  | givesUp _ _ _ _ _ htries => exact ⟨.of_eq rfl, Or.inl ⟨rfl, Or.inr (Or.inr htries)⟩⟩
  | retry _ _ hack _ hdis _ => exact ⟨.of_eq rfl, Or.inr (Or.inr ⟨hack, hdis, _, rfl⟩)⟩

/-! ## What a run of such polls keeps -/

/-- A step that leaves a request active delivers it. -/
theorem delivered_of_active (h : m'.mPublishRequest.active = m.mPublishRequest.active) :
    m.Delivered m' := by
  intro hactive hinactive
  rw [h, hactive] at hinactive
  exact absurd hinactive.symm Bool.false_ne_true

/-- Quiet steps before and after a step keep what it delivers. -/
theorem Delivered.around {d m₁ : GB4MQTT} {ack ack' : Bool} (h : d.Delivered m₁)
    (hbefore : m.Leaves ack d) (hlog : ∃ new, m₁.radio.log = new ++ d.radio.log)
    (hafter : m₁.Leaves ack' m') : m.Delivered m' := by
  have hreq := hbefore.request
  have hreq' := hafter.request
  intro hactive hinactive
  rw [hreq'] at hinactive ⊢
  have hactive' : d.mPublishRequest.active = true := by rw [hreq]; exact hactive
  rcases h hactive' hinactive with hsent | herror | htries
  · exact Or.inl (hafter.quiet.sentSince.2 hsent)
  · refine Or.inr (Or.inl ?_)
    obtain ⟨old, hold, _⟩ := hbefore.quiet
    obtain ⟨mid, hmid⟩ := hlog
    obtain ⟨new, hnew, _⟩ := hafter.quiet
    have hadded : m.added m' = new ++ mid ++ old := added_eq _ (by
      rw [hnew, hmid, hold, List.append_assoc, List.append_assoc])
    rw [added_eq mid hmid] at herror
    rw [hadded, List.any_append, List.any_append, herror, Bool.or_true, Bool.true_or]
  · exact Or.inr (Or.inr htries)

/-- What the fields of the request say about the history. -/
structure Kept (m : GB4MQTT) : Prop where
  duplicate : m.mPublishRequest.duplicate ≠ 0 → SentSince m.radio.log
  waiting : m.mPublishRequest.active = true → m.mPublishRequest.readyToSend = false →
    SentSince m.radio.log ∨ publishMaxTries < m.mPublishRequest.tries ∨
      m.mPublishRequest.duplicate = 0 ∧ m.mPublishRequest.disconnect = false ∧
        m.mPublishRequest.gotPuback = false

theorem Kept.of_sent (hsent : SentSince m.radio.log) : m.Kept :=
  ⟨fun _ => hsent, fun _ _ => Or.inl hsent⟩

/-- An inactive request that was not sent as a duplicate says nothing. -/
theorem Kept.of_inactive (hdup : m.mPublishRequest.duplicate ≠ 0 → SentSince m.radio.log)
    (hactive : m.mPublishRequest.active = false) : m.Kept :=
  ⟨hdup, fun h => absurd (hactive.symm.trans h) Bool.false_ne_true⟩

/-- A quiet step keeps it, but for a PUBACK for a request that waits unsent. -/
theorem Kept.leaves {ack : Bool} (h : m.Kept) (hl : m.Leaves ack m')
    (hack : ack = true → m.mPublishRequest.active = true →
      m.mPublishRequest.readyToSend = false → m.mPublishRequest.duplicate = 0 →
      m.mPublishRequest.tries ≤ publishMaxTries → m.mPublishRequest.disconnect = true) :
    m'.Kept := by
  have hreq := hl.request
  have hsent := hl.quiet.sentSince.2
  refine ⟨fun hdup => ?_, fun hactive hready => ?_⟩
  · rw [hreq] at hdup
    exact hsent (h.duplicate hdup)
  · rw [hreq] at hactive hready ⊢
    rcases h.waiting hactive hready with hs | htries | ⟨hdup, hdis, hnack⟩
    · exact Or.inl (hsent hs)
    · exact Or.inr (Or.inl htries)
    · by_cases htries : publishMaxTries < m.mPublishRequest.tries
      · exact Or.inr (Or.inl htries)
      refine Or.inr (Or.inr ⟨hdup, hdis, ?_⟩)
      show (m.mPublishRequest.gotPuback || ack) = false
      rw [hnack, Bool.false_or]
      apply (Bool.not_eq_true _).mp
      intro hacked
      have hdis' := hack hacked hactive hready hdup (UInt8.not_lt.1 htries)
      exact absurd (hdis.symm.trans hdis') Bool.false_ne_true

private theorem Kept.handled_ready {b : Bool} (h : m.Kept)
    (hactive : m.mPublishRequest.active = true) (hready : m.mPublishRequest.readyToSend = true)
    (hrefused : m.mPublishRequest.duplicate = 0 → m.mPublishRequest.tries ≤ publishMaxTries →
      0 < (publishPacket paho m.claimed.mPublishRequest).1 → m.Refuses env →
      m.mPublishRequest.disconnect = false ∧ m.mPublishRequest.gotPuback = false)
    (hstep : Handled m paho env b m') : m'.Kept ∧ m.Delivered m' := by
  rcases hstep.of_ready hactive hready with
    ⟨_, heq⟩ | ⟨_, heq⟩ | ⟨hlen, href, result, status, _, heq⟩
  · subst heq
    refine ⟨.of_inactive (fun hdup => ?_) rfl, fun _ _ => Or.inr (Or.inl ?_)⟩
    · exact (h.duplicate hdup).append [.publishRequest _ _] (by simp [Event.isPublished])
    · rw [added_eq [.publishRequest _ .publishPacketError] rfl]
      rfl
  · have hsent : SentSince m'.radio.log := by
      rw [heq]
      exact sentSince_cons
    exact ⟨.of_sent hsent, fun _ _ => Or.inl hsent⟩
  · have hdup' : m.mPublishRequest.duplicate ≠ 0 → SentSince m'.radio.log := fun hdup => by
      rw [heq]
      exact (h.duplicate hdup).append [.publishRequest _ _, .sendMessage _ _ _ _]
        (by simp [Event.isPublished])
    refine ⟨⟨fun hdup => hdup' (by rw [heq] at hdup; exact hdup), fun _ _ => ?_⟩,
      delivered_of_active (by rw [heq]; rfl)⟩
    by_cases hdup : m.mPublishRequest.duplicate = 0
    · apply Or.inr
      rw [heq]
      by_cases htries : publishMaxTries < m.mPublishRequest.tries
      · exact Or.inl htries
      · exact Or.inr ⟨hdup, hrefused hdup (UInt8.not_lt.1 htries) hlen href⟩
    · exact Or.inl (hdup' hdup)

private theorem Kept.handled_waiting {b : Bool} (h : m.Kept)
    (hactive : m.mPublishRequest.active = true) (hready : m.mPublishRequest.readyToSend = false)
    (hstep : Handled m paho env b m') : m'.Kept ∧ m.Delivered m' := by
  obtain ⟨hquiet, hcases⟩ := hstep.of_waiting hactive hready
  have hsent := hquiet.sentSince.2
  rcases hcases with ⟨hreq, hwhy⟩ | hreq | ⟨_, _, start, hreq⟩
  · refine ⟨.of_inactive (fun hdup => ?_) (by rw [hreq]), fun _ _ => ?_⟩
    · rw [hreq] at hdup
      exact hsent (h.duplicate hdup)
    · rw [hreq]
      rcases h.waiting hactive hready with hs | htries | ⟨_, hdis, hnack⟩
      · exact Or.inl (hsent hs)
      · exact Or.inr (Or.inr htries)
      · rcases hwhy with hack | hdis' | htries
        · exact absurd (hnack.symm.trans hack) Bool.false_ne_true
        · exact absurd (hdis.symm.trans hdis') Bool.false_ne_true
        · exact Or.inr (Or.inr htries)
  · refine ⟨h.leaves (.of_quiet hreq hquiet) fun hfalse => ?_,
      delivered_of_active (by rw [hreq])⟩
    exact absurd hfalse Bool.false_ne_true
  · refine ⟨⟨fun hdup => ?_, fun _ hready' => ?_⟩, delivered_of_active (by rw [hreq])⟩
    · rw [hreq] at hdup
      exact hsent (h.duplicate hdup)
    · rw [hreq] at hready'
      exact absurd hready'.symm Bool.false_ne_true

/-- `handlePublishRequests` delivers what it makes inactive. -/
theorem Kept.handled {b : Bool} (h : m.Kept)
    (hrefused : m.mPublishRequest.active = true → m.mPublishRequest.readyToSend = true →
      m.mPublishRequest.duplicate = 0 → m.mPublishRequest.tries ≤ publishMaxTries →
      0 < (publishPacket paho m.claimed.mPublishRequest).1 → m.Refuses env →
      m.mPublishRequest.disconnect = false ∧ m.mPublishRequest.gotPuback = false)
    (hstep : Handled m paho env b m') : m'.Kept ∧ m.Delivered m' := by
  cases hactive : m.mPublishRequest.active with
  | false =>
    cases hstep with
    | idle _ => exact ⟨h, fun htrue => absurd (hactive.symm.trans htrue) Bool.false_ne_true⟩
    | _ htrue => exact absurd (hactive.symm.trans htrue) Bool.false_ne_true
  | true =>
    cases hready : m.mPublishRequest.readyToSend with
    | true => exact h.handled_ready hactive hready (hrefused hactive hready) hstep
    | false => exact h.handled_waiting hactive hready hstep

/-- A poll that keeps the request. -/
theorem Kept.poll (h : m.Kept) (hk : KeepsRequest paho m (.poll env)) :
    (m.poll paho env).2.Kept ∧ m.Delivered (m.poll paho env).2 := by
  have hstep := m.poll_requestStep paho env
  generalize (m.poll paho env).2 = m' at hstep ⊢
  have hwait : .socketReady ≤ (m.radio.poll env).mState → m.Listens →
      decide ((m.pollRadio env).TakesPuback paho env) = true →
      m.mPublishRequest.active = true → m.mPublishRequest.readyToSend = false →
      m.mPublishRequest.duplicate = 0 → m.mPublishRequest.tries ≤ publishMaxTries →
      m.mPublishRequest.disconnect = true := by
    intro hge hl htake hactive hready hdup htries
    apply (Bool.not_eq_false _).mp
    intro hdis
    exact (hk hge).waiting ⟨hl, hactive, hready, hdup, htries, hdis⟩ (of_decide_eq_true htake)
  cases hstep with
  | left _ hl =>
    exact ⟨h.leaves hl fun hfalse => absurd hfalse Bool.false_ne_true,
      delivered_of_active (by rw [hl.request])⟩
  | listened hge hs hl =>
    exact ⟨h.leaves hl (hwait hge (Or.inl hs)), delivered_of_active (by rw [hl.request])⟩
  | handled hge hs hl hr hhandled hafter =>
    have hd := h.leaves hl (hwait hge (Or.inr hs))
    have hreq := hl.request
    obtain ⟨hkept, hdelivered⟩ := by
      refine hd.handled ?_ hhandled
      intro hactive hready hdup htries hlen hrefuses
      unfold Refuses at hrefuses
      rw [hr] at hrefuses
      rw [hl.requestToSend] at hlen
      rw [hreq] at hactive hready hdup htries ⊢
      obtain ⟨hdis, hack, htake⟩ :=
        (hk hge).refused ⟨hs, hactive, hready, hdup, htries, hlen, hrefuses⟩
      refine ⟨hdis, ?_⟩
      show (m.mPublishRequest.gotPuback || _) = false
      rw [show m.mPublishRequest.gotPuback = false from hack, Bool.false_or]
      exact decide_eq_false htake
    obtain ⟨new, hlog, _⟩ := hhandled.log
    exact ⟨hkept.leaves hafter fun hfalse => absurd hfalse Bool.false_ne_true,
      hdelivered.around hl ⟨new, hlog⟩ hafter⟩

theorem Begun.kept (h : m.Begun) : m.Kept := by
  obtain ⟨mem, args, rfl⟩ := h.eq
  exact .of_inactive (fun hdup => absurd rfl hdup) rfl

theorem Kept.call (h : m.Kept) {c : Call} (hk : KeepsRequest paho m c) : (call paho m c).Kept := by
  cases c with
  | publish topic topicLen message messageLen qos disconnect now =>
    exact ⟨fun hdup => absurd rfl hdup, fun _ hready => absurd hready.symm Bool.false_ne_true⟩
  | poll env => exact (h.poll hk).1
  | _ => exact ⟨h.duplicate, h.waiting⟩

theorem Kept.of_reach (h : ((system paho).restrict (KeepsRequest paho)).Reach m) : m.Kept :=
  h.invariant Kept (fun _ hbegun => Begun.kept hbegun) fun m c m' _ hkept hstep => by
    obtain ⟨⟨_, rfl⟩, hk⟩ := hstep
    exact hkept.call hk

/-- In a run whose polls all keep the request, every poll delivers it. -/
theorem delivered_of_reach (h : ((system paho).restrict (KeepsRequest paho)).Reach m)
    (hk : KeepsRequest paho m (.poll env)) : m.Delivered (m.poll paho env).2 :=
  ((Kept.of_reach h).poll hk).2

/-- A request that the radio takes is not lost. -/
theorem delivered_sent :
    (afterCalls (samplePublish 0 true :: startupCalls ++ sessionCalls 26000)).Delivered
      ((afterCalls (samplePublish 0 true :: startupCalls ++ sessionCalls 26000)).poll .mqtt
        { millis := fun _ => 28000 }).2 :=
  delivered_of_reach (reach_afterCalls_restrict _ (by decide +kernel)) (by decide +kernel)

/-- The radio is still sending the CONNECT when the request is tried, and the
request times out without another try. -/
theorem undelivered_disconnect : ¬∀ (paho : Paho) (m : GB4MQTT) (env : Env),
    (system paho).Reach m → m.Delivered (m.poll paho env).2 := by
  intro h
  have hlost := h .mqtt
    (afterCalls (samplePublish 1 true :: startupCalls ++ sessionCalls 26000 ++ [pollAt 26000 []]))
    { millis := fun _ => 26000 } (reach_afterCalls _)
  exact absurd hlost (by decide +kernel)

end GB4MQTT

end XBeeMqtt
