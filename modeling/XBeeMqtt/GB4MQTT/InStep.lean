import XBeeMqtt.GB4MQTT.Step
import XBeeMqtt.Lib.History

/-!
# The two state machines stay in step

`InStep` ties the state of the session to the state of the radio.  It holds
after every call (`inStep`), and it is why `sendMessage` always finds the radio
connected and `connect` always finds a fresh socket (`Found`).

The invariant that carries it, `Inv`, also says that a radio which waits for
the socket id has no connect in progress, and that a socket without a connect
in progress is fresh.
-/

namespace XBeeMqtt

open History

/-- The event is neither a socket creation nor a successful connect. -/
def Event.keepsFresh : Event → Bool
  | .socketCreate _ => false
  | .socketConnect _ status => status ≠ 0
  | _ => true

/-- A socket was created, and since then none was and no connect succeeded. -/
def FreshSocket (log : List Event) : Prop :=
  ∃ new sock older, log = new ++ .socketCreate sock :: older ∧ 0 ≤ sock ∧
    ∀ e ∈ new, e.keepsFresh = true

theorem FreshSocket.append {log : List Event} (h : FreshSocket log) (new : List Event)
    (hnew : ∀ e ∈ new, e.keepsFresh = true) : FreshSocket (new ++ log) := by
  obtain ⟨new', sock, older, rfl, hsock, hkeep⟩ := h
  refine ⟨new ++ new', sock, older, by rw [List.append_assoc], hsock, fun e he => ?_⟩
  rcases List.mem_append.1 he with he | he
  · exact hnew e he
  · exact hkeep e he

/-- What `sendMessage` and `connect` find when they are called. -/
def Found (e : Event) (older : List Event) : Prop :=
  match e with
  | .sendMessage found _ _ _ => found = .connected ∨ found = .sending
  | .socketConnect found _ => found = .socketReady ∧ FreshSocket older
  | _ => True

theorem found_of_ofRadio {e : Event} (h : e.ofRadio = true) (older : List Event) :
    Found e older := by
  cases e <;> simp_all [Event.ofRadio, Found]

theorem keepsFresh_of_tick {frames : List Frame} {e : Event} (h : e ∈ tickEvents frames) :
    e.keepsFresh = true := by
  simp only [tickEvents, List.mem_reverse, List.mem_filterMap] at h
  obtain ⟨frame, _, hframe⟩ := h
  cases frame <;> simp [Frame.event?] at hframe <;> subst hframe <;> rfl

namespace GB4MQTT

variable {m : GB4MQTT} {paho : Paho} {env : Env}

/-- The session runs over a connected socket. -/
def Session (m : GB4MQTT) : Prop :=
  m.state = .connectMqtt ∨ m.state = .awaitConnack ∨ m.state = .beginStandby ∨
    m.state = .standby

/-- The state of the session and the state of the radio. -/
structure InStep (m : GB4MQTT) : Prop where
  session : m.Session → m.radio.mState = .connected ∨ m.radio.mState = .sending
  connecting : m.state = .connectingSocket → m.radio.connectInProgress = true ∧
    (m.radio.mState = .socketReady ∨ m.radio.mState = .awaitConnectResponse ∨
      m.radio.mState = .awaitConnection)
  notConnected : m.state = .notConnected → m.radio.mState ≤ .socketReady ∧
    (m.radio.mState = .socketReady → m.radio.connectInProgress = false)

/-- What holds of the radio at any time. -/
structure RadioInv (r : GB4XBee) : Prop where
  awaitSocketId : r.mState = .awaitSocketId → r.connectInProgress = false
  fresh : .awaitSocketId ≤ r.mState → r.connectInProgress = false → FreshSocket r.log
  found : Always Found r.log

/-- The invariant of a run. -/
structure Inv (m : GB4MQTT) : Prop where
  inStep : m.InStep
  state : m.Session ∨ m.state = .connectingSocket ∨ m.state = .notConnected
  radio : RadioInv m.radio

/-! ## The radio part of a poll -/

theorem RadioInv.below {r : GB4XBee} (hs : r.mState < .awaitSocketId)
    (hfound : Always Found r.log) : RadioInv r := by
  refine ⟨fun h => ?_, fun h => ?_, hfound⟩
  · rw [h] at hs
    exact absurd hs (by decide)
  · exact absurd hs (GB4XBee.State.not_lt.2 h)

theorem RadioInv.poll {r : GB4XBee} (h : RadioInv r) (env : Env) : RadioInv (r.poll env) := by
  obtain ⟨new, hlog, hnew⟩ := r.poll_log env
  have hfound : Always Found (r.poll env).log := by
    rw [hlog]
    exact h.found.append fun e he => found_of_ofRadio (hnew e he)
  rcases r.poll_cases env with ⟨_, hstep⟩ | ⟨_, hstep⟩
  · exact .below (Nat.lt_of_le_of_lt hstep.mState (by decide)) hfound
  · have htick : .awaitSocketId ≤ r.mState → r.connectInProgress = false →
        FreshSocket (r.devTick env.frames).log := by
      intro hs hcip
      rw [GB4XBee.devTick_log]
      exact (h.fresh hs hcip).append _ fun e he => keepsFresh_of_tick he
    generalize r.poll env = r' at hstep hfound ⊢
    cases hstep with
    | stay =>
      exact ⟨by simpa using h.awaitSocketId, by simpa using htick, hfound⟩
    | advance hadv =>
      cases hadv with
      | cooledDown _ => exact .below (show GB4XBee.State.beginCreateSocket < _ by decide) hfound
      | createTimeout _ =>
        exact .below (show GB4XBee.State.beginCreateSocket < _ by decide) hfound
      | created hs =>
        rw [GB4XBee.devTick_mState] at hs
        refine ⟨by simp, fun _ hcip => ?_, hfound⟩
        exact htick (by rw [hs]; decide) (by simpa using hcip)
      | connecting hs hcip =>
        exact ⟨by simp, fun _ hcip' => absurd (hcip.symm.trans hcip') (by decide), hfound⟩
      | answered hs =>
        rw [GB4XBee.devTick_mState] at hs
        refine ⟨by simp, fun _ hcip => ?_, hfound⟩
        exact htick (by rw [hs]; decide) (by simpa using hcip)
      | connected hs =>
        rw [GB4XBee.devTick_mState] at hs
        refine ⟨by simp, fun _ hcip => ?_, hfound⟩
        exact htick (by rcases hs with hs | hs | hs <;> rw [hs] <;> decide) (by simpa using hcip)
    | reset => exact .below (show GB4XBee.State.socketCooldownPeriod < _ by decide) hfound
    | create _ hsock =>
      exact ⟨fun _ => rfl, fun _ _ => ⟨[], _, _, rfl, hsock, by simp⟩, hfound⟩
    | createFailed _ _ =>
      exact .below (show GB4XBee.State.socketCooldownPeriod < _ by decide) hfound

/-! ## The switch of a poll -/

/-- What holds between the radio part of a poll and its switch. -/
structure Mid (m : GB4MQTT) : Prop where
  session : m.Session → m.radio.mState = .connected ∨ m.radio.mState = .sending
  connecting : m.state = .connectingSocket → m.radio.connectInProgress = true ∧
    (m.radio.mState = .socketReady ∨ m.radio.mState = .awaitConnectResponse ∨
      m.radio.mState = .awaitConnection ∨ m.radio.mState = .connected)
  notConnected : m.state = .notConnected →
    m.radio.mState = .socketReady ∧ m.radio.connectInProgress = false
  state : m.Session ∨ m.state = .connectingSocket ∨ m.state = .notConnected
  radio : RadioInv m.radio

theorem Inv.pollRadio (h : m.Inv) (hge : .socketReady ≤ (m.radio.poll env).mState) :
    (m.pollRadio env).Mid := by
  obtain ⟨hcip, hfrom⟩ := GB4XBee.poll_from hge
  refine ⟨fun hs => ?_, fun hs => ?_, fun hs => ?_, h.state, h.radio.poll env⟩
  · have hradio := h.inStep.session hs
    show (m.radio.poll env).mState = _ ∨ (m.radio.poll env).mState = _
    rcases hfrom with hf | ⟨hf, _⟩ | ⟨hf, _⟩ | ⟨hf, _⟩ | ⟨_, hf⟩
    · rwa [hf]
    · rcases hradio with hr | hr <;> rw [hf] at hr <;> exact absurd hr (by decide)
    · rcases hradio with hr | hr <;> rw [hf] at hr <;> exact absurd hr (by decide)
    · rcases hradio with hr | hr <;> rw [hf] at hr <;> exact absurd hr (by decide)
    · exact Or.inl hf
  · obtain ⟨hprog, hradio⟩ := h.inStep.connecting hs
    refine ⟨hcip.trans hprog, ?_⟩
    show (m.radio.poll env).mState = _ ∨ (m.radio.poll env).mState = _ ∨
      (m.radio.poll env).mState = _ ∨ (m.radio.poll env).mState = _
    rcases hfrom with hf | ⟨_, hf⟩ | ⟨_, _, hf⟩ | ⟨_, hf⟩ | ⟨_, hf⟩
    · rw [hf]
      rcases hradio with hr | hr | hr <;> simp [hr]
    all_goals simp [hf]
  · obtain ⟨hle, hready⟩ := h.inStep.notConnected hs
    show (m.radio.poll env).mState = _ ∧ (m.radio.poll env).connectInProgress = _
    rw [hcip]
    rcases hfrom with hf | ⟨hf, hf'⟩ | ⟨hf, hprog, _⟩ | ⟨hf, _⟩ | ⟨hf, _⟩
    · rw [hf] at hge ⊢
      have hr : m.radio.mState = .socketReady := by
        cases hr : m.radio.mState <;> rw [hr] at hge hle <;> revert hge hle <;> decide
      exact ⟨hr, hready hr⟩
    · exact ⟨hf', h.radio.awaitSocketId hf⟩
    · exact absurd ((hready hf).symm.trans hprog) (by decide)
    · rw [hf] at hle
      exact absurd hle (by decide)
    · rcases hf with hf | hf | hf <;> rw [hf] at hle <;> exact absurd hle (by decide)

/-- `NOT_CONNECTED` over a radio that has no socket yet. -/
theorem Inv.of_below (hs : m.state = .notConnected) (hr : m.radio.mState < .awaitSocketId)
    (hfound : Always Found m.radio.log) : m.Inv := by
  have hnot : ¬m.Session := by simp [Session, hs]
  refine ⟨⟨fun h => absurd h hnot, fun h => ?_, fun _ => ⟨?_, fun h => ?_⟩⟩,
    Or.inr (Or.inr hs), .below hr hfound⟩
  · rw [hs] at h
    exact absurd h (by decide)
  · exact Nat.le_of_lt (Nat.lt_trans hr (by decide))
  · rw [h] at hr
    exact absurd hr (by decide)

theorem Inv.drop (hfound : Always Found m.radio.log) (env : Env) : (m.drop env).Inv :=
  .of_below rfl (show GB4XBee.State.socketCooldownPeriod < _ by decide) ⟨trivial, hfound⟩

/-- A session over a connected radio whose log is fine. -/
theorem Inv.of_session (hs : m.Session)
    (hr : m.radio.mState = .connected ∨ m.radio.mState = .sending)
    (hcip : m.radio.connectInProgress = false → FreshSocket m.radio.log)
    (hfound : Always Found m.radio.log) : m.Inv := by
  refine ⟨⟨fun _ => hr, fun h => ?_, fun h => ?_⟩, Or.inl hs, ⟨fun h => ?_, fun _ => hcip, hfound⟩⟩
  · rcases hs with hs | hs | hs | hs <;> rw [hs] at h <;> exact absurd h (by decide)
  · rcases hs with hs | hs | hs | hs <;> rw [hs] at h <;> exact absurd h (by decide)
  · rcases hr with hr | hr <;> rw [h] at hr <;> exact absurd hr (by decide)

/-- The events that a session leaves keep what the log says. -/
theorem dispatched_found (h : Always Found m.radio.log) :
    Always Found (m.dispatchIncomming paho env).2.radio.log := by
  rcases m.dispatchIncomming_log paho env with ⟨_, hlog⟩ | ⟨_, bytes, type, message, hlog⟩
  · rwa [hlog]
  · rw [hlog]
    exact ⟨trivial, h⟩

theorem dispatched_fresh (h : FreshSocket m.radio.log) :
    FreshSocket (m.dispatchIncomming paho env).2.radio.log := by
  rcases m.dispatchIncomming_log paho env with ⟨_, hlog⟩ | ⟨_, bytes, type, message, hlog⟩
  · rwa [hlog]
  · rw [hlog]
    exact h.append [_] (by simp [Event.keepsFresh])

theorem handled_found {b : Bool} {m' : GB4MQTT} (h : Handled m paho env b m')
    (hr : m.radio.mState = .connected ∨ m.radio.mState = .sending)
    (hfound : Always Found m.radio.log) : Always Found m'.radio.log := by
  obtain ⟨new, hlog, hnew⟩ := h.log
  rw [hlog]
  apply hfound.append
  intro e he past
  rcases hnew e he with ⟨req, status, rfl⟩ | ⟨message, len, result, rfl⟩
  · trivial
  · exact hr

theorem handled_fresh {b : Bool} {m' : GB4MQTT} (h : Handled m paho env b m')
    (hfresh : FreshSocket m.radio.log) : FreshSocket m'.radio.log := by
  obtain ⟨new, hlog, hnew⟩ := h.log
  rw [hlog]
  apply hfresh.append new
  intro e he
  rcases hnew e he with ⟨req, status, rfl⟩ | ⟨message, len, result, rfl⟩ <;> rfl

theorem Mid.fresh_of_session (h : m.Mid) (hs : m.Session)
    (hcip : m.radio.connectInProgress = false) : FreshSocket m.radio.log := by
  refine h.radio.fresh ?_ hcip
  rcases h.session hs with hr | hr <;> rw [hr] <;> decide

/-- The switch takes the invariant back up. -/
theorem Mid.switch (h : m.Mid) {m' : GB4MQTT} (hstep : SwitchStep m paho env m') : m'.Inv := by
  have hfound := h.radio.found
  cases hstep with
  | idle hs _ =>
    obtain ⟨hr, hcip⟩ := h.notConnected hs
    refine ⟨⟨fun hs' => h.session hs', fun hs' => ?_, fun _ => ⟨?_, fun _ => hcip⟩⟩,
      h.state, h.radio⟩
    · rw [hs] at hs'
      exact absurd hs' (by decide)
    · rw [hr]
      decide
  | connecting hs _ _ =>
    obtain ⟨hr, hcip⟩ := h.notConnected hs
    have hfresh : FreshSocket m.radio.log := h.radio.fresh (by rw [hr]; decide) hcip
    refine ⟨⟨fun hs' => ?_, fun _ => ⟨rfl, Or.inl hr⟩, fun hs' => ?_⟩, Or.inr (Or.inl rfl),
      ⟨fun hr' => ?_, fun _ hcip' => ?_, ⟨⟨hr, hfresh⟩, hfound⟩⟩⟩
    · rcases hs' with hs' | hs' | hs' | hs' <;> exact absurd hs' (by simp)
    · exact absurd hs' (by simp)
    · exact absurd (hr.symm.trans hr') (by decide)
    · exact absurd hcip' (by simp)
  | connectFailed hs _ =>
    obtain ⟨hr, hcip⟩ := h.notConnected hs
    have hfresh : FreshSocket m.radio.log := h.radio.fresh (by rw [hr]; decide) hcip
    exact .of_below rfl (show GB4XBee.State.socketCooldownPeriod < _ by decide)
      ⟨trivial, ⟨hr, hfresh⟩, hfound⟩
  | stillConnecting hs hwait =>
    obtain ⟨hcip, _⟩ := h.connecting hs
    refine ⟨⟨fun hs' => h.session hs', fun _ => ⟨hcip, ?_⟩, fun hs' => ?_⟩, h.state, h.radio⟩
    · rcases hwait with hr | hr
      · exact Or.inr (Or.inr hr)
      · exact Or.inr (Or.inl hr)
    · rw [hs] at hs'
      exact absurd hs' (by decide)
  | connectLost _ => exact .drop hfound env
  | socketConnected hs hr =>
    exact .of_session (Or.inl rfl) (Or.inl hr)
      (fun hcip => absurd ((h.connecting hs).1.symm.trans hcip) (by decide)) hfound
  | connectMalformed hs =>
    exact .of_session (Or.inl hs) (h.session (Or.inl hs))
      (fun hcip => (h.fresh_of_session (Or.inl hs) hcip).append [_]
        (by simp [Event.keepsFresh]))
      ⟨trivial, hfound⟩
  | connectSent hs _ =>
    exact .of_session (Or.inr (Or.inl rfl)) (Or.inr rfl)
      (fun hcip => (h.fresh_of_session (Or.inl hs) hcip).append [_, _]
        (by simp [Event.keepsFresh]))
      ⟨trivial, Or.inl rfl, hfound⟩
  | connectRefused hs _ _ _ =>
    exact .of_session (Or.inl hs) (h.session (Or.inl hs))
      (fun hcip => (h.fresh_of_session (Or.inl hs) hcip).append [_, _]
        (by simp [Event.keepsFresh]))
      ⟨trivial, h.session (Or.inl hs), hfound⟩
  | @connectDropped result status hs _ _ _ =>
    have hlog : Always Found (m.connectRefused paho result status).radio.log :=
      ⟨trivial, h.session (Or.inl hs), hfound⟩
    exact .drop hlog env
  | listening hs _ =>
    have hsession : m.Session := Or.inr (Or.inl hs)
    exact .of_session (Or.inr (Or.inl (by simpa using hs))) (by simpa using h.session hsession)
      (fun hcip => dispatched_fresh (h.fresh_of_session hsession (by simpa using hcip)))
      (dispatched_found hfound)
  | accepted hs _ _ =>
    have hsession : m.Session := Or.inr (Or.inl hs)
    exact .of_session (Or.inr (Or.inr (Or.inl rfl))) (by simpa using h.session hsession)
      (fun hcip => dispatched_fresh (h.fresh_of_session hsession (by simpa using hcip)))
      (dispatched_found hfound)
  | rejected _ => exact .drop (dispatched_found hfound) env
  | served hs hhandled =>
    have hsession : m.Session := Or.inr (Or.inr hs)
    obtain ⟨hstate, hcip', _, hradio⟩ := hhandled.frame
    have hr : ((({ m with state := .standby } : GB4MQTT).dispatchIncomming paho env).2).radio.mState
        = m.radio.mState := by simp
    rw [hr] at hradio
    refine .of_session (Or.inr (Or.inr (Or.inr ?_))) ?_ (fun hcip => ?_) ?_
    · rw [hstate]
      simp
    · rcases hradio rfl with heq | ⟨_, heq⟩
      · rw [heq]
        exact h.session hsession
      · exact Or.inr heq
    · rw [hcip'] at hcip
      exact handled_fresh hhandled
        (dispatched_fresh (h.fresh_of_session hsession (by simpa using hcip)))
    · exact handled_found hhandled (by rw [hr]; exact h.session hsession)
        (dispatched_found hfound)
  | servedDrop hs hhandled =>
    refine .drop (handled_found hhandled ?_ (dispatched_found hfound)) env
    simpa using h.session (Or.inr (Or.inr hs))
  | noCase h1 h2 h3 h4 h5 h6 =>
    rcases h.state with (hs | hs | hs | hs) | hs | hs
    · exact absurd hs h3
    · exact absurd hs h4
    · exact absurd hs h5
    · exact absurd hs h6
    · exact absurd hs h2
    · exact absurd hs h1

theorem Inv.poll (h : m.Inv) (paho : Paho) (env : Env) : (m.poll paho env).2.Inv := by
  rcases m.poll_cases paho env with ⟨hlt, heq⟩ | ⟨hge, hstep⟩
  · rw [heq]
    have hradio := h.radio.poll env
    have hle : (m.radio.poll env).mState ≤ .socketReady := Nat.le_of_lt hlt
    refine ⟨⟨fun hs => ?_, fun hs => ?_, fun _ => ⟨hle, fun hr => ?_⟩⟩, Or.inr (Or.inr rfl), hradio⟩
    · rcases hs with hs | hs | hs | hs <;> exact absurd hs (by simp)
    · exact absurd hs (by simp)
    · have hr : (m.radio.poll env).mState = .socketReady := hr
      rw [hr] at hlt
      exact absurd hlt (by decide)
  · exact (h.pollRadio hge).switch hstep

/-! ## Runs -/

theorem Begun.inv (h : m.Begun) : m.Inv := by
  obtain ⟨mem, args, rfl⟩ := h.eq
  exact .of_below rfl (show GB4XBee.State.start < _ by decide) trivial

theorem Inv.call (h : m.Inv) (paho : Paho) (c : Call) : (call paho m c).Inv := by
  cases c with
  | publish topic topicLen message messageLen qos disconnect now =>
    have hr := h.radio
    refine ⟨⟨h.inStep.session, h.inStep.connecting, h.inStep.notConnected⟩, h.state,
      ⟨hr.awaitSocketId, fun hs hcip => ?_, ⟨trivial, hr.found⟩⟩⟩
    exact (hr.fresh hs hcip).append [_] (by simp [Event.keepsFresh])
  | poll env => exact h.poll paho env
  | _ => exact ⟨⟨h.inStep.session, h.inStep.connecting, h.inStep.notConnected⟩, h.state, h.radio⟩

theorem Inv.of_reach (h : (system paho).Reach m) : m.Inv :=
  h.invariant Inv (fun _ hbegun => Begun.inv hbegun) fun m c m' _ hinv hstep => by
    obtain ⟨_, rfl⟩ := hstep
    exact hinv.call paho c

/-- After every call the two machines are in step, every `sendMessage` has
found the radio connected, and every `connect` has found a fresh socket. -/
theorem inStep_of_reach (h : (system paho).Reach m) :
    m.InStep ∧ Always Found m.radio.log :=
  ⟨(Inv.of_reach h).inStep, (Inv.of_reach h).radio.found⟩

/-! ## A run up to a session

The run that the witnesses of this directory start with: an object on cleared
memory is begun and given a request, the radio starts up, and a socket is
created and connected. -/

def sampleArgs : Args where
  radioApn := []
  useTls := true
  networkPort := 8883
  networkAddress := some [0x68]
  id := [0x69]
  name := [0x6E]
  pwd := [0x70]

/-- An object after a successful `begin()`. -/
def sampleBegun : GB4MQTT := ((construct default sampleArgs).begin 0).2

def samplePublish (qos : UInt8) (disconnect : Bool) : Call :=
  .publish [0x74] 1 [0x31] 1 qos disconnect 0

/-- A poll at a time, with the frames of its tick. -/
def pollAt (now : UInt32) (frames : List Frame) : Call :=
  .poll { frames := frames, millis := fun _ => now }

/-- The polls that bring a begun object to `BEGIN_CREATE_SOCKET`, two seconds
apart, with every answer that the startup of the radio waits for. -/
def startupCalls : List Call := (List.range 13).map fun k =>
  .poll {
    frames := [.apn []]
    millis := fun _ => 2000 * UInt32.ofNat k
    serial := [0x4F, 0x4B, 0x0D] }

/-- The polls from there to `AWAIT_CONNACK`. -/
def connectCalls (now : UInt32) : List Call :=
  [pollAt now [], pollAt now [.notify 1 0xC0 0x00], pollAt now [],
    pollAt now [.notify 1 0xC2 0x00], pollAt now [.notify 1 0xCF 0x00], pollAt now []]

/-- A CONNACK that accepts. -/
def connack : List UInt8 := [0x20, 0x02, 0x00, 0x00]

/-- The polls up to `BEGIN_STANDBY`. -/
def sessionCalls (now : UInt32) : List Call :=
  connectCalls now ++ [pollAt now [.receive 1 connack]]

@[irreducible] def afterCalls (calls : List Call) : GB4MQTT :=
  Transition.replay (call .mqtt) sampleBegun calls

theorem begun_sampleBegun : (system .mqtt).init sampleBegun := ⟨default, sampleArgs, 0, rfl⟩

theorem reach_afterCalls (calls : List Call) : (system .mqtt).Reach (afterCalls calls) := by
  unfold afterCalls
  apply Transition.reach_replay calls (.init begun_sampleBegun)
  exact Transition.accepted_of_forall (fun _ _ => trivial) calls sampleBegun

/-- A run whose calls all meet a condition. -/
theorem reach_afterCalls_restrict {cond : GB4MQTT → Call → Prop} (calls : List Call)
    (h : Transition.Accepted (fun m c => True ∧ cond m c) (call .mqtt) sampleBegun calls) :
    ((system .mqtt).restrict cond).Reach (afterCalls calls) := by
  unfold afterCalls
  exact Transition.reach_replay_restrict calls (.init begun_sampleBegun) h

/-- A run that is waiting for its CONNACK is in step. -/
theorem inStep_awaitConnack :
    (afterCalls (samplePublish 1 false :: startupCalls ++ connectCalls 26000)).state =
        .awaitConnack ∧
      (afterCalls (samplePublish 1 false :: startupCalls ++ connectCalls 26000)).InStep :=
  ⟨by decide +kernel, (inStep_of_reach (reach_afterCalls _)).1⟩

end GB4MQTT

end XBeeMqtt
