import XBeeMqtt.GB4MQTT.Session

/-!
# What is said on a socket

A client opens an MQTT connection with one CONNECT, and says nothing after its
DISCONNECT.  `conversation` is the machine of such a connection, with the packets
as its labels.  `packetsSent` is what the radio has taken since the last socket was
created, the newest packet first.

`Talks` says what every state of the session knows of these packets, and
`conversation_of_reach` that on every socket of every run they are a conversation,
however often the connection is lost and made again.
-/

namespace XBeeMqtt

open History Transition

/-- The packet that the radio took. -/
def Event.sent? : Event → Option (List UInt8)
  | .sendMessage _ message len .messageSent => some (message.take len)
  | _ => none

/-- The packets that the radio took since the last socket creation. -/
def packetsSent (log : List Event) : List (List UInt8) :=
  (since Event.isSocketCreate log).filterMap Event.sent?

/-- The event neither creates a socket nor hands a packet over. -/
def Event.isSilent (e : Event) : Prop := e.isSocketCreate = false ∧ e.sent? = none

theorem packetsSent_append {new log : List Event} (hnew : ∀ e ∈ new, e.isSilent) :
    packetsSent (new ++ log) = packetsSent log := by
  unfold packetsSent
  rw [since_append fun e he => (hnew e he).1, List.filterMap_append,
    List.filterMap_eq_nil_iff.2 fun e he => (hnew e he).2, List.nil_append]

theorem packetsSent_cons {e : Event} (h : e.isSilent) (log : List Event) :
    packetsSent (e :: log) = packetsSent log :=
  @packetsSent_append [e] log (by simpa using h)

theorem packetsSent_socketCreate (sock : Int) (log : List Event) :
    packetsSent (.socketCreate sock :: log) = [] := by
  unfold packetsSent
  rw [since_cons_mark rfl]
  rfl

theorem packetsSent_messageSent (found : GB4XBee.State) (message : List UInt8) (len : Nat)
    (log : List Event) : packetsSent (.sendMessage found message len .messageSent :: log) =
      message.take len :: packetsSent log := by
  unfold packetsSent
  rw [since_cons rfl]
  rfl

theorem isSilent_sendMessage {result : GB4XBee.Return} (h : result ≠ .messageSent)
    (found : GB4XBee.State) (message : List UInt8) (len : Nat) :
    (Event.sendMessage found message len result).isSilent := by
  refine ⟨rfl, ?_⟩
  cases result <;> first | rfl | exact absurd rfl h

theorem isSilent_of_ofRadio {e : Event} (h : e.ofRadio = true) (hsock : e.isSocketCreate = false) :
    e.isSilent := by
  refine ⟨hsock, ?_⟩
  cases e with
  | sendMessage _ _ _ _ => exact absurd h Bool.false_ne_true
  | _ => rfl

theorem isSilent_of_tick {frames : List Frame} {e : Event} (h : e ∈ tickEvents frames) :
    e.isSilent :=
  isSilent_of_ofRadio (GB4XBee.ofRadio_of_mem_tickEvents h) (isSocketCreate_of_tick h)

theorem isSilent_of_ofStartup {e : Event} (h : e.ofStartup = true) : e.isSilent := by
  cases e with
  | serialWrite _ _ => exact ⟨rfl, rfl⟩
  | serialRead _ => exact ⟨rfl, rfl⟩
  | initDevice => exact ⟨rfl, rfl⟩
  | initStatus _ => exact ⟨rfl, rfl⟩
  | commandSend _ _ => exact ⟨rfl, rfl⟩
  | _ => exact absurd h Bool.false_ne_true

namespace GB4XBee

/-- The radio sends nothing by itself.  It only gets to a socket by creating it, and
nothing was sent on that. -/
theorem poll_packetsSent (r : GB4XBee) (env : Env) :
    packetsSent (r.poll env).log = [] ∧ (r.poll env).mState < .socketReady ∨
    packetsSent (r.poll env).log = packetsSent r.log ∧
      (.awaitSocketId ≤ (r.poll env).mState → .awaitSocketId ≤ r.mState ∧
        ((r.poll env).mState < .socketReady → r.mState < .socketReady)) := by
  rcases r.poll_cases env with ⟨_, hstep⟩ | ⟨_, hstep⟩
  · obtain ⟨frames, events, _, hlog, hev⟩ := hstep.ticked
    refine Or.inr ⟨?_, fun hge => absurd (Nat.le_trans hge hstep.mState) (by decide)⟩
    rw [hlog, packetsSent_append fun e he => isSilent_of_ofStartup (hev e he),
      packetsSent_append fun e he => isSilent_of_tick he]
  · have htick : packetsSent (r.devTick env.frames).log = packetsSent r.log := by
      rw [devTick_log, packetsSent_append fun e he => isSilent_of_tick he]
    generalize r.poll env = r' at hstep ⊢
    cases hstep with
    | stay => exact Or.inr ⟨htick, by simp⟩
    | @advance s _ hadv =>
      refine Or.inr ⟨htick, fun hge => ?_⟩
      have hge : State.awaitSocketId ≤ s := hge
      show State.awaitSocketId ≤ r.mState ∧ (s < .socketReady → _)
      rw [← r.devTick_mState env.frames]
      cases hadv with
      | cooledDown _ => exact absurd hge (by decide)
      | createTimeout _ => exact absurd hge (by decide)
      | created hs => exact ⟨by rw [hs]; decide, fun hlt => absurd hlt (by decide)⟩
      | connecting hs _ => exact ⟨by rw [hs]; decide, fun hlt => absurd hlt (by decide)⟩
      | answered hs => exact ⟨by rw [hs]; decide, fun hlt => absurd hlt (by decide)⟩
      | connected hs =>
        refine ⟨?_, fun hlt => absurd hlt (by decide)⟩
        rcases hs with hs | hs | hs <;> rw [hs] <;> decide
    | reset =>
      refine Or.inr ⟨?_, fun hge =>
        absurd hge (show ¬State.awaitSocketId ≤ .socketCooldownPeriod by decide)⟩
      rw [← htick]
      exact packetsSent_cons ⟨rfl, rfl⟩ _
    | create _ _ =>
      exact Or.inl ⟨packetsSent_socketCreate _ _,
        show State.awaitSocketId < .socketReady by decide⟩
    | createFailed _ _ =>
      refine Or.inl ⟨(packetsSent_cons ⟨rfl, rfl⟩ _).trans (packetsSent_socketCreate _ _), ?_⟩
      exact show State.socketCooldownPeriod < .socketReady by decide

end GB4XBee

namespace GB4MQTT

variable {m m' : GB4MQTT} {paho : Paho} {env : Env} {packets : List (List UInt8)}

/-! ## The conversation -/

/-- The bytes of a serialised packet, as they are handed to the radio. -/
def wire (packet : Int × List UInt8) : List UInt8 := packet.2.take (sizeT packet.1)

def disconnectPacket : List UInt8 := [0xE0, 0x00]

/-- How far a conversation has got. -/
inductive Phase where
  | opening
  | connected
  | closed
  deriving DecidableEq, Repr

/-- What may be said next. -/
inductive Says (paho : Paho) : Phase → List UInt8 → Phase → Prop where
  | connect (data : ConnectData) :
      Says paho .opening (wire (paho.serializeConnect connectPacketSize data)) .connected
  | publish (req : MQTTRequest) :
      Says paho .connected (wire (publishPacket paho req)) .connected
  | disconnect : Says paho .connected disconnectPacket .closed

/-- The conversations of a socket. -/
def conversation (paho : Paho) : System Phase (List UInt8) where
  init phase := phase = .opening
  step := Says paho

/-- What was said when a phase is reached: one CONNECT, any number of PUBLISH, and a
DISCONNECT as the last word. -/
def Said (paho : Paho) (packets : List (List UInt8)) : Phase → Prop
  | .opening => packets = []
  | .connected => ∃ data, ∃ reqs : List MQTTRequest, packets =
      wire (paho.serializeConnect connectPacketSize data) ::
        reqs.map fun req => wire (publishPacket paho req)
  | .closed => ∃ data, ∃ reqs : List MQTTRequest, packets =
      wire (paho.serializeConnect connectPacketSize data) ::
        (reqs.map fun req => wire (publishPacket paho req)) ++ [disconnectPacket]

theorem said_of_run {phase : Phase} (h : (conversation paho).Run packets phase) :
    Said paho packets.reverse phase := by
  induction h with
  | init hphase => rw [show _ = Phase.opening from hphase]; rfl
  | @step packets _ packet _ _ hsays ih =>
    rw [List.reverse_cons]
    cases hsays with
    | connect data =>
      have hnil : packets.reverse = [] := ih
      exact ⟨data, [], by rw [hnil]; rfl⟩
    | publish req =>
      obtain ⟨data, reqs, heq⟩ := ih
      refine ⟨data, reqs ++ [req], ?_⟩
      rw [heq, List.map_append]
      rfl
    | disconnect =>
      obtain ⟨data, reqs, heq⟩ := ih
      exact ⟨data, reqs, by rw [heq]⟩

/-! ## Where the session is in it -/

/-- Nothing was said yet. -/
def Opens (m : GB4MQTT) : Prop :=
  m.state = .notConnected ∨ m.state = .connectingSocket ∨ m.state = .connectMqtt

/-- The CONNECT was sent. -/
def Talking (m : GB4MQTT) : Prop :=
  m.state = .awaitConnack ∨ m.state = .beginStandby ∨ m.state = .standby

structure InPhase (m : GB4MQTT) (phase : Phase) : Prop where
  opening : .awaitSocketId ≤ m.radio.mState → m.Opens → phase = .opening
  connected : m.Talking → phase = .connected

/-- The packets of the present socket are a conversation, as far as the session says. -/
def Talks (paho : Paho) (m : GB4MQTT) : Prop :=
  ∃ phase, (conversation paho).Run (packetsSent m.radio.log) phase ∧ m.InPhase phase

theorem InPhase.talking {phase : Phase} (h : m.InPhase phase) (hs : m.Talking)
    (hs' : m'.Talking) : m'.InPhase phase := by
  refine ⟨fun _ hopens => ?_, fun _ => h.connected hs⟩
  rcases hs' with hs' | hs' | hs' <;> rcases hopens with ho | ho | ho <;>
    exact absurd (hs'.symm.trans ho) (by decide)

theorem InPhase.opens {phase : Phase} (h : m.InPhase phase)
    (hge : .awaitSocketId ≤ m'.radio.mState → .awaitSocketId ≤ m.radio.mState)
    (hs : m.Opens) (hs' : m'.Opens) : m'.InPhase phase := by
  refine ⟨fun hr _ => h.opening (hge hr) hs, fun htalk => ?_⟩
  rcases hs' with hs' | hs' | hs' <;> rcases htalk with ht | ht | ht <;>
    exact absurd (hs'.symm.trans ht) (by decide)

/-- Over a radio without a socket nothing has to be known. -/
theorem InPhase.of_below (hs : m.Opens) (hr : m.radio.mState < .awaitSocketId) (phase : Phase) :
    m.InPhase phase := by
  refine ⟨fun hge => absurd hr (GB4XBee.State.not_lt.2 hge), fun htalk => ?_⟩
  rcases hs with hs | hs | hs <;> rcases htalk with ht | ht | ht <;>
    exact absurd (hs.symm.trans ht) (by decide)

/-! ## One poll -/

theorem packetsSent_dispatchIncomming (m : GB4MQTT) (paho : Paho) (env : Env) :
    packetsSent (m.dispatchIncomming paho env).2.radio.log = packetsSent m.radio.log := by
  rcases m.dispatchIncomming_log paho env with ⟨_, hlog⟩ | ⟨_, bytes, type, message, hlog⟩
  · rw [hlog]
  · rw [hlog, packetsSent_cons ⟨rfl, rfl⟩]

theorem packetsSent_sendDisconnect (m : GB4MQTT) (env : Env) :
    packetsSent (m.sendDisconnect env).radio.log = packetsSent m.radio.log ∨
    packetsSent (m.sendDisconnect env).radio.log =
      disconnectPacket :: packetsSent m.radio.log := by
  unfold sendDisconnect
  rcases m.radio.sendMessage_cases [0xE0, 0x00] 2 env with ⟨_, _, heq⟩ | ⟨result, hne, _, heq⟩
  · rw [heq]
    exact Or.inr (packetsSent_messageSent _ _ _ _)
  · rw [heq]
    exact Or.inl (packetsSent_cons (isSilent_sendMessage hne _ _ _) _)

/-- `handlePublishRequests` sends a PUBLISH, or a DISCONNECT before it gives the socket
up, or nothing. -/
theorem Handled.packetsSent {b : Bool} (h : Handled m paho env b m') :
    packetsSent m'.radio.log = packetsSent m.radio.log ∨
    (∃ req, packetsSent m'.radio.log =
      wire (publishPacket paho req) :: packetsSent m.radio.log) ∨
    b = false ∧ packetsSent m'.radio.log = disconnectPacket :: packetsSent m.radio.log := by
  cases h with
  | packetError _ _ _ => exact Or.inl (packetsSent_cons ⟨rfl, rfl⟩ _)
  | sent _ _ _ _ =>
    refine Or.inr (Or.inl ⟨m.claimed.mPublishRequest, ?_⟩)
    refine (packetsSent_cons ⟨rfl, rfl⟩ _).trans ?_
    exact packetsSent_messageSent _ _ _ _
  | refused _ _ _ _ hne _ =>
    refine Or.inl ((packetsSent_cons ⟨rfl, rfl⟩ _).trans ?_)
    exact packetsSent_cons (isSilent_sendMessage hne _ _ _) _
  | acknowledgedDisconnect _ _ _ _ =>
    exact (m.finished.packetsSent_sendDisconnect env).imp id fun h => Or.inr ⟨rfl, h⟩
  | timeoutDisconnect _ _ _ _ _ =>
    exact (m.packetsSent_sendDisconnect env).imp id fun h => Or.inr ⟨rfl, h⟩
  | _ => exact Or.inl rfl

/-- A teardown ends no conversation in the middle of a word. -/
theorem talks_drop {phase : Phase} (h : (conversation paho).Run (packetsSent m.radio.log) phase)
    (env : Env) : Talks paho (m.drop env) := by
  refine ⟨phase, ?_, .of_below (Or.inl rfl) ?_ phase⟩
  · have hsame : packetsSent (m.drop env).radio.log = packetsSent m.radio.log :=
      packetsSent_cons ⟨rfl, rfl⟩ _
    rwa [hsame]
  · exact show GB4XBee.State.socketCooldownPeriod < _ by decide

private theorem connectRefused_packetsSent {result : GB4XBee.Return}
    (hne : result ≠ .messageSent) (m : GB4MQTT) (paho : Paho) (status : Return) :
    packetsSent (m.connectRefused paho result status).radio.log = packetsSent m.radio.log := by
  refine (packetsSent_cons ⟨rfl, rfl⟩ _).trans ?_
  exact packetsSent_cons (isSilent_sendMessage hne _ _ _) _

private theorem connectSent_packetsSent (m : GB4MQTT) (paho : Paho) (env : Env) :
    packetsSent (m.connectSent paho env).radio.log =
      wire (m.connectPacket paho) :: packetsSent m.radio.log := by
  refine (packetsSent_cons ⟨rfl, rfl⟩ _).trans ?_
  exact packetsSent_messageSent _ _ _ _

private theorem packetsSent_standby (m : GB4MQTT) (paho : Paho) (env : Env) :
    packetsSent (({ m with state := .standby } : GB4MQTT).dispatchIncomming paho env).2.radio.log =
      packetsSent m.radio.log :=
  packetsSent_dispatchIncomming { m with state := .standby } paho env

/-- The switch goes on with the conversation. -/
theorem Talks.switch (h : Talks paho m) (hge : .awaitSocketId ≤ m.radio.mState)
    (hstep : SwitchStep m paho env m') : Talks paho m' := by
  obtain ⟨phase, hrun, hphase⟩ := h
  cases hstep with
  | idle _ _ => exact ⟨phase, hrun, hphase⟩
  | connecting hs _ _ =>
    refine ⟨phase, ?_, hphase.opens (fun hge => hge) (Or.inl hs) (Or.inr (Or.inl rfl))⟩
    show (conversation paho).Run (packetsSent (_ :: m.radio.log)) phase
    rwa [packetsSent_cons ⟨rfl, rfl⟩]
  | connectFailed _ _ =>
    refine ⟨phase, ?_, .of_below (Or.inl rfl) ?_ phase⟩
    · show (conversation paho).Run (packetsSent (_ :: _ :: m.radio.log)) phase
      rwa [packetsSent_cons ⟨rfl, rfl⟩, packetsSent_cons ⟨rfl, rfl⟩]
    · exact show GB4XBee.State.socketCooldownPeriod < _ by decide
  | stillConnecting _ _ => exact ⟨phase, hrun, hphase⟩
  | connectLost _ => exact talks_drop hrun env
  | socketConnected hs _ =>
    exact ⟨phase, hrun, hphase.opens (fun hge => hge) (Or.inr (Or.inl hs))
      (Or.inr (Or.inr rfl))⟩
  | connectMalformed hs =>
    refine ⟨phase, ?_, hphase.opens (fun hge => hge) (Or.inr (Or.inr hs)) (Or.inr (Or.inr hs))⟩
    show (conversation paho).Run (packetsSent (_ :: m.radio.log)) phase
    rwa [packetsSent_cons ⟨rfl, rfl⟩]
  | connectSent hs _ =>
    -- the CONNECT is the first packet on this socket
    rw [hphase.opening hge (Or.inr (Or.inr hs))] at hrun
    refine ⟨.connected, ?_, ⟨fun _ hopens => ?_, fun _ => rfl⟩⟩
    · show (conversation paho).Run (packetsSent (m.connectSent paho env).radio.log) _
      rw [connectSent_packetsSent]
      exact .step hrun (.connect _)
    · rcases hopens with ho | ho | ho <;> exact absurd ho (by simp)
  | connectRefused hs _ hne _ =>
    refine ⟨phase, ?_, hphase.opens (fun hge => hge) (Or.inr (Or.inr hs)) (Or.inr (Or.inr hs))⟩
    rwa [connectRefused_packetsSent hne]
  | connectDropped _ _ hne _ =>
    apply talks_drop
    rwa [connectRefused_packetsSent hne]
  | listening hs _ =>
    refine ⟨phase, ?_, hphase.talking (Or.inl hs) (Or.inl (by simpa using hs))⟩
    rwa [packetsSent_dispatchIncomming]
  | accepted hs _ _ =>
    refine ⟨phase, ?_, hphase.talking (Or.inl hs) (Or.inr (Or.inl rfl))⟩
    show (conversation paho).Run (packetsSent (m.dispatchIncomming paho env).2.radio.log) phase
    rwa [packetsSent_dispatchIncomming]
  | rejected _ =>
    apply talks_drop
    rwa [packetsSent_dispatchIncomming]
  | served hs hhandled =>
    have hsent := hhandled.packetsSent
    have hstate : m'.state = .standby := hhandled.frame.1.trans (dispatchIncomming_state _ _ _)
    have hconn := hphase.connected (Or.inr hs)
    rw [packetsSent_standby] at hsent
    refine ⟨phase, ?_, hphase.talking (Or.inr hs) (Or.inr (Or.inr hstate))⟩
    rcases hsent with heq | ⟨req, heq⟩ | ⟨hfalse, _⟩
    · rwa [heq]
    · rw [heq]
      rw [hconn] at hrun ⊢
      exact .step hrun (.publish req)
    · exact absurd hfalse.symm Bool.false_ne_true
  | @servedDrop m₁ hs hhandled =>
    have hsent := hhandled.packetsSent
    have hconn := hphase.connected (Or.inr hs)
    rw [packetsSent_standby] at hsent
    rw [hconn] at hrun
    rcases hsent with heq | ⟨req, heq⟩ | ⟨_, heq⟩
    · exact talks_drop (by rwa [heq]) env
    · exact talks_drop (by rw [heq]; exact .step hrun (.publish req)) env
    · exact talks_drop (by rw [heq]; exact .step hrun .disconnect) env
  | noCase _ _ _ _ _ _ => exact ⟨phase, hrun, hphase⟩

/-- A radio that waits for its socket id has no session over it. -/
theorem Inv.notConnected_of_lt (h : m.Inv) (hlt : m.radio.mState < .socketReady) :
    m.state = .notConnected := by
  rcases h.state with hs | hs | hs
  · rcases h.inStep.session hs with hr | hr <;> rw [hr] at hlt <;> exact absurd hlt (by decide)
  · rcases (h.inStep.connecting hs).2 with hr | hr | hr <;> rw [hr] at hlt <;>
      exact absurd hlt (by decide)
  · exact hs

theorem Talks.poll (h : Talks paho m) (hinv : m.Inv) (env : Env) :
    Talks paho (m.poll paho env).2 := by
  obtain ⟨phase, hrun, hphase⟩ := h
  have hradio := m.radio.poll_packetsSent env
  rcases m.poll_cases paho env with ⟨hlt, heq⟩ | ⟨hge, hstep⟩
  · rw [heq]
    have htalk : ∀ phase : Phase, (.awaitSocketId ≤ (m.radio.poll env).mState →
        phase = .opening) →
        ({ m.pollRadio env with state := .notConnected } : GB4MQTT).InPhase phase := by
      intro phase hopening
      refine ⟨fun hr _ => hopening hr, fun hs => ?_⟩
      rcases hs with hs | hs | hs <;> exact absurd hs (by simp)
    rcases hradio with ⟨hnil, _⟩ | ⟨hsame, hfrom⟩
    · refine ⟨.opening, ?_, htalk .opening fun _ => rfl⟩
      show (conversation paho).Run (packetsSent (m.radio.poll env).log) _
      rw [hnil]
      exact .init rfl
    · refine ⟨phase, ?_, htalk phase fun hr => ?_⟩
      · show (conversation paho).Run (packetsSent (m.radio.poll env).log) _
        rwa [hsame]
      · obtain ⟨hr', hlt'⟩ := hfrom hr
        exact hphase.opening hr' (Or.inl (hinv.notConnected_of_lt (hlt' hlt)))
  · rcases hradio with ⟨_, hlt⟩ | ⟨hsame, hfrom⟩
    · exact absurd hlt (GB4XBee.State.not_lt.2 hge)
    · have hready : .awaitSocketId ≤ (m.radio.poll env).mState :=
        Nat.le_trans (show GB4XBee.State.awaitSocketId ≤ .socketReady by decide) hge
      have hmid : Talks paho (m.pollRadio env) := by
        refine ⟨phase, ?_, ⟨fun _ hopens => ?_, hphase.connected⟩⟩
        · show (conversation paho).Run (packetsSent (m.radio.poll env).log) _
          rwa [hsame]
        · exact hphase.opening (hfrom hready).1 hopens
      exact hmid.switch hready hstep

/-! ## Runs -/

theorem Talks.of_reach (h : (system paho).Reach m) : Talks paho m := by
  refine h.invariant (Talks paho) (fun m hbegun => ?_) fun m c m' hreach htalks hstep => ?_
  · obtain ⟨mem, args, rfl⟩ := Begun.eq hbegun
    exact ⟨.opening, .init rfl, .of_below (Or.inl rfl)
      (show GB4XBee.State.start < _ by decide) _⟩
  · obtain ⟨_, rfl⟩ := hstep
    cases c with
    | publish topic topicLen message messageLen qos disconnect now =>
      obtain ⟨phase, hrun, hphase⟩ := htalks
      refine ⟨phase, ?_, ⟨hphase.opening, hphase.connected⟩⟩
      show (conversation paho).Run (packetsSent (.published _ :: m.radio.log)) phase
      rwa [packetsSent_cons ⟨rfl, rfl⟩]
    | poll env => exact htalks.poll (Inv.of_reach hreach) env
    | _ =>
      obtain ⟨phase, hrun, hphase⟩ := htalks
      exact ⟨phase, hrun, ⟨hphase.opening, hphase.connected⟩⟩

end GB4MQTT

end XBeeMqtt
