import XBeeMqtt.GB4MQTT.Completion
import XBeeMqtt.GB4MQTT.Conversation
import XBeeMqtt.GB4MQTT.Dispatch
import XBeeMqtt.GB4XBee.Commands
import XBeeMqtt.GB4XBee.Deadlines
import XBeeMqtt.GB4XBee.Handshake
import XBeeMqtt.GB4XBee.Sends

/-!
# The only dead end

`BEGIN_READ_APN` goes on to wait for an answer also when the driver did not take the
command, and nothing ever comes (`DeadEnd`).  From every other reachable state some calls
lead to `STANDBY`: whatever else was lost, refused or answered out of order before, the
machine is not stuck (`connected_of_reach`).

The device only answers what it was asked.  In the runs that are looked at this is said
of `AN` (`AnswersSent`); in the calls that lead to `STANDBY` there is one frame in a poll
at most, and it is the answer that the object waits for (`Solicited`).

`helpfulEnv` is such a poll.  It brings the machine closer (`distance`) in every state but
`NOT_CONNECTED`, where a request has to be published first, and those that have not seen
every notification yet (`Behind`), which have to catch up.
-/

namespace XBeeMqtt

open Transition

namespace GB4XBee

variable {r : GB4XBee} {env : Env} {frames : List Frame} {message : List UInt8}

/-- The driver has sent `AN`. -/
def ApnAsked (r : GB4XBee) : Prop := .commandSend .readApn 0 ∈ r.log

instance (r : GB4XBee) : Decidable r.ApnAsked := inferInstanceAs (Decidable (_ ∈ _))

/-- There are notifications that the state still has to look at. -/
def Behind (r : GB4XBee) : Prop := .awaitSocketId ≤ r.mState ∧ r.notifyCount ≠ r.gNotify.count

instance (r : GB4XBee) : Decidable r.Behind := inferInstanceAs (Decidable (_ ∧ _))

/-- What the device answers in a state that waits for it. -/
def answer (r : GB4XBee) : List Frame :=
  match r.mState with
  | .awaitReadApnResponse => [.apn [0x65, 0x6D]]
  | .awaitSocketId => [.notify r.sock 0xC0 0]
  | .awaitConnectResponse => [.notify r.sock 0xC2 0]
  | .awaitConnection => [.notify r.sock 0xCF 0]
  | _ => []

/-- A poll in which every call of the driver succeeds and every time has passed. -/
def helpfulEnv (r : GB4XBee) (frames : List Frame) (message : List UInt8) : Env where
  frames := frames
  millis := fun
    | .pollCommandModeGuard => commandModeGuardTime + 1 + r.guardTimeStart.toUInt32
    | .pollSocketCooldown => socketCooldownInterval + 1 + r.socketCooldownStartTime.toUInt32
    | .sending => sendTimeout + 1 + r.sendStartTime.toUInt32
    | _ => 0
  serial := if r.AwaitsResponse then okBytes ++ [0x0D] else []
  message := message

theorem elapsed_add (d : UInt32) (start : Int32) : elapsed (d + start.toUInt32) start = d :=
  UInt32.add_sub_cancel d start.toUInt32

theorem add_one_ne (x : UInt32) : x + 1 ≠ x := by
  intro heq
  have hzero := (UInt32.add_right_inj x).1 (heq.trans (UInt32.add_zero x).symm)
  exact absurd hzero (by decide)

/-- Someone who has seen every notification sees the next one. -/
theorem count_callback_ne (hcount : r.notifyCount = r.gNotify.count) {sockid : Int}
    {type message : UInt8} (hcounted : (Frame.notify sockid type message).counted = true) :
    (r.gNotify.callback sockid type message).count ≠ r.notifyCount := by
  rw [XBeeNotify.count_callback, if_pos hcounted, hcount]
  exact add_one_ne _

/-- The states of the TLS profile, which nothing enters. -/
def NoTls (s : State) : Prop := s ≠ .beginSetTlsProfile ∧ s ≠ .awaitTlsProfileResponse

theorem noTls_poll (h : NoTls r.mState) (env : Env) : NoTls (r.poll env).mState := by
  by_cases hlow : r.mState < .socketCooldownPeriod
  · have hle := (startupStep_step env hlow).mState
    rw [poll_startup hlow]
    exact ⟨fun hs => absurd hle (by rw [hs]; decide), fun hs => absurd hle (by rw [hs]; decide)⟩
  · rcases r.poll_cases env with ⟨hlow', _⟩ | ⟨_, hstep⟩
    · exact absurd hlow' hlow
    · generalize r.poll env = r' at hstep
      cases hstep with
      | stay => rwa [devTick_mState]
      | advance hadv => cases hadv <;> exact ⟨nofun, nofun⟩
      | reset => exact ⟨nofun, nofun⟩
      | create _ _ => exact ⟨nofun, nofun⟩
      | createFailed _ _ => exact ⟨nofun, nofun⟩

/-! ## The radio -/

theorem answered_helpfulEnv (r : GB4XBee) (message : List UInt8) :
    r.Answered (r.helpfulEnv r.answer message) := by
  refine ⟨fun _ => ?_, fun hawaits => ?_, fun _ => rfl, fun hs => ?_⟩
  · show commandModeGuardTime <
      elapsed (commandModeGuardTime + 1 + r.guardTimeStart.toUInt32) r.guardTimeStart
    rw [elapsed_add]
    decide
  · have hserial : (r.helpfulEnv r.answer message).serial = okBytes ++ [0x0D] := if_pos hawaits
    rw [hserial]
    exact ⟨Nat.le_refl 3, rfl⟩
  · have hanswer : r.answer = [.apn [0x65, 0x6D]] := by
      unfold answer
      rw [hs]
    rw [devTick_gotAccessPointName]
    simp [helpfulEnv, hanswer, Frame.isApn]

theorem helped_cooldown (hs : r.mState = .socketCooldownPeriod) :
    (r.poll (r.helpfulEnv frames message)).mState = .beginCreateSocket := by
  have hstate : (r.devTick frames).mState = .socketCooldownPeriod := by rw [devTick_mState, hs]
  have hover : (r.devTick frames).pollSocketCooldown (r.helpfulEnv frames message) = true := by
    have hstart : (r.devTick frames).socketCooldownStartTime = r.socketCooldownStartTime :=
      devTick_timer .socketCooldown r _
    unfold pollSocketCooldown
    rw [hstart]
    show decide (elapsed (socketCooldownInterval + 1 + r.socketCooldownStartTime.toUInt32)
      r.socketCooldownStartTime > socketCooldownInterval) = true
    rw [elapsed_add]
    decide
  rw [poll_main (by rw [hs]; decide)]
  show ((r.devTick frames).mainStep (r.helpfulEnv frames message)).mState = _
  simp only [mainStep, hstate, hover]
  rfl

/-- A new socket starts with a new counter. -/
theorem helped_beginCreateSocket (hs : r.mState = .beginCreateSocket) :
    (r.poll (r.helpfulEnv frames message)).mState = .awaitSocketId ∧
      ¬(r.poll (r.helpfulEnv frames message)).Behind := by
  have hstate : (r.devTick frames).mState = .beginCreateSocket := by rw [devTick_mState, hs]
  have hpoll : r.poll (r.helpfulEnv frames message) =
      (r.devTick frames).mainStep (r.helpfulEnv frames message) :=
    poll_main (by rw [hs]; decide)
  rw [hpoll]
  simp only [mainStep, hstate, sendSocketCreate]
  exact ⟨rfl, fun hbehind => hbehind.2 rfl⟩

theorem helped_awaitSocketId (hs : r.mState = .awaitSocketId)
    (hcount : r.notifyCount = r.gNotify.count) :
    (r.poll (r.helpfulEnv r.answer message)).mState = .socketReady := by
  have hanswer : r.answer = [.notify r.sock 0xC0 0] := by
    unfold answer
    rw [hs]
  rw [poll_socketReady_iff hs, hanswer]
  exact ⟨@count_callback_ne r hcount r.sock 0xC0 0 rfl, rfl, rfl⟩

/-- A radio in a connect state goes on. -/
theorem helped_awaitConnect (hs : r.mState = .awaitConnectResponse ∨ r.mState = .awaitConnection)
    (hcount : r.notifyCount = r.gNotify.count) :
    (r.poll (r.helpfulEnv r.answer message)).mState = nextState r.mState := by
  have hat : At r r.mState r.notifyCount r.connectStartTime r.gNotify := ⟨rfl, rfl, rfl, rfl⟩
  rcases hs with hs | hs
  · have hanswer : r.answer = [.notify r.sock 0xC2 0] := by
      unfold answer
      rw [hs]
    rw [hanswer]
    refine (hat.goesOn (r.helpfulEnv [.notify r.sock 0xC2 0] message) (Or.inl hs)
      (@count_callback_ne r hcount r.sock 0xC2 0 rfl) ?_).mState
    exact Or.inl ⟨hs, rfl, rfl⟩
  · have hanswer : r.answer = [.notify r.sock 0xCF 0] := by
      unfold answer
      rw [hs]
    rw [hanswer]
    refine (hat.goesOn (r.helpfulEnv [.notify r.sock 0xCF 0] message) (Or.inr hs)
      (@count_callback_ne r hcount r.sock 0xCF 0 rfl) ?_).mState
    exact Or.inr ⟨hs, rfl, rfl⟩

/-- Without a new notification a connected radio stays connected. -/
theorem helped_connected (hs : r.mState = .connected ∨ r.mState = .sending)
    (hcount : r.notifyCount = r.gNotify.count) (hquiet : r.gNotify.tick frames = r.gNotify) :
    (r.poll (r.helpfulEnv frames message)).mState = .connected := by
  have hconnected : ∀ t : GB4XBee, t.gNotify.count = t.notifyCount → t.mState = .connected →
      (t.connectedStep (r.helpfulEnv frames message)).mState = .connected := by
    intro t heq ht
    unfold connectedStep
    rw [if_pos heq, ht]
  have hsame : (r.devTick frames).gNotify.count = (r.devTick frames).notifyCount := by
    rw [devTick_gNotify, devTick_notifyCount, hquiet, hcount]
  have hpoll : r.poll (r.helpfulEnv frames message) =
      (r.devTick frames).mainStep (r.helpfulEnv frames message) :=
    poll_main (by rcases hs with hs | hs <;> rw [hs] <;> decide)
  rw [hpoll]
  rcases hs with hs | hs
  · have hstate : (r.devTick frames).mState = .connected := by rw [devTick_mState, hs]
    rw [mainStep_connected hstate]
    exact hconnected _ hsame hstate
  · have hover : sendTimeout < elapsed ((r.helpfulEnv frames message).millis .sending)
        (r.devTick frames).sendStartTime := by
      rw [devTick_sendStartTime]
      show sendTimeout < elapsed (sendTimeout + 1 + r.sendStartTime.toUInt32) r.sendStartTime
      rw [elapsed_add]
      decide
    rw [mainStep_sending (by rw [devTick_mState, hs]), if_pos hover]
    exact hconnected _ hsame rfl

/-! ## The answer to `AN` -/

/-- Only an answer to `AN` sets the flag. -/
theorem StartupMove.gotAccessPointName {r' : GB4XBee} (h : StartupMove r env r')
    (hgot : r'.gotAccessPointName = true) :
    r.gotAccessPointName = true ∨ env.frames.any Frame.isApn = true := by
  rw [← Bool.or_eq_true, ← devTick_gotAccessPointName]
  have hold : r.gotAccessPointName = true → (r.devTick env.frames).gotAccessPointName = true := by
    intro hgot
    rw [devTick_gotAccessPointName, hgot]
    rfl
  cases h with
  | queryFailed _ _ => exact hgot
  | queried _ _ => exact hgot
  | apnWaits _ _ => exact hgot
  | apnReceived _ _ _ => exact hgot
  | _ => exact hold hgot

theorem not_apnAsked_tick {log : List Event} (h : .commandSend .readApn 0 ∉ log)
    (frames : List Frame) : .commandSend .readApn 0 ∉ tickEvents frames ++ log := by
  rw [List.mem_append, not_or]
  refine ⟨fun hmem => ?_, h⟩
  unfold tickEvents at hmem
  obtain ⟨frame, _, hframe⟩ := List.mem_filterMap.1 (List.mem_reverse.1 hmem)
  cases frame <;> simp [Frame.event?] at hframe

/-- A radio that waits for the answer goes on waiting without it. -/
theorem startupStep_unasked (hs : r.mState = .awaitReadApnResponse) (hasked : ¬r.ApnAsked)
    (hgot : (r.devTick env.frames).gotAccessPointName = false) :
    (r.startupStep env).mState = .awaitReadApnResponse ∧ ¬(r.startupStep env).ApnAsked := by
  have hstep : r.startupStep env = r.devTick env.frames := by
    rcases r.pollAPNStatus_cases env with ⟨_, heq⟩ | ⟨htrue, _⟩
    · simp only [startupStep, hs, heq]
    · exact absurd (hgot.symm.trans htrue) Bool.false_ne_true
  rw [hstep]
  refine ⟨by rw [devTick_mState, hs], ?_⟩
  unfold ApnAsked
  rw [devTick_log]
  exact not_apnAsked_tick hasked _

end GB4XBee

/-- What the broker library and the broker have to be able to do: serialise some CONNECT,
and answer with a payload that reads as an accepting CONNACK. -/
structure Paho.CanConnect (paho : Paho) : Prop where
  connect : ∃ id name pwd, (paho.serializeConnect GB4MQTT.connectPacketSize
    { clientID := id
      username := name
      password := pwd
      keepAliveInterval := GB4MQTT.networkTimeoutIntervalSeconds
      cleansession := 1 }).1 ≠ 0
  connack : ∃ message payload, payload.length ≤ GB4MQTT.maxPacketSize ∧
    (paho.packetRead message payload payload.length).1 = .connack ∧
    paho.deserializeConnack (paho.packetRead message payload payload.length).2 payload.length =
      some GB4MQTT.connectionAccepted

namespace GB4MQTT

open GB4XBee (helpfulEnv NoTls)

variable {m m' : GB4MQTT} {paho : Paho} {env : Env} {message payload : List UInt8}

/-- The device answers `AN` only after the driver has sent it. -/
def AnswersSent (m : GB4MQTT) : Call → Prop
  | .poll env => env.frames.any Frame.isApn = true → m.radio.ApnAsked
  | _ => True

instance (m : GB4MQTT) : DecidablePred m.AnswersSent
  | .poll _ => inferInstanceAs (Decidable (_ → m.radio.ApnAsked))
  | .publish .. | .setClientID _ | .setPassword _ | .setClientName _ | .setAddress _
  | .setPort _ | .startConnect => .isTrue trivial

/-- The frame answers what the object waits for.  The radio only waits for the answer to a
command that was accepted, but for `AN`. -/
def Answers (m : GB4MQTT) : Frame → Prop
  | .apn _ => m.radio.mState = .awaitReadApnResponse ∧ m.radio.ApnAsked
  | .notify _ type _ => m.radio.mState = .awaitSocketId ∧ type = 0xC0 ∨
      m.radio.mState = .awaitConnectResponse ∧ type = 0xC2 ∨
      m.radio.mState = .awaitConnection ∧ type = 0xCF
  | .receive _ _ => m.state = .awaitConnack

/-- The device says nothing but one answer. -/
def Solicited (m : GB4MQTT) : Call → Prop
  | .poll env => env.frames.length ≤ 1 ∧ (∀ frame ∈ env.frames, m.Answers frame) ∧
      (env.serial ≠ [] → m.radio.AwaitsResponse)
  | _ => True

/-- The radio waits for the answer to an `AN` that was not sent. -/
def DeadEnd (m : GB4MQTT) : Prop :=
  m.radio.mState = .awaitReadApnResponse ∧ ¬m.radio.ApnAsked

instance (m : GB4MQTT) : Decidable m.DeadEnd := inferInstanceAs (Decidable (_ ∧ _))

theorem Solicited.answersSent {c : Call} (h : m.Solicited c) : m.AnswersSent c := by
  cases c with
  | poll _ =>
    intro hany
    obtain ⟨frame, hframe, hapn⟩ := List.any_eq_true.1 hany
    have hanswers := h.2.1 frame hframe
    cases frame with
    | apn value => exact hanswers.2
    | _ => exact absurd hapn Bool.false_ne_true
  | _ => trivial

/-! ## The dead end -/

/-- Before the startup is over, an answer to `AN` was asked for. -/
def ApnTold (m : GB4MQTT) : Prop :=
  m.radio.mState < .socketCooldownPeriod → m.radio.gotAccessPointName = true → m.radio.ApnAsked

theorem ApnAsked.poll (h : m.radio.ApnAsked) (paho : Paho) (env : Env) :
    (m.poll paho env).2.radio.ApnAsked := by
  obtain ⟨new, hlog, _⟩ := m.poll_log paho env
  unfold GB4XBee.ApnAsked
  rw [hlog]
  exact List.mem_append_right new h

theorem apnTold_of_reach (h : ((system paho).restrict AnswersSent).Reach m) : m.ApnTold := by
  refine h.invariant ApnTold (fun m hbegun => ?_) fun m c m' _ htold hstep => ?_
  · obtain ⟨mem, args, rfl⟩ := hbegun.eq
    exact fun _ hgot => absurd hgot Bool.false_ne_true
  · obtain ⟨⟨_, rfl⟩, hanswers⟩ := hstep
    cases c with
    | poll env =>
      intro hlow hgot
      have hbefore := lt_of_poll_lt hlow
      have hgot : (m.radio.startupStep env).gotAccessPointName = true := by
        rwa [← poll_startupStep hbefore]
      refine ApnAsked.poll ?_ paho env
      rcases (m.radio.startupStep_move env).gotAccessPointName hgot with hold | hany
      · exact htold hbefore hold
      · exact hanswers hany
    | publish => exact fun hlow hgot => List.mem_cons_of_mem _ (htold hlow hgot)
    | _ => exact htold

/-- Nothing leads out of the dead end. -/
theorem DeadEnd.call (h : m.DeadEnd) (htold : m.ApnTold) {c : Call} (hanswers : m.AnswersSent c) :
    (call paho m c).DeadEnd := by
  obtain ⟨hs, hasked⟩ := h
  cases c with
  | poll env =>
    have hlow : m.radio.mState < .socketCooldownPeriod := by rw [hs]; decide
    have hgot : (m.radio.devTick env.frames).gotAccessPointName = false := by
      rw [GB4XBee.devTick_gotAccessPointName, Bool.or_eq_false_iff]
      exact ⟨(Bool.not_eq_true _).mp fun hold => hasked (htold hlow hold),
        (Bool.not_eq_true _).mp fun hany => hasked (hanswers hany)⟩
    show (m.poll paho env).2.DeadEnd
    unfold DeadEnd
    rw [poll_startupStep hlow]
    exact GB4XBee.startupStep_unasked hs hasked hgot
  | publish => exact ⟨hs, fun hmem => hasked ((List.mem_cons.1 hmem).resolve_left nofun)⟩
  | _ => exact ⟨hs, hasked⟩

theorem DeadEnd.replay (h : m.DeadEnd) (hreach : ((system paho).restrict AnswersSent).Reach m)
    {calls : List Call} (hacc : Accepted AnswersSent (GB4MQTT.call paho) m calls) :
    (Transition.replay (GB4MQTT.call paho) m calls).DeadEnd ∧
      (Transition.replay (GB4MQTT.call paho) m calls).pollReturn ≠ .connected := by
  induction calls generalizing m with
  | nil =>
    refine ⟨h, fun hconnected => ?_⟩
    have hstate := (Inv.of_reach hreach.of_restrict).notConnected_of_lt
      (show m.radio.mState < .socketReady by rw [h.1]; decide)
    have hreturn : m.pollReturn = .radioReady := if_pos hstate
    exact absurd (hreturn.symm.trans hconnected) (by decide)
  | cons c calls ih =>
    exact ih (h.call (apnTold_of_reach hreach) hacc.1) (.step hreach ⟨⟨trivial, rfl⟩, hacc.1⟩)
      hacc.2

/-- A poll in which the driver takes `AN` does not lead to the dead end. -/
theorem not_deadEnd_poll (h : ¬m.DeadEnd)
    (htakes : m.radio.mState = .beginReadApn → GB4XBee.Takes env .readApn) :
    ¬(m.poll paho env).2.DeadEnd := by
  rintro ⟨hs, hasked⟩
  have hlow : m.radio.mState < .socketCooldownPeriod := lt_of_poll_lt (by rw [hs]; decide)
  have hradio : (m.poll paho env).2.radio = m.radio.startupStep env := poll_startupStep hlow
  have hwas : ¬m.radio.ApnAsked := fun hwas => hasked (ApnAsked.poll hwas paho env)
  have hfrom : m.radio.mState = .awaitReadApnResponse ∨ m.radio.mState = .beginReadApn := by
    rw [hradio] at hs
    have hwrites := m.radio.startupStep_writes env
    generalize m.radio.startupStep env = r at hwrites hs
    cases hwrites with
    | @mk _ s _ _ _ _ hnext _ =>
      have hs : s = .awaitReadApnResponse := hs
      rw [hs] at hnext
      exact hnext.imp Eq.symm GB4XBee.eq_of_mem_startupNext
  rcases hfrom with hfrom | hfrom
  · exact h ⟨hfrom, hwas⟩
  · refine hasked ?_
    unfold GB4XBee.ApnAsked
    rw [hradio, GB4XBee.startupStep_beginReadApn hfrom]
    exact List.mem_append_left _ (GB4XBee.mem_commandEvents.2 (htakes hfrom))

/-- The dead end belongs to the startup. -/
theorem not_deadEnd_of_started (h : .socketCooldownPeriod ≤ m.radio.mState) : ¬m.DeadEnd := by
  rintro ⟨hs, _⟩
  rw [hs] at h
  exact absurd h (by decide)

/-- How far a session state is on the way to `STANDBY`. -/
def State.place : State → Nat
  | .connectingSocket => 1
  | .connectMqtt => 2
  | .awaitConnack => 3
  | .beginStandby | .standby => 4
  | _ => 0

/-- How far `STANDBY` is at most. -/
def distance (m : GB4MQTT) : Nat :=
  (24 - m.radio.mState.ctorIdx) + 2 * (4 - m.state.place)

theorem noTls_of_reach (h : (system paho).Reach m) :
    NoTls m.radio.mState := by
  refine h.invariant (fun m => NoTls m.radio.mState) (fun m hbegun => ?_)
    fun m c m' _ hold hstep => ?_
  · obtain ⟨mem, args, rfl⟩ := hbegun.eq
    exact ⟨nofun, nofun⟩
  · obtain ⟨_, rfl⟩ := hstep
    cases c with
    | poll env =>
      have hradio := GB4XBee.noTls_poll hold env
      show NoTls (m.poll paho env).2.radio.mState
      rcases m.poll_cases paho env with ⟨_, heq⟩ | ⟨_, hstep⟩
      · rw [heq]
        exact hradio
      · rcases hstep.radio_mState with hs | hs | hs
        · rw [hs]
          exact hradio
        · rw [hs]
          exact ⟨by decide, by decide⟩
        · rw [hs]
          exact ⟨by decide, by decide⟩
    | _ => exact hold

/-- A payload that fits comes out of the mailbox as it is. -/
theorem bytesRead_callback {g : XBeeReceive} {sock : Int} (hlen : payload.length ≤ maxPacketSize)
    (hmail : m.radio.gReceive = g.callback sock payload) : m.bytesRead = payload := by
  have hsize : maxPacketSize = 128 := rfl
  have hmax : XBeeReceive.messagePayloadSize = 300 := rfl
  have hfits : ¬payload.length > XBeeReceive.messagePayloadSize := by omega
  have hhas : m.radio.gReceive.mPayloadLen = payload.length ∧
      m.radio.gReceive.mPayload.take payload.length = payload := by
    rw [hmail]
    unfold XBeeReceive.callback XBeeReceive.write
    dsimp only
    rw [if_neg hfits]
    exact ⟨rfl, by simp⟩
  unfold bytesRead XBeeReceive.read
  dsimp only
  rw [hhas.1]
  split
  · exact hhas.2
  · rw [show maxPacketSize = payload.length by omega]
    exact hhas.2

/-- How far it is, when the notifications that were not seen yet may take everything back. -/
def rank (m : GB4MQTT) : Nat := m.distance + if m.radio.Behind then 100 else 0

/-- A call that leads closer, and does not leave more behind. -/
def Closer (m m' : GB4MQTT) : Prop :=
  m'.distance < m.distance ∧ (m'.radio.Behind → m.radio.Behind)

theorem distance_le (m : GB4MQTT) : m.distance ≤ 32 := by
  unfold distance
  omega

/-- Calls that lead closer, and those that catch up. -/
theorem rank_lt (h : m.Closer m' ∨ m.radio.Behind ∧ ¬m'.radio.Behind) : m'.rank < m.rank := by
  have hle := m'.distance_le
  unfold rank
  rcases h with ⟨hlt, hbehind⟩ | ⟨hbehind, hnot⟩
  · by_cases hnew : m'.radio.Behind
    · rw [if_pos hnew, if_pos (hbehind hnew)]
      omega
    · rw [if_neg hnew]
      omega
  · rw [if_pos hbehind, if_neg hnot]
    omega

/-- The switch does not look at the notifications. -/
theorem SwitchStep.notify (h : SwitchStep m paho env m') :
    m'.radio.notifyCount = m.radio.notifyCount ∧ m'.radio.gNotify = m.radio.gNotify := by
  have hdispatch : ∀ m : GB4MQTT,
      (m.dispatchIncomming paho env).2.radio.notifyCount = m.radio.notifyCount ∧
        (m.dispatchIncomming paho env).2.radio.gNotify = m.radio.gNotify := by
    intro m
    rcases m.dispatchIncomming_cases paho env with ⟨_, heq⟩ | ⟨_, _, _, heq⟩ <;> rw [heq]
    · exact ⟨rfl, rfl⟩
    · exact ⟨rfl, rfl⟩
  have hhandled : ∀ {b : Bool} {m m' : GB4MQTT}, Handled m paho env b m' →
      m'.radio.notifyCount = m.radio.notifyCount ∧ m'.radio.gNotify = m.radio.gNotify := by
    intro b m m' h
    cases h with
    | acknowledgedDisconnect _ _ _ _ =>
      obtain ⟨s, start, result, heq⟩ := m.finished.sendDisconnect_eq env
      rw [heq]
      exact ⟨rfl, rfl⟩
    | timeoutDisconnect _ _ _ _ _ =>
      obtain ⟨s, start, result, heq⟩ := m.sendDisconnect_eq env
      rw [heq]
      exact ⟨rfl, rfl⟩
    | _ => exact ⟨rfl, rfl⟩
  cases h with
  | listening _ _ => exact hdispatch m
  | accepted _ _ _ => exact hdispatch m
  | rejected _ => exact hdispatch m
  | served _ hserved =>
    obtain ⟨hcount, hslot⟩ := hhandled hserved
    obtain ⟨hcount', hslot'⟩ := hdispatch { m with state := .standby }
    exact ⟨hcount.trans hcount', hslot.trans hslot'⟩
  | servedDrop _ hserved =>
    obtain ⟨hcount, hslot⟩ := hhandled hserved
    obtain ⟨hcount', hslot'⟩ := hdispatch { m with state := .standby }
    exact ⟨hcount.trans hcount', hslot.trans hslot'⟩
  | _ => exact ⟨rfl, rfl⟩

/-- A poll leaves the notifications to its radio. -/
theorem poll_notify (m : GB4MQTT) (paho : Paho) (env : Env) :
    (m.poll paho env).2.radio.notifyCount = (m.radio.poll env).notifyCount ∧
      (m.poll paho env).2.radio.gNotify = (m.radio.poll env).gNotify := by
  rcases m.poll_cases paho env with ⟨_, heq⟩ | ⟨_, hstep⟩
  · rw [heq]
    exact ⟨rfl, rfl⟩
  · exact hstep.notify

theorem not_behind_of_readsCount (h : m.radio.ReadsCount) (paho : Paho) (env : Env) :
    ¬(m.poll paho env).2.radio.Behind := by
  obtain ⟨hcount, hslot⟩ := m.poll_notify paho env
  rintro ⟨_, hne⟩
  rw [hcount, hslot] at hne
  exact hne (h.poll env)

/-! ## One state after the other -/

/-- `NOT_CONNECTED` starts to connect when it has an address and a request. -/
theorem mainStep_notConnected (paho : Paho) (hs : m.state = .notConnected)
    (hok : env.sockConnect = 0) :
    (m.mainStep paho env).radio.mState = m.radio.mState ∧
      (m.address ≠ none → m.mPublishRequest.active = true →
        (m.mainStep paho env).state = .connectingSocket) := by
  simp only [mainStep, hs]
  split
  · rename_i hidle
    refine ⟨rfl, fun haddress hactive => ?_⟩
    rcases hidle with hnone | hinactive
    · exact absurd hnone haddress
    · exact absurd (hinactive.symm.trans hactive) Bool.false_ne_true
  · rcases m.radio.connect_cases env with ⟨_, heq⟩ | ⟨hfail, _⟩
    · rw [heq]
      exact ⟨rfl, fun _ _ => rfl⟩
    · exact absurd hok hfail

/-- Without a socket the answer leads the radio on. -/
theorem radio_closer {r : GB4XBee} (henv : env = r.helpfulEnv r.answer message)
    (hlt : r.mState < .socketReady) (htls : NoTls r.mState) (hseen : ¬r.Behind) :
    r.mState < (r.poll env).mState ∧ ¬(r.poll env).Behind := by
  have hbelow : ∀ {r' : GB4XBee}, r'.mState < .awaitSocketId → ¬r'.Behind :=
    fun hlow hbehind => GB4XBee.State.not_lt.2 hbehind.1 hlow
  by_cases hlow : r.mState < .socketCooldownPeriod
  · have hmove := GB4XBee.startupStep_answered hlow (r.answered_helpfulEnv message)
    have hstep := GB4XBee.startupStep_step env hlow
    rw [← henv] at hmove
    rw [GB4XBee.poll_startup hlow]
    exact ⟨GB4XBee.lt_of_mem_startupNext hmove,
      hbelow (Nat.lt_of_le_of_lt hstep.mState (by decide))⟩
  · cases hs : r.mState <;> rw [hs] at hlt hlow htls
    case socketCooldownPeriod =>
      have hnext := @GB4XBee.helped_cooldown r r.answer message hs
      rw [← henv] at hnext
      exact ⟨by rw [hnext]; decide, hbelow (by rw [hnext]; decide)⟩
    case beginCreateSocket =>
      obtain ⟨hnext, hnew⟩ := @GB4XBee.helped_beginCreateSocket r r.answer message hs
      rw [← henv] at hnext hnew
      exact ⟨by rw [hnext]; decide, hnew⟩
    case awaitSocketId =>
      have hcount : r.notifyCount = r.gNotify.count :=
        Decidable.byContradiction fun hne => hseen ⟨by rw [hs]; decide, hne⟩
      have hnext := @GB4XBee.helped_awaitSocketId r message hs hcount
      rw [← henv] at hnext
      exact ⟨by rw [hnext]; decide, fun hbehind => hbehind.2 (GB4XBee.ReadsCount.poll (Or.inl hs) _)⟩
    case beginSetTlsProfile => exact absurd rfl htls.1
    case awaitTlsProfileResponse => exact absurd rfl htls.2
    all_goals first | exact absurd hlt (by decide) | exact absurd (by decide) hlow

theorem closer_below (henv : env = m.radio.helpfulEnv m.radio.answer message) (hinv : m.Inv)
    (hlt : m.radio.mState < .socketReady) (htls : NoTls m.radio.mState)
    (hseen : ¬m.radio.Behind) : m.Closer (m.poll paho env).2 := by
  have hstate := hinv.notConnected_of_lt hlt
  obtain ⟨hgrows, hnew⟩ := radio_closer henv hlt htls hseen
  have hradio : (m.poll paho env).2.radio.mState = (m.radio.poll env).mState := by
    rcases m.poll_cases paho env with ⟨_, heq⟩ | ⟨hge, _⟩
    · rw [heq]
      rfl
    · rw [poll_eq_mainStep hge]
      exact (mainStep_notConnected paho (show (m.pollRadio env).state = _ from hstate)
        (by rw [henv]; rfl)).1
  obtain ⟨hcount, hslot⟩ := m.poll_notify paho env
  constructor
  · have hplace : m.state.place = 0 := by rw [hstate]; rfl
    have hgrows : m.radio.mState.ctorIdx < (m.radio.poll env).mState.ctorIdx := hgrows
    have hlt : m.radio.mState.ctorIdx < 19 := hlt
    unfold distance
    rw [hradio, hplace]
    omega
  · rintro ⟨hhigh, hne⟩
    rw [hcount, hslot] at hne
    rw [hradio] at hhigh
    exact absurd ⟨hhigh, hne⟩ hnew

/-- A session that is not connected has to be given a request first. -/
def requestCalls : List Call :=
  [.setAddress (some []), .publish [] 0 [] 0 0 false 0, .poll {}]

theorem closer_notConnected (paho : Paho) (hs : m.state = .notConnected)
    (hr : m.radio.mState = .socketReady) (hcip : m.radio.connectInProgress = false) :
    m.Closer (replay (call paho) m requestCalls) := by
  generalize hm₁ : call paho (call paho m (.setAddress (some [])))
    (.publish [] 0 [] 0 0 false 0) = m₁
  have hs₁ : m₁.state = .notConnected := by rw [← hm₁]; exact hs
  have hr₁ : m₁.radio.mState = .socketReady := by rw [← hm₁]; exact hr
  have hcip₁ : m₁.radio.connectInProgress = false := by rw [← hm₁]; exact hcip
  have haddress : m₁.address ≠ none := by rw [← hm₁]; exact Option.some_ne_none _
  have hactive : m₁.mPublishRequest.active = true := by rw [← hm₁]; rfl
  have hradio : m₁.radio.poll {} = m₁.radio := by
    have hstate : (m₁.radio.devTick []).mState = .socketReady := hr₁
    rw [GB4XBee.poll_main (by rw [hr₁]; decide), GB4XBee.mainStep_socketReady hstate]
    exact if_pos hcip₁
  have hstate : (m₁.pollRadio {}).state = .notConnected := hs₁
  obtain ⟨hsame, hnext⟩ := @mainStep_notConnected (m₁.pollRadio {}) {} paho hstate rfl
  have hpoll : (m₁.poll paho {}).2 = (m₁.pollRadio {}).mainStep paho {} :=
    poll_eq_mainStep (by rw [hradio, hr₁]; decide)
  obtain ⟨hcount, hslot⟩ := m₁.poll_notify paho {}
  rw [hradio] at hcount hslot
  show m.Closer (replay (call paho) (call paho (call paho m (.setAddress (some [])))
    (.publish [] 0 [] 0 0 false 0)) [.poll {}])
  rw [hm₁]
  show m.Closer (m₁.poll paho {}).2
  constructor
  · unfold distance
    rw [hpoll, hsame, hnext haddress hactive]
    show 24 - (m₁.radio.poll {}).mState.ctorIdx + 6 < _
    rw [hradio, hr₁, hs, hr]
    decide
  · rintro ⟨_, hne⟩
    rw [hcount, hslot, ← hm₁] at hne
    exact ⟨by rw [hr]; decide, hne⟩

theorem closer_connecting (henv : env = m.radio.helpfulEnv m.radio.answer message)
    (hs : m.state = .connectingSocket) (hcip : m.radio.connectInProgress = true)
    (hr : m.radio.mState = .socketReady ∨ m.radio.mState = .awaitConnectResponse ∨
      m.radio.mState = .awaitConnection)
    (hseen : m.radio.Behind → m.radio.mState = .socketReady) :
    m.Closer (m.poll paho env).2 := by
  have hcounted : m.radio.mState ≠ .socketReady → m.radio.notifyCount = m.radio.gNotify.count := by
    intro hne
    refine Decidable.byContradiction fun hcount => hne (hseen ⟨?_, hcount⟩)
    rcases hr with hr | hr | hr <;> rw [hr] <;> decide
  have hnext : m.radio.mState = .socketReady ∧
        (m.radio.poll env).mState = .awaitConnectResponse ∨
      m.radio.mState = .awaitConnectResponse ∧ (m.radio.poll env).mState = .awaitConnection ∨
      m.radio.mState = .awaitConnection ∧ (m.radio.poll env).mState = .connected := by
    rcases hr with hr | hr | hr
    · exact Or.inl ⟨hr, (GB4XBee.At.ready _ ⟨hr, rfl, rfl, rfl⟩ hcip).mState⟩
    · have hcount := hcounted (by rw [hr]; decide)
      refine Or.inr (Or.inl ⟨hr, ?_⟩)
      rw [henv, GB4XBee.helped_awaitConnect (Or.inl hr) hcount, hr]
      rfl
    · have hcount := hcounted (by rw [hr]; decide)
      refine Or.inr (Or.inr ⟨hr, ?_⟩)
      rw [henv, GB4XBee.helped_awaitConnect (Or.inr hr) hcount, hr]
      rfl
  obtain ⟨hwait, hconn⟩ := @mainStep_connectingSocket (m.pollRadio env) paho env hs
  constructor
  · unfold distance
    rcases hnext with ⟨hr, hr'⟩ | ⟨hr, hr'⟩ | ⟨hr, hr'⟩
    · rw [poll_eq_mainStep (by rw [hr']; decide), hwait (Or.inr hr')]
      show 24 - (m.radio.poll env).mState.ctorIdx + 2 * (4 - m.state.place) < _
      rw [hr', hr]
      exact Nat.add_lt_add_right (by decide) _
    · rw [poll_eq_mainStep (by rw [hr']; decide), hwait (Or.inl hr')]
      show 24 - (m.radio.poll env).mState.ctorIdx + 2 * (4 - m.state.place) < _
      rw [hr', hr]
      exact Nat.add_lt_add_right (by decide) _
    · rw [poll_eq_mainStep (by rw [hr']; decide), hconn hr']
      show 24 - (m.radio.poll env).mState.ctorIdx + 4 < _
      rw [hr', hr, hs]
      decide
  · intro hbehind
    by_cases hready : m.radio.mState = .socketReady
    · -- nothing was looked at, and nothing came
      have hat := GB4XBee.At.ready env ⟨hready, rfl, rfl, rfl⟩ hcip
      have hquiet : m.radio.gNotify.tick env.frames = m.radio.gNotify := by
        have hanswer : m.radio.answer = [] := by
          unfold GB4XBee.answer
          rw [hready]
        rw [henv, hanswer]
        rfl
      obtain ⟨hcount, hslot⟩ := m.poll_notify paho env
      have hne := hbehind.2
      rw [hcount, hslot, hat.notifyCount, hat.gNotify, hquiet] at hne
      exact ⟨by rw [hready]; decide, hne⟩
    · refine absurd hbehind (not_behind_of_readsCount ?_ paho env)
      rcases hr with hr | hr | hr
      · exact absurd hr hready
      · exact Or.inr (Or.inl hr)
      · exact Or.inr (Or.inr (Or.inl hr))

/-- The session may need other credentials for its CONNECT. -/
def credentialCalls (id name pwd : List UInt8) (env : Env) : List Call :=
  [.setClientID id, .setClientName name, .setPassword pwd, .poll env]

theorem closer_connectMqtt {id name pwd : List UInt8}
    (hconnect : (paho.serializeConnect connectPacketSize
      { clientID := id
        username := name
        password := pwd
        keepAliveInterval := networkTimeoutIntervalSeconds
        cleansession := 1 }).1 ≠ 0)
    (henv : env = m.radio.helpfulEnv [] []) (hs : m.state = .connectMqtt)
    (hr : m.radio.mState = .connected ∨ m.radio.mState = .sending)
    (hcount : m.radio.notifyCount = m.radio.gNotify.count) :
    m.Closer (replay (call paho) m (credentialCalls id name pwd env)) := by
  generalize hm₁ : call paho (call paho (call paho m (.setClientID id)) (.setClientName name))
    (.setPassword pwd) = m₁
  have hm₁radio : m₁.radio = m.radio := by rw [← hm₁]; rfl
  have hradio : (m₁.radio.poll env).mState = .connected := by
    rw [hm₁radio, henv]
    exact GB4XBee.helped_connected hr hcount rfl
  have hstate : (m₁.pollRadio env).state = .connectMqtt := by rw [← hm₁]; exact hs
  have hpacket : ((m₁.pollRadio env).connectPacket paho).1 ≠ 0 := by rw [← hm₁]; exact hconnect
  have htakes : ¬(m₁.pollRadio env).Refuses env :=
    not_refuses_iff.2 ⟨hradio, by rw [henv]; rfl⟩
  have hsent : (m₁.pollRadio env).mainStep paho env =
      { (m₁.pollRadio env).connectSent paho env with state := .awaitConnack } := by
    simp only [mainStep, hstate]
    rcases (m₁.pollRadio env).sendConnectRequest_cases paho env with
      ⟨hzero, _⟩ | ⟨_, _, heq⟩ | ⟨_, href, _⟩
    · exact absurd hzero hpacket
    · rw [heq]
    · exact absurd href htakes
  show m.Closer (replay (call paho) (call paho (call paho (call paho m (.setClientID id))
    (.setClientName name)) (.setPassword pwd)) [.poll env])
  rw [hm₁]
  show m.Closer (m₁.poll paho env).2
  constructor
  · unfold distance
    rw [poll_eq_mainStep (by rw [hradio]; decide), hsent, hs]
    show 3 < 24 - m.radio.mState.ctorIdx + 4
    omega
  · intro hbehind
    refine absurd hbehind (not_behind_of_readsCount ?_ paho env)
    unfold GB4XBee.ReadsCount
    rw [hm₁radio]
    exact Or.inr (Or.inr (Or.inr hr))

/-- The payload that came last is read. -/
theorem closer_awaitConnack {sock : Int} (hlen : payload.length ≤ maxPacketSize)
    (htype : (paho.packetRead message payload payload.length).1 = .connack)
    (haccept : paho.deserializeConnack (paho.packetRead message payload payload.length).2
      payload.length = some connectionAccepted)
    (henv : env = m.radio.helpfulEnv [.receive sock payload] message)
    (hs : m.state = .awaitConnack)
    (hr : m.radio.mState = .connected ∨ m.radio.mState = .sending)
    (hcount : m.radio.notifyCount = m.radio.gNotify.count) : m.Closer (m.poll paho env).2 := by
  have hradio : (m.radio.poll env).mState = .connected := by
    rw [henv]
    exact GB4XBee.helped_connected hr hcount rfl
  have hge : .socketReady ≤ (m.radio.poll env).mState := by rw [hradio]; decide
  have hstate : (m.pollRadio env).state = .awaitConnack := hs
  have hmail : (m.pollRadio env).radio.gReceive = m.radio.gReceive.callback sock payload := by
    have htick : (m.pollRadio env).radio.gReceive = m.radio.gReceive.tick env.frames :=
      (GB4XBee.poll_ticked hge).2
    rw [htick, henv]
    rfl
  have hpending : (m.pollRadio env).radio.gReceive.mPending = true := by rw [hmail]; rfl
  have hbytes := bytesRead_callback hlen hmail
  have hread : (m.pollRadio env).readIncoming paho env = {
      type := (paho.packetRead message payload payload.length).1
      message := (paho.packetRead message payload payload.length).2
      messageLen := payload.length } := by
    have hnone : payload ++ env.payload.drop payload.length = payload := by
      rw [henv]
      show payload ++ List.drop _ [] = payload
      rw [List.drop_nil, List.append_nil]
    have hmessage : env.message = message := by rw [henv]; rfl
    unfold readIncoming readBytes
    rw [hbytes, hnone, hmessage]
  have hgot : dispatchStatus paho env ((m.pollRadio env).readIncoming paho env) =
      .gotConnack := by
    rw [hread]
    simp only [dispatchStatus, htype]
    exact checkConnack_eq_gotConnack.2 haccept
  obtain ⟨hsnd, hiff, _⟩ := (m.pollRadio env).pollConnackStatus_cases paho env
  have hstatus : ((m.pollRadio env).pollConnackStatus paho env).1 = .gotConnack := by
    rw [hiff]
    rcases (m.pollRadio env).dispatchIncomming_cases paho env with ⟨hp, _⟩ | ⟨_, _, _, heq⟩
    · exact absurd (hp.symm.trans hpending) Bool.false_ne_true
    · rw [heq]
      exact hgot
  have hstep : (m.pollRadio env).mainStep paho env =
      { ((m.pollRadio env).dispatchIncomming paho env).2 with state := .beginStandby } := by
    simp only [mainStep, hstate, hstatus, hsnd]
  have hconnected : ((m.pollRadio env).dispatchIncomming paho env).2.radio.mState = .connected :=
    (dispatchIncomming_mState _ _ _).trans hradio
  constructor
  · unfold distance
    rw [poll_eq_mainStep hge, hstep, hs]
    show 24 - ((m.pollRadio env).dispatchIncomming paho env).2.radio.mState.ctorIdx + 0 < _
    rw [hconnected]
    show 2 < 24 - m.radio.mState.ctorIdx + 2
    rcases hr with hr | hr <;> rw [hr] <;> decide
  · intro hbehind
    exact absurd hbehind (not_behind_of_readsCount (Or.inr (Or.inr (Or.inr hr))) paho env)

/-! ## Runs -/

/-- A poll with the answer that the radio waits for, or with none. -/
theorem solicited_poll {frames : List Frame}
    (henv : env = m.radio.helpfulEnv frames message) (hfew : frames.length ≤ 1)
    (hanswers : ∀ frame ∈ frames, m.Answers frame) : m.Solicited (.poll env) := by
  rw [henv]
  refine ⟨hfew, hanswers, fun hserial => Decidable.byContradiction fun hnot => ?_⟩
  exact hserial (if_neg hnot)

theorem answers_answer (h : ¬m.DeadEnd) : m.radio.answer.length ≤ 1 ∧
    ∀ frame ∈ m.radio.answer, m.Answers frame := by
  unfold GB4XBee.answer
  split
  · rename_i hs
    have hasked := Decidable.byContradiction fun hnot => h ⟨hs, hnot⟩
    exact ⟨Nat.le_refl 1, List.forall_mem_singleton.2 ⟨hs, hasked⟩⟩
  · rename_i hs
    exact ⟨Nat.le_refl 1, List.forall_mem_singleton.2 (Or.inl ⟨hs, rfl⟩)⟩
  · rename_i hs
    exact ⟨Nat.le_refl 1, List.forall_mem_singleton.2 (Or.inr (Or.inl ⟨hs, rfl⟩))⟩
  · rename_i hs
    exact ⟨Nat.le_refl 1, List.forall_mem_singleton.2 (Or.inr (Or.inr ⟨hs, rfl⟩))⟩
  · exact ⟨Nat.zero_le 1, List.forall_mem_nil _⟩

/-- The states over a socket that look at the notifications. -/
theorem readsCount_of_reach (h : (system paho).Reach m) (hge : .awaitSocketId ≤ m.radio.mState)
    (hne : m.radio.mState ≠ .socketReady) : m.radio.ReadsCount := by
  have hinv := Inv.of_reach h
  rcases hinv.state with hs | hs | hs
  · exact Or.inr (Or.inr (Or.inr (hinv.inStep.session hs)))
  · rcases (hinv.inStep.connecting hs).2 with hr | hr | hr
    · exact absurd hr hne
    · exact Or.inr (Or.inl hr)
    · exact Or.inr (Or.inr (Or.inl hr))
  · have hle := (hinv.inStep.notConnected hs).1
    obtain ⟨htls, htls'⟩ := noTls_of_reach h
    cases hr : m.radio.mState <;> rw [hr] at hge hle hne htls htls'
    case awaitSocketId => exact Or.inl hr
    case socketReady => exact absurd rfl hne
    case beginSetTlsProfile => exact absurd rfl htls
    case awaitTlsProfileResponse => exact absurd rfl htls'
    all_goals first | exact absurd hge (by decide) | exact absurd hle (by decide)

/-- Away from `STANDBY` and the dead end some calls lead closer. -/
theorem exists_closer (hpaho : paho.CanConnect) (h : (system paho).Reach m)
    (hfree : ¬m.DeadEnd) (haway : m.pollReturn ≠ .connected) :
    ∃ calls, Accepted Solicited (call paho) m calls ∧
      ¬(replay (call paho) m calls).DeadEnd ∧ (replay (call paho) m calls).rank < m.rank := by
  have hinv := Inv.of_reach h
  obtain ⟨hfew, hanswers⟩ := answers_answer hfree
  have hpoll : ∀ (frames : List Frame) (message : List UInt8), frames.length ≤ 1 →
      (∀ frame ∈ frames, m.Answers frame) →
      (m.poll paho (m.radio.helpfulEnv frames message)).2.rank < m.rank →
      ∃ calls, Accepted Solicited (call paho) m calls ∧
        ¬(replay (call paho) m calls).DeadEnd ∧ (replay (call paho) m calls).rank < m.rank := by
    intro frames message hfew hanswers hlt
    refine ⟨[.poll (m.radio.helpfulEnv frames message)],
      ⟨solicited_poll rfl hfew hanswers, trivial⟩, ?_, hlt⟩
    exact not_deadEnd_poll hfree fun _ => ⟨show (0 : Int) ≤ 1 by decide, rfl⟩
  by_cases hbehind : m.radio.Behind ∧ m.radio.mState ≠ .socketReady
  · -- whatever the old notification does, it has been seen then
    obtain ⟨hbehind, hne⟩ := hbehind
    have hreads := readsCount_of_reach h hbehind.1 hne
    exact hpoll [] [] (Nat.zero_le 1) (List.forall_mem_nil _)
      (rank_lt (Or.inr ⟨hbehind, not_behind_of_readsCount hreads paho _⟩))
  have hseen : m.radio.Behind → m.radio.mState = .socketReady :=
    fun hb => Decidable.byContradiction fun hne => hbehind ⟨hb, hne⟩
  by_cases hlt : m.radio.mState < .socketReady
  · have hnot : ¬m.radio.Behind := by
      intro hb
      rw [hseen hb] at hlt
      exact absurd hlt (by decide)
    exact hpoll _ [] hfew hanswers
      (rank_lt (Or.inl (closer_below rfl hinv hlt (noTls_of_reach h) hnot)))
  have hstarted : .socketCooldownPeriod ≤ m.radio.mState :=
    Nat.le_trans (by decide) (GB4XBee.State.not_lt.1 hlt)
  have hcounted : m.radio.mState = .connected ∨ m.radio.mState = .sending →
      m.radio.notifyCount = m.radio.gNotify.count := by
    intro hr
    refine Decidable.byContradiction fun hne => ?_
    have hready := hseen ⟨by rcases hr with hr | hr <;> rw [hr] <;> decide, hne⟩
    rw [hready] at hr
    exact absurd hr (by decide)
  rcases hinv.state with (hs | hs | hs | hs) | hs | hs
  · obtain ⟨id, name, pwd, hconnect⟩ := hpaho.connect
    have hr := hinv.inStep.session (Or.inl hs)
    refine ⟨credentialCalls id name pwd (m.radio.helpfulEnv [] []),
      ⟨trivial, trivial, trivial, ?_, trivial⟩,
      not_deadEnd_of_started (replay_started hstarted _),
      rank_lt (Or.inl (closer_connectMqtt hconnect rfl hs hr (hcounted hr)))⟩
    exact solicited_poll rfl (Nat.zero_le 1) (List.forall_mem_nil _)
  · obtain ⟨message, payload, hlen, htype, haccept⟩ := hpaho.connack
    have hr := hinv.inStep.session (Or.inr (Or.inl hs))
    exact hpoll [.receive m.radio.sock payload] message (Nat.le_refl 1)
      (List.forall_mem_singleton.2 hs)
      (rank_lt (Or.inl (closer_awaitConnack hlen htype haccept rfl hs hr (hcounted hr))))
  · exact absurd (by simp [pollReturn, hs]) haway
  · exact absurd (by simp [pollReturn, hs]) haway
  · obtain ⟨hcip, hr⟩ := hinv.inStep.connecting hs
    exact hpoll _ [] hfew hanswers
      (rank_lt (Or.inl (closer_connecting rfl hs hcip hr hseen)))
  · obtain ⟨hle, hcip⟩ := hinv.inStep.notConnected hs
    have hr : m.radio.mState = .socketReady := by
      have hge := GB4XBee.State.not_lt.1 hlt
      cases hr : m.radio.mState <;> rw [hr] at hle hge <;> revert hle hge <;> decide
    refine ⟨requestCalls, ⟨trivial, trivial, ?_, trivial⟩,
      not_deadEnd_of_started (replay_started hstarted _),
      rank_lt (Or.inl (closer_notConnected paho hs hr (hcip hr)))⟩
    exact ⟨Nat.zero_le 1, List.forall_mem_nil _, fun hserial => absurd rfl hserial⟩

/-- From every state of a run in which the device answers `AN` only after it was sent, some
calls of such a run lead to a state in which `poll` answers `CONNECTED`, but from the dead
end none do. -/
theorem connected_of_reach (hpaho : paho.CanConnect)
    (h : ((system paho).restrict AnswersSent).Reach m) :
    (¬m.DeadEnd → ∃ calls, Accepted Solicited (call paho) m calls ∧
      Accepted AnswersSent (call paho) m calls ∧
      (replay (call paho) m calls).pollReturn = .connected) ∧
    (m.DeadEnd → ∀ calls, Accepted AnswersSent (call paho) m calls →
      (replay (call paho) m calls).pollReturn ≠ .connected) := by
  refine ⟨fun hfree => ?_, fun hdead calls hacc => (hdead.replay h hacc).2⟩
  have hstep : ∀ m, ((system paho).Reach m ∧ ¬m.DeadEnd) → ¬m.pollReturn = .connected →
      ∃ calls, Accepted Solicited (call paho) m calls ∧
        ((system paho).Reach (replay (call paho) m calls) ∧
          ¬(replay (call paho) m calls).DeadEnd) ∧
        (replay (call paho) m calls).rank < m.rank := by
    rintro m ⟨hreach, hfree⟩ haway
    obtain ⟨calls, hacc, hfree', hlt⟩ := exists_closer hpaho hreach hfree haway
    exact ⟨calls, hacc, ⟨reach_replay calls hreach
      (accepted_of_forall (fun _ _ => trivial) _ _), hfree'⟩, hlt⟩
  obtain ⟨calls, hacc, hconnected⟩ := exists_replay_of_rank rank hstep ⟨h.of_restrict, hfree⟩
  exact ⟨calls, hacc, hacc.mono fun _ _ hsolicited => hsolicited.answersSent, hconnected⟩

/-- The library of the protocol can connect. -/
theorem canConnect_mqtt : Paho.mqtt.CanConnect :=
  ⟨⟨[], [], [], by decide⟩, ⟨[], connack, by decide, by decide, by decide⟩⟩

/-- The startup with a driver that does not take `AN`. -/
def refusedCalls : List Call := (List.range 12).map fun k =>
  .poll {
    millis := fun _ => 2000 * UInt32.ofNat k
    serial := [0x4F, 0x4B, 0x0D]
    cmdSend := fun _ => -16 }

/-- A socket that was closed while the session waited for its CONNACK, and the dead end. -/
theorem connected_lost :
    let lost := afterCalls (samplePublish 1 false :: orderedCalls ++ connectCalls 26000 ++
      [pollAt 28000 [.notify 1 0xCF 0x01]])
    let refused := afterCalls refusedCalls
    (lost.radio.mState = .socketCooldownPeriod ∧
      ∃ calls, Accepted Solicited (call .mqtt) lost calls ∧
        Accepted AnswersSent (call .mqtt) lost calls ∧
        (replay (call .mqtt) lost calls).pollReturn = .connected) ∧
      ∀ calls, Accepted AnswersSent (call .mqtt) refused calls →
        (replay (call .mqtt) refused calls).pollReturn ≠ .connected :=
  ⟨⟨by decide +kernel, (connected_of_reach canConnect_mqtt
      (reach_afterCalls_restrict _ (by decide +kernel))).1 (by decide +kernel)⟩,
    (connected_of_reach canConnect_mqtt
      (reach_afterCalls_restrict _ (by decide +kernel))).2 (by decide +kernel)⟩

end GB4MQTT

end XBeeMqtt
