import XBeeMqtt.GB4MQTT.InStep
import XBeeMqtt.GB4XBee.Deadlines

/-!
# Every wait ends at its deadline

`Clocked` runs the program against a clock that never wraps: every call of
`millis()` is made at a time, of which the program sees the low 32 bits, and the
times at which the timers were last started are kept beside the object.

`endsOnTime_of_reach`: in every such run, a poll leaves a wait exactly when more
than its interval has passed since it began.
-/

namespace XBeeMqtt

/-- The same poll, with every reading made at a time. -/
def Env.timed (env : Env) (times : MillisCall → Nat) : Env :=
  { env with millis := fun c => UInt32.ofNat (times c) }

namespace GB4MQTT

variable {m m' : GB4MQTT} {paho : Paho} {env : Env}

/-- The timer of `AWAIT_CONNACK`. -/
def connackTimer : Clock.Timers GB4MQTT Unit Event where
  log m := m.radio.log
  field _ m := m.connectStartTime
  runs _ m := m.state = .awaitConnack
  restarts e := if e = .connectRequest .connectSent then some () else none

/-! ## What the switch restarts -/

section Radio

variable {read : GB4XBee.Timer → UInt32}

theorem drop_restarts (hread : read .socketCooldown = env.millis .mqttResetSocket)
    (m : GB4MQTT) : GB4XBee.timers.Restarts read m.radio (m.drop env).radio :=
  GB4XBee.resetSocket_restarts hread m.radio

theorem dispatchIncomming_restarts (m : GB4MQTT) (paho : Paho) (env : Env) :
    GB4XBee.timers.Restarts read m.radio (m.dispatchIncomming paho env).2.radio := by
  rcases m.dispatchIncomming_cases paho env with ⟨_, heq⟩ | ⟨_, _, _, heq⟩
  · rw [heq]
    exact GB4XBee.restarts_stay m.radio
  · rw [heq]
    refine .of_frame [.incoming m.bytesRead _ _] rfl (fun e he => ?_) fun k =>
      ⟨by cases k <;> rfl, fun hruns => by cases k <;> exact hruns⟩
    rw [List.mem_singleton.1 he]
    rfl

/-- A message that the radio takes, and an event of the sender. -/
private theorem sent_restarts {e : Event} (he : e.radioTimer? = none)
    (hread : read .send = env.millis .sendMessage) (r : GB4XBee) (message : List UInt8)
    (len : Nat) (htake : r.mState = .connected ∧ env.sockSend = 0) :
    GB4XBee.timers.Restarts read r { r with
      sendStartTime := (env.millis .sendMessage).toInt32
      mState := .sending
      log := e :: .sendMessage .connected message len .messageSent :: r.log } := by
  have hsend := GB4XBee.sendMessage_restarts hread r message len
  rcases r.sendMessage_cases message len env with ⟨_, _, heq⟩ | ⟨_, _, hwhy, _⟩
  · rw [heq] at hsend
    exact hsend.trans (GB4XBee.record_restarts he _)
  · exact absurd htake fun h => hwhy.elim (fun hs => hs h.1) fun hs => hs h.2

/-- A message that the radio refuses, and an event of the sender. -/
private theorem refused_restarts {e : Event} (he : e.radioTimer? = none)
    {result : GB4XBee.Return} (hne : result ≠ .messageSent) (r : GB4XBee)
    (message : List UInt8) (len : Nat) :
    GB4XBee.timers.Restarts read r { r with
      log := e :: .sendMessage r.mState message len result :: r.log } := by
  have hrecord : GB4XBee.timers.Restarts read r
      (r.record (.sendMessage r.mState message len result)) := by
    refine GB4XBee.record_restarts ?_ r
    cases result <;> first | rfl | exact absurd rfl hne
  exact hrecord.trans (GB4XBee.record_restarts he _)

theorem Handled.restarts {b : Bool} (h : Handled m paho env b m')
    (hread : read .send = env.millis .sendMessage) :
    GB4XBee.timers.Restarts read m.radio m'.radio := by
  cases h with
  | packetError _ _ _ => exact GB4XBee.record_restarts rfl m.radio
  | sent _ _ _ htake =>
    exact sent_restarts rfl hread m.radio _ _ (not_refuses_iff.1 htake)
  | refused _ _ _ _ hne _ => exact refused_restarts rfl hne m.radio _ _
  | acknowledgedDisconnect _ _ _ _ => exact GB4XBee.sendMessage_restarts hread m.radio _ _
  | timeoutDisconnect _ _ _ _ _ => exact GB4XBee.sendMessage_restarts hread m.radio _ _
  | _ => exact GB4XBee.restarts_stay m.radio

private theorem standby_restarts (m : GB4MQTT) (paho : Paho) (env : Env) :
    GB4XBee.timers.Restarts read m.radio
      (({ m with state := .standby } : GB4MQTT).dispatchIncomming paho env).2.radio :=
  dispatchIncomming_restarts { m with state := .standby } paho env

theorem SwitchStep.restarts (h : SwitchStep m paho env m') :
    GB4XBee.timers.Restarts (fun k => env.millis (k.reading .mqttResetSocket)) m.radio
      m'.radio := by
  have hconnect : GB4XBee.timers.Restarts (fun k => env.millis (k.reading .mqttResetSocket))
      m.radio (m.radio.connect env).2 := GB4XBee.connect_restarts rfl m.radio
  cases h with
  | connecting _ _ hok =>
    rcases m.radio.connect_cases env with ⟨_, heq⟩ | ⟨hne, _⟩
    · rw [heq] at hconnect
      exact hconnect
    · exact absurd hok hne
  | connectFailed _ hne =>
    rcases m.radio.connect_cases env with ⟨hok, _⟩ | ⟨_, heq⟩
    · exact absurd hok hne
    · rw [heq] at hconnect
      exact hconnect.trans (GB4XBee.resetSocket_restarts rfl _)
  | connectLost _ => exact drop_restarts rfl m
  | connectMalformed _ => exact GB4XBee.record_restarts rfl m.radio
  | connectSent _ htake => exact sent_restarts rfl rfl m.radio _ _ (not_refuses_iff.1 htake)
  | connectRefused _ _ hne _ => exact refused_restarts rfl hne m.radio _ _
  | connectDropped _ _ hne _ =>
    exact (refused_restarts rfl hne m.radio _ _).trans (drop_restarts rfl _)
  | listening _ _ => exact m.dispatchIncomming_restarts paho env
  | accepted _ _ _ => exact m.dispatchIncomming_restarts paho env
  | rejected _ => exact (m.dispatchIncomming_restarts paho env).trans (drop_restarts rfl _)
  | served _ hhandled => exact (m.standby_restarts paho env).trans (hhandled.restarts rfl)
  | servedDrop _ hhandled =>
    exact ((m.standby_restarts paho env).trans (hhandled.restarts rfl)).trans
      (drop_restarts rfl _)
  | _ => exact GB4XBee.restarts_stay m.radio

end Radio

section Connack

variable {read : Unit → UInt32}

/-- A step with other events, that does not get to `AWAIT_CONNACK`. -/
private theorem connack_frame (new : List Event) (hlog : m'.radio.log = new ++ m.radio.log)
    (hnew : .connectRequest .connectSent ∉ new)
    (hsame : m'.connectStartTime = m.connectStartTime)
    (hstate : m'.state = .awaitConnack → m.state = .awaitConnack) :
    connackTimer.Restarts read m m' := by
  refine .of_frame new hlog (fun e he => ?_) fun _ => ⟨hsame, hstate⟩
  have hne : e ≠ .connectRequest .connectSent := fun heq => hnew (heq ▸ he)
  exact if_neg hne

private theorem connack_drop (m : GB4MQTT) (env : Env) :
    connackTimer.Restarts read m (m.drop env) :=
  connack_frame [.resetSocket] rfl (by simp) rfl fun h => absurd h (by simp [drop])

private theorem connack_dispatchIncomming (m : GB4MQTT) (paho : Paho) (env : Env) :
    connackTimer.Restarts read m (m.dispatchIncomming paho env).2 := by
  rcases m.dispatchIncomming_cases paho env with ⟨_, heq⟩ | ⟨_, _, _, heq⟩
  · rw [heq]
    exact connack_frame [] rfl (by simp) rfl fun h => h
  · rw [heq]
    exact connack_frame [.incoming m.bytesRead _ _] rfl (by simp) rfl fun h => h

private theorem Handled.connack {b : Bool} (h : Handled m paho env b m') :
    connackTimer.Restarts read m m' := by
  obtain ⟨new, hlog, hnew⟩ := h.log
  refine connack_frame new hlog (fun hmem => ?_) ?_ (by rw [h.frame.1]; exact fun h => h)
  · rcases hnew _ hmem with ⟨_, _, heq⟩ | ⟨_, _, _, heq⟩ <;> exact absurd heq (by simp)
  · cases h <;> rfl

private theorem connack_connectSent (m : GB4MQTT) (paho : Paho) (env : Env)
    (hread : read () = env.millis .sendConnectRequest) :
    connackTimer.Restarts read m { m.connectSent paho env with state := .awaitConnack } := by
  let sent : GB4XBee := { m.radio with
    log := .sendMessage .connected (m.connectPacket paho).2 (sizeT (m.connectPacket paho).1)
      .messageSent :: m.radio.log }
  have hsent : connackTimer.Restarts read m { m with radio := sent } :=
    connack_frame [.sendMessage _ _ _ _] rfl (by simp) rfl fun h => h
  have hrestart : connackTimer.restarts (.connectRequest .connectSent) = some () := by
    simp only [connackTimer, if_true]
  refine hsent.trans (.one () rfl hrestart ?_ fun k hk => absurd rfl hk)
  rw [hread]
  rfl

private theorem connack_connectRefused {status : Return} (hne : status ≠ .connectSent)
    (m : GB4MQTT) (paho : Paho) (result : GB4XBee.Return) :
    connackTimer.Restarts read m (m.connectRefused paho result status) :=
  connack_frame [.connectRequest status, .sendMessage _ _ _ _] rfl (by simpa using hne.symm) rfl
    fun h => h

theorem SwitchStep.connack (h : SwitchStep m paho env m') :
    connackTimer.Restarts (fun _ => env.millis .sendConnectRequest) m m' := by
  have hstandby : ∀ {read : Unit → UInt32}, connackTimer.Restarts read m
      (({ m with state := .standby } : GB4MQTT).dispatchIncomming paho env).2 := by
    intro read
    have hstate : connackTimer.Restarts read m ({ m with state := .standby } : GB4MQTT) :=
      connack_frame [] rfl (by simp) rfl fun h => absurd h (by simp)
    exact hstate.trans (connack_dispatchIncomming _ paho env)
  cases h with
  | connecting _ _ _ =>
    exact connack_frame [.socketConnect _ _] rfl (by simp) rfl fun h => absurd h (by simp)
  | connectFailed _ _ =>
    exact connack_frame [.resetSocket, .socketConnect _ _] rfl (by simp) rfl
      fun h => absurd h (by simp)
  | connectLost _ => exact connack_drop m env
  | socketConnected _ _ => exact connack_frame [] rfl (by simp) rfl fun h => absurd h (by simp)
  | connectMalformed _ =>
    exact connack_frame [.connectRequest _] rfl (by simp) rfl fun h => h
  | connectSent _ _ => exact connack_connectSent m paho env rfl
  | connectRefused _ _ _ hne => exact connack_connectRefused hne m paho _
  | connectDropped _ _ _ hne =>
    exact (connack_connectRefused hne m paho _).trans (connack_drop _ env)
  | listening _ _ => exact connack_dispatchIncomming m paho env
  | accepted _ _ _ =>
    refine (connack_dispatchIncomming m paho env).trans ?_
    exact connack_frame [] rfl (by simp) rfl fun h => absurd h (by simp)
  | rejected _ => exact (connack_dispatchIncomming m paho env).trans (connack_drop _ env)
  | served _ hhandled => exact hstandby.trans hhandled.connack
  | servedDrop _ hhandled => exact (hstandby.trans hhandled.connack).trans (connack_drop _ env)
  | _ => exact connack_frame [] rfl (by simp) rfl fun h => h

end Connack

/-! ## What a poll restarts -/

/-- The `resetSocket` that a poll can reach: the radio's own, unless the radio ends
in `SOCKET_READY` or above and the switch runs. -/
def resetReading (m : GB4MQTT) (env : Env) : MillisCall :=
  if (m.radio.poll env).mState < .socketReady then .radioResetSocket else .mqttResetSocket

theorem poll_restarts (m : GB4MQTT) (paho : Paho) (env : Env) :
    GB4XBee.timers.Restarts (fun k => env.millis (k.reading (m.resetReading env))) m.radio
      (m.poll paho env).2.radio := by
  have hradio := m.radio.poll_restarts env
  unfold resetReading
  rcases m.poll_cases paho env with ⟨hlt, heq⟩ | ⟨hge, hstep⟩
  · rw [if_pos hlt, heq]
    exact hradio
  · rw [if_neg (GB4XBee.State.not_lt.2 hge)]
    refine .trans (hradio.congr fun new hlog k hmem => ?_) hstep.restarts
    -- the radio has only ticked, so that it has not reset the socket
    have hticked : tickEvents env.frames = new :=
      List.append_cancel_right ((m.radio.poll_ticked hge).1.symm.trans hlog)
    obtain ⟨e, he, htimer⟩ := List.mem_map.1 hmem
    have hnone : e.radioTimer? = none :=
      GB4XBee.radioTimer?_of_mem_tickEvents (by rw [hticked]; exact he)
    exact absurd (hnone.symm.trans htimer) (by simp)

theorem poll_connack (m : GB4MQTT) (paho : Paho) (env : Env) :
    connackTimer.Restarts (fun _ => env.millis .sendConnectRequest) m (m.poll paho env).2 := by
  obtain ⟨new, hlog, hnew⟩ := m.radio.poll_log env
  have hquiet : .connectRequest .connectSent ∉ new := by
    intro hmem
    exact absurd (hnew _ hmem) Bool.false_ne_true
  rcases m.poll_cases paho env with ⟨_, heq⟩ | ⟨_, hstep⟩
  · rw [heq]
    exact connack_frame new hlog hquiet rfl fun h => absurd h (by simp)
  · have hradio : connackTimer.Restarts (fun _ => env.millis .sendConnectRequest) m
        (m.pollRadio env) := connack_frame new hlog hquiet rfl fun h => h
    exact hradio.trans hstep.connack

/-- A wait that the poll of the radio has left is pending after the switch only if
the switch has restarted its timer. -/
theorem poll_again_restarts (w : GB4XBee.Wait) (hleft : (m.radio.poll env).mState ≠ w.state)
    (hagain : (m.poll paho env).2.radio.mState = w.state) :
    some w.timer ∈ GB4XBee.timers.restarted m.radio (m.poll paho env).2.radio := by
  rcases m.poll_cases paho env with ⟨_, heq⟩ | ⟨_, hstep⟩
  · rw [heq] at hagain
    exact absurd hagain hleft
  · obtain ⟨old, hold, _⟩ := m.radio.poll_restarts env
    obtain ⟨new, hnew, hsteps⟩ := hstep.restarts
    have hlog : (m.poll paho env).2.radio.log = (new ++ old) ++ m.radio.log := by
      rw [List.append_assoc]
      exact hnew.trans (congrArg (new ++ ·) hold)
    rw [Clock.Timers.restarted_eq _ hlog, List.map_append, List.mem_append]
    refine Or.inl (Decidable.byContradiction fun hquiet => hleft ?_)
    have hruns := ((hsteps w.timer).2 hquiet).2
    have hmoved := hstep.radio_mState
    rw [hagain] at hmoved
    cases w with
    | socketCooldown => exact hruns hagain
    | socketId => exact hruns hagain
    | connectResponse => exact (hmoved.resolve_right (by decide)).symm
    | connection => exact (hmoved.resolve_right (by decide)).symm
    | sending => exact hruns hagain

/-! ## Runs on a clock -/

/-- The same call, with every reading of a poll made at a time. -/
def Call.timed (times : MillisCall → Nat) : Call → Call
  | .poll env => .poll (env.timed times)
  | c => c

theorem Call.exists_timed (c : Call) : ∃ times, c.timed times = c := by
  cases c with
  | poll env =>
    refine ⟨fun c => (env.millis c).toNat, ?_⟩
    simp [Call.timed, Env.timed]
  | _ => exact ⟨fun _ => 0, rfl⟩

/-- The object, and when its timers were last started. -/
structure Clocked where
  m : GB4MQTT
  started : GB4XBee.Timer → Option Nat
  connackStarted : Option Nat

namespace Clocked

/-- A call, and the time of every reading in it. -/
def next (paho : Paho) (s : Clocked) : Call × (MillisCall → Nat) → Clocked
  | (.poll env, times) =>
    let env := env.timed times
    let m' := (s.m.poll paho env).2
    { m := m'
      started := GB4XBee.timers.advance (fun k => times (k.reading (s.m.resetReading env)))
        s.started s.m.radio m'.radio
      connackStarted := connackTimer.advance (fun _ => times .sendConnectRequest)
        (fun _ => s.connackStarted) s.m m' () }
  | (c, _) => { s with m := call paho s.m c }

/-- Nothing has been started when an object was begun. -/
def Begun (s : Clocked) : Prop :=
  s.m.Begun ∧ s.started = (fun _ => none) ∧ s.connackStarted = none

/-- Any calls after a successful `begin()`, at any times. -/
def system (paho : Paho) : Transition.System Clocked (Call × (MillisCall → Nat)) :=
  .ofFunction Begun (fun _ _ => True) (next paho)

variable {s : Clocked}

theorem next_m (paho : Paho) (s : Clocked) (c : Call) (times : MillisCall → Nat) :
    (s.next paho (c, times)).m = call paho s.m (c.timed times) := by
  cases c <;> rfl

/-- The times are beside the program: a clocked run is a run. -/
theorem reach_system (h : (system paho).Reach s) : (GB4MQTT.system paho).Reach s.m := by
  induction h with
  | init hinit => exact .init hinit.1
  | step _ hstep ih =>
    obtain ⟨_, rfl⟩ := hstep
    rw [next_m]
    exact .step ih ⟨trivial, rfl⟩

/-- And every run is a clocked run, with any times that have the readings as
their low 32 bits. -/
theorem exists_reach {m : GB4MQTT} (h : (GB4MQTT.system paho).Reach m) :
    ∃ s, (system paho).Reach s ∧ s.m = m := by
  induction h with
  | @init m hinit => exact ⟨⟨m, fun _ => none, none⟩, .init ⟨hinit, rfl, rfl⟩, rfl⟩
  | @step _ c _ _ hstep ih =>
    obtain ⟨_, rfl⟩ := hstep
    obtain ⟨s, hreach, rfl⟩ := ih
    obtain ⟨times, htimes⟩ := c.exists_timed
    refine ⟨s.next paho (c, times), .step hreach ⟨trivial, rfl⟩, ?_⟩
    rw [next_m, htimes]

/-- The start times fit the fields of both objects. -/
structure Sound (s : Clocked) : Prop where
  radio : GB4XBee.timers.Sound s.started s.m.radio
  connack : connackTimer.Sound (fun _ => s.connackStarted) s.m

private theorem Begun.sound (h : s.Begun) : s.Sound := by
  obtain ⟨hbegun, hstarted, hconnack⟩ := h
  obtain ⟨mem, args, hm⟩ := hbegun.eq
  refine ⟨⟨fun k start hstart => ?_, fun k hruns => ?_⟩,
    ⟨fun k start hstart => ?_, fun k hruns => ?_⟩⟩
  · rw [hstarted] at hstart
    exact absurd hstart (by simp)
  · rw [hm] at hruns
    cases k with
    | connect =>
      rcases hruns with hcip | hs | hs
      · exact absurd hcip Bool.false_ne_true
      · exact absurd (show GB4XBee.State.start = _ from hs) (by decide)
      · exact absurd (show GB4XBee.State.start = _ from hs) (by decide)
    | _ => exact absurd (show GB4XBee.State.start = _ from hruns) (by decide)
  · rw [hconnack] at hstart
    exact absurd hstart (by simp)
  · rw [hm] at hruns
    exact absurd (show State.notConnected = _ from hruns) (by decide)

private theorem Sound.next (h : s.Sound) (paho : Paho) (c : Call) (times : MillisCall → Nat) :
    (s.next paho (c, times)).Sound := by
  cases c with
  | poll env =>
    exact ⟨h.radio.advance (s.m.poll_restarts paho (env.timed times)),
      h.connack.advance (s.m.poll_connack paho (env.timed times))⟩
  | publish topic topicLen message messageLen qos disconnect now =>
    refine ⟨⟨fun k => ?_, fun k => ?_⟩, ⟨h.connack.fields, h.connack.runs⟩⟩
    · cases k <;> exact h.radio.fields _
    · intro hruns
      exact h.radio.runs k (by cases k <;> exact hruns)
  | _ => exact ⟨h.radio, ⟨h.connack.fields, h.connack.runs⟩⟩

theorem Sound.of_reach (h : (system paho).Reach s) : s.Sound :=
  h.invariant Sound (fun _ hbegun => Begun.sound hbegun) fun s c s' _ hsound hstep => by
    obtain ⟨_, rfl⟩ := hstep
    exact hsound.next paho c.1 c.2

end Clocked

/-! ## Leaving `AWAIT_CONNACK` -/

/-- The timeout of the CONNACK is over. -/
def ConnackExpired (m : GB4MQTT) (env : Env) : Prop :=
  connackTimeout < elapsed (env.millis .pollConnackStatus) m.connectStartTime

instance (m : GB4MQTT) (env : Env) : Decidable (m.ConnackExpired env) :=
  inferInstanceAs (Decidable (_ < _))

private theorem dispatchIncomming_connectStartTime (m : GB4MQTT) (paho : Paho) (env : Env) :
    (m.dispatchIncomming paho env).2.connectStartTime = m.connectStartTime := by
  rcases m.dispatchIncomming_cases paho env with ⟨_, heq⟩ | ⟨_, _, _, heq⟩
  · rw [heq]
  · rw [heq]
    rfl

/-- With the timeout over, `pollConnackStatus` does not go on listening. -/
private theorem pollConnackStatus_over (h : m.ConnackExpired env) :
    (m.pollConnackStatus paho env).1 ≠ .listening := by
  have htime : elapsed (env.millis .pollConnackStatus) m.connectStartTime > connackTimeout := h
  unfold pollConnackStatus
  dsimp only
  rw [dispatchIncomming_connectStartTime]
  rw [if_pos htime]
  split
  · exact show Return.gotConnack ≠ _ by decide
  · exact show Return.connackTimeout ≠ _ by decide

private theorem pollConnackStatus_quiet (hquiet : m.radio.gReceive.mPending = false)
    (h : ¬m.ConnackExpired env) : (m.pollConnackStatus paho env).1 = .listening := by
  have hlisten : (m.dispatchIncomming paho env).1 = .listening := by
    rcases m.dispatchIncomming_cases paho env with ⟨_, heq⟩ | ⟨hp, _⟩
    · rw [heq]
    · exact absurd (hquiet.symm.trans hp) Bool.false_ne_true
  have htime : ¬elapsed (env.millis .pollConnackStatus) m.connectStartTime > connackTimeout := h
  unfold pollConnackStatus
  dsimp only
  rw [dispatchIncomming_connectStartTime, hlisten, if_neg (by decide), if_neg htime]

private theorem mainStep_awaitConnack (hs : m.state = .awaitConnack) :
    (m.mainStep paho env).state ≠ .awaitConnack ↔
      (m.pollConnackStatus paho env).1 ≠ .listening := by
  have hstay : (m.pollConnackStatus paho env).2.state = .awaitConnack := by
    rw [(m.pollConnackStatus_cases paho env).1, dispatchIncomming_state, hs]
  simp only [mainStep, hs]
  split
  · rename_i hstatus
    exact ⟨fun h => absurd hstay h, fun h => absurd hstatus h⟩
  · rename_i hstatus
    rw [hstatus]
    exact ⟨fun _ => by decide, fun _ => show State.beginStandby ≠ _ by decide⟩
  · rename_i hne _
    exact ⟨fun _ => hne, fun _ => show State.notConnected ≠ _ by decide⟩

/-- A poll in `AWAIT_CONNACK` leaves it when the timeout is over. -/
theorem poll_leaves_of_connackExpired (hs : m.state = .awaitConnack)
    (h : m.ConnackExpired env) : (m.poll paho env).2.state ≠ .awaitConnack := by
  unfold poll
  dsimp only
  split
  · exact show State.notConnected ≠ _ by decide
  · have hleaves := @mainStep_awaitConnack (m.pollRadio env) paho env hs
    exact hleaves.2 (pollConnackStatus_over (show (m.pollRadio env).ConnackExpired env from h))

/-- Without a payload it leaves it only then, if the radio is still connected. -/
theorem poll_leaves_iff_connackExpired (hs : m.state = .awaitConnack)
    (hradio : .socketReady ≤ (m.radio.poll env).mState)
    (hquiet : (m.radio.poll env).gReceive.mPending = false) :
    (m.poll paho env).2.state ≠ .awaitConnack ↔ m.ConnackExpired env := by
  refine ⟨fun hleft => Decidable.byContradiction fun hrunning => ?_,
    poll_leaves_of_connackExpired hs⟩
  unfold poll at hleft
  dsimp only at hleft
  have hradio : ¬(m.pollRadio env).radio.mState < .socketReady := GB4XBee.State.not_lt.2 hradio
  rw [if_neg hradio] at hleft
  have hlisten : ((m.pollRadio env).pollConnackStatus paho env).1 = .listening :=
    pollConnackStatus_quiet hquiet hrunning
  exact (@mainStep_awaitConnack (m.pollRadio env) paho env hs).1 hleft hlisten

/-! ## Deadlines -/

/-- The program measures the time since the wait began. -/
private theorem elapsed_iff {start now : Nat} {field : Int32}
    (hfield : field = (UInt32.ofNat start).toInt32) (hle : start ≤ now)
    (hlt : now < start + 2 ^ 32) (interval : UInt32) :
    interval < elapsed (UInt32.ofNat now) field ↔ interval.toNat < now - start := by
  rw [UInt32.lt_iff_toNat_lt, hfield, elapsed, Clock.toNat_sub_ofNat hle hlt]

/-- `now` is less than 2 ^ 32 ms after the start of a wait. -/
def Within (start now : Nat) : Prop := start ≤ now ∧ now < start + 2 ^ 32

/-- How the waits that are pending in a state end in a poll at `times`.  The start
of each of them is known, and the time since then is less than 2 ^ 32 ms. -/
structure EndsOnTime (paho : Paho) (s : Clocked) (env : Env) (times : MillisCall → Nat) :
    Prop where
  radioStarted : ∀ w : GB4XBee.Wait, s.m.radio.mState = w.state → s.started w.timer ≠ none
  /-- Without a notification, the radio leaves a wait exactly when more than its
  interval has passed. -/
  radio : ∀ w : GB4XBee.Wait, s.m.radio.mState = w.state → ∀ start,
    s.started w.timer = some start → Within start (times w.check) →
    w = .socketCooldown ∨ ¬s.m.radio.SeesNotification env →
    ((s.m.radio.poll (env.timed times)).mState ≠ w.state ↔
      w.interval.toNat < times w.check - start)
  /-- With one, it leaves it in any case. -/
  notified : ∀ w : GB4XBee.Wait, s.m.radio.mState = w.state → w ≠ .socketCooldown →
    s.m.radio.SeesNotification env → (s.m.radio.poll (env.timed times)).mState ≠ w.state
  /-- After the deadline, the same wait is not pending any more: the radio is in the
  state again only with a new start time. -/
  radioOver : ∀ w : GB4XBee.Wait, s.m.radio.mState = w.state → ∀ start,
    s.started w.timer = some start → Within start (times w.check) →
    w.interval.toNat < times w.check - start →
    (s.m.poll paho (env.timed times)).2.radio.mState = w.state →
    some w.timer ∈ GB4XBee.timers.restarted s.m.radio
      (s.m.poll paho (env.timed times)).2.radio
  connackStarted : s.m.state = .awaitConnack → s.connackStarted ≠ none
  /-- Without a payload, and with the radio still connected, `AWAIT_CONNACK` ends
  exactly when more than its timeout has passed. -/
  connack : s.m.state = .awaitConnack → ∀ start, s.connackStarted = some start →
    Within start (times .pollConnackStatus) →
    .socketReady ≤ (s.m.radio.poll (env.timed times)).mState →
    (s.m.radio.poll (env.timed times)).gReceive.mPending = false →
    ((s.m.poll paho (env.timed times)).2.state ≠ .awaitConnack ↔
      connackTimeout.toNat < times .pollConnackStatus - start)
  /-- After the deadline it ends in any case. -/
  connackOver : s.m.state = .awaitConnack → ∀ start, s.connackStarted = some start →
    Within start (times .pollConnackStatus) →
    connackTimeout.toNat < times .pollConnackStatus - start →
    (s.m.poll paho (env.timed times)).2.state ≠ .awaitConnack

namespace Clocked

variable {s : Clocked}

private theorem Sound.expired_iff (h : s.Sound) (w : GB4XBee.Wait) {start : Nat}
    (hstart : s.started w.timer = some start) {times : MillisCall → Nat}
    (hwithin : Within start (times w.check)) :
    GB4XBee.Expired w s.m.radio (env.timed times) ↔
      w.interval.toNat < times w.check - start :=
  elapsed_iff (h.radio.fields w.timer start hstart) hwithin.1 hwithin.2 w.interval

private theorem Sound.connackExpired_iff (h : s.Sound) {start : Nat}
    (hstart : s.connackStarted = some start) {times : MillisCall → Nat}
    (hwithin : Within start (times .pollConnackStatus)) :
    s.m.ConnackExpired (env.timed times) ↔
      connackTimeout.toNat < times .pollConnackStatus - start :=
  elapsed_iff (h.connack.fields () start hstart) hwithin.1 hwithin.2 connackTimeout

private theorem Sound.radioStarted (h : s.Sound) (w : GB4XBee.Wait)
    (hs : s.m.radio.mState = w.state) : s.started w.timer ≠ none := by
  refine h.radio.runs w.timer ?_
  cases w with
  | connectResponse => exact Or.inr (Or.inl hs)
  | connection => exact Or.inr (Or.inr hs)
  | _ => exact hs

end Clocked

/-- In every reachable state, and at any time of the clock, the waits end exactly
at their deadlines. -/
theorem endsOnTime_of_reach {s : Clocked} (h : (Clocked.system paho).Reach s) (env : Env)
    (times : MillisCall → Nat) : EndsOnTime paho s env times := by
  have hsound : s.Sound := Clocked.Sound.of_reach h
  refine ⟨hsound.radioStarted, fun w hs start hstart hwithin hquiet => ?_,
    fun w hs hne hsees => (GB4XBee.poll_leaves_iff w hs).2 (Or.inr ⟨hne, hsees⟩),
    fun w hs start hstart hwithin hover hagain => ?_,
    hsound.connack.runs (), fun hs start hstart hwithin hradio hquiet => ?_,
    fun hs start hstart hwithin hover => ?_⟩
  · rw [GB4XBee.poll_leaves_iff w hs, hsound.expired_iff w hstart hwithin]
    refine or_iff_left fun hsees => ?_
    exact hquiet.elim hsees.1 fun hnot => hnot hsees.2
  · have hexpired : GB4XBee.Expired w s.m.radio (env.timed times) :=
      (hsound.expired_iff w hstart hwithin).2 hover
    have hleft := (GB4XBee.poll_leaves_iff w hs).2 (Or.inl hexpired)
    exact poll_again_restarts w hleft hagain
  · rw [poll_leaves_iff_connackExpired hs hradio hquiet,
      hsound.connackExpired_iff hstart hwithin]
  · exact poll_leaves_of_connackExpired hs ((hsound.connackExpired_iff hstart hwithin).2 hover)

/-- The calls of a run that sends its CONNECT 4 seconds before the clock of the
program wraps. -/
def wrapCalls : List (Call × (MillisCall → Nat)) :=
  ((samplePublish 1 false, fun _ => 0) ::
    startupCalls.zipIdx.map fun p => (p.1, fun _ => 2000 * p.2)) ++
    (connectCalls 0).map fun c => (c, fun _ => 2 ^ 32 - 4000)

@[irreducible] def wrapRun : Clocked :=
  Transition.replay (Clocked.next .mqtt) ⟨sampleBegun, fun _ => none, none⟩ wrapCalls

theorem reach_wrapRun : (Clocked.system .mqtt).Reach wrapRun := by
  unfold wrapRun
  refine Transition.reach_replay wrapCalls (.init ⟨begun_sampleBegun, rfl, rfl⟩) ?_
  decide +kernel

/-- 10001 ms later, with the clock wrapped. -/
theorem endsOnTime_wrapRun :
    wrapRun.m.state = .awaitConnack ∧ wrapRun.connackStarted = some (2 ^ 32 - 4000) ∧
      EndsOnTime .mqtt wrapRun {} fun _ => 2 ^ 32 + 6001 :=
  ⟨by decide +kernel, by decide +kernel, endsOnTime_of_reach reach_wrapRun {} _⟩

end GB4MQTT

end XBeeMqtt
