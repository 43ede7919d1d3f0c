import XBeeMqtt.GB4MQTT.Completion
import XBeeMqtt.GB4MQTT.Conversation
import XBeeMqtt.GB4MQTT.Dispatch
import XBeeMqtt.GB4XBee.Deadlines
import XBeeMqtt.GB4XBee.Handshake

/-!
# The design table

`statemachine.csv` lists the states of the radio and of the session with what is done in
them, and when they are left.  `Design.table` is that table.

`GB4MQTT.design` is the state of the table that an object is in.  There are three things
that a poll can do (`followed_or_passes_or_restarts`):

* it follows rows whose conditions hold and whose actions it does (`Followed`);
* the driver refuses the command of a row, and it goes on without it (`Passes`);
* it goes back to `create socket`, which the table does not have (`Restarts`).

`explained_of_reach` says it of whole runs.  The rows on subscribing and on pinging are
never followed.
-/

namespace XBeeMqtt

namespace Design

/-- The column `state`. -/
inductive State where
  | init
  | startXbee
  | awaitCommandModeGuard0
  | escape
  | awaitCommandModeGuard1
  | awaitEscapeResponse
  | enableApiMode
  | awaitApiModeResponse
  | exitCommandMode
  | awaitExitResponse
  | initXbee
  | awaitXbeeInitDone
  | readApn
  | awaitApnResponse
  | setApn
  | createSocket
  | awaitSocketId
  | notConnected
  | connectingSocket
  | connectMqtt
  | awaitConnack
  | standby
  | awaitSuback
  | ping
  | awaitPingack
  deriving DecidableEq, Repr

/-- The column `action`. -/
inductive Action where
  | waitForBeginCall
  | beginCommandModeEntry
  | pollTimer
  | sendEscapeSequence
  | pollRx
  | sendApiModeCommand
  | sendExitCommand
  | initXbeeApi
  | pollXbeeStatus
  | beginReadApnCommand
  | beginSetApnCommand
  | beginSocketCreation
  | beginSocketConnection
  | sendConnectPacket
  | waitForPubSub
  | sendPing
  deriving DecidableEq, Repr

/-- The column `condition`. -/
inductive Condition where
  | none
  | beginCalled
  | guardTimeElapsed
  | gotOk
  | gotInitDone
  | apnIsEm
  | apnIsNotEm
  | gotSocketId
  | gotConnection
  | gotConnack
  | sentPublishQos0
  | sentSubscribe
  | gotPublishQos0
  | approachKeepaliveTime
  | gotSuback
  | gotPingack
  deriving DecidableEq, Repr

structure Row where
  state : State
  action : Action
  condition : Condition
  next : State
  deriving DecidableEq, Repr

/-- `statemachine.csv`.  A row without state and action belongs to the one above it. -/
def table : List Row :=
  [⟨.init, .waitForBeginCall, .beginCalled, .startXbee⟩,
    ⟨.startXbee, .beginCommandModeEntry, .none, .awaitCommandModeGuard0⟩,
    ⟨.awaitCommandModeGuard0, .pollTimer, .guardTimeElapsed, .escape⟩,
    ⟨.escape, .sendEscapeSequence, .none, .awaitCommandModeGuard1⟩,
    ⟨.awaitCommandModeGuard1, .pollTimer, .guardTimeElapsed, .awaitEscapeResponse⟩,
    ⟨.awaitEscapeResponse, .pollRx, .gotOk, .enableApiMode⟩,
    ⟨.enableApiMode, .sendApiModeCommand, .none, .awaitApiModeResponse⟩,
    ⟨.awaitApiModeResponse, .pollRx, .gotOk, .exitCommandMode⟩,
    ⟨.exitCommandMode, .sendExitCommand, .none, .awaitExitResponse⟩,
    ⟨.awaitExitResponse, .pollRx, .gotOk, .initXbee⟩,
    ⟨.initXbee, .initXbeeApi, .none, .awaitXbeeInitDone⟩,
    ⟨.awaitXbeeInitDone, .pollXbeeStatus, .gotInitDone, .readApn⟩,
    ⟨.readApn, .beginReadApnCommand, .none, .awaitApnResponse⟩,
    ⟨.awaitApnResponse, .pollXbeeStatus, .apnIsEm, .createSocket⟩,
    ⟨.awaitApnResponse, .pollXbeeStatus, .apnIsNotEm, .setApn⟩,
    ⟨.setApn, .beginSetApnCommand, .none, .createSocket⟩,
    ⟨.createSocket, .beginSocketCreation, .none, .awaitSocketId⟩,
    ⟨.awaitSocketId, .pollXbeeStatus, .gotSocketId, .notConnected⟩,
    ⟨.notConnected, .beginSocketConnection, .none, .connectingSocket⟩,
    ⟨.connectingSocket, .pollRx, .gotConnection, .connectMqtt⟩,
    ⟨.connectMqtt, .sendConnectPacket, .none, .awaitConnack⟩,
    ⟨.awaitConnack, .pollRx, .gotConnack, .standby⟩,
    ⟨.standby, .waitForPubSub, .sentPublishQos0, .standby⟩,
    ⟨.standby, .waitForPubSub, .sentSubscribe, .awaitSuback⟩,
    ⟨.standby, .waitForPubSub, .gotPublishQos0, .standby⟩,
    ⟨.standby, .waitForPubSub, .approachKeepaliveTime, .ping⟩,
    ⟨.awaitSuback, .pollRx, .gotSuback, .standby⟩,
    ⟨.ping, .sendPing, .none, .awaitPingack⟩,
    ⟨.awaitPingack, .pollRx, .gotPingack, .standby⟩]

/-- Rows that lead from a state to another one, the newest first. -/
inductive Path (start : State) : List Row → State → Prop where
  | nil : Path start [] start
  | cons {rows : List Row} {row : Row} : Path start rows row.state → row ∈ table →
      Path start (row :: rows) row.next

theorem Path.append {a b c : State} {old new : List Row} (h : Path b new c)
    (hold : Path a old b) : Path a (new ++ old) c := by
  induction h with
  | nil => exact hold
  | cons _ hmem ih => exact .cons ih hmem

theorem Path.single {row : Row} (h : row ∈ table) : Path row.state [row] row.next :=
  .cons .nil h

/-! ### Routes -/

/-- There is code for the condition. -/
def Condition.met : Condition → Bool
  | .beginCalled | .sentPublishQos0 | .sentSubscribe | .gotPublishQos0
  | .approachKeepaliveTime | .gotSuback | .gotPingack => false
  | _ => true

/-- From `start xbee` to `await apn response`. -/
def bootRows : List Row := (table.drop 1).take 12

/-- From `create socket` to `standby`. -/
def connectRows : List Row := (table.drop 16).take 6

/-- The ways through the table that the code has: over the APN that is right, over the one
that is set, and from `create socket` on. -/
def routes (start : State) : List (List Row) :=
  if start = .startXbee then
    [bootRows ++ (table.drop 13).take 1 ++ connectRows,
      bootRows ++ (table.drop 14).take 2 ++ connectRows]
  else [connectRows]

/-- The state after some rows, the oldest first. -/
def after (start : State) (rows : List Row) : State := (rows.getLast?.map (·.next)).getD start

/-- A row that can be followed goes on along a route. -/
private theorem routes_step : ∀ start ∈ [State.startXbee, State.createSocket],
    ∀ route ∈ routes start, ∀ k < route.length + 1, ∀ row ∈ table, row.condition.met = true →
      row.state = after start (route.take k) →
      ∃ route' ∈ routes start, route'.take (k + 1) = route.take k ++ [row] := by
  decide +kernel

theorem Path.route {start s : State} {rows : List Row} (h : Path start rows s)
    (hstart : start ∈ [State.startXbee, State.createSocket])
    (hmet : ∀ row ∈ rows, row.condition.met = true) :
    (∃ route ∈ routes start, rows.reverse = route.take rows.length ∧
      rows.length ≤ route.length) ∧ s = after start rows.reverse := by
  induction h with
  | nil =>
    refine ⟨?_, rfl⟩
    rcases List.mem_cons.1 hstart with rfl | hstart
    · exact ⟨_, List.mem_cons_self, rfl, Nat.zero_le _⟩
    · obtain rfl := List.mem_singleton.1 hstart
      exact ⟨_, List.mem_cons_self, rfl, Nat.zero_le _⟩
  | @cons rows row _ hmem ih =>
    obtain ⟨hrow, hrows⟩ := List.forall_mem_cons.1 hmet
    obtain ⟨⟨route, hroute, htake, hlen⟩, hafter⟩ := ih hrows
    rw [htake] at hafter
    obtain ⟨route', hroute', htake'⟩ := routes_step start hstart route hroute rows.length
      (Nat.lt_succ_of_le hlen) row hmem hrow hafter
    rw [← htake, ← List.reverse_cons] at htake'
    refine ⟨⟨route', hroute', htake'.symm, ?_⟩, ?_⟩
    · have hlen' := congrArg List.length htake'
      rw [List.length_take, List.length_reverse, List.length_cons] at hlen'
      rw [List.length_cons]
      omega
    · unfold after
      rw [List.reverse_cons, List.getLast?_concat]
      rfl

/-- The AT command of an action. -/
def Action.command? : Action → Option AtCommand
  | .beginReadApnCommand => some .readApn
  | .beginSetApnCommand => some .setApn
  | _ => none

end Design

namespace GB4XBee

/-- The state of the table that a radio without a session is in. -/
def State.design : State → Design.State
  | .start => .startXbee
  | .awaitCommandModeGuard0 => .awaitCommandModeGuard0
  | .beginCommandMode => .escape
  | .awaitCommandModeGuard1 => .awaitCommandModeGuard1
  | .awaitCommandModeResponse => .awaitEscapeResponse
  | .beginApiModeCommand => .enableApiMode
  | .awaitApiModeResponse => .awaitApiModeResponse
  | .beginCommandModeExit => .exitCommandMode
  | .awaitCommandModeExitResponse => .awaitExitResponse
  | .beginInitXBeeApi => .initXbee
  | .awaitInitXBeeApiDone => .awaitXbeeInitDone
  | .beginReadApn => .readApn
  | .awaitReadApnResponse => .awaitApnResponse
  | .setApn => .setApn
  | .socketCooldownPeriod | .beginCreateSocket => .createSocket
  | .awaitSocketId | .beginSetTlsProfile | .awaitTlsProfileResponse => .awaitSocketId
  | _ => .notConnected

variable {r : GB4XBee} {env : Env}

theorem State.design_ne (s : State) : s.design ≠ .connectMqtt ∧ s.design ≠ .standby := by
  cases s <;> decide

/-- Below `SOCKET_READY` there is no socket to connect. -/
theorem State.design_ne_notConnected {s : State} (h : s < .socketReady) :
    s.design ≠ .notConnected := by
  cases s <;> first | decide | exact absurd h (by decide)

/-- The radio only creates a socket anew when the identifier did not come in time. -/
theorem timeout_of_beginCreateSocket (hs : r.mState = .awaitSocketId)
    (h : (r.poll env).mState = .beginCreateSocket) :
    socketCreateTimeout < elapsed (env.millis .awaitSocketId) r.socketCreateStartTime := by
  have hstate : (r.devTick env.frames).mState = .awaitSocketId := by rw [devTick_mState, hs]
  have hstart : (r.devTick env.frames).socketCreateStartTime = r.socketCreateStartTime :=
    devTick_timer .socketCreate r env.frames
  rw [poll_main (by rw [hs]; decide)] at h
  simp only [mainStep, hstate, hstart] at h
  split at h
  · split at h
    · rename_i htime
      exact htime
    · exact absurd (hstate.symm.trans h) (by decide)
  · split at h
    · exact absurd h (by simp [resetSocket])
    · exact absurd h (by simp)

end GB4XBee

namespace GB4MQTT

open Design (Row table Path)
open GB4XBee (Notified)

variable {m m' : GB4MQTT} {paho : Paho} {env : Env}

/-- The state of the table that a session over a socket is in. -/
def State.design : State → Design.State
  | .connectingSocket => .connectingSocket
  | .connectMqtt => .connectMqtt
  | .awaitConnack => .awaitConnack
  | .beginStandby | .standby => .standby
  | .awaitSuback => .awaitSuback
  | .ping => .ping
  | .awaitPingack => .awaitPingack
  | _ => .notConnected

/-- The state of the table that an object is in.  The radio counts until its socket is
ready, then the session does. -/
def design (m : GB4MQTT) : Design.State :=
  if m.radio.mState < .socketReady then m.radio.mState.design else m.state.design

/-- The poll takes a packet for an accepting CONNACK.  The second way is the status of a
`PUBLISH`, which nobody assigns. -/
def GotConnack (m : GB4MQTT) (paho : Paho) (env : Env) : Prop :=
  let m := m.pollRadio env
  let inc := m.readIncoming paho env
  m.radio.gReceive.mPending = true ∧
    (inc.type = .connack ∧
        paho.deserializeConnack inc.message inc.messageLen = some connectionAccepted ∨
      inc.type = .publish ∧ env.status = .gotConnack)

/-- A condition of the table holds in a poll of an object.  A poll that stays in `standby`
follows no row, and there is no code that subscribes or pings. -/
def Holds (m : GB4MQTT) (paho : Paho) (env : Env) : Design.Condition → Prop
  | .none => True
  | .guardTimeElapsed => m.radio.GuardOver env
  | .gotOk => 3 ≤ env.serial.length ∧ env.serial.take 2 = GB4XBee.okBytes
  | .gotInitDone => env.queryStatus = 0
  | .apnIsEm => (m.radio.devTick env.frames).gotAccessPointName = true ∧
      (m.radio.devTick env.frames).needSetAccessPointName = false
  | .apnIsNotEm => (m.radio.devTick env.frames).gotAccessPointName = true ∧
      (m.radio.devTick env.frames).needSetAccessPointName = true
  | .gotSocketId => m.radio.Notified env .sockCreateResp (·.sockMesg) SockMesg.success
  | .gotConnection => m.radio.Notified env .sockState (·.stateMesg) StateMesg.connected
  | .gotConnack => .socketReady ≤ (m.radio.poll env).mState ∧ m.GotConnack paho env
  | .beginCalled | .sentPublishQos0 | .sentSubscribe | .gotPublishQos0
  | .approachKeepaliveTime | .gotSuback | .gotPingack => False

/-- The state of the table that a poll leads to.  What the session makes of a new socket in
the same poll is left out. -/
def leadsTo (m : GB4MQTT) (paho : Paho) (env : Env) : Design.State :=
  if m.radio.mState < .socketReady then (m.radio.poll env).mState.design
  else (m.poll paho env).2.design

/-- A poll looks for the condition of the row: whatever it reads from outside, it leads
there exactly when the condition holds. -/
def LooksFor (m : GB4MQTT) (paho : Paho) (row : Row) : Prop :=
  ∀ env, m.leadsTo paho env = row.next ↔ m.Holds paho env row.condition

/-- The poll does the action of the row. -/
def Does (m : GB4MQTT) (paho : Paho) (env : Env) (row : Row) : Prop :=
  let m' := (m.poll paho env).2
  let events := m.added m'
  match row.action with
  | .beginCommandModeEntry =>
    m'.radio.guardTimeStart = (env.millis .startCommandModeGuard).toInt32
  | .sendEscapeSequence => ∃ time, .serialWrite GB4XBee.escapeSequence time ∈ events
  | .sendApiModeCommand => ∃ time, .serialWrite GB4XBee.apiModeCommand time ∈ events
  | .sendExitCommand => ∃ time, .serialWrite GB4XBee.commandModeExit time ∈ events
  | .initXbeeApi => .initDevice ∈ events
  | .beginReadApnCommand => .commandSend .readApn 0 ∈ events
  | .beginSetApnCommand => .commandSend .setApn 0 ∈ events
  | .beginSocketCreation => ∃ sock, 0 ≤ sock ∧ .socketCreate sock ∈ events
  | .beginSocketConnection => .socketConnect .socketReady 0 ∈ events
  | .sendConnectPacket => .connectRequest .connectSent ∈ events
  | .sendPing => .pingRequest .pingSent ∈ events
  | .waitForBeginCall | .pollTimer | .pollRx | .pollXbeeStatus | .waitForPubSub =>
    m.LooksFor paho row

/-- The poll follows these rows, the newest first. -/
structure Followed (m : GB4MQTT) (paho : Paho) (env : Env) (rows : List Row) : Prop where
  path : Path m.design rows (m.poll paho env).2.design
  holds : ∀ row ∈ rows, m.Holds paho env row.condition
  done : ∀ row ∈ rows, m.Does paho env row

/-- The poll goes on along the row without its action: the driver refuses the command. -/
structure Passes (m : GB4MQTT) (paho : Paho) (env : Env) (row : Row) : Prop where
  path : Path m.design [row] (m.poll paho env).2.design
  holds : m.Holds paho env row.condition
  refused : ∃ k, row.action.command? = some k ∧ ¬GB4XBee.Takes env k
  undone : ¬m.Does paho env row

/-- The poll goes back to `create socket`: the socket was reset, or its identifier did not
come in time. -/
structure Restarts (m : GB4MQTT) (paho : Paho) (env : Env) : Prop where
  started : .awaitSocketId ≤ m.radio.mState
  design : (m.poll paho env).2.design = .createSocket
  why : .resetSocket ∈ m.added (m.poll paho env).2 ∨
    m.radio.mState = .awaitSocketId ∧ GB4XBee.socketCreateTimeout <
      elapsed (env.millis .awaitSocketId) m.radio.socketCreateStartTime

theorem design_of_lt (h : m.radio.mState < .socketReady) :
    m.design = m.radio.mState.design :=
  if_pos h

theorem design_of_ge (h : .socketReady ≤ m.radio.mState) : m.design = m.state.design :=
  if_neg (GB4XBee.State.not_lt.2 h)

theorem Followed.stays (h : (m.poll paho env).2.design = m.design) :
    m.Followed paho env [] :=
  ⟨by rw [h]; exact .nil, List.forall_mem_nil _, List.forall_mem_nil _⟩

theorem Followed.single {row : Row} (hmem : row ∈ table) (hs : m.design = row.state)
    (hnext : (m.poll paho env).2.design = row.next) (hholds : m.Holds paho env row.condition)
    (hdone : m.Does paho env row) : m.Followed paho env [row] := by
  refine ⟨?_, List.forall_mem_singleton.2 hholds, List.forall_mem_singleton.2 hdone⟩
  rw [hs, hnext]
  exact .single hmem

/-! ## The startup -/

/-- The APN that was read decides where the startup goes on. -/
theorem startupStep_apn {r : GB4XBee} (hs : r.mState = .awaitReadApnResponse)
    (hgot : (r.devTick env.frames).gotAccessPointName = true) :
    (r.startupStep env).mState =
      if (r.devTick env.frames).needSetAccessPointName = true then .setApn
      else .beginCreateSocket := by
  have hnot : ¬(r.devTick env.frames).gotAccessPointName = false :=
    fun hfalse => absurd (hfalse.symm.trans hgot) Bool.false_ne_true
  simp only [GB4XBee.startupStep, hs, GB4XBee.pollAPNStatus, if_neg hnot]
  by_cases hneed : (r.devTick env.frames).needSetAccessPointName = true
  · simp only [if_pos hneed]
  · simp only [if_neg hneed]

/-- The bytes of a command that a startup poll wrote. -/
theorem mem_added_of_sendCommand {bytes : List UInt8}
    (h : (m.poll paho env).2.radio.log = (m.radio.sendCommand bytes env).log) :
    ∃ time, .serialWrite bytes time ∈ m.added (m.poll paho env).2 := by
  rw [added_eq [.serialWrite bytes (env.millis .responseStart)] h]
  exact ⟨_, List.mem_singleton.2 rfl⟩

theorem leadsTo_startup (hlow : m.radio.mState < .socketCooldownPeriod) (paho : Paho)
    (env : Env) : m.leadsTo paho env = (m.radio.startupStep env).mState.design := by
  have hready : m.radio.mState < .socketReady := Nat.lt_trans hlow (by decide)
  unfold leadsTo
  rw [if_pos hready, GB4XBee.poll_startup hlow]

/-- A state that waits for its answer looks for it. -/
theorem looksFor_answer {row : Row} {s s' : GB4XBee.State} (hs : m.radio.mState = s)
    (hnext : GB4XBee.startupNext s = [s']) (hstate : s.design ≠ row.next)
    (hrow : s'.design = row.next)
    (hiff : ∀ env, m.radio.Answered env ↔ m.Holds paho env row.condition) :
    m.LooksFor paho row := by
  intro env
  have hlow : m.radio.mState < .socketCooldownPeriod := by
    rw [hs]
    cases s <;> first | decide | exact absurd hnext.symm (List.cons_ne_nil _ _)
  rw [leadsTo_startup hlow, ← hiff]
  by_cases hans : m.radio.Answered env
  · have hmem := GB4XBee.startupStep_answered hlow hans
    rw [hs, hnext] at hmem
    rw [List.mem_singleton.1 hmem, hrow]
    exact ⟨fun _ => hans, fun _ => rfl⟩
  · rw [GB4XBee.startupStep_unanswered hans, hs]
    exact ⟨fun h => absurd h hstate, fun h => absurd h hans⟩

/-- The two rows of `await apn response`. -/
theorem looksFor_apn (hs : m.radio.mState = .awaitReadApnResponse) :
    m.LooksFor paho ⟨.awaitApnResponse, .pollXbeeStatus, .apnIsEm, .createSocket⟩ ∧
      m.LooksFor paho ⟨.awaitApnResponse, .pollXbeeStatus, .apnIsNotEm, .setApn⟩ := by
  have hlow : m.radio.mState < .socketCooldownPeriod := by rw [hs]; decide
  have hleads : ∀ env, (m.radio.devTick env.frames).gotAccessPointName = true →
      m.leadsTo paho env = if (m.radio.devTick env.frames).needSetAccessPointName = true
        then .setApn else .createSocket := by
    intro env hgot
    rw [leadsTo_startup hlow, startupStep_apn hs hgot]
    split <;> rfl
  have hstays : ∀ env, ¬(m.radio.devTick env.frames).gotAccessPointName = true →
      m.leadsTo paho env = .awaitApnResponse := by
    intro env hnot
    rw [leadsTo_startup hlow, GB4XBee.startupStep_unanswered (mt (GB4XBee.answered_apn_iff hs).1
      hnot), hs]
    rfl
  refine ⟨fun env => ?_, fun env => ?_⟩ <;>
    by_cases hgot : (m.radio.devTick env.frames).gotAccessPointName = true
  · rw [hleads env hgot]
    cases hneed : (m.radio.devTick env.frames).needSetAccessPointName with
    | false => exact ⟨fun _ => ⟨hgot, hneed⟩, fun _ => rfl⟩
    | true => exact ⟨nofun, fun h => absurd (h.2.symm.trans hneed) Bool.false_ne_true⟩
  · rw [hstays env hgot]
    exact ⟨nofun, fun h => absurd h.1 hgot⟩
  · rw [hleads env hgot]
    cases hneed : (m.radio.devTick env.frames).needSetAccessPointName with
    | false => exact ⟨nofun, fun h => absurd (hneed.symm.trans h.2) Bool.false_ne_true⟩
    | true => exact ⟨fun _ => ⟨hgot, hneed⟩, fun _ => rfl⟩
  · rw [hstays env hgot]
    exact ⟨nofun, fun h => absurd h.1 hgot⟩

theorem followed_startup (hlow : m.radio.mState < .socketCooldownPeriod) (paho : Paho)
    (env : Env) : (∃ rows, m.Followed paho env rows) ∨ ∃ row, m.Passes paho env row := by
  have hpoll : (m.poll paho env).2.radio = m.radio.startupStep env := by
    rw [poll_startup hlow, GB4XBee.poll_startup hlow]
  have hbelow : m.design = m.radio.mState.design :=
    design_of_lt (Nat.lt_trans hlow (by decide))
  have hbelow' : (m.poll paho env).2.design = (m.radio.startupStep env).mState.design := by
    rw [← hpoll]
    refine design_of_lt ?_
    rw [hpoll]
    exact Nat.lt_of_le_of_lt (GB4XBee.startupStep_step env hlow).mState (by decide)
  by_cases hans : m.radio.Answered env
  · have hnext := GB4XBee.startupStep_answered hlow hans
    have hpath : ∀ {s s' : GB4XBee.State}, ∀ row ∈ table, m.radio.mState = s →
        (m.radio.startupStep env).mState = s' → s.design = row.state → s'.design = row.next →
        Path m.design [row] (m.poll paho env).2.design := by
      intro s s' row hmem hs hs' hstate hnext
      rw [hbelow, hs, hstate, hbelow', hs', hnext]
      exact .single hmem
    have follow : ∀ {s s' : GB4XBee.State}, ∀ row ∈ table, m.radio.mState = s →
        (m.radio.startupStep env).mState = s' → s.design = row.state → s'.design = row.next →
        m.Holds paho env row.condition → m.Does paho env row →
        (∃ rows, m.Followed paho env rows) ∨ ∃ row, m.Passes paho env row := by
      intro s s' row hmem hs hs' hstate hnext hholds hdone
      exact Or.inl ⟨[row], hpath row hmem hs hs' hstate hnext,
        List.forall_mem_singleton.2 hholds, List.forall_mem_singleton.2 hdone⟩
    have hlog := congrArg GB4XBee.log hpoll
    cases hs : m.radio.mState <;> rw [hs] at hlow hnext
    case start =>
      refine follow ⟨.startXbee, .beginCommandModeEntry, .none, .awaitCommandModeGuard0⟩
        (by decide) hs (List.mem_singleton.1 hnext) rfl rfl trivial ?_
      show (m.poll paho env).2.radio.guardTimeStart = _
      rw [hpoll]
      simp only [GB4XBee.startupStep, hs]
      rfl
    case awaitCommandModeGuard0 =>
      exact follow ⟨.awaitCommandModeGuard0, .pollTimer, .guardTimeElapsed, .escape⟩
        (by decide) hs (List.mem_singleton.1 hnext) rfl rfl (hans.guard (Or.inl hs))
        (looksFor_answer hs rfl (by decide) rfl fun _ => GB4XBee.answered_guard_iff (Or.inl hs))
    case beginCommandMode =>
      refine follow ⟨.escape, .sendEscapeSequence, .none, .awaitCommandModeGuard1⟩
        (by decide) hs (List.mem_singleton.1 hnext) rfl rfl trivial (mem_added_of_sendCommand ?_)
      rw [hlog]
      simp only [GB4XBee.startupStep, hs]
      rfl
    case awaitCommandModeGuard1 =>
      exact follow ⟨.awaitCommandModeGuard1, .pollTimer, .guardTimeElapsed, .awaitEscapeResponse⟩
        (by decide) hs (List.mem_singleton.1 hnext) rfl rfl (hans.guard (Or.inr hs))
        (looksFor_answer hs rfl (by decide) rfl fun _ => GB4XBee.answered_guard_iff (Or.inr hs))
    case awaitCommandModeResponse =>
      exact follow ⟨.awaitEscapeResponse, .pollRx, .gotOk, .enableApiMode⟩
        (by decide) hs (List.mem_singleton.1 hnext) rfl rfl (hans.response (Or.inl hs))
        (looksFor_answer hs rfl (by decide) rfl fun _ =>
          GB4XBee.answered_response_iff (Or.inl hs))
    case beginApiModeCommand =>
      refine follow ⟨.enableApiMode, .sendApiModeCommand, .none, .awaitApiModeResponse⟩
        (by decide) hs (List.mem_singleton.1 hnext) rfl rfl trivial (mem_added_of_sendCommand ?_)
      rw [hlog]
      simp only [GB4XBee.startupStep, hs]
      rfl
    case awaitApiModeResponse =>
      exact follow ⟨.awaitApiModeResponse, .pollRx, .gotOk, .exitCommandMode⟩
        (by decide) hs (List.mem_singleton.1 hnext) rfl rfl (hans.response (Or.inr (Or.inl hs)))
        (looksFor_answer hs rfl (by decide) rfl fun _ =>
          GB4XBee.answered_response_iff (Or.inr (Or.inl hs)))
    case beginCommandModeExit =>
      refine follow ⟨.exitCommandMode, .sendExitCommand, .none, .awaitExitResponse⟩
        (by decide) hs (List.mem_singleton.1 hnext) rfl rfl trivial (mem_added_of_sendCommand ?_)
      rw [hlog]
      simp only [GB4XBee.startupStep, hs]
      rfl
    case awaitCommandModeExitResponse =>
      exact follow ⟨.awaitExitResponse, .pollRx, .gotOk, .initXbee⟩
        (by decide) hs (List.mem_singleton.1 hnext) rfl rfl (hans.response (Or.inr (Or.inr hs)))
        (looksFor_answer hs rfl (by decide) rfl fun _ =>
          GB4XBee.answered_response_iff (Or.inr (Or.inr hs)))
    case beginInitXBeeApi =>
      refine follow ⟨.initXbee, .initXbeeApi, .none, .awaitXbeeInitDone⟩
        (by decide) hs (List.mem_singleton.1 hnext) rfl rfl trivial ?_
      have hadded : m.added (m.poll paho env).2 = [.initDevice] := by
        refine added_eq [.initDevice] ?_
        rw [hlog]
        simp only [GB4XBee.startupStep, hs]
        rfl
      show Event.initDevice ∈ m.added (m.poll paho env).2
      rw [hadded]
      exact List.mem_singleton.2 rfl
    case awaitInitXBeeApiDone =>
      exact follow ⟨.awaitXbeeInitDone, .pollXbeeStatus, .gotInitDone, .readApn⟩
        (by decide) hs (List.mem_singleton.1 hnext) rfl rfl (hans.query hs)
        (looksFor_answer hs rfl (by decide) rfl fun _ => GB4XBee.answered_query_iff hs)
    case beginReadApn =>
      have hadded : m.added (m.poll paho env).2 = GB4XBee.commandEvents env .readApn :=
        added_eq _ (hlog.trans (GB4XBee.startupStep_beginReadApn hs))
      have hdoes : m.Does paho env ⟨.readApn, .beginReadApnCommand, .none, .awaitApnResponse⟩ ↔
          GB4XBee.Takes env .readApn := by
        show _ ∈ m.added (m.poll paho env).2 ↔ _
        rw [hadded]
        exact GB4XBee.mem_commandEvents
      by_cases htakes : GB4XBee.Takes env .readApn
      · exact follow ⟨.readApn, .beginReadApnCommand, .none, .awaitApnResponse⟩
          (by decide) hs (List.mem_singleton.1 hnext) rfl rfl trivial (hdoes.2 htakes)
      · refine Or.inr ⟨⟨.readApn, .beginReadApnCommand, .none, .awaitApnResponse⟩, ?_, trivial,
          ⟨.readApn, rfl, htakes⟩, fun h => htakes (hdoes.1 h)⟩
        exact hpath _ (by decide) hs (List.mem_singleton.1 hnext) rfl rfl
    case awaitReadApnResponse =>
      have hgot := hans.apn hs
      have hapn := startupStep_apn hs hgot
      obtain ⟨hlooksEm, hlooksNot⟩ := @looksFor_apn m paho hs
      split at hapn
      · rename_i hneed
        exact follow ⟨.awaitApnResponse, .pollXbeeStatus, .apnIsNotEm, .setApn⟩ (by decide) hs
          hapn rfl rfl ⟨hgot, hneed⟩ hlooksNot
      · rename_i hneed
        exact follow ⟨.awaitApnResponse, .pollXbeeStatus, .apnIsEm, .createSocket⟩ (by decide) hs
          hapn rfl rfl ⟨hgot, (Bool.not_eq_true _).mp hneed⟩ hlooksEm
    case setApn =>
      have hadded : m.added (m.poll paho env).2 =
          GB4XBee.commandEvents env .writeChanges ++ GB4XBee.commandEvents env .setApn :=
        added_eq _ (hlog.trans (GB4XBee.startupStep_setApn hs))
      have hdoes : m.Does paho env ⟨.setApn, .beginSetApnCommand, .none, .createSocket⟩ ↔
          GB4XBee.Takes env .setApn := by
        show _ ∈ m.added (m.poll paho env).2 ↔ _
        rw [hadded, List.mem_append, GB4XBee.mem_commandEvents]
        exact ⟨fun h => h.resolve_left (GB4XBee.mem_commandEvents_ne (by decide)), Or.inr⟩
      by_cases htakes : GB4XBee.Takes env .setApn
      · exact follow ⟨.setApn, .beginSetApnCommand, .none, .createSocket⟩
          (by decide) hs (List.mem_singleton.1 hnext) rfl rfl trivial (hdoes.2 htakes)
      · refine Or.inr ⟨⟨.setApn, .beginSetApnCommand, .none, .createSocket⟩, ?_, trivial,
          ⟨.setApn, rfl, htakes⟩, fun h => htakes (hdoes.1 h)⟩
        exact hpath _ (by decide) hs (List.mem_singleton.1 hnext) rfl rfl
    all_goals exact absurd hlow (by decide)
  · refine Or.inl ⟨[], .stays ?_⟩
    rw [hbelow, hbelow', GB4XBee.startupStep_unanswered hans]

/-! ## Up to the socket -/

/-- A poll that ends below `SOCKET_READY` is a poll of the radio. -/
theorem followed_below (hhigh : .socketCooldownPeriod ≤ m.radio.mState)
    (hlt : (m.radio.poll env).mState < .socketReady)
    (heq : (m.poll paho env).2 = { m.pollRadio env with state := .notConnected }) :
    (∃ rows, m.Followed paho env rows) ∨ m.Restarts paho env := by
  have hradio : (m.poll paho env).2.radio = m.radio.poll env := by rw [heq]; rfl
  have hdesign : (m.poll paho env).2.design = (m.radio.poll env).mState.design := by
    rw [← hradio]
    refine design_of_lt ?_
    rw [hradio]
    exact hlt
  have hbefore : m.radio.mState < .awaitSocketId → m.design = .createSocket := by
    intro hlow
    rw [design_of_lt (Nat.lt_trans hlow (by decide))]
    cases hs : m.radio.mState <;> rw [hs] at hhigh hlow <;>
      first | rfl | exact absurd hhigh (by decide) | exact absurd hlow (by decide)
  -- a reset only counts as a restart once a socket was created
  have hreset : (m.radio.poll env).mState.design = .createSocket →
      (.awaitSocketId ≤ m.radio.mState → .resetSocket ∈ m.added (m.poll paho env).2 ∨
        m.radio.mState = .awaitSocketId ∧ GB4XBee.socketCreateTimeout <
          elapsed (env.millis .awaitSocketId) m.radio.socketCreateStartTime) →
      (∃ rows, m.Followed paho env rows) ∨ m.Restarts paho env := by
    intro hcreate hwhy
    by_cases hlow : m.radio.mState < .awaitSocketId
    · exact Or.inl ⟨[], .stays (by rw [hdesign, hcreate, hbefore hlow])⟩
    · have hge := GB4XBee.State.not_lt.1 hlow
      exact Or.inr ⟨hge, by rw [hdesign, hcreate], hwhy hge⟩
  have hlog : ∀ new, (m.radio.poll env).log = new ++ m.radio.log →
      m.added (m.poll paho env).2 = new := fun new h => added_eq new (by rw [hradio, h])
  rcases m.radio.poll_cases env with ⟨hlow, _⟩ | ⟨_, hstep⟩
  · exact absurd hlow (GB4XBee.State.not_lt.2 hhigh)
  · have htick := m.radio.devTick_mState env.frames
    have hticklog := m.radio.devTick_log env.frames
    have htimeout := @GB4XBee.timeout_of_beginCreateSocket m.radio env
    generalize m.radio.poll env = r' at hstep hlt hdesign hreset hlog htimeout
    cases hstep with
    | stay =>
      refine Or.inl ⟨[], .stays ?_⟩
      rw [hdesign, htick]
      rw [htick] at hlt
      exact (design_of_lt hlt).symm
    | advance hadv =>
      cases hadv with
      | cooledDown hs =>
        rw [htick] at hs
        exact hreset rfl fun hge => absurd hge (by rw [hs]; decide)
      | createTimeout hs =>
        rw [htick] at hs
        exact hreset rfl fun _ => Or.inr ⟨hs, htimeout hs rfl⟩
      | created _ =>
        exact absurd (show GB4XBee.State.socketReady < .socketReady from hlt) (by decide)
      | connecting _ _ =>
        exact absurd (show GB4XBee.State.awaitConnectResponse < .socketReady from hlt) (by decide)
      | answered _ =>
        exact absurd (show GB4XBee.State.awaitConnection < .socketReady from hlt) (by decide)
      | connected _ =>
        exact absurd (show GB4XBee.State.connected < .socketReady from hlt) (by decide)
    | reset =>
      refine hreset rfl fun _ => Or.inl ?_
      rw [hlog (.resetSocket :: tickEvents env.frames) (congrArg (Event.resetSocket :: ·) hticklog)]
      exact List.mem_cons_self
    | create hs hsock =>
      rw [htick] at hs
      refine Or.inl ⟨_, @Followed.single m paho env
        ⟨.createSocket, .beginSocketCreation, .none, .awaitSocketId⟩ (by decide)
        (hbefore (by rw [hs]; decide)) hdesign trivial ⟨env.sockCreate, hsock, ?_⟩⟩
      rw [hlog (.socketCreate env.sockCreate :: tickEvents env.frames)
        (congrArg (Event.socketCreate env.sockCreate :: ·) hticklog)]
      exact List.mem_cons_self
    | createFailed hs _ =>
      rw [htick] at hs
      exact hreset rfl fun hge => absurd hge (by rw [hs]; decide)

/-! ## Over the socket -/

/-- What the switch of a poll makes of the state of the table. -/
structure Switched (m : GB4MQTT) (paho : Paho) (env : Env) (rows : List Row) : Prop where
  path : Path m.state.design rows (m.poll paho env).2.design
  holds : ∀ row ∈ rows, m.Holds paho env row.condition
  done : ∀ row ∈ rows, m.Does paho env row

theorem Switched.stays (hpoll : (m.poll paho env).2 = m') (h : .socketReady ≤ m'.radio.mState)
    (hs : m'.state.design = m.state.design) : m.Switched paho env [] := by
  refine ⟨?_, List.forall_mem_nil _, List.forall_mem_nil _⟩
  rw [hpoll, design_of_ge h, hs]
  exact .nil

theorem Switched.single {row : Row} (hmem : row ∈ table) (hpoll : (m.poll paho env).2 = m')
    (h : .socketReady ≤ m'.radio.mState) (hs : m.state.design = row.state)
    (hnext : m'.state.design = row.next) (hholds : m.Holds paho env row.condition)
    (hdone : m.Does paho env row) : m.Switched paho env [row] := by
  refine ⟨?_, List.forall_mem_singleton.2 hholds, List.forall_mem_singleton.2 hdone⟩
  rw [hpoll, design_of_ge h, hs, hnext]
  exact .single hmem

theorem gotConnack_of_status (hp : (m.pollRadio env).radio.gReceive.mPending = true)
    (h : dispatchStatus paho env ((m.pollRadio env).readIncoming paho env) = .gotConnack) :
    m.GotConnack paho env := by
  refine ⟨hp, ?_⟩
  generalize (m.pollRadio env).readIncoming paho env = inc at h ⊢
  cases htype : inc.type
  case connack =>
    simp only [dispatchStatus, htype] at h
    exact Or.inl ⟨rfl, checkConnack_eq_gotConnack.1 h⟩
  case publish =>
    simp only [dispatchStatus, htype] at h
    exact Or.inr ⟨rfl, h⟩
  all_goals
    simp only [dispatchStatus, htype] at h
    exact absurd h (by decide)

theorem gotConnack_iff : m.GotConnack paho env ↔
    ((m.pollRadio env).dispatchIncomming paho env).1 = .gotConnack := by
  rcases (m.pollRadio env).dispatchIncomming_cases paho env with ⟨hp, heq⟩ | ⟨hp, _, _, heq⟩
  · rw [heq]
    exact ⟨fun h => absurd (hp.symm.trans h.1) Bool.false_ne_true, nofun⟩
  · rw [heq]
    refine ⟨fun h => ?_, fun h => gotConnack_of_status hp h⟩
    unfold GotConnack at h
    dsimp only at h ⊢
    unfold dispatchStatus
    rcases h.2 with ⟨htype, hcode⟩ | ⟨htype, hstatus⟩
    · rw [htype]
      exact checkConnack_eq_gotConnack.2 hcode
    · rw [htype]
      exact hstatus

/-- A poll that ends below `SOCKET_READY` ends in a state of the radio. -/
theorem poll_design_of_lt (h : (m.radio.poll env).mState < .socketReady) :
    (m.poll paho env).2.design = (m.radio.poll env).mState.design := by
  rcases m.poll_cases paho env with ⟨_, heq⟩ | ⟨hge, _⟩
  · rw [heq]
    exact design_of_lt h
  · exact absurd h (GB4XBee.State.not_lt.2 hge)

theorem looksFor_socketId (hs : m.radio.mState = .awaitSocketId) :
    m.LooksFor paho ⟨.awaitSocketId, .pollXbeeStatus, .gotSocketId, .notConnected⟩ := by
  intro env
  have hleads : m.leadsTo paho env = (m.radio.poll env).mState.design :=
    if_pos (by rw [hs]; decide)
  show m.leadsTo paho env = .notConnected ↔ m.radio.Notified env .sockCreateResp _ _
  rw [hleads, ← GB4XBee.poll_socketReady_iff hs]
  refine ⟨fun h => ?_, fun h => by rw [h]; rfl⟩
  have hge : .socketReady ≤ (m.radio.poll env).mState :=
    GB4XBee.State.not_lt.1 fun hlt => GB4XBee.State.design_ne_notConnected hlt h
  rcases (GB4XBee.poll_from hge).2 with hf | ⟨_, hf⟩ | ⟨hf, _⟩ | ⟨hf, _⟩ | ⟨hf, _⟩
  · rw [hf, hs] at hge
    exact absurd hge (by decide)
  · exact hf
  · exact absurd (hs.symm.trans hf) (by decide)
  · exact absurd (hs.symm.trans hf) (by decide)
  · rw [hs] at hf
    exact absurd hf (by decide)

theorem looksFor_connection (hs : m.state = .connectingSocket)
    (hr : m.radio.mState = .awaitConnection) :
    m.LooksFor paho ⟨.connectingSocket, .pollRx, .gotConnection, .connectMqtt⟩ := by
  intro env
  have hleads : m.leadsTo paho env = (m.poll paho env).2.design :=
    if_neg (by rw [hr]; decide)
  show m.leadsTo paho env = .connectMqtt ↔ m.radio.Notified env .sockState _ _
  rw [hleads, ← GB4XBee.poll_connected_iff hr]
  by_cases hlt : (m.radio.poll env).mState < .socketReady
  · rw [poll_design_of_lt hlt]
    refine ⟨fun h => absurd h (GB4XBee.State.design_ne _).1, fun h => ?_⟩
    rw [h] at hlt
    exact absurd hlt (by decide)
  have hge := GB4XBee.State.not_lt.1 hlt
  obtain ⟨hwait, hconn⟩ := @mainStep_connectingSocket (m.pollRadio env) paho env hs
  rw [poll_eq_mainStep hge]
  rcases (GB4XBee.poll_from hge).2 with hf | ⟨hf, _⟩ | ⟨hf, _⟩ | ⟨hf, _⟩ | ⟨_, hf⟩
  · rw [hr] at hf
    rw [hwait (Or.inl hf), design_of_ge hge, hf]
    exact ⟨fun h => absurd h (by rw [show (m.pollRadio env).state = _ from hs]; decide), nofun⟩
  · exact absurd (hr.symm.trans hf) (by decide)
  · exact absurd (hr.symm.trans hf) (by decide)
  · exact absurd (hr.symm.trans hf) (by decide)
  · rw [hconn hf, design_of_ge hge]
    exact ⟨fun _ => hf, fun _ => rfl⟩

theorem looksFor_connack (hs : m.state = .awaitConnack) (hr : .socketReady ≤ m.radio.mState) :
    m.LooksFor paho ⟨.awaitConnack, .pollRx, .gotConnack, .standby⟩ := by
  intro env
  have hleads : m.leadsTo paho env = (m.poll paho env).2.design :=
    if_neg (GB4XBee.State.not_lt.2 hr)
  show m.leadsTo paho env = .standby ↔
    .socketReady ≤ (m.radio.poll env).mState ∧ m.GotConnack paho env
  rw [hleads]
  by_cases hlt : (m.radio.poll env).mState < .socketReady
  · rw [poll_design_of_lt hlt]
    exact ⟨fun h => absurd h (GB4XBee.State.design_ne _).2,
      fun h => absurd hlt (GB4XBee.State.not_lt.2 h.1)⟩
  have hge := GB4XBee.State.not_lt.1 hlt
  have hstate : (m.pollRadio env).state = .awaitConnack := hs
  have hradio := (m.pollRadio env).dispatchIncomming_mState paho env
  obtain ⟨hsnd, hiff, hlisten⟩ := (m.pollRadio env).pollConnackStatus_cases paho env
  rw [poll_eq_mainStep hge, gotConnack_iff]
  simp only [mainStep, hstate, hsnd]
  split
  · rename_i hstatus
    rw [design_of_ge (by rw [hradio]; exact hge), dispatchIncomming_state, hstate, hlisten hstatus]
    exact ⟨fun h => absurd h (by decide), fun h => absurd h.2 (by decide)⟩
  · rename_i hstatus
    rw [design_of_ge (by show _ ≤ _; rw [hradio]; exact hge)]
    exact ⟨fun _ => ⟨hge, hiff.1 hstatus⟩, fun _ => rfl⟩
  · rename_i hnot
    have hdrop : (((m.pollRadio env).dispatchIncomming paho env).2.drop env).design =
        .createSocket := rfl
    rw [hdrop]
    exact ⟨fun h => absurd h (by decide), fun h => absurd (hiff.2 h.2) hnot⟩

/-- A poll of a session that waits for its connection finds the radio waiting for it, when
it ends connected. -/
theorem awaitConnection_of_connected (hinv : m.Inv) (hs : m.state = .connectingSocket)
    (hr : (m.radio.poll env).mState = .connected) : m.radio.mState = .awaitConnection := by
  have hge : .socketReady ≤ (m.radio.poll env).mState := by rw [hr]; decide
  have hbefore := (hinv.inStep.connecting hs).2
  rcases (GB4XBee.poll_from hge).2 with hf | ⟨_, hf⟩ | ⟨_, _, hf⟩ | ⟨_, hf⟩ | ⟨hf, _⟩
  · rw [← hf, hr] at hbefore
    exact absurd hbefore (by decide)
  · exact absurd (hr.symm.trans hf) (by decide)
  · exact absurd (hr.symm.trans hf) (by decide)
  · exact absurd (hr.symm.trans hf) (by decide)
  · rcases hf with hf | hf | hf
    · exact hf
    · rw [hf] at hbefore
      exact absurd hbefore (by decide)
    · rw [hf] at hbefore
      exact absurd hbefore (by decide)

theorem switched (hinv : m.Inv) (hge : .socketReady ≤ (m.radio.poll env).mState)
    (hstep : SwitchStep (m.pollRadio env) paho env m') (hpoll : (m.poll paho env).2 = m') :
    (∃ rows, m.Switched paho env rows) ∨
      m'.design = .createSocket ∧ .resetSocket ∈ m.added m' := by
  have hmid := hinv.pollRadio hge
  have hticked := (GB4XBee.poll_ticked hge).1
  have hadded : ∀ {m' : GB4MQTT} new, m'.radio.log = new ++ (m.pollRadio env).radio.log →
      ∀ e ∈ new, e ∈ m.added m' := by
    intro m' new hlog e he
    have hboth : m'.radio.log = (new ++ tickEvents env.frames) ++ m.radio.log := by
      rw [hlog, List.append_assoc, ← hticked]
      rfl
    rw [added_eq _ hboth]
    exact List.mem_append_left _ he
  have hdrop : ∀ m₁ : GB4MQTT, (m.pollRadio env).Adds m₁ →
      (m₁.drop env).design = .createSocket ∧ .resetSocket ∈ m.added (m₁.drop env) := by
    intro m₁ hadds
    obtain ⟨new, hlog, _⟩ := hadds.log
    exact ⟨rfl, hadded (.resetSocket :: new) (congrArg (Event.resetSocket :: ·) hlog) _
      List.mem_cons_self⟩
  have hdone : ∀ new, m'.radio.log = new ++ (m.pollRadio env).radio.log →
      ∀ e ∈ new, e ∈ m.added (m.poll paho env).2 := by
    rw [hpoll]
    exact fun new hlog => hadded new hlog
  cases hstep with
  | idle _ _ => exact Or.inl ⟨[], .stays hpoll hge rfl⟩
  | connecting hs _ _ =>
    obtain ⟨hr, _⟩ := hmid.notConnected hs
    have hs : m.state = .notConnected := hs
    refine Or.inl ⟨_, @Switched.single m _ paho env
      ⟨.notConnected, .beginSocketConnection, .none, .connectingSocket⟩ (by decide) hpoll hge
      (by rw [hs]; rfl) rfl trivial (hdone [.socketConnect (m.pollRadio env).radio.mState 0] rfl
        _ ?_)⟩
    rw [hr]
    exact List.mem_singleton.2 rfl
  | connectFailed _ _ =>
    exact Or.inr ⟨rfl, hadded [.resetSocket, .socketConnect _ _] rfl _ List.mem_cons_self⟩
  | stillConnecting _ _ => exact Or.inl ⟨[], .stays hpoll hge rfl⟩
  | connectLost _ =>
    exact Or.inr (hdrop _ ⟨[], by simp, Or.inl ⟨rfl, rfl⟩⟩)
  | socketConnected hs hr =>
    have hs : m.state = .connectingSocket := hs
    have hawait := awaitConnection_of_connected hinv hs hr
    exact Or.inl ⟨_, @Switched.single m _ paho env
      ⟨.connectingSocket, .pollRx, .gotConnection, .connectMqtt⟩ (by decide) hpoll hge
      (by rw [hs]; rfl) rfl ((GB4XBee.poll_connected_iff hawait).1 hr)
      (looksFor_connection hs hawait)⟩
  | connectMalformed _ => exact Or.inl ⟨[], .stays hpoll hge rfl⟩
  | connectSent hs _ =>
    have hs : m.state = .connectMqtt := hs
    exact Or.inl ⟨_, @Switched.single m _ paho env
      ⟨.connectMqtt, .sendConnectPacket, .none, .awaitConnack⟩ (by decide) hpoll
      (show GB4XBee.State.socketReady ≤ .sending by decide) (by rw [hs]; rfl) rfl trivial
      (hdone [.connectRequest .connectSent, .sendMessage _ _ _ _] rfl _ List.mem_cons_self)⟩
  | connectRefused _ _ _ _ => exact Or.inl ⟨[], .stays hpoll hge rfl⟩
  | connectDropped _ _ _ _ =>
    exact Or.inr (hdrop _ ⟨[.connectRequest _, .sendMessage _ _ _ _],
      by simp [Event.ofSwitch, Event.isIncoming], Or.inl ⟨rfl, rfl⟩⟩)
  | listening _ _ =>
    exact Or.inl ⟨[], .stays hpoll (by rw [dispatchIncomming_mState]; exact hge)
      (by rw [dispatchIncomming_state]; rfl)⟩
  | accepted hs hp hstatus =>
    have hs : m.state = .awaitConnack := hs
    have hr : .socketReady ≤ m.radio.mState := by
      rcases hinv.inStep.session (Or.inr (Or.inl hs)) with hr | hr <;> rw [hr] <;> decide
    exact Or.inl ⟨_, @Switched.single m _ paho env ⟨.awaitConnack, .pollRx, .gotConnack, .standby⟩
      (by decide) hpoll (by rw [dispatchIncomming_mState]; exact hge) (by rw [hs]; rfl) rfl
      ⟨hge, gotConnack_of_status hp hstatus⟩ (looksFor_connack hs hr)⟩
  | rejected _ => exact Or.inr (hdrop _ (adds_dispatchIncomming _ paho env))
  | served hs hhandled =>
    have hstandby : m'.state = .standby := by
      rw [hhandled.frame.1, dispatchIncomming_state]
    have hs : m.state = .beginStandby ∨ m.state = .standby := hs
    refine Or.inl ⟨[], .stays hpoll ?_ ?_⟩
    · rcases hhandled.frame.2.2.2 rfl with hr | ⟨_, hr⟩
      · rw [hr, dispatchIncomming_mState]
        exact hge
      · rw [hr]
        decide
    · rw [hstandby]
      rcases hs with hs | hs
      · rw [hs]
        rfl
      · rw [hs]
  | servedDrop _ hhandled => exact Or.inr (hdrop _ hhandled.adds)
  | noCase h₁ h₂ h₃ h₄ h₅ h₆ =>
    rcases hinv.state with (hs | hs | hs | hs) | hs | hs
    · exact absurd hs h₃
    · exact absurd hs h₄
    · exact absurd hs h₅
    · exact absurd hs h₆
    · exact absurd hs h₂
    · exact absurd hs h₁

/-! ## Runs -/

/-- A poll follows the table, with or without the command of a row, or it goes back to
`create socket`. -/
theorem followed_or_passes_or_restarts (hinv : m.Inv) (paho : Paho) (env : Env) :
    (∃ rows, m.Followed paho env rows) ∨ (∃ row, m.Passes paho env row) ∨
      m.Restarts paho env := by
  by_cases hlow : m.radio.mState < .socketCooldownPeriod
  · exact (followed_startup hlow paho env).imp_right Or.inl
  have hhigh := GB4XBee.State.not_lt.1 hlow
  rcases m.poll_cases paho env with ⟨hlt, heq⟩ | ⟨hge, hstep⟩
  · exact (followed_below hhigh hlt heq).imp_right Or.inr
  have hswitched := switched hinv hge hstep rfl
  by_cases hready : m.radio.mState < .socketReady
  · -- the radio had no socket: the identifier came in this poll
    have hid : m.radio.mState = .awaitSocketId ∧ (m.radio.poll env).mState = .socketReady := by
      rcases (GB4XBee.poll_from hge).2 with hf | hf | ⟨hf, _⟩ | ⟨hf, _⟩ | ⟨hf, _⟩
      · rw [← hf] at hready
        exact absurd hready (GB4XBee.State.not_lt.2 hge)
      · exact hf
      · rw [hf] at hready
        exact absurd hready (by decide)
      · rw [hf] at hready
        exact absurd hready (by decide)
      · rcases hf with hf | hf | hf <;> rw [hf] at hready <;> exact absurd hready (by decide)
    have hstate : m.state = .notConnected := hinv.notConnected_of_lt hready
    have hdesign : m.design = .awaitSocketId := by
      rw [design_of_lt hready, hid.1]
      rfl
    rcases hswitched with ⟨rows, hrows⟩ | ⟨hcreate, hreset⟩
    · refine Or.inl ⟨rows ++ [⟨.awaitSocketId, .pollXbeeStatus, .gotSocketId, .notConnected⟩],
        ?_, ?_, ?_⟩
      · have hpath := hrows.path
        rw [hstate] at hpath
        rw [hdesign]
        exact hpath.append (@Path.single ⟨.awaitSocketId, .pollXbeeStatus, .gotSocketId,
          .notConnected⟩ (by decide))
      · refine List.forall_mem_append.2 ⟨hrows.holds, List.forall_mem_singleton.2 ?_⟩
        exact (GB4XBee.poll_socketReady_iff hid.1).1 hid.2
      · exact List.forall_mem_append.2
          ⟨hrows.done, List.forall_mem_singleton.2 (looksFor_socketId hid.1)⟩
    · exact Or.inr (Or.inr ⟨by rw [hid.1]; decide, hcreate, Or.inl hreset⟩)
  · have hdesign := design_of_ge (GB4XBee.State.not_lt.1 hready)
    rcases hswitched with ⟨rows, hrows⟩ | ⟨hcreate, hreset⟩
    · exact Or.inl ⟨rows, by rw [hdesign]; exact hrows.path, hrows.holds, hrows.done⟩
    · refine Or.inr (Or.inr ⟨?_, hcreate, Or.inl hreset⟩)
      exact Nat.le_trans (by decide) (GB4XBee.State.not_lt.1 hready)

/-- The rows that a run has followed since its start or its last restart, the newest
first. -/
inductive Explained (paho : Paho) : List Row → GB4MQTT → Prop where
  | begun {m : GB4MQTT} : m.Begun → Explained paho [] m
  | called {rows : List Row} {m : GB4MQTT} {c : Call} : Explained paho rows m →
      (∀ env, c ≠ .poll env) → Explained paho rows (call paho m c)
  | followed {rows new : List Row} {m : GB4MQTT} {env : Env} : Explained paho rows m →
      m.Followed paho env new → Explained paho (new ++ rows) (m.poll paho env).2
  | passed {rows : List Row} {row : Row} {m : GB4MQTT} {env : Env} : Explained paho rows m →
      m.Passes paho env row → Explained paho (row :: rows) (m.poll paho env).2
  | restarted {rows : List Row} {m : GB4MQTT} {env : Env} : Explained paho rows m →
      m.Restarts paho env → Explained paho [] (m.poll paho env).2

theorem Holds.met {c : Design.Condition} (h : m.Holds paho env c) : c.met = true := by
  cases c <;> first | rfl | exact absurd h not_false

theorem Explained.met {rows : List Row} (h : Explained paho rows m) :
    ∀ row ∈ rows, row.condition.met = true := by
  induction h with
  | begun _ => exact List.forall_mem_nil _
  | called _ _ ih => exact ih
  | followed _ hnew ih =>
    exact List.forall_mem_append.2 ⟨fun row hrow => (hnew.holds row hrow).met, ih⟩
  | passed _ hpasses ih => exact List.forall_mem_cons.2 ⟨hpasses.holds.met, ih⟩
  | restarted _ _ _ => exact List.forall_mem_nil _

/-- They lead from the start of the program or from `create socket` to where it is. -/
theorem Explained.path {rows : List Row} (h : Explained paho rows m) :
    ∃ start ∈ [Design.State.startXbee, Design.State.createSocket],
      Path start rows m.design := by
  induction h with
  | begun hbegun =>
    obtain ⟨mem, args, rfl⟩ := hbegun.eq
    exact ⟨_, List.mem_cons_self, .nil⟩
  | @called rows m c _ hc ih =>
    have hsame : (call paho m c).design = m.design := by
      cases c with
      | poll env => exact absurd rfl (hc env)
      | _ => rfl
    rw [hsame]
    exact ih
  | followed _ hnew ih =>
    obtain ⟨start, hstart, hpath⟩ := ih
    exact ⟨start, hstart, hnew.path.append hpath⟩
  | passed _ hpasses ih =>
    obtain ⟨start, hstart, hpath⟩ := ih
    exact ⟨start, hstart, hpasses.path.append hpath⟩
  | restarted _ hrestarts _ =>
    rw [hrestarts.design]
    exact ⟨_, List.mem_cons_of_mem _ List.mem_cons_self, .nil⟩

theorem Explained.of_reach (h : (system paho).Reach m) : ∃ rows, Explained paho rows m := by
  induction h with
  | init hbegun => exact ⟨[], .begun hbegun⟩
  | @step m c m' hreach hstep ih =>
    obtain ⟨rows, hrows⟩ := ih
    obtain ⟨_, rfl⟩ := hstep
    cases c with
    | poll env =>
      rcases followed_or_passes_or_restarts (Inv.of_reach hreach) paho env with
        ⟨new, hnew⟩ | ⟨row, hpasses⟩ | hrestarts
      · exact ⟨new ++ rows, hrows.followed hnew⟩
      · exact ⟨row :: rows, hrows.passed hpasses⟩
      · exact ⟨[], hrows.restarted hrestarts⟩
    | _ => exact ⟨rows, hrows.called (fun _ => nofun)⟩

end GB4MQTT

end XBeeMqtt
