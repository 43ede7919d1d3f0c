import XBeeMqtt.GB4XBee.Step
import XBeeMqtt.Lib.Timers

/-!
# The waits of the radio

Five states of the radio machine wait with a timeout, on four timers:
`AWAIT_CONNECT_RESPONSE` and `AWAIT_CONNECTION` share one.

* `poll_restarts`: which timers a poll restarts, and with which reading.
* `poll_leaves_iff`: a poll leaves a waiting state exactly when the interval is over
  or, but for the cooldown, when there is a notification.
-/

namespace XBeeMqtt

namespace GB4XBee

/-- The start times of `GB4XBee` that its `poll` reads. -/
inductive Timer where
  | socketCooldown
  | socketCreate
  | connect
  | send
  deriving DecidableEq, Repr

end GB4XBee

/-- The timer of the radio that an event restarts. -/
def Event.radioTimer? : Event → Option GB4XBee.Timer
  | .resetSocket => some .socketCooldown
  | .socketCreate sock => if sock < 0 then none else some .socketCreate
  | .socketConnect _ status => if status = 0 then some .connect else none
  | .sendMessage _ _ _ .messageSent => some .send
  | _ => none

namespace GB4XBee

variable {r t : GB4XBee} {env : Env}

namespace Timer

def field : Timer → GB4XBee → Int32
  | .socketCooldown, r => r.socketCooldownStartTime
  | .socketCreate, r => r.socketCreateStartTime
  | .connect, r => r.connectStartTime
  | .send, r => r.sendStartTime

/-- The radio is in a state that reads the timer, or `connect` has asked for it. -/
def Runs : Timer → GB4XBee → Prop
  | .socketCooldown, r => r.mState = .socketCooldownPeriod
  | .socketCreate, r => r.mState = .awaitSocketId
  | .connect, r => r.connectInProgress = true ∨ r.mState = .awaitConnectResponse ∨
      r.mState = .awaitConnection
  | .send, r => r.mState = .sending

/-- The call of `millis()` that starts the timer.  `reset` is the one of the
`resetSocket` in question. -/
def reading (reset : MillisCall) : Timer → MillisCall
  | .socketCooldown => reset
  | .socketCreate => .sendSocketCreate
  | .connect => .connect
  | .send => .sendMessage

end Timer

/-- The timers of the radio. -/
def timers : Clock.Timers GB4XBee Timer Event where
  log r := r.log
  field := Timer.field
  runs := Timer.Runs
  restarts := Event.radioTimer?

/-- The timer of a state that waits. -/
def stateTimer : State → Option Timer
  | .socketCooldownPeriod => some .socketCooldown
  | .awaitSocketId => some .socketCreate
  | .awaitConnectResponse | .awaitConnection => some .connect
  | .sending => some .send
  | _ => none

theorem Timer.runs_iff {k : Timer} :
    k.Runs r ↔ stateTimer r.mState = some k ∨ k = .connect ∧ r.connectInProgress = true := by
  cases k <;> cases hs : r.mState <;> simp [Timer.Runs, stateTimer, hs]

/-- In a state with another timer, only `connectInProgress` keeps a timer running. -/
theorem Timer.Runs.of_entered {j k : Timer} {s : State} (h : j.Runs t) (hs : t.mState = s)
    (hk : stateTimer s = some k) (hj : j ≠ k)
    (hcip : t.connectInProgress = true → r.connectInProgress = true) : j.Runs r := by
  rw [Timer.runs_iff, hs, hk] at h
  rcases h with hsame | ⟨hconnect, hold⟩
  · exact absurd (Option.some.inj hsame).symm hj
  · exact Timer.runs_iff.2 (Or.inr ⟨hconnect, hcip hold⟩)

/-! ## What a poll restarts -/

theorem devTick_timer (k : Timer) (r : GB4XBee) (frames : List Frame) :
    k.field (r.devTick frames) = k.field r := by
  refine devTick_field (Timer.field k) (fun r frame => ?_) r frames
  cases frame with
  | notify _ _ _ => cases k <;> rfl
  | receive _ _ => cases k <;> rfl
  | apn value =>
    unfold dispatch verifyAccessPointName record
    dsimp only
    split <;> cases k <;> rfl

theorem radioTimer?_of_mem_tickEvents {frames : List Frame} {e : Event}
    (h : e ∈ tickEvents frames) : e.radioTimer? = none := by
  simp only [tickEvents, List.mem_reverse, List.mem_filterMap] at h
  obtain ⟨frame, _, hframe⟩ := h
  cases frame <;> simp [Frame.event?] at hframe <;> subst hframe <;> rfl

/-- A startup poll writes no start time, and does not get to the cooldown. -/
theorem startupStep_timer (k : Timer) (env : Env) (hr : r.mState < .socketCooldownPeriod) :
    k.field (r.startupStep env) = k.field r ∧
      (r.startupStep env).mState ≠ .socketCooldownPeriod := by
  have hwrites := r.startupStep_writes env
  generalize r.startupStep env = r' at hwrites ⊢
  cases hwrites with
  | @mk frames s _ _ _ _ hs _ =>
    constructor
    · rw [← devTick_timer k r frames]
      cases k <;> rfl
    · show s ≠ _
      rcases hs with hs | hs
      · intro hcool
        rw [← hs, hcool] at hr
        exact absurd hr (by decide)
      · exact (le_of_mem_startupNext hs).2

section Restarts

variable {read : Timer → UInt32}

private theorem startup_restarts (hr : r.mState < .socketCooldownPeriod) :
    timers.Restarts read r (r.poll env) := by
  have hstep := startupStep_step env hr
  rw [poll_startup hr]
  obtain ⟨frames, events, _, hlog, hev⟩ := hstep.ticked
  refine .of_frame (events ++ tickEvents frames) ?_ (fun e he => ?_) fun k => ?_
  · rw [List.append_assoc]
    exact hlog
  · rcases List.mem_append.1 he with he | he
    · have hstartup := hev e he
      cases e <;> first | rfl | exact absurd hstartup Bool.false_ne_true
    · exact radioTimer?_of_mem_tickEvents he
  · obtain ⟨hfield, hcool⟩ := startupStep_timer k env hr
    refine ⟨hfield, fun hruns => ?_⟩
    have hbelow : ∀ {s : State}, .beginCreateSocket < s → (r.startupStep env).mState ≠ s := by
      intro s hlt heq
      have hle := hstep.mState
      rw [heq] at hle
      exact absurd hle (Nat.not_le.2 hlt)
    cases k with
    | socketCooldown => exact absurd hruns hcool
    | socketCreate => exact absurd hruns (hbelow (by decide))
    | connect =>
      rcases hruns with hcip | hs | hs
      · exact Or.inl (hstep.connectInProgress.symm.trans hcip)
      · exact absurd hs (hbelow (by decide))
      · exact absurd hs (hbelow (by decide))
    | send => exact absurd hruns (hbelow (by decide))

theorem restarts_stay (r : GB4XBee) : timers.Restarts read r r :=
  .of_frame [] rfl (by simp) fun _ => ⟨rfl, fun h => h⟩

/-- An event that restarts nothing. -/
theorem record_restarts {e : Event} (he : e.radioTimer? = none) (r : GB4XBee) :
    timers.Restarts read r (r.record e) := by
  refine .of_frame [e] rfl (fun e' he' => ?_) fun k =>
    ⟨by cases k <;> rfl, fun h => by cases k <;> exact h⟩
  rw [List.mem_singleton.1 he']
  exact he

theorem resetSocket_restarts {now : UInt32} (hread : read .socketCooldown = now) (r : GB4XBee) :
    timers.Restarts read r (r.resetSocket now) := by
  refine .one Timer.socketCooldown rfl rfl ?_ fun k hk => ⟨?_, fun hruns => ?_⟩
  · rw [hread]
    rfl
  · cases k with
    | socketCooldown => exact absurd rfl hk
    | _ => rfl
  · exact Timer.Runs.of_entered hruns rfl rfl hk fun hcip => hcip

/-- A move to a state without a timer, or with one that runs already. -/
private theorem restarts_move {s : State} (count : UInt32)
    (hmove : ∀ k, stateTimer s = some k → k.Runs t) :
    timers.Restarts read t { t with mState := s, notifyCount := count } := by
  refine .of_frame [] rfl (by simp) fun k => ⟨by cases k <;> rfl, fun hruns => ?_⟩
  rcases Timer.runs_iff.1 hruns with hs | hcip
  · exact hmove k hs
  · exact Timer.runs_iff.2 (Or.inr hcip)

private theorem restarts_reset (count : UInt32)
    (hread : read .socketCooldown = env.millis .radioResetSocket) :
    timers.Restarts read t
      (({ t with notifyCount := count } : GB4XBee).resetSocket (env.millis .radioResetSocket)) := by
  have hcount : timers.Restarts read t { t with notifyCount := count } :=
    .of_frame [] rfl (by simp) fun k =>
      ⟨by cases k <;> rfl, fun hruns => by cases k <;> exact hruns⟩
  exact hcount.trans (resetSocket_restarts hread _)

private theorem restarts_create (hs : 0 ≤ env.sockCreate)
    (hread : read .socketCreate = env.millis .sendSocketCreate) :
    timers.Restarts read t { t.created env with
      mState := .awaitSocketId
      socketCreateStartTime := (env.millis .sendSocketCreate).toInt32 } := by
  refine .one Timer.socketCreate rfl ?_ ?_ fun k hk => ⟨?_, fun hruns => ?_⟩
  · show (if env.sockCreate < 0 then none else some Timer.socketCreate) = _
    rw [if_neg (by omega)]
  · rw [hread]
    rfl
  · cases k with
    | socketCreate => exact absurd rfl hk
    | _ => rfl
  · exact Timer.Runs.of_entered hruns rfl rfl hk fun hcip => absurd hcip Bool.false_ne_true

private theorem restarts_createFailed (hneg : env.sockCreate < 0) :
    timers.Restarts read t { t.created env with err := env.sockCreate } := by
  refine .of_frame [.socketCreate env.sockCreate] rfl (fun e he => ?_) fun k =>
    ⟨by cases k <;> rfl, fun hruns => ?_⟩
  · rw [List.mem_singleton.1 he]
    show (if env.sockCreate < 0 then none else some Timer.socketCreate) = _
    rw [if_pos hneg]
  · cases k with
    | connect =>
      rcases hruns with hcip | hwait | hwait
      · exact absurd hcip Bool.false_ne_true
      · exact Or.inr (Or.inl hwait)
      · exact Or.inr (Or.inr hwait)
    | _ => exact hruns

private theorem awaitNotification_restarts {expected : Bool} {next : State}
    (hread : read .socketCooldown = env.millis .radioResetSocket)
    (hmove : ∀ k, stateTimer next = some k → k.Runs t) :
    timers.Restarts read t (t.awaitNotification env expected next) := by
  unfold awaitNotification
  dsimp only
  split
  · split
    · exact restarts_reset t.notifyCount hread
    · exact restarts_stay t
  · split
    · exact restarts_reset t.gNotify.count hread
    · exact restarts_move t.gNotify.count hmove

private theorem connectedStep_restarts
    (hread : read .socketCooldown = env.millis .radioResetSocket) :
    timers.Restarts read t (t.connectedStep env) := by
  unfold connectedStep
  dsimp only
  split
  · exact restarts_stay t
  · split
    · exact restarts_reset t.gNotify.count hread
    · split
      · exact restarts_reset t.gNotify.count hread
      · exact restarts_move t.gNotify.count (by simp [stateTimer])

private theorem mainStep_restarts (t : GB4XBee)
    (hreset : read .socketCooldown = env.millis .radioResetSocket)
    (hcreate : read .socketCreate = env.millis .sendSocketCreate) :
    timers.Restarts read t (t.mainStep env) := by
  cases hs : t.mState <;> simp only [mainStep, hs]
  case socketCooldownPeriod =>
    split
    · exact restarts_stay t
    · exact restarts_move t.notifyCount (by simp [stateTimer])
  case beginCreateSocket =>
    unfold sendSocketCreate
    dsimp only
    split
    · rename_i hneg
      exact (restarts_createFailed hneg).trans (restarts_reset 0 hreset)
    · rename_i hpos
      exact restarts_create (by omega) hcreate
  case awaitSocketId =>
    split
    · split
      · exact restarts_move t.notifyCount (by simp [stateTimer])
      · exact restarts_stay t
    · split
      · exact restarts_reset t.gNotify.count hreset
      · exact restarts_move t.gNotify.count (by simp [stateTimer])
  case socketReady =>
    split
    · exact restarts_stay t
    · rename_i hcip
      refine restarts_move t.notifyCount fun k hk => Timer.runs_iff.2 (Or.inr ?_)
      exact ⟨(Option.some.inj hk).symm, by simpa using hcip⟩
  case awaitConnectResponse =>
    refine awaitNotification_restarts hreset fun k hk => Timer.runs_iff.2 (Or.inl ?_)
    rw [hs]
    exact hk
  case awaitConnection => exact awaitNotification_restarts hreset (by simp [stateTimer])
  case connected => exact connectedStep_restarts hreset
  case sending =>
    split
    · exact (restarts_move t.notifyCount (by simp [stateTimer])).trans
        (connectedStep_restarts hreset)
    · exact connectedStep_restarts hreset
  all_goals exact restarts_stay t

end Restarts

/-- A poll restarts the timers that its events say, with the readings of the
calls in question. -/
theorem poll_restarts (r : GB4XBee) (env : Env) :
    timers.Restarts (fun k => env.millis (k.reading .radioResetSocket)) r (r.poll env) := by
  by_cases hr : r.mState < .socketCooldownPeriod
  · exact startup_restarts hr
  · rw [poll_main (State.not_lt.1 hr)]
    refine .trans ?_ (mainStep_restarts (r.devTick env.frames) rfl rfl)
    refine .of_frame (tickEvents env.frames) (r.devTick_log env.frames)
      (fun e he => radioTimer?_of_mem_tickEvents he) fun k =>
      ⟨devTick_timer k r env.frames, fun hruns => ?_⟩
    cases k <;> simpa [timers, Timer.Runs] using hruns

/-! ## What the calls from above restart -/

theorem sendMessage_restarts {read : Timer → UInt32}
    (hread : read .send = env.millis .sendMessage) (r : GB4XBee) (message : List UInt8)
    (len : Nat) : timers.Restarts read r (r.sendMessage message len env).2 := by
  rcases r.sendMessage_cases message len env with ⟨_, _, heq⟩ | ⟨status, hne, _, heq⟩
  · rw [heq]
    refine .one Timer.send rfl rfl ?_ fun k hk => ⟨?_, fun hruns => ?_⟩
    · rw [hread]
      rfl
    · cases k with
      | send => exact absurd rfl hk
      | _ => rfl
    · exact Timer.Runs.of_entered hruns rfl rfl hk fun hcip => hcip
  · rw [heq]
    refine record_restarts ?_ r
    cases status <;> first | rfl | exact absurd rfl hne

theorem connect_restarts {read : Timer → UInt32} (hread : read .connect = env.millis .connect)
    (r : GB4XBee) : timers.Restarts read r (r.connect env).2 := by
  rcases r.connect_cases env with ⟨_, heq⟩ | ⟨hne, heq⟩
  · rw [heq]
    refine .one Timer.connect rfl rfl ?_ fun k hk => ⟨?_, fun hruns => ?_⟩
    · rw [hread]
      rfl
    · cases k with
      | connect => exact absurd rfl hk
      | _ => rfl
    · cases k with
      | connect => exact absurd rfl hk
      | _ => exact hruns
  · rw [heq]
    refine .of_frame [.socketConnect r.mState env.sockConnect] rfl (fun e he => ?_) fun k =>
      ⟨by cases k <;> rfl, fun hruns => by cases k <;> exact hruns⟩
    rw [List.mem_singleton.1 he]
    exact if_neg hne

/-! ## Leaving a wait -/

/-- The states of the main machine that wait with a timeout. -/
inductive Wait where
  | socketCooldown
  | socketId
  | connectResponse
  | connection
  | sending
  deriving DecidableEq, Repr

namespace Wait

def state : Wait → State
  | .socketCooldown => .socketCooldownPeriod
  | .socketId => .awaitSocketId
  | .connectResponse => .awaitConnectResponse
  | .connection => .awaitConnection
  | .sending => .sending

def timer : Wait → Timer
  | .socketCooldown => .socketCooldown
  | .socketId => .socketCreate
  | .connectResponse | .connection => .connect
  | .sending => .send

def interval : Wait → UInt32
  | .socketCooldown => socketCooldownInterval
  | .socketId => socketCreateTimeout
  | .connectResponse | .connection => connectTimeout
  | .sending => sendTimeout

/-- The call of `millis()` that is compared with the start time. -/
def check : Wait → MillisCall
  | .socketCooldown => .pollSocketCooldown
  | .socketId => .awaitSocketId
  | .connectResponse | .connection => .awaitConnect
  | .sending => .sending

example : [socketId, connectResponse, connection, sending, socketCooldown].map
    (fun w => w.interval.toNat) = [10000, 20000, 20000, 1000, 2000] := by decide

end Wait

/-- The poll finds that `g_notify` has counted a notification. -/
def SeesNotification (r : GB4XBee) (env : Env) : Prop :=
  (r.devTick env.frames).gNotify.count ≠ r.notifyCount

instance (r : GB4XBee) (env : Env) : Decidable (r.SeesNotification env) :=
  inferInstanceAs (Decidable (_ ≠ _))

/-- The interval of a wait is over. -/
def Expired (w : Wait) (r : GB4XBee) (env : Env) : Prop :=
  w.interval < elapsed (env.millis w.check) (w.timer.field r)

private theorem awaitNotification_leaves (expected : Bool) {next : State}
    (hnext : next ≠ t.mState) (hcool : t.mState ≠ .socketCooldownPeriod) :
    (t.awaitNotification env expected next).mState ≠ t.mState ↔
      connectTimeout < elapsed (env.millis .awaitConnect) t.connectStartTime ∨
        t.gNotify.count ≠ t.notifyCount := by
  unfold awaitNotification
  by_cases hcount : t.gNotify.count = t.notifyCount
  · rw [if_pos hcount]
    by_cases htime : elapsed (env.millis .awaitConnect) t.connectStartTime > connectTimeout
    · rw [if_pos htime]
      exact ⟨fun _ => Or.inl htime, fun _ => hcool.symm⟩
    · rw [if_neg htime]
      exact ⟨fun hne => absurd rfl hne, fun h => absurd hcount (h.resolve_left htime)⟩
  · rw [if_neg hcount]
    refine ⟨fun _ => Or.inr hcount, fun _ => ?_⟩
    dsimp only
    split
    · exact hcool.symm
    · exact hnext

private theorem connectedStep_leaves :
    (t.connectedStep env).mState ≠ .sending ↔
      t.mState ≠ .sending ∨ t.gNotify.count ≠ t.notifyCount := by
  unfold connectedStep
  by_cases hcount : t.gNotify.count = t.notifyCount
  · rw [if_pos hcount]
    exact ⟨Or.inl, fun h => h.resolve_right fun hne => hne hcount⟩
  · rw [if_neg hcount]
    refine ⟨fun _ => Or.inr hcount, fun _ => ?_⟩
    dsimp only
    split
    · exact show State.socketCooldownPeriod ≠ _ by decide
    · split
      · exact show State.socketCooldownPeriod ≠ _ by decide
      · exact show State.connected ≠ _ by decide

private theorem socketCooldown_leaves (hs : t.mState = .socketCooldownPeriod) :
    (t.mainStep env).mState ≠ .socketCooldownPeriod ↔ Expired .socketCooldown t env := by
  have hstep : t.mainStep env = if t.pollSocketCooldown env = false then t
      else { t with mState := .beginCreateSocket } := by
    simp only [mainStep, hs]
  rw [hstep]
  by_cases htime : Expired .socketCooldown t env
  · have hpoll : t.pollSocketCooldown env = true := decide_eq_true htime
    rw [if_neg (by rw [hpoll]; exact Bool.false_ne_true.symm)]
    exact ⟨fun _ => htime, fun _ => show State.beginCreateSocket ≠ _ by decide⟩
  · have hpoll : t.pollSocketCooldown env = false := decide_eq_false htime
    rw [if_pos hpoll]
    exact ⟨fun hne => absurd hs hne, fun h => absurd h htime⟩

private theorem awaitSocketId_leaves (hs : t.mState = .awaitSocketId) :
    (t.mainStep env).mState ≠ .awaitSocketId ↔
      socketCreateTimeout < elapsed (env.millis .awaitSocketId) t.socketCreateStartTime ∨
        t.gNotify.count ≠ t.notifyCount := by
  simp only [mainStep, hs]
  by_cases hcount : t.gNotify.count = t.notifyCount
  · rw [if_pos hcount]
    by_cases htime : elapsed (env.millis .awaitSocketId) t.socketCreateStartTime >
        socketCreateTimeout
    · rw [if_pos htime]
      exact ⟨fun _ => Or.inl htime, fun _ => show State.beginCreateSocket ≠ _ by decide⟩
    · rw [if_neg htime]
      exact ⟨fun hne => absurd hs hne, fun h => absurd hcount (h.resolve_left htime)⟩
  · rw [if_neg hcount]
    refine ⟨fun _ => Or.inr hcount, fun _ => ?_⟩
    split
    · exact show State.socketCooldownPeriod ≠ _ by decide
    · exact show State.socketReady ≠ _ by decide

/-- The cooldown ends when its interval is over, every other wait also with a
notification. -/
private theorem mainStep_leaves_iff (w : Wait) (hs : t.mState = w.state) :
    (t.mainStep env).mState ≠ w.state ↔
      Expired w t env ∨ w ≠ .socketCooldown ∧ t.gNotify.count ≠ t.notifyCount := by
  cases w with
  | socketCooldown =>
    exact (socketCooldown_leaves hs).trans
      ⟨Or.inl, fun h => h.resolve_right fun hne => absurd rfl hne.1⟩
  | socketId =>
    exact (awaitSocketId_leaves hs).trans
      (or_congr_right ⟨fun h => ⟨by decide, h⟩, fun h => h.2⟩)
  | connectResponse =>
    have hs : t.mState = .awaitConnectResponse := hs
    show _ ≠ State.awaitConnectResponse ↔ _
    rw [mainStep_awaitConnectResponse hs, ← hs,
      awaitNotification_leaves _ (by rw [hs]; decide) (by rw [hs]; decide)]
    exact or_congr_right ⟨fun h => ⟨by decide, h⟩, fun h => h.2⟩
  | connection =>
    have hs : t.mState = .awaitConnection := hs
    show _ ≠ State.awaitConnection ↔ _
    rw [mainStep_awaitConnection hs, ← hs,
      awaitNotification_leaves _ (by rw [hs]; decide) (by rw [hs]; decide)]
    exact or_congr_right ⟨fun h => ⟨by decide, h⟩, fun h => h.2⟩
  | sending =>
    have hs : t.mState = .sending := hs
    show _ ≠ State.sending ↔ _
    rw [mainStep_sending hs, connectedStep_leaves]
    refine or_congr ?_ ⟨fun h => ⟨by decide, ?_⟩, fun h => ?_⟩
    · split
      · rename_i htime
        exact ⟨fun _ => htime, fun _ => show State.connected ≠ _ by decide⟩
      · rename_i htime
        exact ⟨fun hne => absurd hs hne, fun h => absurd h htime⟩
    · split at h <;> exact h
    · split
      · exact h.2
      · exact h.2

/-- A poll leaves a wait when the interval is over, and with a notification; the
cooldown does not look for one. -/
theorem poll_leaves_iff (w : Wait) (hs : r.mState = w.state) :
    (r.poll env).mState ≠ w.state ↔
      Expired w r env ∨ w ≠ .socketCooldown ∧ r.SeesNotification env := by
  have hmain : .socketCooldownPeriod ≤ r.mState := by
    rw [hs]
    cases w <;> decide
  have hexpired : Expired w (r.devTick env.frames) env ↔ Expired w r env := by
    unfold Expired
    rw [devTick_timer]
  rw [poll_main hmain, mainStep_leaves_iff w ((devTick_mState r env.frames).trans hs), hexpired,
    devTick_notifyCount]
  rfl

end GB4XBee

end XBeeMqtt
