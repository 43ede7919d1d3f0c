import XBeeMqtt.GB4XBee.Basic

/-!
# What a radio poll can do

The inversion lemmas of the radio machine.  Later proofs go through them and
do not unfold `poll`.

* `devTick` only writes the two globals, the access point flags and the log
  (`devTick_field`), and `devTick_gNotify`, `devTick_gReceive`, `devTick_log`
  say what it writes there.
* `MainStep t env r` lists what the switch of `poll` can make of a radio `t`:
  nothing, an `Advance`, a reset, or a socket creation.
* `StartupMove r env r'` lists what a poll of the startup does, one constructor
  for each way through the source.  `StartupWrites` is what all of them write, and
  `StartupStep` is what the main machine may know of them.
-/

namespace XBeeMqtt

/-! ## The tick -/

/-- The event that a frame leaves. -/
def Frame.event? : Frame → Option Event
  | .notify _ _ _ => none
  | .receive _ payload => some (.received payload)
  | .apn value => some (.apnResponse value)

/-- The events of a tick, the newest first. -/
def tickEvents (frames : List Frame) : List Event := (frames.filterMap Frame.event?).reverse

theorem tickEvents_cons (frame : Frame) (frames : List Frame) :
    tickEvents (frame :: frames) = tickEvents frames ++ tickEvents [frame] := by
  cases hev : frame.event? <;> simp [tickEvents, hev]

/-- What the frames of a tick make of `g_notify`. -/
def XBeeNotify.tick (n : XBeeNotify) (frames : List Frame) : XBeeNotify :=
  frames.foldl (fun n frame => match frame with
    | .notify sockid frameType message => n.callback sockid frameType message
    | _ => n) n

/-- What the frames of a tick make of `g_receive`. -/
def XBeeReceive.tick (g : XBeeReceive) (frames : List Frame) : XBeeReceive :=
  frames.foldl (fun g frame => match frame with
    | .receive sock payload => g.callback sock payload
    | _ => g) g

/-- The events of a startup poll that no frame leaves. -/
def Event.ofStartup : Event → Bool
  | .serialWrite _ _ | .serialRead _ | .initDevice | .initStatus _ | .commandSend _ _ => true
  | _ => false

/-- The events of a radio poll. -/
def Event.ofRadio : Event → Bool
  | .received _ | .apnResponse _ | .serialWrite _ _ | .serialRead _ | .initDevice
  | .initStatus _ | .commandSend _ _ | .resetSocket | .socketCreate _ => true
  | _ => false

namespace GB4XBee

variable {r r' t : GB4XBee} {env : Env}

/-- A field that no frame writes is not written by the tick. -/
theorem devTick_field {β : Type} (f : GB4XBee → β)
    (hf : ∀ r frame, f (r.dispatch frame) = f r) (r : GB4XBee) (frames : List Frame) :
    f (r.devTick frames) = f r := by
  induction frames generalizing r with
  | nil => rfl
  | cons frame frames ih =>
    have hrest := ih (r.dispatch frame)
    rw [hf] at hrest
    exact hrest

private theorem dispatch_frame (r : GB4XBee) (frame : Frame) :
    r.dispatch frame = { r with
      gotAccessPointName := (r.dispatch frame).gotAccessPointName
      needSetAccessPointName := (r.dispatch frame).needSetAccessPointName
      gNotify := r.gNotify.tick [frame]
      gReceive := r.gReceive.tick [frame]
      log := tickEvents [frame] ++ r.log } := by
  cases frame with
  | notify sockid frameType message => rfl
  | receive sock payload => rfl
  | apn value =>
    unfold dispatch verifyAccessPointName record
    dsimp only
    split <;> rfl

@[simp] theorem devTick_mState (r : GB4XBee) (frames : List Frame) :
    (r.devTick frames).mState = r.mState :=
  devTick_field (·.mState) (fun r frame => by rw [dispatch_frame]) r frames

@[simp] theorem devTick_notifyCount (r : GB4XBee) (frames : List Frame) :
    (r.devTick frames).notifyCount = r.notifyCount :=
  devTick_field (·.notifyCount) (fun r frame => by rw [dispatch_frame]) r frames

@[simp] theorem devTick_connectInProgress (r : GB4XBee) (frames : List Frame) :
    (r.devTick frames).connectInProgress = r.connectInProgress :=
  devTick_field (·.connectInProgress) (fun r frame => by rw [dispatch_frame]) r frames

@[simp] theorem devTick_connectStartTime (r : GB4XBee) (frames : List Frame) :
    (r.devTick frames).connectStartTime = r.connectStartTime :=
  devTick_field (·.connectStartTime) (fun r frame => by rw [dispatch_frame]) r frames

@[simp] theorem devTick_sendStartTime (r : GB4XBee) (frames : List Frame) :
    (r.devTick frames).sendStartTime = r.sendStartTime :=
  devTick_field (·.sendStartTime) (fun r frame => by rw [dispatch_frame]) r frames

@[simp] theorem devTick_gNotify (r : GB4XBee) (frames : List Frame) :
    (r.devTick frames).gNotify = r.gNotify.tick frames := by
  induction frames generalizing r with
  | nil => rfl
  | cons frame frames ih =>
    have hrest := ih (r.dispatch frame)
    rw [dispatch_frame] at hrest
    rw [devTick, List.foldl_cons, dispatch_frame]
    exact hrest

@[simp] theorem devTick_gReceive (r : GB4XBee) (frames : List Frame) :
    (r.devTick frames).gReceive = r.gReceive.tick frames := by
  induction frames generalizing r with
  | nil => rfl
  | cons frame frames ih =>
    have hrest := ih (r.dispatch frame)
    rw [dispatch_frame] at hrest
    rw [devTick, List.foldl_cons, dispatch_frame]
    exact hrest

@[simp] theorem devTick_log (r : GB4XBee) (frames : List Frame) :
    (r.devTick frames).log = tickEvents frames ++ r.log := by
  induction frames generalizing r with
  | nil => rfl
  | cons frame frames ih =>
    have hrest := ih (r.dispatch frame)
    rw [dispatch_frame] at hrest
    rw [devTick, List.foldl_cons, dispatch_frame, tickEvents_cons frame frames,
      List.append_assoc]
    exact hrest

/-! ## The main machine -/

section Cases

theorem mainStep_socketReady (hs : t.mState = .socketReady) :
    t.mainStep env =
      if t.connectInProgress = false then t else { t with mState := .awaitConnectResponse } := by
  simp only [mainStep, hs]

theorem mainStep_awaitConnectResponse (hs : t.mState = .awaitConnectResponse) :
    t.mainStep env = t.awaitNotification env
      (t.gNotify.type = .sockConnectResp ∧ t.gNotify.sockMesg = SockMesg.success)
      .awaitConnection := by
  simp only [mainStep, hs]

theorem mainStep_awaitConnection (hs : t.mState = .awaitConnection) :
    t.mainStep env = t.awaitNotification env
      (t.gNotify.type = .sockState ∧ t.gNotify.stateMesg = StateMesg.connected) .connected := by
  simp only [mainStep, hs]

theorem mainStep_connected (hs : t.mState = .connected) :
    t.mainStep env = t.connectedStep env := by
  simp only [mainStep, hs]

theorem mainStep_sending (hs : t.mState = .sending) :
    t.mainStep env =
      (if elapsed (env.millis .sending) t.sendStartTime > sendTimeout then
        { t with mState := .connected }
      else t).connectedStep env := by
  simp only [mainStep, hs]

theorem poll_main (hr : .socketCooldownPeriod ≤ r.mState) :
    r.poll env = (r.devTick env.frames).mainStep env := by
  unfold poll
  rw [if_neg (State.not_lt.2 hr)]

end Cases

/-- The moves of the switch that do not reset and do not create a socket. -/
inductive Advance (t : GB4XBee) : State → Prop where
  | cooledDown : t.mState = .socketCooldownPeriod → Advance t .beginCreateSocket
  | createTimeout : t.mState = .awaitSocketId → Advance t .beginCreateSocket
  | created : t.mState = .awaitSocketId → Advance t .socketReady
  | connecting : t.mState = .socketReady → t.connectInProgress = true →
      Advance t .awaitConnectResponse
  | answered : t.mState = .awaitConnectResponse → Advance t .awaitConnection
  | connected : t.mState = .awaitConnection ∨ t.mState = .sending ∨ t.mState = .connected →
      Advance t .connected

/-- The radio of `BEGIN_CREATE_SOCKET` after `sendSocketCreate`. -/
def created (t : GB4XBee) (env : Env) : GB4XBee :=
  { t with
    gNotify := t.gNotify.reset.2
    notifyCount := 0
    connectInProgress := false
    sock := env.sockCreate
    log := .socketCreate env.sockCreate :: t.log }

/-- What the switch of `poll` can make of a radio. -/
inductive MainStep (t : GB4XBee) (env : Env) : GB4XBee → Prop where
  | stay : MainStep t env t
  | advance {s : State} {count : UInt32} : Advance t s →
      MainStep t env { t with mState := s, notifyCount := count }
  | reset {count : UInt32} {now : UInt32} :
      MainStep t env (({ t with notifyCount := count } : GB4XBee).resetSocket now)
  | create {start : Int32} : t.mState = .beginCreateSocket → 0 ≤ env.sockCreate →
      MainStep t env
        { t.created env with mState := .awaitSocketId, socketCreateStartTime := start }
  | createFailed {now : UInt32} : t.mState = .beginCreateSocket → env.sockCreate < 0 →
      MainStep t env (({ t.created env with err := env.sockCreate } : GB4XBee).resetSocket now)

/-- A reset without a new notification count is a reset. -/
private theorem MainStep.reset_same (now : UInt32) : MainStep t env (t.resetSocket now) :=
  @MainStep.reset t env t.notifyCount now

private theorem MainStep.advance_same {s : State} (h : Advance t s) :
    MainStep t env { t with mState := s } :=
  @MainStep.advance t env s t.notifyCount h

private theorem awaitNotification_step {expected : Bool} {next : State} (h : Advance t next) :
    MainStep t env (t.awaitNotification env expected next) := by
  unfold awaitNotification
  dsimp only
  split
  · split
    · exact .reset_same _
    · exact .stay
  · split
    · exact .reset
    · exact .advance h

private theorem connectedStep_step
    (h : t.mState = .awaitConnection ∨ t.mState = .sending ∨ t.mState = .connected) :
    MainStep t env (t.connectedStep env) := by
  unfold connectedStep
  dsimp only
  split
  · exact .stay
  · split
    · exact .reset
    · split
      · exact .reset
      · exact .advance (.connected h)

theorem mainStep_step (t : GB4XBee) (env : Env) : MainStep t env (t.mainStep env) := by
  cases hs : t.mState <;> simp only [mainStep, hs]
  case socketCooldownPeriod =>
    split
    · exact .stay
    · exact .advance_same (.cooledDown hs)
  case beginCreateSocket =>
    unfold sendSocketCreate
    dsimp only
    split
    · rename_i hneg
      exact .createFailed hs hneg
    · rename_i hpos
      exact .create hs (by omega)
  case awaitSocketId =>
    split
    · split
      · exact .advance_same (.createTimeout hs)
      · exact .stay
    · split
      · exact .reset
      · exact .advance (.created hs)
  case socketReady =>
    split
    · exact .stay
    · rename_i hcip
      exact .advance_same (.connecting hs (by simpa using hcip))
  case awaitConnectResponse => exact awaitNotification_step (.answered hs)
  case awaitConnection => exact awaitNotification_step (.connected (Or.inl hs))
  case connected => exact connectedStep_step (Or.inr (Or.inr hs))
  case sending =>
    by_cases htime : elapsed (env.millis .sending) t.sendStartTime > sendTimeout
    · rw [if_pos htime]
      unfold connectedStep
      dsimp only
      split
      · exact .advance_same (.connected (Or.inr (Or.inl hs)))
      · split
        · exact .reset
        · split
          · exact .reset
          · exact .advance (.connected (Or.inr (Or.inl hs)))
    · rw [if_neg htime]
      exact connectedStep_step (Or.inr (Or.inl hs))
  all_goals exact .stay

/-! ## The startup machine -/

/-- The states that a startup poll can move on to. -/
def startupNext : State → List State
  | .start => [.awaitCommandModeGuard0]
  | .awaitCommandModeGuard0 => [.beginCommandMode]
  | .beginCommandMode => [.awaitCommandModeGuard1]
  | .awaitCommandModeGuard1 => [.awaitCommandModeResponse]
  | .awaitCommandModeResponse => [.beginApiModeCommand]
  | .beginApiModeCommand => [.awaitApiModeResponse]
  | .awaitApiModeResponse => [.beginCommandModeExit]
  | .beginCommandModeExit => [.awaitCommandModeExitResponse]
  | .awaitCommandModeExitResponse => [.beginInitXBeeApi]
  | .beginInitXBeeApi => [.awaitInitXBeeApiDone]
  | .awaitInitXBeeApiDone => [.beginReadApn]
  | .beginReadApn => [.awaitReadApnResponse]
  | .awaitReadApnResponse => [.setApn, .beginCreateSocket]
  | .setApn => [.beginCreateSocket]
  | _ => []

/-- `"OK"`. -/
def okBytes : List UInt8 := [0x4F, 0x4B]

theorem pollResponseOK_cases (r : GB4XBee) (env : Env) :
    env.serial.length < 3 ∧ (∃ status, status ≠ .commandOk ∧
      r.pollResponseOK env = (status, r)) ∨
    3 ≤ env.serial.length ∧ env.serial.take 2 ≠ okBytes ∧
      r.pollResponseOK env = (.commandNotOk, r.record (.serialRead env.serial)) ∨
    3 ≤ env.serial.length ∧ env.serial.take 2 = okBytes ∧
      r.pollResponseOK env = (.commandOk, r.record (.serialRead env.serial)) := by
  unfold pollResponseOK
  dsimp only
  split
  · rename_i hfew
    split
    · exact Or.inl ⟨hfew, .commandTimeout, by decide, rfl⟩
    · exact Or.inl ⟨hfew, .commandInProgress, by decide, rfl⟩
  · rename_i hfew
    have hmany : 3 ≤ env.serial.length := Nat.le_of_not_lt hfew
    split
    · rename_i hne
      exact Or.inr (Or.inl ⟨hmany, hne, rfl⟩)
    · rename_i heq
      exact Or.inr (Or.inr ⟨hmany, Decidable.not_not.1 heq, rfl⟩)

/-- What a poll in one of the three states does with the bytes that are available. -/
theorem awaitResponseOK_cases (r : GB4XBee) (env : Env) (next : State) :
    env.serial.length < 3 ∧ (r.pollResponseOK env).1 ≠ .commandOk ∧
      r.awaitResponseOK env next = r ∨
    3 ≤ env.serial.length ∧ env.serial.take 2 ≠ okBytes ∧
      (r.pollResponseOK env).1 ≠ .commandOk ∧
      r.awaitResponseOK env next = r.record (.serialRead env.serial) ∨
    3 ≤ env.serial.length ∧ env.serial.take 2 = okBytes ∧
      (r.pollResponseOK env).1 = .commandOk ∧
      r.awaitResponseOK env next =
        { r.record (.serialRead env.serial) with mState := next } := by
  unfold awaitResponseOK
  rcases r.pollResponseOK_cases env with
    ⟨hfew, status, hne, heq⟩ | ⟨hmany, hnot, heq⟩ | ⟨hmany, hok, heq⟩
  · rw [heq]
    exact Or.inl ⟨hfew, hne, if_neg hne⟩
  · rw [heq]
    exact Or.inr (Or.inl ⟨hmany, hnot, by simp, rfl⟩)
  · rw [heq]
    exact Or.inr (Or.inr ⟨hmany, hok, rfl, rfl⟩)

/-- The three `AWAIT_*_RESPONSE` states of the command mode. -/
def AwaitsResponse (r : GB4XBee) : Prop :=
  r.mState = .awaitCommandModeResponse ∨ r.mState = .awaitApiModeResponse ∨
    r.mState = .awaitCommandModeExitResponse

instance (r : GB4XBee) : Decidable r.AwaitsResponse :=
  inferInstanceAs (Decidable (_ ∨ _ ∨ _))

/-- The driver has a handle for the command, with its parameter. -/
def Creates (env : Env) : AtCommand → Prop
  | .setApn => 0 ≤ env.cmdCreate .setApn ∧ 0 ≤ env.cmdSetParamStr
  | k => 0 ≤ env.cmdCreate k

instance (env : Env) : (k : AtCommand) → Decidable (Creates env k)
  | .readApn | .writeChanges => inferInstanceAs (Decidable (0 ≤ env.cmdCreate _))
  | .setApn => inferInstanceAs (Decidable (_ ∧ _))

/-- What a command leaves: only one that has a handle is sent. -/
def commandEvents (env : Env) (k : AtCommand) : List Event :=
  if Creates env k then [.commandSend k (env.cmdSend k)] else []

theorem commandEvents_pos {k : AtCommand} (h : Creates env k) :
    commandEvents env k = [.commandSend k (env.cmdSend k)] :=
  if_pos h

theorem commandEvents_neg {k : AtCommand} (h : ¬Creates env k) : commandEvents env k = [] :=
  if_neg h

theorem eq_of_mem_commandEvents {k : AtCommand} {e : Event} (h : e ∈ commandEvents env k) :
    e = .commandSend k (env.cmdSend k) := by
  unfold commandEvents at h
  split at h
  · exact List.mem_singleton.1 h
  · exact absurd h List.not_mem_nil

/-- The driver takes the command. -/
def Takes (env : Env) (k : AtCommand) : Prop := Creates env k ∧ env.cmdSend k = 0

instance (env : Env) (k : AtCommand) : Decidable (Takes env k) :=
  inferInstanceAs (Decidable (_ ∧ _))

theorem mem_commandEvents {k : AtCommand} :
    .commandSend k 0 ∈ commandEvents env k ↔ Takes env k := by
  by_cases hcreates : Creates env k
  · rw [commandEvents_pos hcreates, List.mem_singleton, Event.commandSend.injEq]
    exact ⟨fun h => ⟨hcreates, h.2.symm⟩, fun h => ⟨rfl, h.2.symm⟩⟩
  · rw [commandEvents_neg hcreates]
    exact ⟨fun h => absurd h List.not_mem_nil, fun h => absurd h.1 hcreates⟩

theorem mem_commandEvents_ne {k k' : AtCommand} (hne : k ≠ k') :
    .commandSend k 0 ∉ commandEvents env k' := by
  intro h
  exact hne (Event.commandSend.inj (eq_of_mem_commandEvents h)).1

theorem sendReadAPN_snd : ∃ err, (r.sendReadAPN env).2 =
    { r with err := err, log := commandEvents env .readApn ++ r.log } := by
  unfold sendReadAPN
  split
  · rename_i hneg
    rw [@commandEvents_neg env .readApn (Int.not_le.2 hneg)]
    exact ⟨_, rfl⟩
  · rename_i hpos
    rw [@commandEvents_pos env .readApn (Int.not_lt.1 hpos)]
    exact ⟨r.err, rfl⟩

theorem sendWriteChanges_snd : ∃ err, (r.sendWriteChanges env).2 =
    { r with err := err, log := commandEvents env .writeChanges ++ r.log } := by
  unfold sendWriteChanges
  split
  · rename_i hneg
    rw [@commandEvents_neg env .writeChanges (Int.not_le.2 hneg)]
    exact ⟨_, rfl⟩
  · rename_i hpos
    rw [@commandEvents_pos env .writeChanges (Int.not_lt.1 hpos)]
    dsimp only
    split
    · exact ⟨_, rfl⟩
    · exact ⟨r.err, rfl⟩

theorem sendSetAPN_snd : ∃ err, (r.sendSetAPN env).2 =
    { r with err := err, log := commandEvents env .setApn ++ r.log } := by
  unfold sendSetAPN
  split
  · rename_i hneg
    rw [@commandEvents_neg env .setApn fun h => Int.not_le.2 hneg h.1]
    exact ⟨_, rfl⟩
  · rename_i hpos
    split
    · rename_i hneg
      rw [@commandEvents_neg env .setApn fun h => Int.not_le.2 hneg h.2]
      exact ⟨_, rfl⟩
    · rename_i hparam
      rw [@commandEvents_pos env .setApn ⟨Int.not_lt.1 hpos, Int.not_lt.1 hparam⟩]
      dsimp only
      split
      · exact ⟨_, rfl⟩
      · exact ⟨r.err, rfl⟩

/-- What `SET_APN` does with the two commands. -/
theorem sendCommands_snd : ∃ err, ((r.sendSetAPN env).2.sendWriteChanges env).2 =
    { r with
      err := err
      log := (commandEvents env .writeChanges ++ commandEvents env .setApn) ++ r.log } := by
  obtain ⟨err, herr⟩ := @sendSetAPN_snd r env
  obtain ⟨err', herr'⟩ := @sendWriteChanges_snd
    { r with err := err, log := commandEvents env .setApn ++ r.log } env
  exact ⟨err', by rw [herr, herr', List.append_assoc]⟩

/-- `"+++"`. -/
def escapeSequence : List UInt8 := [0x2B, 0x2B, 0x2B]

/-- `"ATAP1\r"`. -/
def apiModeCommand : List UInt8 := [0x41, 0x54, 0x41, 0x50, 0x31, 0x0D]

/-- `"ATCN\r"`. -/
def commandModeExit : List UInt8 := [0x41, 0x54, 0x43, 0x4E, 0x0D]

/-- Where an `OK` leads. -/
def responseNext? : State → Option State
  | .awaitCommandModeResponse => some .beginApiModeCommand
  | .awaitApiModeResponse => some .beginCommandModeExit
  | .awaitCommandModeExitResponse => some .beginInitXBeeApi
  | _ => none

/-- The commands that are only written, and the states that wait for the response. -/
def command? : State → Option (List UInt8 × State)
  | .beginApiModeCommand => some (apiModeCommand, .awaitApiModeResponse)
  | .beginCommandModeExit => some (commandModeExit, .awaitCommandModeExitResponse)
  | _ => none

/-- The guard time is over. -/
def GuardOver (r : GB4XBee) (env : Env) : Prop :=
  commandModeGuardTime < elapsed (env.millis .pollCommandModeGuard) r.guardTimeStart

instance (r : GB4XBee) (env : Env) : Decidable (r.GuardOver env) :=
  inferInstanceAs (Decidable (_ < _))

/-- What a poll of the startup does. -/
inductive StartupMove (r : GB4XBee) (env : Env) : GB4XBee → Prop where
  | waits : StartupMove r env r
  | started : r.mState = .start → StartupMove r env
      { r.startCommandModeGuard env with mState := .awaitCommandModeGuard0 }
  | guarded : r.mState = .awaitCommandModeGuard0 → r.GuardOver env →
      StartupMove r env { r with mState := .beginCommandMode }
  | escaped : r.mState = .beginCommandMode → StartupMove r env
      { (r.sendEscapeSequence env).startCommandModeGuard env with
        mState := .awaitCommandModeGuard1 }
  | guardedAgain : r.mState = .awaitCommandModeGuard1 → r.GuardOver env →
      StartupMove r env { r with mState := .awaitCommandModeResponse }
  | ignored : r.AwaitsResponse → env.serial.take 2 ≠ okBytes →
      StartupMove r env (r.record (.serialRead env.serial))
  | answered {s : State} : responseNext? r.mState = some s → env.serial.take 2 = okBytes →
      StartupMove r env { r.record (.serialRead env.serial) with mState := s }
  | commanded {bytes : List UInt8} {s : State} : command? r.mState = some (bytes, s) →
      StartupMove r env { r.sendCommand bytes env with mState := s }
  | initStarted : r.mState = .beginInitXBeeApi →
      StartupMove r env { r.startInitAPI with mState := .awaitInitXBeeApiDone }
  | queryFailed : r.mState = .awaitInitXBeeApiDone → env.queryStatus ≠ 0 →
      StartupMove r env ((r.devTick env.frames).record (.initStatus env.queryStatus))
  | queried : r.mState = .awaitInitXBeeApiDone → env.queryStatus = 0 → StartupMove r env
      { (r.devTick env.frames).record (.initStatus env.queryStatus) with
        mState := .beginReadApn }
  | apnAsked {err : Int} : r.mState = .beginReadApn →
      StartupMove r env { r with
        err := err
        mState := .awaitReadApnResponse
        log := commandEvents env .readApn ++ r.log }
  | apnWaits : r.mState = .awaitReadApnResponse →
      (r.devTick env.frames).gotAccessPointName = false →
      StartupMove r env (r.devTick env.frames)
  | apnReceived {s : State} : r.mState = .awaitReadApnResponse →
      (r.devTick env.frames).gotAccessPointName = true →
      s = .setApn ∨ s = .beginCreateSocket →
      StartupMove r env { r.devTick env.frames with mState := s }
  | apnSet {err : Int} : r.mState = .setApn →
      StartupMove r env { r with
        err := err
        mState := .beginCreateSocket
        log := (commandEvents env .writeChanges ++ commandEvents env .setApn) ++ r.log }

private theorem awaitResponseOK_move {s : State} (hawaits : r.AwaitsResponse)
    (hnext : responseNext? r.mState = some s) : StartupMove r env (r.awaitResponseOK env s) := by
  rcases r.awaitResponseOK_cases env s with
    ⟨_, _, heq⟩ | ⟨_, hnot, _, heq⟩ | ⟨_, hok, _, heq⟩
  · rw [heq]
    exact .waits
  · rw [heq]
    exact .ignored hawaits hnot
  · rw [heq]
    exact .answered hnext hok

theorem pollInitStatus_cases (r : GB4XBee) (env : Env) :
    env.queryStatus = 0 ∧ r.pollInitStatus env =
      (.initDone, (r.devTick env.frames).record (.initStatus env.queryStatus)) ∨
    env.queryStatus ≠ 0 ∧ ∃ status, (status = .initInProgress ∨ status = .initTryAgain) ∧
      r.pollInitStatus env =
        (status, (r.devTick env.frames).record (.initStatus env.queryStatus)) := by
  unfold pollInitStatus
  dsimp only
  split
  · rename_i hbusy
    refine Or.inr ⟨?_, .initInProgress, Or.inl rfl, rfl⟩
    rw [hbusy]
    decide
  · split
    · rename_i hne
      exact Or.inr ⟨hne, .initTryAgain, Or.inr rfl, rfl⟩
    · rename_i heq
      exact Or.inl ⟨Decidable.not_not.1 heq, rfl⟩

private theorem awaitInit_move (hs : r.mState = .awaitInitXBeeApiDone) :
    StartupMove r env (r.startupStep env) := by
  simp only [startupStep, hs]
  rcases r.pollInitStatus_cases env with ⟨hdone, heq⟩ | ⟨hnot, status, hstatus, heq⟩
  · rw [heq]
    exact .queried hs hdone
  · rw [heq]
    rcases hstatus with rfl | rfl
    · exact .queryFailed hs hnot
    · exact .queryFailed hs hnot

theorem pollAPNStatus_cases (r : GB4XBee) (env : Env) :
    (r.devTick env.frames).gotAccessPointName = false ∧
      r.pollAPNStatus env = (.apnReadInProgress, r.devTick env.frames) ∨
    (r.devTick env.frames).gotAccessPointName = true ∧
      ∃ status, (status = .apnNotSet ∨ status = .apnIsSet) ∧
        r.pollAPNStatus env = (status, r.devTick env.frames) := by
  unfold pollAPNStatus
  dsimp only
  split
  · rename_i hgot
    exact Or.inl ⟨hgot, rfl⟩
  · rename_i hgot
    have hgot := (Bool.not_eq_false _).mp hgot
    split
    · exact Or.inr ⟨hgot, .apnNotSet, Or.inl rfl, rfl⟩
    · exact Or.inr ⟨hgot, .apnIsSet, Or.inr rfl, rfl⟩

private theorem awaitReadApn_move (hs : r.mState = .awaitReadApnResponse) :
    StartupMove r env (r.startupStep env) := by
  simp only [startupStep, hs]
  rcases r.pollAPNStatus_cases env with ⟨hgot, heq⟩ | ⟨hgot, status, hstatus, heq⟩
  · rw [heq]
    exact .apnWaits hs hgot
  · rw [heq]
    rcases hstatus with rfl | rfl
    · exact .apnReceived hs hgot (Or.inl rfl)
    · exact .apnReceived hs hgot (Or.inr rfl)

/-- The inversion lemma, with the conditions of every move. -/
theorem startupStep_move (r : GB4XBee) (env : Env) : StartupMove r env (r.startupStep env) := by
  have hguard : r.pollCommandModeGuard env ≠ false → r.GuardOver env := by
    intro hne
    have hover : decide (r.GuardOver env) = true := (Bool.not_eq_false _).mp hne
    exact of_decide_eq_true hover
  cases hs : r.mState
  case awaitInitXBeeApiDone => exact awaitInit_move hs
  case awaitReadApnResponse => exact awaitReadApn_move hs
  all_goals simp only [startupStep, hs]
  case start => exact .started hs
  case awaitCommandModeGuard0 =>
    split
    · exact .waits
    · rename_i hover
      exact .guarded hs (hguard hover)
  case beginCommandMode => exact .escaped hs
  case awaitCommandModeGuard1 =>
    split
    · exact .waits
    · rename_i hover
      exact .guardedAgain hs (hguard hover)
  case awaitCommandModeResponse =>
    exact awaitResponseOK_move (Or.inl hs) (by rw [hs]; rfl)
  case beginApiModeCommand => exact @StartupMove.commanded r env apiModeCommand _ (by rw [hs]; rfl)
  case awaitApiModeResponse =>
    exact awaitResponseOK_move (Or.inr (Or.inl hs)) (by rw [hs]; rfl)
  case beginCommandModeExit =>
    exact @StartupMove.commanded r env commandModeExit _ (by rw [hs]; rfl)
  case awaitCommandModeExitResponse =>
    exact awaitResponseOK_move (Or.inr (Or.inr hs)) (by rw [hs]; rfl)
  case beginInitXBeeApi => exact .initStarted hs
  case beginReadApn =>
    obtain ⟨err, herr⟩ := @sendReadAPN_snd r env
    rw [herr]
    exact .apnAsked hs
  case setApn =>
    obtain ⟨err, herr⟩ := @sendCommands_snd r env
    rw [herr]
    exact .apnSet hs
  all_goals exact .waits

theorem startupStep_beginReadApn (hs : r.mState = .beginReadApn) :
    (r.startupStep env).log = commandEvents env .readApn ++ r.log := by
  obtain ⟨err, herr⟩ := @sendReadAPN_snd r env
  simp only [startupStep, hs, herr]

theorem startupStep_setApn (hs : r.mState = .setApn) : (r.startupStep env).log =
    (commandEvents env .writeChanges ++ commandEvents env .setApn) ++ r.log := by
  obtain ⟨err, herr⟩ := @sendCommands_snd r env
  simp only [startupStep, hs, herr]

/-- What a startup poll writes: a state, an error, two start times and events of
its own, over the radio as its tick left it. -/
inductive StartupWrites (r : GB4XBee) (env : Env) : GB4XBee → Prop where
  | mk {frames : List Frame} {s : State} {err : Int} {guard response : Int32}
      {events : List Event} :
      s = r.mState ∨ s ∈ startupNext r.mState →
      (∀ e ∈ events, e.ofStartup = true) →
      StartupWrites r env { r.devTick frames with
        mState := s
        err := err
        guardTimeStart := guard
        responseStartTime := response
        log := events ++ (r.devTick frames).log }

/-- No tick and no event: a state, an error and two start times. -/
private theorem StartupWrites.quiet {s : State} (err : Int) (guard response : Int32)
    (hs : s = r.mState ∨ s ∈ startupNext r.mState) :
    StartupWrites r env { r with
      mState := s, err := err, guardTimeStart := guard, responseStartTime := response } :=
  @StartupWrites.mk r env [] s err guard response [] hs (by simp)

/-- No tick, and a command. -/
private theorem StartupWrites.command {s : State} (err : Int) (events : List Event)
    (hs : s = r.mState ∨ s ∈ startupNext r.mState) (hev : ∀ e ∈ events, e.ofStartup = true) :
    StartupWrites r env { r with mState := s, err := err, log := events ++ r.log } :=
  @StartupWrites.mk r env [] s err r.guardTimeStart r.responseStartTime events hs hev

/-- No tick and one event. -/
private theorem StartupWrites.serial {s : State} {e : Event} (guard response : Int32)
    (hs : s = r.mState ∨ s ∈ startupNext r.mState) (he : e.ofStartup = true) :
    StartupWrites r env { r with
      mState := s, guardTimeStart := guard, responseStartTime := response, log := e :: r.log } :=
  @StartupWrites.mk r env [] s r.err guard response [e] hs (by simpa using he)

/-- A tick, and nothing but the state. -/
private theorem StartupWrites.ticked {s : State} (events : List Event)
    (hs : s = r.mState ∨ s ∈ startupNext r.mState) (hev : ∀ e ∈ events, e.ofStartup = true) :
    StartupWrites r env { r.devTick env.frames with
      mState := s, log := events ++ (r.devTick env.frames).log } :=
  @StartupWrites.mk r env env.frames s (r.devTick env.frames).err
    (r.devTick env.frames).guardTimeStart (r.devTick env.frames).responseStartTime events hs hev

theorem mem_startupNext_of_responseNext? {s s' : State} (h : responseNext? s = some s') :
    s' ∈ startupNext s := by
  cases s <;> simp only [responseNext?, Option.some.injEq, reduceCtorEq] at h <;>
    rw [← h] <;> exact List.mem_singleton_self _

theorem mem_startupNext_of_command? {s s' : State} {bytes : List UInt8}
    (h : command? s = some (bytes, s')) : s' ∈ startupNext s := by
  cases s <;> simp only [command?, Option.some.injEq, Prod.mk.injEq, reduceCtorEq] at h <;>
    rw [← h.2] <;> exact List.mem_singleton_self _

theorem StartupMove.writes (h : StartupMove r env r') : StartupWrites r env r' := by
  have hinit : ∀ e ∈ [Event.initStatus env.queryStatus], e.ofStartup = true := by
    simp [Event.ofStartup]
  have hsend : ∀ k, ∀ e ∈ commandEvents env k, e.ofStartup = true := by
    intro k e he
    rw [eq_of_mem_commandEvents he]
    rfl
  cases h with
  | waits => exact .quiet r.err r.guardTimeStart r.responseStartTime (Or.inl rfl)
  | started hs => exact .quiet r.err _ r.responseStartTime (Or.inr (by simp [hs, startupNext]))
  | guarded hs _ => exact .quiet r.err _ r.responseStartTime (Or.inr (by simp [hs, startupNext]))
  | escaped hs => exact .serial _ _ (Or.inr (by simp [hs, startupNext])) rfl
  | guardedAgain hs _ =>
    exact .quiet r.err _ r.responseStartTime (Or.inr (by simp [hs, startupNext]))
  | ignored _ _ => exact .serial r.guardTimeStart r.responseStartTime (Or.inl rfl) rfl
  | answered hnext _ =>
    have hs := mem_startupNext_of_responseNext? hnext
    exact .serial r.guardTimeStart r.responseStartTime (Or.inr hs) rfl
  | commanded hnext =>
    exact .serial r.guardTimeStart _ (Or.inr (mem_startupNext_of_command? hnext)) rfl
  | initStarted hs =>
    exact .serial r.guardTimeStart r.responseStartTime (Or.inr (by simp [hs, startupNext])) rfl
  | queryFailed _ _ =>
    exact .ticked [.initStatus env.queryStatus] (Or.inl (r.devTick_mState env.frames)) hinit
  | queried hs _ =>
    exact .ticked [.initStatus env.queryStatus] (Or.inr (by simp [hs, startupNext])) hinit
  | @apnAsked err hs =>
    exact .command err _ (Or.inr (by simp [hs, startupNext])) (hsend .readApn)
  | apnWaits _ _ => exact .ticked [] (Or.inl (r.devTick_mState env.frames)) (List.forall_mem_nil _)
  | apnReceived hs _ hnext =>
    refine .ticked [] (Or.inr ?_) (List.forall_mem_nil _)
    rcases hnext with rfl | rfl <;> simp [hs, startupNext]
  | @apnSet err hs =>
    exact .command err _ (Or.inr (by simp [hs, startupNext]))
      (List.forall_mem_append.2 ⟨hsend .writeChanges, hsend .setApn⟩)

theorem startupStep_writes (r : GB4XBee) (env : Env) :
    StartupWrites r env (r.startupStep env) :=
  (r.startupStep_move env).writes

theorem le_of_mem_startupNext {s s' : State} (h : s' ∈ startupNext s) :
    s' ≤ .beginCreateSocket ∧ s' ≠ .socketCooldownPeriod := by
  cases s <;> simp only [startupNext, List.mem_cons, List.not_mem_nil, or_false] at h
  case awaitReadApnResponse => rcases h with rfl | rfl <;> decide
  all_goals
    rw [h]
    decide

/-- What the main machine may know about a startup poll: it stops before the
first socket, and it leaves frames and events of its own. -/
structure StartupStep (r r' : GB4XBee) : Prop where
  mState : r'.mState ≤ .beginCreateSocket
  connectInProgress : r'.connectInProgress = r.connectInProgress
  ticked : ∃ frames events, r'.gReceive = r.gReceive.tick frames ∧
    r'.log = events ++ (tickEvents frames ++ r.log) ∧
    ∀ e ∈ events, e.ofStartup = true

theorem startupStep_step (env : Env) (hr : r.mState < .socketCooldownPeriod) :
    StartupStep r (r.startupStep env) := by
  have hwrites := r.startupStep_writes env
  generalize r.startupStep env = r' at hwrites ⊢
  cases hwrites with
  | @mk frames s _ _ _ events hs hev =>
    refine ⟨?_, r.devTick_connectInProgress frames, frames, events, r.devTick_gReceive frames,
      ?_, hev⟩
    · rcases hs with hs | hs
      · show s ≤ _
        rw [hs]
        exact Nat.le_of_lt (Nat.lt_trans hr (by decide))
      · exact (le_of_mem_startupNext hs).1
    · rw [← devTick_log]

theorem poll_startup (hr : r.mState < .socketCooldownPeriod) : r.poll env = r.startupStep env := by
  unfold poll pollStartup
  rw [if_pos hr]
  dsimp only
  split <;> rfl

/-- A poll is a startup step, or a tick and a step of the main machine. -/
theorem poll_cases (r : GB4XBee) (env : Env) :
    r.mState < .socketCooldownPeriod ∧ StartupStep r (r.poll env) ∨
    .socketCooldownPeriod ≤ r.mState ∧ MainStep (r.devTick env.frames) env (r.poll env) := by
  by_cases hr : r.mState < .socketCooldownPeriod
  · refine Or.inl ⟨hr, ?_⟩
    rw [poll_startup hr]
    exact startupStep_step env hr
  · have hr := State.not_lt.1 hr
    refine Or.inr ⟨hr, ?_⟩
    rw [poll_main hr]
    exact mainStep_step _ _

/-- A poll that ends in `SOCKET_READY` or above has ticked, and then stayed or advanced:
a reset, a new socket and the startup all end below. -/
theorem poll_high (h : .socketReady ≤ (r.poll env).mState) :
    r.poll env = r.devTick env.frames ∨
      ∃ s count, Advance (r.devTick env.frames) s ∧ .socketReady ≤ s ∧
        r.poll env = { r.devTick env.frames with mState := s, notifyCount := count } := by
  rcases r.poll_cases env with ⟨_, hstep⟩ | ⟨_, hstep⟩
  · have hlt : (r.poll env).mState < .socketReady :=
      Nat.lt_of_le_of_lt hstep.mState (by decide)
    exact absurd hlt (State.not_lt.2 h)
  · generalize r.poll env = r' at hstep h ⊢
    cases hstep with
    | stay => exact Or.inl rfl
    | @advance s count hadv => exact Or.inr ⟨s, count, hadv, h, rfl⟩
    | reset => exact absurd h (show ¬State.socketReady ≤ .socketCooldownPeriod by decide)
    | create _ _ => exact absurd h (show ¬State.socketReady ≤ .awaitSocketId by decide)
    | createFailed _ _ =>
      exact absurd h (show ¬State.socketReady ≤ .socketCooldownPeriod by decide)

/-- Where a poll that ends in `SOCKET_READY` or above has started. -/
theorem poll_from (h : .socketReady ≤ (r.poll env).mState) :
    (r.poll env).connectInProgress = r.connectInProgress ∧
    ((r.poll env).mState = r.mState ∨
      r.mState = .awaitSocketId ∧ (r.poll env).mState = .socketReady ∨
      r.mState = .socketReady ∧ r.connectInProgress = true ∧
        (r.poll env).mState = .awaitConnectResponse ∨
      r.mState = .awaitConnectResponse ∧ (r.poll env).mState = .awaitConnection ∨
      (r.mState = .awaitConnection ∨ r.mState = .sending ∨ r.mState = .connected) ∧
        (r.poll env).mState = .connected) := by
  rcases poll_high h with heq | ⟨s, count, hadv, hhigh, heq⟩
  · rw [heq]
    simp
  · rw [heq]
    refine ⟨by simp, ?_⟩
    cases hadv with
    | cooledDown _ => exact absurd hhigh (by decide)
    | createTimeout _ => exact absurd hhigh (by decide)
    | created hs => exact Or.inr (Or.inl ⟨by simpa using hs, rfl⟩)
    | connecting hs hcip =>
      exact Or.inr (Or.inr (Or.inl ⟨by simpa using hs, by simpa using hcip, rfl⟩))
    | answered hs => exact Or.inr (Or.inr (Or.inr (Or.inl ⟨by simpa using hs, rfl⟩)))
    | connected hs => exact Or.inr (Or.inr (Or.inr (Or.inr ⟨by simpa using hs, rfl⟩)))

/-! ## The log -/

theorem ofRadio_of_mem_tickEvents {frames : List Frame} {e : Event}
    (h : e ∈ tickEvents frames) : e.ofRadio = true := by
  simp only [tickEvents, List.mem_reverse, List.mem_filterMap] at h
  obtain ⟨frame, _, hframe⟩ := h
  cases frame <;> simp [Frame.event?] at hframe <;> subst hframe <;> rfl

/-- A poll that ends in `SOCKET_READY` or above has only ticked. -/
theorem poll_ticked (h : .socketReady ≤ (r.poll env).mState) :
    (r.poll env).log = tickEvents env.frames ++ r.log ∧
      (r.poll env).gReceive = r.gReceive.tick env.frames := by
  rcases poll_high h with heq | ⟨_, _, _, _, heq⟩
  · rw [heq]
    exact ⟨r.devTick_log env.frames, r.devTick_gReceive env.frames⟩
  · rw [heq]
    exact ⟨r.devTick_log env.frames, r.devTick_gReceive env.frames⟩

/-- The switch resets the socket and creates it. -/
theorem MainStep.log (h : MainStep t env r') :
    ∃ events, r'.log = events ++ t.log ∧
      ∀ e ∈ events, e = .resetSocket ∨ e = .socketCreate env.sockCreate := by
  cases h with
  | stay => exact ⟨[], rfl, List.forall_mem_nil _⟩
  | advance _ => exact ⟨[], rfl, List.forall_mem_nil _⟩
  | reset => exact ⟨[.resetSocket], rfl, by simp⟩
  | create _ _ => exact ⟨[.socketCreate env.sockCreate], rfl, by simp⟩
  | createFailed _ _ => exact ⟨[.resetSocket, .socketCreate env.sockCreate], rfl, by simp⟩

/-- A poll of the radio only adds events of the radio. -/
theorem poll_log (r : GB4XBee) (env : Env) :
    ∃ new, (r.poll env).log = new ++ r.log ∧ ∀ e ∈ new, e.ofRadio = true := by
  rcases r.poll_cases env with ⟨_, hstep⟩ | ⟨_, hstep⟩
  · obtain ⟨frames, events, _, hlog, hev⟩ := hstep.ticked
    refine ⟨events ++ tickEvents frames, by rw [hlog, List.append_assoc], fun e he => ?_⟩
    rcases List.mem_append.1 he with he | he
    · have := hev e he
      cases e <;> simp_all [Event.ofStartup, Event.ofRadio]
    · exact ofRadio_of_mem_tickEvents he
  · obtain ⟨events, hlog, hev⟩ := hstep.log
    refine ⟨events ++ tickEvents env.frames, ?_, fun e he => ?_⟩
    · rw [hlog, devTick_log, List.append_assoc]
    · rcases List.mem_append.1 he with he | he
      · rcases hev e he with rfl | rfl <;> rfl
      · exact ofRadio_of_mem_tickEvents he

/-! ## Calls from above -/

private theorem sendMessageBody_cases (r : GB4XBee) (env : Env) :
    r.mState = .connected ∧ env.sockSend = 0 ∧
      r.sendMessageBody env = (.messageSent, { r with
        sendStartTime := (env.millis .sendMessage).toInt32
        mState := .sending }) ∨
    ∃ status, status ≠ .messageSent ∧ (r.mState ≠ .connected ∨ env.sockSend ≠ 0) ∧
      r.sendMessageBody env = (status, r) := by
  unfold sendMessageBody
  by_cases hsending : r.mState = .sending
  · rw [if_pos hsending]
    exact Or.inr ⟨_, by decide, Or.inl (by rw [hsending]; decide), rfl⟩
  by_cases hconn : r.mState ≠ .connected
  · rw [if_neg hsending, if_pos hconn]
    exact Or.inr ⟨_, by decide, Or.inl hconn, rfl⟩
  rw [if_neg hsending, if_neg hconn]
  have hconn : r.mState = .connected := by simpa using hconn
  by_cases hok : env.sockSend = 0
  · rw [if_pos hok]
    exact Or.inl ⟨hconn, hok, rfl⟩
  rw [if_neg hok]
  apply Or.inr
  split
  · exact ⟨_, by decide, Or.inr hok, rfl⟩
  · split
    · exact ⟨_, by decide, Or.inr hok, rfl⟩
    · split
      · exact ⟨_, by decide, Or.inr hok, rfl⟩
      · exact ⟨_, by decide, Or.inr hok, rfl⟩

/-- `sendMessage` hands the message over and moves to `SENDING`, or it answers
something else and leaves the radio alone. -/
theorem sendMessage_cases (r : GB4XBee) (message : List UInt8) (len : Nat) (env : Env) :
    r.mState = .connected ∧ env.sockSend = 0 ∧
      r.sendMessage message len env = (.messageSent, { r with
        sendStartTime := (env.millis .sendMessage).toInt32
        mState := .sending
        log := .sendMessage .connected message len .messageSent :: r.log }) ∨
    ∃ status, status ≠ .messageSent ∧ (r.mState ≠ .connected ∨ env.sockSend ≠ 0) ∧
      r.sendMessage message len env =
        (status, r.record (.sendMessage r.mState message len status)) := by
  unfold sendMessage
  rcases r.sendMessageBody_cases env with ⟨hconn, hok, heq⟩ | ⟨status, hne, hwhy, heq⟩
  · exact Or.inl ⟨hconn, hok, by rw [heq]; simp [record, hconn]⟩
  · exact Or.inr ⟨status, hne, hwhy, by rw [heq]⟩

/-- `connect` starts the connection timeout, or it only leaves an error. -/
theorem connect_cases (r : GB4XBee) (env : Env) :
    env.sockConnect = 0 ∧ r.connect env = (true, { r with
      connectStartTime := (env.millis .connect).toInt32
      connectInProgress := true
      log := .socketConnect r.mState 0 :: r.log }) ∨
    env.sockConnect ≠ 0 ∧ r.connect env = (false, { r with
      err := env.sockConnect
      log := .socketConnect r.mState env.sockConnect :: r.log }) := by
  unfold connect
  split
  · rename_i hne
    exact Or.inr ⟨hne, rfl⟩
  · rename_i heq
    have heq : env.sockConnect = 0 := by simpa using heq
    exact Or.inl ⟨heq, by simp [record, heq]⟩

/-- `getReceivedMessage` finds nothing, or it takes the payload. -/
theorem getReceivedMessage_cases (r : GB4XBee) (len : Nat) :
    r.gReceive.mPending = false ∧ r.getReceivedMessage len = (.waitingMessage, [], r) ∨
    r.gReceive.mPending = true ∧
      r.getReceivedMessage len = (.messageReceived, (r.gReceive.read len).1,
        { r with gReceive := { r.gReceive with mPending := false } }) := by
  unfold getReceivedMessage XBeeReceive.pending
  cases hp : r.gReceive.mPending with
  | false => exact Or.inl ⟨rfl, rfl⟩
  | true => exact Or.inr ⟨rfl, rfl⟩

end GB4XBee

end XBeeMqtt
