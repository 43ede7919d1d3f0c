import XBeeMqtt.Driver

/-!
# `GB4XBee`

The radio state machine of `gb4xbee.cpp`.  Every member function is a function
of the record and of `Env`; it answers what the source returns and the record
after the call.

The record also holds the two globals `g_notify` and `g_receive`, which only
the radio's driver callbacks write, and the history variable `log`.

Sections: the small operations, the startup machine, the main machine.
-/

namespace XBeeMqtt

structure GB4XBee where
  mState : GB4XBee.State
  err : Int
  guardTimeStart : Int32
  responseStartTime : Int32
  connectStartTime : Int32
  socketCreateStartTime : Int32
  socketCooldownStartTime : Int32
  sendStartTime : Int32
  /-- The memory from the array on: its bytes, then what lies behind them. -/
  accessPointName : List UInt8
  gotAccessPointName : Bool
  needSetAccessPointName : Bool
  sock : Int
  transportProtocol : UInt8
  notifyCount : UInt32
  connectInProgress : Bool
  gNotify : XBeeNotify
  gReceive : XBeeReceive
  log : List Event
  deriving DecidableEq, Repr, Inhabited

namespace GB4XBee

def commandModeGuardTime : UInt32 := 1200
def accessPointNameSize : Nat := 32
def defaultCommandTimeout : UInt32 := 10000
def connectTimeout : UInt32 := 20000
def socketCreateTimeout : UInt32 := 10000
def socketCooldownInterval : UInt32 := 2000
def sendTimeout : UInt32 := 1000

def protocolTcp : UInt8 := 1
def protocolSsl : UInt8 := 4

/-- `strncpy(dst, src, n)`: up to `n` bytes of the string `src`, then zeros. -/
def strncpy (dst src : List UInt8) (n : Nat) : List UInt8 :=
  let copied := (src.takeWhile (· ≠ 0)).take n
  copied ++ List.replicate (n - copied.length) 0 ++ dst.drop n

/-- `GB4XBee()`.  `mem` is what the memory of the object held before. -/
def construct (mem : GB4XBee) (apn : List UInt8) (useTls : Bool) : GB4XBee :=
  { mem with
    guardTimeStart := 0
    responseStartTime := 0
    gotAccessPointName := false
    needSetAccessPointName := false
    err := 0
    transportProtocol := if useTls then protocolSsl else protocolTcp
    accessPointName := strncpy mem.accessPointName apn (accessPointNameSize - 1)
    notifyCount := 0
    connectInProgress := false
    gNotify := .fresh mem.gNotify.socket
    gReceive := .fresh mem.gReceive.socket
    log := [] }

/-- `status` is what `xbee_dev_init` answers. -/
def begin (r : GB4XBee) (status : Int) : Bool × GB4XBee :=
  if status ≠ 0 then (false, { r with err := status })
  else (true, { r with mState := .start })

/-! ## Small operations -/

def record (r : GB4XBee) (e : Event) : GB4XBee := { r with log := e :: r.log }

/-- `resetSocket` forces the cooldown from any state. -/
def resetSocket (r : GB4XBee) (now : UInt32) : GB4XBee :=
  { r with
    mState := .socketCooldownPeriod
    socketCooldownStartTime := now.toInt32
    log := .resetSocket :: r.log }

/-- `memcmp` looks at as many bytes as the response has. -/
def verifyAccessPointName (r : GB4XBee) (value : List UInt8) : Bool × GB4XBee :=
  let r := { r with gotAccessPointName := true }
  if r.accessPointName.take value.length ≠ value then
    (false, { r with needSetAccessPointName := true })
  else (true, r)

/-- One frame of `xbee_dev_tick`. -/
def dispatch (r : GB4XBee) : Frame → GB4XBee
  | .notify sockid frameType message =>
    { r with gNotify := r.gNotify.callback sockid frameType message }
  | .receive sock payload =>
    { r with
      gReceive := r.gReceive.callback sock payload
      log := .received payload :: r.log }
  | .apn value => (r.verifyAccessPointName value).2.record (.apnResponse value)

/-- `xbee_dev_tick`. -/
def devTick (r : GB4XBee) (frames : List Frame) : GB4XBee := frames.foldl dispatch r

def sendSocketCreate (r : GB4XBee) (env : Env) : Bool × GB4XBee :=
  let r := { r with sock := env.sockCreate, log := .socketCreate env.sockCreate :: r.log }
  if env.sockCreate < 0 then (false, { r with err := env.sockCreate })
  else (true, { r with socketCreateStartTime := (env.millis .sendSocketCreate).toInt32 })

def pollSocketCooldown (r : GB4XBee) (env : Env) : Bool :=
  elapsed (env.millis .pollSocketCooldown) r.socketCooldownStartTime > socketCooldownInterval

/-- The port and the address only go to the driver. -/
def connect (r : GB4XBee) (env : Env) : Bool × GB4XBee :=
  let r := r.record (.socketConnect r.mState env.sockConnect)
  if env.sockConnect ≠ 0 then (false, { r with err := env.sockConnect })
  else
    (true, { r with
      connectStartTime := (env.millis .connect).toInt32
      connectInProgress := true })

/-- The bytes copied into the caller's buffer of size `len`, if any. -/
def getReceivedMessage (r : GB4XBee) (len : Nat) : Return × List UInt8 × GB4XBee :=
  if r.gReceive.pending = false then (.waitingMessage, [], r)
  else
    let (message, gReceive) := r.gReceive.read len
    (.messageReceived, message, { r with gReceive := gReceive })

def enoent : Int := 2
def ebusy : Int := 16
def emsgsize : Int := 122

/-- `sendMessage`, without the event it leaves. -/
def sendMessageBody (r : GB4XBee) (env : Env) : Return × GB4XBee :=
  if r.mState = .sending then (.inProgress, r)
  else if r.mState ≠ .connected then (.disconnected, r)
  else if env.sockSend = 0 then
    (.messageSent, { r with
      sendStartTime := (env.millis .sendMessage).toInt32
      mState := .sending })
  else if env.sockSend = -enoent then (.disconnected, r)
  else if env.sockSend = -ebusy then (.bufferFull, r)
  else if env.sockSend = -emsgsize then (.packetError, r)
  else (.socketError, r)

/-- The buffer and the length only go to the driver. -/
def sendMessage (r : GB4XBee) (message : List UInt8) (len : Nat) (env : Env) :
    Return × GB4XBee :=
  let (status, r') := r.sendMessageBody env
  (status, r'.record (.sendMessage r.mState message len status))

/-! ## The startup machine -/

def startCommandModeGuard (r : GB4XBee) (env : Env) : GB4XBee :=
  { r with guardTimeStart := (env.millis .startCommandModeGuard).toInt32 }

def pollCommandModeGuard (r : GB4XBee) (env : Env) : Bool :=
  elapsed (env.millis .pollCommandModeGuard) r.guardTimeStart > commandModeGuardTime

/-- `Serial.write`, and the start of the response timeout. -/
def sendCommand (r : GB4XBee) (bytes : List UInt8) (env : Env) : GB4XBee :=
  { r with
    responseStartTime := (env.millis .responseStart).toInt32
    log := .serialWrite bytes (env.millis .responseStart) :: r.log }

/-- `"+++"`. -/
def sendEscapeSequence (r : GB4XBee) (env : Env) : GB4XBee :=
  r.sendCommand [0x2B, 0x2B, 0x2B] env

/-- `"ATAP1\r"`. -/
def sendAPIMode (r : GB4XBee) (env : Env) : GB4XBee :=
  r.sendCommand [0x41, 0x54, 0x41, 0x50, 0x31, 0x0D] env

/-- `"ATCN\r"`. -/
def sendCommandModeExit (r : GB4XBee) (env : Env) : GB4XBee :=
  r.sendCommand [0x41, 0x54, 0x43, 0x4E, 0x0D] env

/-- Everything that is available is read, also what does not fit into
`ok_buffer`; only its first two bytes are compared with `"OK"`. -/
def pollResponseOK (r : GB4XBee) (env : Env) : Return × GB4XBee :=
  let n := env.serial.length
  if n < 3 then
    if elapsed (env.millis .pollResponseOK) r.responseStartTime > defaultCommandTimeout then
      (.commandTimeout, r)
    else (.commandInProgress, r)
  else
    let r := r.record (.serialRead env.serial)
    if env.serial.take 2 ≠ [0x4F, 0x4B] then (.commandNotOk, r) else (.commandOk, r)

def startInitAPI (r : GB4XBee) : GB4XBee := r.record .initDevice

def pollInitStatus (r : GB4XBee) (env : Env) : Return × GB4XBee :=
  let r := (r.devTick env.frames).record (.initStatus env.queryStatus)
  if env.queryStatus = -ebusy then (.initInProgress, r)
  else if env.queryStatus ≠ 0 then (.initTryAgain, r)
  else (.initDone, r)

/-- What `xbee_cmd_send` answers is dropped. -/
def sendReadAPN (r : GB4XBee) (env : Env) : Bool × GB4XBee :=
  if env.cmdCreate .readApn < 0 then (false, { r with err := env.cmdCreate .readApn })
  else (true, r.record (.commandSend .readApn (env.cmdSend .readApn)))

def pollAPNStatus (r : GB4XBee) (env : Env) : Return × GB4XBee :=
  let r := r.devTick env.frames
  if r.gotAccessPointName = false then (.apnReadInProgress, r)
  else if r.needSetAccessPointName = true then (.apnNotSet, r)
  else (.apnIsSet, r)

def sendWriteChanges (r : GB4XBee) (env : Env) : Bool × GB4XBee :=
  if env.cmdCreate .writeChanges < 0 then (false, { r with err := env.cmdCreate .writeChanges })
  else
    let r := r.record (.commandSend .writeChanges (env.cmdSend .writeChanges))
    if env.cmdSend .writeChanges ≠ 0 then (false, { r with err := env.cmdSend .writeChanges })
    else (true, r)

def sendSetAPN (r : GB4XBee) (env : Env) : Bool × GB4XBee :=
  if env.cmdCreate .setApn < 0 then (false, { r with err := env.cmdCreate .setApn })
  else if env.cmdSetParamStr < 0 then (false, { r with err := env.cmdSetParamStr })
  else
    let r := r.record (.commandSend .setApn (env.cmdSend .setApn))
    if env.cmdSend .setApn ≠ 0 then (false, { r with err := env.cmdSend .setApn })
    else (true, r)

/-- The three states that wait for `OK` only differ in where they go. -/
def awaitResponseOK (r : GB4XBee) (env : Env) (next : State) : GB4XBee :=
  let (status, r) := r.pollResponseOK env
  if status = .commandOk then { r with mState := next } else r

/-- The switch of `pollStartup`. -/
def startupStep (r : GB4XBee) (env : Env) : GB4XBee :=
  match r.mState with
  | .start => { r.startCommandModeGuard env with mState := .awaitCommandModeGuard0 }
  | .awaitCommandModeGuard0 =>
    if r.pollCommandModeGuard env = false then r else { r with mState := .beginCommandMode }
  | .beginCommandMode =>
    let r := (r.sendEscapeSequence env).startCommandModeGuard env
    { r with mState := .awaitCommandModeGuard1 }
  | .awaitCommandModeGuard1 =>
    if r.pollCommandModeGuard env = false then r
    else { r with mState := .awaitCommandModeResponse }
  | .awaitCommandModeResponse => r.awaitResponseOK env .beginApiModeCommand
  | .beginApiModeCommand => { r.sendAPIMode env with mState := .awaitApiModeResponse }
  | .awaitApiModeResponse => r.awaitResponseOK env .beginCommandModeExit
  | .beginCommandModeExit =>
    { r.sendCommandModeExit env with mState := .awaitCommandModeExitResponse }
  | .awaitCommandModeExitResponse => r.awaitResponseOK env .beginInitXBeeApi
  | .beginInitXBeeApi => { r.startInitAPI with mState := .awaitInitXBeeApiDone }
  | .awaitInitXBeeApiDone =>
    let (status, r) := r.pollInitStatus env
    if status = .initTryAgain then r
    else if status = .initInProgress then r
    else { r with mState := .beginReadApn }
  | .beginReadApn => { (r.sendReadAPN env).2 with mState := .awaitReadApnResponse }
  | .awaitReadApnResponse =>
    let (status, r) := r.pollAPNStatus env
    match status with
    | .apnIsSet => { r with mState := .beginCreateSocket }
    | .apnNotSet => { r with mState := .setApn }
    | _ => r
  | .setApn =>
    let r := ((r.sendSetAPN env).2.sendWriteChanges env).2
    { r with mState := .beginCreateSocket }
  | _ => r

def pollStartup (r : GB4XBee) (env : Env) : Return × GB4XBee :=
  let r := r.startupStep env
  if r.mState ≠ .beginCreateSocket then (.startupInProgress, r) else (.startupComplete, r)

/-! ## The main machine -/

/-- `AWAIT_CONNECT_RESPONSE` and `AWAIT_CONNECTION`: a timeout when no
notification was counted, else the notification must be the expected one. -/
def awaitNotification (r : GB4XBee) (env : Env) (expected : Bool) (next : State) : GB4XBee :=
  if r.gNotify.count = r.notifyCount then
    if elapsed (env.millis .awaitConnect) r.connectStartTime > connectTimeout then
      r.resetSocket (env.millis .radioResetSocket)
    else r
  else
    let r := { r with notifyCount := r.gNotify.count }
    if expected = false then r.resetSocket (env.millis .radioResetSocket)
    else { r with mState := next }

/-- `CONNECTED`, where a failing notification resets the socket. -/
def connectedStep (r : GB4XBee) (env : Env) : GB4XBee :=
  if r.gNotify.count = r.notifyCount then r
  else
    let r := { r with notifyCount := r.gNotify.count }
    if r.gNotify.type = .sockState ∧ r.gNotify.stateMesg ≠ StateMesg.connected then
      r.resetSocket (env.millis .radioResetSocket)
    else if r.gNotify.type = .txStatus ∧ r.gNotify.txMesg ≠ TxMesg.success then
      r.resetSocket (env.millis .radioResetSocket)
    else { r with mState := .connected }

/-- The switch of `poll`, after the tick. -/
def mainStep (r : GB4XBee) (env : Env) : GB4XBee :=
  match r.mState with
  | .socketCooldownPeriod =>
    if r.pollSocketCooldown env = false then r else { r with mState := .beginCreateSocket }
  | .beginCreateSocket =>
    let (count, gNotify) := r.gNotify.reset
    let r := { r with gNotify := gNotify, notifyCount := count, connectInProgress := false }
    let (ok, r) := r.sendSocketCreate env
    if ok = false then r.resetSocket (env.millis .radioResetSocket)
    else { r with mState := .awaitSocketId }
  | .awaitSocketId =>
    if r.gNotify.count = r.notifyCount then
      if elapsed (env.millis .awaitSocketId) r.socketCreateStartTime > socketCreateTimeout then
        { r with mState := .beginCreateSocket }
      else r
    else
      let r := { r with notifyCount := r.gNotify.count }
      if r.gNotify.type ≠ .sockCreateResp ∨ r.gNotify.sockMesg ≠ SockMesg.success then
        r.resetSocket (env.millis .radioResetSocket)
      else { r with mState := .socketReady }
  | .socketReady =>
    if r.connectInProgress = false then r else { r with mState := .awaitConnectResponse }
  | .awaitConnectResponse =>
    r.awaitNotification env
      (r.gNotify.type = .sockConnectResp ∧ r.gNotify.sockMesg = SockMesg.success)
      .awaitConnection
  | .awaitConnection =>
    r.awaitNotification env
      (r.gNotify.type = .sockState ∧ r.gNotify.stateMesg = StateMesg.connected) .connected
  | .sending =>
    -- falls through to `CONNECTED`
    let r :=
      if elapsed (env.millis .sending) r.sendStartTime > sendTimeout then
        { r with mState := .connected }
      else r
    r.connectedStep env
  | .connected => r.connectedStep env
  | _ => r

/-- `poll` answers `m_state` after it. -/
def poll (r : GB4XBee) (env : Env) : GB4XBee :=
  if r.mState < .socketCooldownPeriod then (r.pollStartup env).2
  else (r.devTick env.frames).mainStep env

end GB4XBee

end XBeeMqtt
