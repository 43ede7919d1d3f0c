import XBeeMqtt.Types

/-!
# What one poll reads from outside

The XBee driver, the serial port and the clock are no part of the program.
`Env` is what they answer during one `poll()`: the frames that `xbee_dev_tick`
dispatches, the result of every driver call, the serial bytes, the clock
readings, and what the uninitialised stack variables hold.

A poll makes each driver call at most once, so one result per call is enough.
Clock readings are named by the place in the source that makes them, and no
relation between two readings is assumed.
-/

namespace XBeeMqtt

/-- A frame that `xbee_dev_tick` dispatches, by the callback it reaches. -/
inductive Frame where
  /-- `XBeeNotify::callback`. -/
  | notify (sockid : Int) (frameType message : UInt8)
  /-- `XBeeReceive::callback`. -/
  | receive (sock : Int) (payload : List UInt8)
  /-- `readAPNCallback`. -/
  | apn (value : List UInt8)
  deriving DecidableEq, Repr

/-- The calls of `millis()`, by the function that makes them. -/
inductive MillisCall where
  | radioResetSocket
  | startCommandModeGuard
  | pollCommandModeGuard
  | responseStart
  | pollResponseOK
  | pollSocketCooldown
  | sendSocketCreate
  | awaitSocketId
  | awaitConnect
  | sending
  | connect
  | sendMessage
  | mqttResetSocket
  | sendConnectRequest
  | pollConnackStatus
  | keepalivePeriodStart
  | pingPeriodStart
  | sendPingRequest
  | networkInterval
  | pingInterval
  | publishSent
  | publishTimeout
  | publishRetry
  deriving DecidableEq, Repr

/-- What one poll reads from outside. -/
structure Env where
  frames : List Frame := []
  millis : MillisCall → UInt32 := fun _ => 0
  /-- What `Serial.available` counts and `Serial.readBytes` gives. -/
  serial : List UInt8 := []
  queryStatus : Int := 0
  cmdCreate : AtCommand → Int := fun _ => 1
  cmdSetParamStr : Int := 0
  cmdSend : AtCommand → Int := fun _ => 0
  sockCreate : Int := 1
  sockConnect : Int := 0
  sockSend : Int := 0
  /-- What `payload[]` of `pollIncomming` holds. -/
  payload : List UInt8 := []
  /-- What `message[]` of `dispatchIncomming` holds. -/
  message : List UInt8 := []
  /-- What `status` of `dispatchIncomming` holds. -/
  status : GB4MQTT.Return := .other 0

/-- `millis() - start`, in unsigned arithmetic. -/
def elapsed (now : UInt32) (start : Int32) : UInt32 := now - start.toUInt32

end XBeeMqtt
