import XBeeMqtt.Notify
import XBeeMqtt.Request

/-!
# States, results and events

The enumerations of `GB4XBee` and `GB4MQTT`, and the events of the history
variable.

`Event` is not in the source.  The model writes one down where a call crosses
the border of the program (the driver, the broker library, the caller), and no
function of the model reads them.  Statements about runs speak of events.
-/

namespace XBeeMqtt

namespace GB4XBee

/-- `GB4XBee::State`, in the order of the enumeration. -/
inductive State where
  | start
  | awaitCommandModeGuard0
  | beginCommandMode
  | awaitCommandModeGuard1
  | awaitCommandModeResponse
  | beginApiModeCommand
  | awaitApiModeResponse
  | beginCommandModeExit
  | awaitCommandModeExitResponse
  | beginInitXBeeApi
  | awaitInitXBeeApiDone
  | beginReadApn
  | awaitReadApnResponse
  | setApn
  | socketCooldownPeriod
  | beginCreateSocket
  | awaitSocketId
  | beginSetTlsProfile
  | awaitTlsProfileResponse
  | socketReady
  | awaitConnectResponse
  | awaitConnection
  | connected
  | sending
  | maxState
  deriving DecidableEq, Repr, Inhabited

/-- The enumerators compare by their position. -/
instance : LT State := ⟨fun a b => a.ctorIdx < b.ctorIdx⟩

instance : LE State := ⟨fun a b => a.ctorIdx ≤ b.ctorIdx⟩

instance (a b : State) : Decidable (a < b) :=
  inferInstanceAs (Decidable (a.ctorIdx < b.ctorIdx))

instance (a b : State) : Decidable (a ≤ b) :=
  inferInstanceAs (Decidable (a.ctorIdx ≤ b.ctorIdx))

theorem State.not_lt {a b : State} : ¬a < b ↔ b ≤ a := Nat.not_lt

/-- `GB4XBee::Return`: the enumerators that the modelled functions answer. -/
inductive Return where
  | bufferFull
  | packetError
  | initTryAgain
  | apnReadError
  | socketError
  | commandTimeout
  | commandNotOk
  | commandOk
  | commandInProgress
  | initDone
  | initInProgress
  | apnReadInProgress
  | apnNotSet
  | apnIsSet
  | disconnected
  | waitingMessage
  | messageReceived
  | messageSent
  | startupInProgress
  | startupComplete
  | inProgress
  deriving DecidableEq, Repr, Inhabited

end GB4XBee

namespace GB4MQTT

/-- `GB4MQTT::State`. -/
inductive State where
  | radioInitFailed
  | init
  | startingRadio
  | resetSocket
  | restartingSocket
  | notConnected
  | connectingSocket
  | beginConnectRetryDelay
  | connectRetryDelay
  | connectMqtt
  | awaitConnack
  | beginStandby
  | standby
  | awaitSuback
  | ping
  | awaitPingack
  deriving DecidableEq, Repr, Inhabited

/-- `GB4MQTT::Return`.  `other` stands for a value of the underlying type that
is no enumerator, which an unassigned variable may hold. -/
inductive Return where
  | pubackMalformed
  | publishSocketError
  | publishPacketError
  | dispatchTypeError
  | pingPacketError
  | pingSocketError
  | connectPacketError
  | connectSocketError
  | connackTimeout
  | connackRejected
  | connackError
  | listening
  | radioReady
  | connectSent
  | gotConnack
  | waitingMessage
  | messageReceived
  | connected
  | keepaliveTimerReconnect
  | keepaliveTimerPing
  | keepaliveTimerRunning
  | pingSent
  | dispatchedPing
  | publishQueued
  | publishSent
  | dispatchedPuback
  | inProgress
  | other (value : Int)
  deriving DecidableEq, Repr, Inhabited

end GB4MQTT

/-- `enum msgTypes`, with the values that are no enumerator. -/
inductive MsgType where
  | connect
  | connack
  | publish
  | puback
  | pubrec
  | pubrel
  | pubcomp
  | subscribe
  | suback
  | unsubscribe
  | unsuback
  | pingreq
  | pingresp
  | disconnect
  | other (value : Int)
  deriving DecidableEq, Repr, Inhabited

/-- The AT commands of the startup. -/
inductive AtCommand where
  | readApn
  | setApn
  | writeChanges
  deriving DecidableEq, Repr, Inhabited

/-! ## Events -/

/-- What the history variable records. -/
inductive Event where
  /-- `XBeeReceive::callback` delivered a payload. -/
  | received (payload : List UInt8)
  /-- `readAPNCallback` delivered the answer to `AN`. -/
  | apnResponse (value : List UInt8)
  /-- Bytes were written to the serial port at a time. -/
  | serialWrite (bytes : List UInt8) (time : UInt32)
  /-- Bytes were read from the serial port. -/
  | serialRead (bytes : List UInt8)
  /-- `xbee_cmd_init_device` was called. -/
  | initDevice
  /-- `xbee_cmd_query_status` answered. -/
  | initStatus (status : Int)
  /-- `xbee_cmd_send` answered for a command; it took it when it answered 0. -/
  | commandSend (command : AtCommand) (status : Int)
  /-- `resetSocket` ran. -/
  | resetSocket
  /-- `xbee_sock_create` answered. -/
  | socketCreate (sock : Int)
  /-- `connect` ran in a state, and `xbee_sock_connect` answered. -/
  | socketConnect (found : GB4XBee.State) (status : Int)
  /-- `sendMessage` ran in a state, with a buffer and a length, and answered. -/
  | sendMessage (found : GB4XBee.State) (message : List UInt8) (len : Nat)
      (result : GB4XBee.Return)
  /-- `pollIncomming` took bytes from the mailbox, and `MQTTPacket_read` typed
  them and filled the message buffer. -/
  | incoming (bytes : List UInt8) (type : MsgType) (message : List UInt8)
  /-- `sendConnectRequest` answered. -/
  | connectRequest (result : GB4MQTT.Return)
  /-- `sendPublishRequest` answered for a request. -/
  | publishRequest (request : MQTTRequest) (result : GB4MQTT.Return)
  /-- `sendPingRequest` answered. -/
  | pingRequest (result : GB4MQTT.Return)
  /-- `publish` stored a request. -/
  | published (request : MQTTRequest)
  deriving DecidableEq, Repr, Inhabited

end XBeeMqtt
