import XBeeMqtt.Lib.History
import XBeeMqtt.Lib.Timers
import XBeeMqtt.Notify
import XBeeMqtt.StaticQueue.CallerNodes
import XBeeMqtt.StaticQueue.Ownership
import XBeeMqtt.StaticQueue.Backward
import XBeeMqtt.StaticQueue.Reset
import XBeeMqtt.Types
import XBeeMqtt.Driver
import XBeeMqtt.GB4XBee.Basic
import XBeeMqtt.GB4XBee.Step
import XBeeMqtt.GB4MQTT.Basic
import XBeeMqtt.GB4XBee.Failure
import XBeeMqtt.GB4XBee.Handshake
import XBeeMqtt.GB4MQTT.Step
import XBeeMqtt.GB4MQTT.InStep
import XBeeMqtt.GB4MQTT.Delivery
import XBeeMqtt.GB4MQTT.Loss
import XBeeMqtt.GB4MQTT.Retries
import XBeeMqtt.GB4MQTT.Teardown
import XBeeMqtt.GB4MQTT.PacketIds
import XBeeMqtt.GB4MQTT.Buffers
import XBeeMqtt.GB4MQTT.Contents
import XBeeMqtt.GB4XBee.Mailbox
import XBeeMqtt.GB4MQTT.Isolation
import XBeeMqtt.GB4MQTT.Session
import XBeeMqtt.GB4MQTT.KeepAlive
import XBeeMqtt.GB4MQTT.Stream
import XBeeMqtt.GB4MQTT.Deadlines
import XBeeMqtt.GB4XBee.Slot
import XBeeMqtt.GB4MQTT.Bounds
import XBeeMqtt.GB4MQTT.Parsing
import XBeeMqtt.StaticQueue.Scan
import XBeeMqtt.GB4XBee.Runs
import XBeeMqtt.GB4XBee.Sends
import XBeeMqtt.GB4XBee.Commands
import XBeeMqtt.GB4XBee.AccessPoint
import XBeeMqtt.GB4MQTT.Storable
import XBeeMqtt.GB4XBee.Accounts
import XBeeMqtt.GB4XBee.Response
import XBeeMqtt.GB4XBee.Startup
import XBeeMqtt.GB4MQTT.StartOrder
import XBeeMqtt.GB4MQTT.Broker
import XBeeMqtt.GB4MQTT.Conversation
import XBeeMqtt.Lib.Progress
import XBeeMqtt.GB4MQTT.Completion
import XBeeMqtt.GB4MQTT.Design
import XBeeMqtt.GB4MQTT.Recovery
import XBeeMqtt.GB4MQTT.Settling
import XBeeMqtt.Main.Basic
import XBeeMqtt.Main.Reports
import XBeeMqtt.Main.Sending
import XBeeMqtt.Main.Pacing
import XBeeMqtt.Lib.Json
import XBeeMqtt.Main.Format
import XBeeMqtt.Main.Wire
import XBeeMqtt.Main.Delivered
