/-!
# `XBeeNotify` and `XBeeReceive`

The two globals of `xbee_notify.cpp` that the driver callbacks write and the
state machines read.  `g_notify` holds the last notification and a counter,
`g_receive` is a mailbox for one payload.

The enumerations of message bytes are kept as bytes: `static_cast` takes every
byte, and the code only ever compares them with the named ones.
-/

namespace XBeeMqtt

/-! ## `XBeeNotify` -/

/-- `XBeeNotify::FrameType`, with the bytes that are no enumerator. -/
inductive FrameType where
  | none
  | txStatus
  | sockOptionResp
  | sockCreateResp
  | sockConnectResp
  | sockCloseResp
  | sockListenResp
  | sockReceive
  | sockReceiveFrom
  | sockState
  | other (byte : UInt8)
  deriving DecidableEq, Repr, Inhabited

/-- `static_cast<FrameType>`. -/
def FrameType.ofByte (byte : UInt8) : FrameType :=
  if byte = 0x00 then .none
  else if byte = 0x89 then .txStatus
  else if byte = 0xC1 then .sockOptionResp
  else if byte = 0xC0 then .sockCreateResp
  else if byte = 0xC2 then .sockConnectResp
  else if byte = 0xC3 then .sockCloseResp
  else if byte = 0xC6 then .sockListenResp
  else if byte = 0xCD then .sockReceive
  else if byte = 0xCE then .sockReceiveFrom
  else if byte = 0xCF then .sockState
  else .other byte

def TxMesg.success : UInt8 := 0x00
def SockMesg.success : UInt8 := 0x00
def StateMesg.connected : UInt8 := 0x00

structure XBeeNotify where
  socket : Int
  type : FrameType
  txMesg : UInt8
  sockMesg : UInt8
  stateMesg : UInt8
  mCount : UInt32
  deriving DecidableEq, Repr, Inhabited

namespace XBeeNotify

/-- `XBeeNotify()`; `socket` is not initialised. -/
def fresh (socket : Int) : XBeeNotify where
  socket := socket
  type := .none
  txMesg := TxMesg.success
  sockMesg := SockMesg.success
  stateMesg := StateMesg.connected
  mCount := 0

def countUp (n : XBeeNotify) : XBeeNotify := { n with mCount := n.mCount + 1 }

def count (n : XBeeNotify) : UInt32 := n.mCount

def reset (n : XBeeNotify) : UInt32 × XBeeNotify := (0, { n with mCount := 0 })

/-- `type` is written for every frame, the counter only moves for the four
frame types that carry a message. -/
def callback (n : XBeeNotify) (sockid : Int) (frameType message : UInt8) : XBeeNotify :=
  let n := { n with socket := sockid, type := FrameType.ofByte frameType }
  match n.type with
  | .txStatus => { n with txMesg := message }.countUp
  | .sockCreateResp | .sockConnectResp => { n with sockMesg := message }.countUp
  | .sockState => { n with stateMesg := message }.countUp
  | _ => n

end XBeeNotify

/-! ## `XBeeReceive` -/

structure XBeeReceive where
  socket : Int
  mCount : UInt32
  mDroppedCount : UInt32
  mPending : Bool
  mPayloadLen : Nat
  mPayload : List UInt8
  deriving DecidableEq, Repr, Inhabited

namespace XBeeReceive

def messagePayloadSize : Nat := 300

/-- `XBeeReceive()`; `socket` is not initialised. -/
def fresh (socket : Int) : XBeeReceive where
  socket := socket
  mCount := 0
  mDroppedCount := 0
  mPending := false
  mPayloadLen := 0
  mPayload := List.replicate messagePayloadSize 0

def pending (g : XBeeReceive) : Bool := g.mPending

/-- The bytes copied into the caller's buffer of size `len`. -/
def read (g : XBeeReceive) (len : Nat) : List UInt8 × XBeeReceive :=
  let len := if len > g.mPayloadLen then g.mPayloadLen else len
  (g.mPayload.take len, { g with mPending := false })

def write (g : XBeeReceive) (buffer : List UInt8) : XBeeReceive :=
  let g := if g.mPending then { g with mDroppedCount := g.mDroppedCount + 1 } else g
  let len := if buffer.length > messagePayloadSize then messagePayloadSize else buffer.length
  { g with
    mPayloadLen := len
    mPayload := buffer.take len ++ g.mPayload.drop len
    mCount := g.mCount + 1
    mPending := true }

def callback (g : XBeeReceive) (sock : Int) (payload : List UInt8) : XBeeReceive :=
  { g with socket := sock }.write payload

end XBeeReceive

end XBeeMqtt
