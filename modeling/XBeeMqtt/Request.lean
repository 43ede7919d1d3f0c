/-!
# The publish request

`MQTTRequest` of `gb4mqtt.h`, and what its memory holds behind the two arrays.

`publish()` copies as many bytes as it is told.  A copy that is longer than
`topic[64]` or `message[900]` goes on in the members behind the array, which
`publish()` assigns afterwards, so a read that goes on there finds the members
(`topicMemory`, `messageMemory`).  Within the arrays a read finds what was copied
(`messageMemory_take`, `topicMemory_append`).
-/

namespace XBeeMqtt

/-- `MQTTRequest`.  `topic` and `message` hold their array, and behind it what
`publish()` copied beyond its end. -/
structure MQTTRequest where
  topic : List UInt8
  topicLen : Nat
  message : List UInt8
  messageLen : Nat
  qos : UInt8
  retain : UInt8
  duplicate : UInt8
  packetId : UInt16
  startTime : Int32
  tries : UInt8
  gotPuback : Bool
  readyToSend : Bool
  disconnect : Bool
  active : Bool
  deriving DecidableEq, Repr, Inhabited

/-- The `k` lowest bytes of a number, as they stand in memory. -/
def leBytes (n : Nat) : Nat → List UInt8
  | 0 => []
  | k + 1 => UInt8.ofNat n :: leBytes (n / 256) k

/-- Bytes that were copied over members: those of the members were assigned
afterwards, and `none` is padding, which keeps the copy. -/
def overlay : List (Option UInt8) → List UInt8 → List UInt8
  | some member :: members, _ :: copied => member :: overlay members copied
  | none :: members, b :: copied => b :: overlay members copied
  | _, copied => copied

@[simp] theorem overlay_nil (members : List (Option UInt8)) : overlay members [] = [] := by
  cases members with
  | nil => rfl
  | cons member members => cases member <;> rfl

namespace MQTTRequest

def topicMaxSize : Nat := 64
def messageMaxSize : Nat := 900

/-- `MQTTRequest()`; the two arrays are not initialised. -/
def fresh (topic message : List UInt8) : MQTTRequest where
  topic := topic
  topicLen := 0
  message := message
  messageLen := 0
  qos := 0
  retain := 0
  duplicate := 0
  packetId := 0
  startTime := 0
  tries := 0
  gotPuback := false
  readyToSend := false
  disconnect := false
  active := false

/-! ## Behind the arrays -/

/-- The members behind `message`, in their order and with their alignment.
`size_t` has four bytes. -/
def members (req : MQTTRequest) : List (Option UInt8) :=
  (leBytes req.messageLen 4 ++ [req.qos, req.retain, req.duplicate]).map some ++ [none] ++
  (leBytes req.packetId.toNat 2).map some ++ [none, none] ++
  (leBytes req.startTime.toUInt32.toNat 4 ++
    [req.tries, req.gotPuback.toUInt8, req.readyToSend.toUInt8, req.disconnect.toUInt8,
      req.active.toUInt8]).map some

/-- What is read from `message` on.  What lies behind the request is taken to keep
what was copied there. -/
def messageMemory (req : MQTTRequest) : List UInt8 :=
  req.message.take messageMaxSize ++ overlay req.members (req.message.drop messageMaxSize)

/-- What is read from `topic` on: `topic_len` and `message` follow the array.
Bytes of the array that are not known count as zero. -/
def topicMemory (req : MQTTRequest) : List UInt8 :=
  req.topic.take topicMaxSize ++ List.replicate (topicMaxSize - req.topic.length) 0 ++
    leBytes req.topicLen 4 ++ req.messageMemory

/-- The topic of a PUBLISH: the array is handed over as a C string. -/
def sentTopic (req : MQTTRequest) : List UInt8 := req.topicMemory.takeWhile (· ≠ 0)

/-- The payload of a PUBLISH: `message_len` bytes from the array on. -/
def sentMessage (req : MQTTRequest) : List UInt8 := req.messageMemory.take req.messageLen

/-- The bytes of the message as they are read. -/
theorem messageMemory_take {req : MQTTRequest} {n : Nat} (h : n ≤ messageMaxSize) :
    req.messageMemory.take n = req.message.take n := by
  unfold messageMemory
  rw [List.take_append, List.take_take, Nat.min_eq_left h]
  by_cases hlen : messageMaxSize ≤ req.message.length
  · rw [List.length_take_of_le hlen, Nat.sub_eq_zero_of_le h, List.take_zero, List.append_nil]
  · rw [List.drop_eq_nil_of_le (by omega), overlay_nil, List.take_nil, List.append_nil]

/-- A message that lies in its array hides no member. -/
theorem messageMemory_eq {req : MQTTRequest} (h : req.message.length ≤ messageMaxSize) :
    req.messageMemory = req.message := by
  unfold messageMemory
  rw [List.drop_eq_nil_of_le h, overlay_nil, List.append_nil, List.take_of_length_le h]

/-- What is read behind the first bytes of the array is its next byte, if it is
known. -/
theorem topicMemory_append {req : MQTTRequest} {bytes rest : List UInt8}
    (h : req.topic = bytes ++ rest) (hlen : bytes.length < topicMaxSize) :
    ∃ behind, req.topicMemory = bytes ++ behind ∧ behind.headD 0 = rest.headD 0 := by
  refine ⟨rest.take (topicMaxSize - bytes.length) ++
    List.replicate (topicMaxSize - req.topic.length) 0 ++ leBytes req.topicLen 4 ++
    req.messageMemory, ?_, ?_⟩
  · unfold topicMemory
    rw [h, List.take_append, List.take_of_length_le (Nat.le_of_lt hlen)]
    simp only [List.append_assoc]
  · have hroom : topicMaxSize - bytes.length = topicMaxSize - bytes.length - 1 + 1 := by omega
    cases rest with
    | cons b rest =>
      rw [hroom]
      rfl
    | nil =>
      rw [h, List.append_nil, hroom]
      rfl

end MQTTRequest

end XBeeMqtt
