import XBeeMqtt.GB4MQTT.Attempts

/-!
# The sizes of the stored request

`publish()` copies as many bytes as it is told, and `sendPublishRequest` later
reads as many as the request says.  Nothing in between compares the two lengths
with the arrays.

`MQTTRequest.InBounds` is the invariant that the serialiser relies on.
`publish_inBounds_iff` is the one step that can break it, a poll leaves the stored
lengths alone (`inBounds_call`), and `inBounds_iff` is the run.  Where every request
fits, `inBounds_of_reach` says that what is read for a PUBLISH is what was copied.
-/

namespace XBeeMqtt

/-- The arrays have no more bytes than they were declared with, and neither
length says more. -/
structure MQTTRequest.InBounds (req : MQTTRequest) : Prop where
  topic : req.topic.length ≤ topicMaxSize
  topicLen : req.topicLen ≤ topicMaxSize
  message : req.message.length ≤ messageMaxSize
  messageLen : req.messageLen ≤ messageMaxSize

theorem MQTTRequest.InBounds.of_sameMessage {req req' : MQTTRequest} (h : req.InBounds)
    (hsame : SameMessage req' req) : req'.InBounds where
  topic := by rw [hsame.topic]; exact h.topic
  topicLen := by rw [hsame.topicLen]; exact h.topicLen
  message := by rw [hsame.message]; exact h.message
  messageLen := by rw [hsame.messageLen]; exact h.messageLen

namespace GB4MQTT

variable {m : GB4MQTT} {paho : Paho}

namespace Call

/-- The lengths of a `publish()` fit the arrays. -/
def Fits : Call → Prop
  | .publish _ topicLen _ messageLen _ _ _ =>
    topicLen ≤ MQTTRequest.topicMaxSize ∧ messageLen ≤ MQTTRequest.messageMaxSize
  | _ => True

instance : (c : Call) → Decidable c.Fits
  | .publish _ _ _ _ _ _ _ => inferInstanceAs (Decidable (_ ∧ _))
  | .poll _ | .setClientID _ | .setPassword _ | .setClientName _ | .setAddress _ | .setPort _
  | .startConnect => .isTrue trivial

/-- A `publish()` stores within the arrays, or it refuses the request. -/
def StoresInBounds (m : GB4MQTT) : Call → Prop
  | .publish topic topicLen message messageLen qos disconnect now =>
    let (status, m') := m.publish topic topicLen message messageLen qos disconnect now
    m'.mPublishRequest.InBounds ∨
      status ≠ .publishQueued ∧ m'.mPublishRequest = m.mPublishRequest
  | _ => True

end Call

/-- One `publish()`, in any state. -/
theorem publish_inBounds_iff (m : GB4MQTT) (c : Call) : c.StoresInBounds m ↔ c.Fits := by
  cases c with
  | publish topic topicLen message messageLen qos disconnect now =>
    constructor
    · intro h
      rcases h with h | ⟨hrefused, _⟩
      · exact ⟨h.topicLen, h.messageLen⟩
      · exact absurd rfl hrefused
    · intro h
      obtain ⟨htopicLen, hmessageLen⟩ := h
      refine Or.inl ⟨?_, htopicLen, ?_, hmessageLen⟩
      · show (GB4XBee.strncpy (m.mPublishRequest.topic.take _) topic topicLen).length ≤ _
        rw [length_strncpy, List.length_take]
        exact Nat.max_le.2 ⟨htopicLen, Nat.min_le_left _ _⟩
      · exact length_publish_message htopicLen hmessageLen m topic message qos disconnect now
  | _ => exact Iff.rfl

/-- A call that fits keeps the request in its bounds. -/
theorem inBounds_call (h : m.mPublishRequest.InBounds) {c : Call} (hc : c.Fits) :
    (call paho m c).mPublishRequest.InBounds := by
  cases c with
  | publish topic topicLen message messageLen qos disconnect now =>
    rcases (publish_inBounds_iff m
      (.publish topic topicLen message messageLen qos disconnect now)).2 hc with hin | ⟨hrefused, _⟩
    · exact hin
    · exact absurd rfl hrefused
  | poll env => exact h.of_sameMessage (m.poll_tries paho env).sameMessage
  | _ => exact h

/-- In a run whose requests all fit, the stored one lies within its arrays. -/
theorem inBounds_of_reach (h : ((system paho).restrict fun _ c => c.Fits).Reach m) :
    m.mPublishRequest.InBounds ∨ m.Unpublished := by
  refine h.invariant (fun m => m.mPublishRequest.InBounds ∨ m.Unpublished)
    (fun m hbegun => ?_) fun m c m' _ hin hstep => ?_
  · obtain ⟨mem, args, rfl⟩ := Begun.eq hbegun
    exact Or.inr ⟨rfl, rfl, rfl⟩
  · obtain ⟨⟨_, rfl⟩, hfits⟩ := hstep
    rcases hin with hin | hnone
    · exact Or.inl (inBounds_call hin hfits)
    · cases c with
      | publish topic topicLen message messageLen qos disconnect now =>
        rcases (publish_inBounds_iff m
          (.publish topic topicLen message messageLen qos disconnect now)).2 hfits with
          hin | ⟨hrefused, _⟩
        · exact Or.inl hin
        · exact absurd rfl hrefused
      | poll env => exact Or.inr (hnone.tries (m.poll_tries paho env))
      | _ => exact Or.inr hnone

/-- A `publish()` in any state stores within the arrays exactly when its lengths
fit.  Along any calls after `begin()`, every `publish()` does so and every state
has its lengths in bounds, exactly when the lengths of every `publish()` fit. -/
theorem inBounds_iff (htopic : m.mPublishRequest.topic.length ≤ MQTTRequest.topicMaxSize)
    (hmessage : m.mPublishRequest.message.length ≤ MQTTRequest.messageMaxSize) :
    (∀ c : Call, c.StoresInBounds m ↔ c.Fits) ∧
    (m.Begun → ∀ calls : List Call,
      (Transition.Accepted
          (fun m c => c.StoresInBounds m ∧ (call paho m c).mPublishRequest.InBounds)
          (call paho) m calls ↔
        Transition.Accepted (fun _ c => c.Fits) (call paho) m calls)) := by
  refine ⟨publish_inBounds_iff m, fun hbegun calls => ?_⟩
  have hin : m.mPublishRequest.InBounds := by
    obtain ⟨mem, args, heq⟩ := hbegun.eq
    rw [heq] at htopic hmessage ⊢
    exact ⟨htopic, Nat.zero_le _, hmessage, Nat.zero_le _⟩
  refine Transition.accepted_congr (fun m : GB4MQTT => m.mPublishRequest.InBounds)
    (fun m c h => ?_) (fun m c h hfits => inBounds_call h hfits) calls hin
  rw [publish_inBounds_iff m c]
  exact ⟨fun hstores => hstores.1, fun hfits => ⟨hfits, inBounds_call h hfits⟩⟩

/-- An object on memory whose two arrays are zero. -/
def sizedBegun : GB4MQTT :=
  ((construct { (default : GB4MQTT) with mPublishRequest := { (default : MQTTRequest) with
      topic := List.replicate MQTTRequest.topicMaxSize 0
      message := List.replicate MQTTRequest.messageMaxSize 0 } } sampleArgs).begin 0).2

theorem begun_sizedBegun : sizedBegun.Begun := ⟨_, sampleArgs, 0, rfl⟩

theorem sizedBegun_topic : sizedBegun.mPublishRequest.topic.length ≤ MQTTRequest.topicMaxSize :=
  Nat.le_of_eq (List.length_replicate ..)

theorem sizedBegun_message :
    sizedBegun.mPublishRequest.message.length ≤ MQTTRequest.messageMaxSize :=
  Nat.le_of_eq (List.length_replicate ..)

/-- A request of one byte and one byte, and a poll. -/
theorem inBounds_sized :
    Transition.Accepted
      (fun m c => c.StoresInBounds m ∧ (call .mqtt m c).mPublishRequest.InBounds)
      (call .mqtt) sizedBegun [samplePublish 1 false, .poll {}] :=
  ((inBounds_iff sizedBegun_topic sizedBegun_message).2 begun_sizedBegun
    [samplePublish 1 false, .poll {}]).2 ⟨⟨by decide, by decide⟩, trivial, trivial⟩

/-- A topic of 65 bytes is stored behind the end of its array. -/
theorem not_storesInBounds : ¬∀ (m : GB4MQTT), m.Begun →
    m.mPublishRequest.topic.length ≤ MQTTRequest.topicMaxSize →
    m.mPublishRequest.message.length ≤ MQTTRequest.messageMaxSize →
    ∀ c : Call, c.StoresInBounds m := by
  intro h
  have hstores := h sizedBegun begun_sizedBegun sizedBegun_topic sizedBegun_message
    (.publish (List.replicate 65 0x74) 65 [] 0 0 false 0)
  rcases hstores with hin | ⟨hrefused, _⟩
  · exact absurd hin.topicLen (show ¬65 ≤ MQTTRequest.topicMaxSize by decide)
  · exact absurd rfl hrefused

end GB4MQTT

end XBeeMqtt
