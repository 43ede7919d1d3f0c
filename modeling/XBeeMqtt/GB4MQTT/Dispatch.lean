import XBeeMqtt.GB4MQTT.InStep

/-!
# How a received packet is classified

`Classifies` says what `dispatchIncomming` has to answer for the packet that
`pollIncomming` has read, and what it may write to the stored request.

Two cases of the switch break it: `PUBLISH` assigns no status, and `PUBACK`
overwrites the one of a failed check.  `classifies_iff` says that there is no
other way to break it.
-/

namespace XBeeMqtt

namespace GB4MQTT

variable {m : GB4MQTT} {paho : Paho} {env : Env} {inc : Incoming}

/-- The answer and the stored request after `dispatchIncomming` are those that the
packet calls for. -/
structure Classifies (m : GB4MQTT) (paho : Paho) (env : Env) (inc : Incoming) : Prop where
  /-- The answer does not depend on what the variable held. -/
  assigned : ∀ status,
    (m.dispatchIncomming paho { env with status := status }).1 = (m.dispatchIncomming paho env).1
  gotConnack : (m.dispatchIncomming paho env).1 = .gotConnack ↔
    inc.type = .connack ∧
      paho.deserializeConnack inc.message inc.messageLen = some connectionAccepted
  dispatchedPuback : (m.dispatchIncomming paho env).1 = .dispatchedPuback ↔
    m.Acknowledges paho inc
  acknowledged : m.Acknowledges paho inc →
    (m.dispatchIncomming paho env).2.mPublishRequest.gotPuback = true
  notAcknowledged : ¬m.Acknowledges paho inc →
    (m.dispatchIncomming paho env).2.mPublishRequest.gotPuback = m.mPublishRequest.gotPuback
  malformed : inc.type = .puback → ¬m.Acknowledges paho inc →
    (m.dispatchIncomming paho env).1 = .pubackMalformed ∧
      (m.dispatchIncomming paho env).2.mPublishRequest = m.mPublishRequest
  request : (m.dispatchIncomming paho env).2.mPublishRequest = { m.mPublishRequest with
    gotPuback := (m.dispatchIncomming paho env).2.mPublishRequest.gotPuback }

/-- What `dispatchIncomming` makes of a packet that was read. -/
theorem dispatchIncomming_received
    (h : (m.pollIncomming paho env maxPacketSize).1 = some inc) :
    (m.dispatchIncomming paho env).1 = dispatchStatus paho env inc ∧
      (m.dispatchIncomming paho env).2.mPublishRequest = { m.mPublishRequest with
        gotPuback := m.mPublishRequest.gotPuback || decide (m.Acknowledges paho inc) } := by
  rcases m.pollIncomming_cases paho env with ⟨hp, heq⟩ | ⟨hp, heq⟩
  · rw [heq] at h
    exact absurd h (by simp)
  · rw [heq] at h
    obtain rfl := Option.some.inj h
    rcases m.dispatchIncomming_cases paho env with ⟨hempty, _⟩ | ⟨_, _, _, hdisp⟩
    · exact absurd (hempty.symm.trans hp) Bool.false_ne_true
    · rw [hdisp]
      exact ⟨rfl, rfl⟩

theorem checkConnack_eq_gotConnack {message : List UInt8} {len : Nat} :
    checkConnack paho message len = .gotConnack ↔
      paho.deserializeConnack message len = some connectionAccepted := by
  unfold checkConnack
  cases paho.deserializeConnack message len with
  | none => simp
  | some code =>
    by_cases hcode : code = connectionAccepted
    · simp [hcode]
    · simp [hcode]

theorem checkConnack_ne_dispatchedPuback (message : List UInt8) (len : Nat) :
    checkConnack paho message len ≠ .dispatchedPuback := by
  unfold checkConnack
  split
  · decide
  · split <;> decide

/-- The status of a packet that is no `PUBLISH` is assigned. -/
theorem dispatchStatus_assigned (h : inc.type ≠ .publish) (env env' : Env) :
    dispatchStatus paho env inc = dispatchStatus paho env' inc := by
  cases htype : inc.type
  case publish => exact absurd htype h
  all_goals simp only [dispatchStatus, htype]

theorem dispatchStatus_eq_gotConnack (h : inc.type ≠ .publish) :
    dispatchStatus paho env inc = .gotConnack ↔ inc.type = .connack ∧
      paho.deserializeConnack inc.message inc.messageLen = some connectionAccepted := by
  cases htype : inc.type
  case publish => exact absurd htype h
  case connack =>
    simp only [dispatchStatus, htype, true_and]
    exact checkConnack_eq_gotConnack
  all_goals simp [dispatchStatus, htype]

theorem dispatchStatus_eq_dispatchedPuback (h : inc.type ≠ .publish) :
    dispatchStatus paho env inc = .dispatchedPuback ↔ inc.type = .puback := by
  cases htype : inc.type
  case publish => exact absurd htype h
  case connack =>
    simp only [dispatchStatus, htype]
    exact iff_of_false (checkConnack_ne_dispatchedPuback _ _) (by decide)
  all_goals simp [dispatchStatus, htype]

/-- A received packet is classified correctly exactly when it is no `PUBLISH`,
and acknowledges the stored request if it is a `PUBACK`. -/
theorem classifies_iff (h : (m.pollIncomming paho env maxPacketSize).1 = some inc) :
    m.Classifies paho env inc ↔
      inc.type ≠ .publish ∧ (inc.type = .puback →
        paho.deserializeAck inc.message inc.messageLen = some m.mPublishRequest.packetId) := by
  obtain ⟨hstatus, hrequest⟩ := dispatchIncomming_received h
  have hother : ∀ status, (m.dispatchIncomming paho { env with status := status }).1 =
      dispatchStatus paho { env with status := status } inc := by
    intro status
    have hpoll : (m.pollIncomming paho { env with status := status } maxPacketSize).1 =
        some inc := h
    exact (dispatchIncomming_received hpoll).1
  constructor
  · intro hclass
    constructor
    · intro htype
      have hsame : ∀ status, status = env.status := fun status => by
        have hassigned := hclass.assigned status
        rw [hother, hstatus] at hassigned
        simpa only [dispatchStatus, htype] using hassigned
      exact absurd ((hsame .gotConnack).trans (hsame .listening).symm) (by decide)
    · intro htype
      by_contra hack
      have hmalformed := (hclass.malformed htype fun h => hack h.2).1
      rw [hstatus] at hmalformed
      simp only [dispatchStatus, htype] at hmalformed
      exact absurd hmalformed (by decide)
  · intro hcond
    obtain ⟨htype, hpuback⟩ := hcond
    have hack : m.Acknowledges paho inc ↔ inc.type = .puback :=
      ⟨fun h => h.1, fun h => ⟨h, hpuback h⟩⟩
    exact {
      assigned := fun status => by
        rw [hother, hstatus]
        exact dispatchStatus_assigned htype _ _
      gotConnack := by
        rw [hstatus]
        exact dispatchStatus_eq_gotConnack htype
      dispatchedPuback := by
        rw [hstatus, hack]
        exact dispatchStatus_eq_dispatchedPuback htype
      acknowledged := fun h => by
        rw [hrequest]
        simp [h]
      notAcknowledged := fun h => by
        rw [hrequest]
        simp [h]
      malformed := fun htype' hnot => absurd (hack.2 htype') hnot
      request := by rw [hrequest] }

/-- An object with a payload in the mailbox. -/
def holding (payload : List UInt8) : GB4MQTT :=
  { sampleBegun with radio := { sampleBegun.radio with
      gReceive := (XBeeReceive.fresh 0).callback 1 payload } }

/-- A PINGRESP. -/
theorem classifies_pingresp :
    ∃ inc, inc.type = .pingresp ∧ (holding [0xD0, 0x00]).Classifies .mqtt {} inc :=
  ⟨(holding [0xD0, 0x00]).readIncoming .mqtt {}, by decide +kernel,
    (@classifies_iff (holding [0xD0, 0x00]) .mqtt {} _ rfl).2
      ⟨by decide +kernel, by decide +kernel⟩⟩

/-- A PUBACK with another identifier. -/
theorem not_classifies : ¬∀ (m : GB4MQTT) (paho : Paho) (env : Env) (inc : Incoming),
    (m.pollIncomming paho env maxPacketSize).1 = some inc → m.Classifies paho env inc := by
  intro h
  have hclass := h (holding [0x40, 0x02, 0x00, 0x07]) .mqtt {} _ rfl
  have hmalformed := (hclass.malformed (by decide +kernel) (by decide +kernel)).1
  exact absurd hmalformed (by decide +kernel)

end GB4MQTT

end XBeeMqtt
