import XBeeMqtt.GB4MQTT.InStep

/-!
# Keepalive

`sendPingRequest` and `pollKeepAliveTimer` are complete, but `poll` calls
neither, so no PINGREQ is ever sent and a silent broker is never noticed.

`Timed` runs the program against a clock and remembers when the broker was last
heard and when a PINGREQ was last sent.  `KeptAlive` is what a poll in `STANDBY`
should do, and `keptAlive_iff` says that it does so exactly when nothing is due.
-/

namespace XBeeMqtt

def Event.isPingRequest : Event → Bool
  | .pingRequest status => status ≠ .pingPacketError
  | _ => false

def Event.isResetSocket : Event → Bool
  | .resetSocket => true
  | _ => false

/-- The packets for which `dispatchIncomming` calls `resetKeepAliveTimer`. -/
def MsgType.resetsKeepAlive : MsgType → Bool
  | .connack | .pingresp | .puback | .pubrec | .pubcomp | .suback | .unsuback => true
  | _ => false

/-- Every clock reading of a poll at a time. -/
def Env.at (env : Env) (now : Nat) : Env := { env with millis := fun _ => UInt32.ofNat now }

namespace GB4MQTT

variable {m : GB4MQTT} {paho : Paho} {env : Env}

/-- `GB4MQTT_KEEPALIVE_INTERVAL`, in milliseconds. -/
def keepaliveMs : Nat := keepaliveInterval.toNatClampNeg

/-- `GB4MQTT_NETWORK_TIMEOUT_INTERVAL`, in milliseconds. -/
def networkTimeoutMs : Nat := networkTimeoutInterval.toNatClampNeg

/-- A poll in which the broker is heard: `dispatchIncomming` runs on a packet that
resets the timers. -/
def Hears (m : GB4MQTT) (paho : Paho) (env : Env) : Prop :=
  .socketReady ≤ (m.radio.poll env).mState ∧
    (m.state = .awaitConnack ∨ m.state = .beginStandby ∨ m.state = .standby) ∧
    (m.pollRadio env).radio.gReceive.mPending = true ∧
    ((m.pollRadio env).readIncoming paho env).type.resetsKeepAlive = true

instance (m : GB4MQTT) (paho : Paho) (env : Env) : Decidable (m.Hears paho env) :=
  inferInstanceAs (Decidable (_ ∧ _))

/-! ## Runs against a clock -/

/-- An object, the times of the last call and of the last poll, and when the
broker was last heard and a PINGREQ last sent. -/
structure Timed where
  m : GB4MQTT
  now : Nat
  polled : Nat
  traffic : Nat
  ping : Option Nat

namespace Timed

/-- A call at a time. -/
def next (paho : Paho) (s : Timed) (c : Nat × Call) : Timed :=
  match c with
  | (now, .poll env) =>
    let m := (s.m.poll paho (env.at now)).2
    { m := m
      now := now
      polled := now
      traffic := if s.m.Hears paho (env.at now) then now else s.traffic
      ping := if (s.m.added m).any Event.isPingRequest then some now else s.ping }
  | (now, .publish topic topicLen message messageLen qos disconnect _) =>
    { s with
      m := call paho s.m (.publish topic topicLen message messageLen qos disconnect
        (UInt32.ofNat now))
      now := now }
  | (now, c) => { s with m := call paho s.m c, now := now }

/-- Time does not go back, and `poll` is called at least once every second. -/
def Accepts (s : Timed) (c : Nat × Call) : Prop := s.now ≤ c.1 ∧ c.1 ≤ s.polled + 1000

instance (s : Timed) (c : Nat × Call) : Decidable (s.Accepts c) :=
  inferInstanceAs (Decidable (_ ∧ _))

def system (paho : Paho) : Transition.System Timed (Nat × Call) :=
  .ofFunction (fun s => s.m.Begun ∧ s.now = 0 ∧ s.polled = 0 ∧ s.traffic = 0 ∧ s.ping = none)
    Accepts (next paho)

/-- What a poll in `STANDBY` over a connected radio should do: it sends a PINGREQ
when neither the broker was heard nor a PINGREQ sent for the keepalive interval,
and it gives the connection up when the broker was not heard for the timeout. -/
def KeptAlive (paho : Paho) (s : Timed) (now : Nat) (env : Env) : Prop :=
  let s' := s.next paho (now, .poll env)
  s.m.state = .standby → (s.m.radio.poll (env.at now)).mState = .connected →
    (s'.traffic + keepaliveMs < now →
        (s.ping.all fun ping => decide (ping + keepaliveMs < now)) = true →
      (s.m.added s'.m).any Event.isPingRequest = true) ∧
    (s'.traffic + networkTimeoutMs < now →
      (s.m.added s'.m).any Event.isResetSocket = true ∧ s'.m.state ≠ .standby)

instance (paho : Paho) (s : Timed) (now : Nat) (env : Env) :
    Decidable (s.KeptAlive paho now env) :=
  inferInstanceAs (Decidable (_ → _ → _ ∧ _))

/-- Nothing is due in the poll. -/
def NothingDue (paho : Paho) (s : Timed) (now : Nat) (env : Env) : Prop :=
  s.m.state = .standby → (s.m.radio.poll (env.at now)).mState = .connected →
    now ≤ (if s.m.Hears paho (env.at now) then now else s.traffic) + keepaliveMs

instance (paho : Paho) (s : Timed) (now : Nat) (env : Env) :
    Decidable (s.NothingDue paho now env) :=
  inferInstanceAs (Decidable (_ → _ → _ ≤ _))

end Timed

/-! ## No PINGREQ is sent -/

/-- No poll calls `sendPingRequest`. -/
theorem poll_no_pingRequest (m : GB4MQTT) (paho : Paho) (env : Env) :
    (m.added (m.poll paho env).2).any Event.isPingRequest = false := by
  obtain ⟨new, hlog, hnew⟩ := m.poll_log paho env
  rw [added_eq new hlog, List.any_eq_false]
  intro e he
  cases e with
  | pingRequest status => rcases hnew _ he with h | h <;> exact absurd h Bool.false_ne_true
  | _ => exact Bool.false_ne_true

theorem Timed.ping_of_reach {s : Timed} (h : (Timed.system paho).Reach s) : s.ping = none := by
  refine h.invariant (fun s => s.ping = none) ?_ ?_
  · intro s hinit
    obtain ⟨_, _, _, _, hping⟩ := hinit
    exact hping
  intro s c s' _ hping hstep
  obtain ⟨_, rfl⟩ := hstep
  obtain ⟨now, c⟩ := c
  cases c with
  | poll env =>
    show (if (s.m.added _).any Event.isPingRequest = true then _ else s.ping) = none
    rw [poll_no_pingRequest, if_neg Bool.false_ne_true, hping]
  | _ => exact hping

/-- A poll keeps the session alive exactly when nothing is due. -/
theorem Timed.keptAlive_iff {s : Timed} (h : (Timed.system paho).Reach s) (now : Nat)
    (env : Env) : s.KeptAlive paho now env ↔ s.NothingDue paho now env := by
  have hping : s.ping = none := ping_of_reach h
  have hms : keepaliveMs ≤ networkTimeoutMs := by decide
  constructor
  · intro hkept hs hr
    apply Nat.le_of_not_lt
    intro hdue
    have hsent := (hkept hs hr).1 hdue (by rw [hping]; rfl)
    have hnone := s.m.poll_no_pingRequest paho (env.at now)
    exact absurd (hnone.symm.trans hsent) (by decide)
  · intro hdue hs hr
    have hle := hdue hs hr
    refine ⟨fun hlate => ?_, fun hlate => ?_⟩
    · exact absurd hlate (Nat.not_lt.2 hle)
    · refine absurd hlate (Nat.not_lt.2 (Nat.le_trans hle ?_))
      exact Nat.add_le_add_left hms _

namespace Timed

/-- A request with `qos` 0 at time 0, the startup and the session in 15 seconds. -/
def sessionCalls : List (Nat × Call) :=
  (0, samplePublish 0 false) ::
    (List.range 15).map (fun k => (1000 * (k + 1),
      .poll { frames := [.apn []], serial := [0x4F, 0x4B, 0x0D] })) ++
    (GB4MQTT.sessionCalls 0).map fun c => (15000, c)

/-- Polls without a frame, one every second. -/
def idleCalls (count : Nat) : List (Nat × Call) :=
  (List.range count).map fun k => (16000 + 1000 * k, .poll {})

@[irreducible] def afterCalls (calls : List (Nat × Call)) : Timed :=
  Transition.replay (next .mqtt) ⟨sampleBegun, 0, 0, 0, none⟩ calls

theorem reach_afterCalls {calls : List (Nat × Call)}
    (h : Transition.Accepted Accepts (next .mqtt) ⟨sampleBegun, 0, 0, 0, none⟩ calls) :
    (system .mqtt).Reach (afterCalls calls) := by
  unfold afterCalls
  exact Transition.reach_replay calls (.init ⟨begun_sampleBegun, rfl, rfl, rfl, rfl⟩) h

/-- The broker is heard at 15 seconds; at 30 nothing is due. -/
theorem keptAlive_idle :
    (afterCalls (sessionCalls ++ idleCalls 14)).m.state = .standby ∧
      (afterCalls (sessionCalls ++ idleCalls 14)).KeptAlive .mqtt 30000 {} :=
  ⟨by decide +kernel, (keptAlive_iff (reach_afterCalls (by decide +kernel)) 30000 {}).2
    (by decide +kernel)⟩

/-- At 76 seconds a PINGREQ is due, and none is sent. -/
theorem silent_not_keptAlive : ¬∀ (paho : Paho) (s : Timed) (now : Nat) (env : Env),
    (system paho).Reach s → s.Accepts (now, .poll env) → s.KeptAlive paho now env := by
  intro h
  have hkept := h .mqtt (afterCalls (sessionCalls ++ idleCalls 60)) 76000 {}
    (reach_afterCalls (by decide +kernel)) (by decide +kernel)
  exact absurd hkept (by decide +kernel)

end Timed

end GB4MQTT

end XBeeMqtt
