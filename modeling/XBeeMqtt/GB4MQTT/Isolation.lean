import XBeeMqtt.GB4MQTT.InStep
import XBeeMqtt.GB4XBee.Mailbox

/-!
# Payloads and connections

A payload that `dispatchIncomming` takes should have been delivered on the
present socket (`Isolated`).  `BEGIN_CREATE_SOCKET` resets `g_notify`, but
nothing empties `g_receive`, so a payload that arrives between two connections
is processed on the second one.

`isolated_of_reach`: in a run that never creates a socket while a payload is in
the mailbox, every payload that is processed is the last one that was delivered
since the socket was created.  `Stale` follows the payload of a run that does.
-/

namespace XBeeMqtt

open History

/-- The bytes that are processed are those of the last payload since the
socket was created. -/
def Isolated (e : Event) (older : List Event) : Prop :=
  match e with
  | .incoming bytes _ _ =>
    (lastReceived (since Event.isSocketCreate older)).map (List.take GB4MQTT.maxPacketSize) =
      some bytes
  | _ => True

instance (e : Event) (older : List Event) : Decidable (Isolated e older) := by
  unfold Isolated
  split <;> infer_instance

theorem isolated_of_not_incoming {e : Event} (h : e.isIncoming = false) (older : List Event) :
    Isolated e older := by
  cases e with
  | incoming bytes type message => exact absurd h.symm Bool.false_ne_true
  | _ => trivial

theorem isIncoming_of_ofRadio {e : Event} (h : e.ofRadio = true) : e.isIncoming = false := by
  cases e with
  | incoming bytes type message => exact absurd h Bool.false_ne_true
  | _ => rfl

/-- The switch neither delivers a payload nor creates a socket. -/
theorem quiet_of_ofSwitch {e : Event} (h : e.ofSwitch = true) :
    e.payload? = none ∧ e.isSocketCreate = false := by
  cases e with
  | received payload => exact absurd h Bool.false_ne_true
  | socketCreate sock => exact absurd h Bool.false_ne_true
  | _ => exact ⟨rfl, rfl⟩

namespace GB4MQTT

variable {m : GB4MQTT} {paho : Paho} {env : Env}

/-- The condition on a call: no socket is created over a payload. -/
def CreatesClean (m : GB4MQTT) (c : Call) : Prop :=
  match c with
  | .poll env => m.radio.CreatesClean env
  | _ => True

instance (m : GB4MQTT) : (c : Call) → Decidable (m.CreatesClean c)
  | .poll env => inferInstanceAs (Decidable (m.radio.CreatesClean env))
  | .publish _ _ _ _ _ _ _ | .setClientID _ | .setPassword _ | .setClientName _ | .setAddress _
  | .setPort _ | .startConnect => .isTrue trivial

/-- The mailbox and the log of an isolated run. -/
structure Isolating (m : GB4MQTT) : Prop where
  fresh : m.radio.gReceive.Fresh m.radio.log
  isolated : Always Isolated m.radio.log

theorem Isolating.pollRadio (h : m.Isolating) (hclean : m.radio.CreatesClean env) :
    (m.pollRadio env).Isolating := by
  obtain ⟨new, hlog, hnew⟩ := m.radio.poll_log env
  refine ⟨GB4XBee.fresh_poll h.fresh hclean, ?_⟩
  show Always Isolated (m.radio.poll env).log
  rw [hlog]
  apply h.isolated.append
  intro e he
  exact isolated_of_not_incoming (isIncoming_of_ofRadio (hnew e he))

/-- The bytes that are read from a fresh mailbox. -/
theorem isolated_bytesRead (hfresh : m.radio.gReceive.Fresh m.radio.log)
    (hp : m.radio.gReceive.mPending = true) (type : MsgType) (message : List UInt8) :
    Isolated (.incoming m.bytesRead type message) m.radio.log := by
  obtain ⟨payload, hlast, hholds⟩ := hfresh hp
  have hbytes : m.bytesRead = payload.take maxPacketSize :=
    XBeeReceive.read_of_holds hholds (by decide)
  show Option.map _ (lastReceived _) = _
  rw [hlast, hbytes]
  rfl

theorem Isolating.of_adds (h : m.Isolating) {m' : GB4MQTT} (hadds : m.Adds m') :
    m'.Isolating := by
  obtain ⟨new, hnew, hcases⟩ := hadds
  have htrivial : ∀ e ∈ new, ∀ older, Isolated e older :=
    fun e he => isolated_of_not_incoming (hnew e he).2
  rcases hcases with ⟨hlog, hrec⟩ | ⟨hp, hp', type, message, hlog⟩
  · refine ⟨?_, ?_⟩
    · rw [hlog, hrec]
      exact h.fresh.append new fun e he => quiet_of_ofSwitch (hnew e he).1
    · rw [hlog]
      exact h.isolated.append htrivial
  · refine ⟨fun hp'' => absurd (hp'.symm.trans hp'') (by decide), ?_⟩
    rw [hlog]
    have htaken : Always Isolated (.incoming m.bytesRead type message :: m.radio.log) :=
      ⟨isolated_bytesRead h.fresh hp type message, h.isolated⟩
    exact htaken.append htrivial

theorem Isolating.poll (h : m.Isolating) (paho : Paho) (hclean : m.radio.CreatesClean env) :
    (m.poll paho env).2.Isolating := by
  have hmid := h.pollRadio hclean
  rcases m.poll_cases paho env with ⟨_, heq⟩ | ⟨_, hstep⟩
  · rw [heq]
    exact ⟨hmid.fresh, hmid.isolated⟩
  · exact hmid.of_adds hstep.adds

theorem Isolating.of_reach (h : ((system paho).restrict CreatesClean).Reach m) :
    m.Isolating := by
  refine h.invariant Isolating (fun m hbegun => ?_) (fun m c m' _ hiso hstep => ?_)
  · obtain ⟨mem, args, rfl⟩ := Begun.eq hbegun
    exact ⟨fun hp => absurd hp Bool.false_ne_true, trivial⟩
  · obtain ⟨⟨_, rfl⟩, hclean⟩ := hstep
    cases c with
    | publish topic topicLen message messageLen qos disconnect now =>
      exact ⟨hiso.fresh.append [.published _] (by simp [Event.payload?, Event.isSocketCreate]),
        trivial, hiso.isolated⟩
    | poll env => exact hiso.poll paho hclean
    | _ => exact ⟨hiso.fresh, hiso.isolated⟩

/-- In a run that creates no socket over a payload, every payload is processed
on the socket that it was delivered on. -/
theorem isolated_of_reach (h : ((system paho).restrict CreatesClean).Reach m) :
    Always Isolated m.radio.log :=
  (Isolating.of_reach h).isolated

/-- A session that was accepted on its own connection. -/
theorem isolated_session :
    (afterCalls (samplePublish 1 false :: startupCalls ++ sessionCalls 26000)).state =
        .beginStandby ∧
      Always Isolated
        (afterCalls (samplePublish 1 false :: startupCalls ++ sessionCalls 26000)).radio.log :=
  ⟨by decide +kernel, isolated_of_reach (reach_afterCalls_restrict _ (by decide +kernel))⟩

/-- The first connection times out, and its CONNACK arrives in the cooldown. -/
def lateConnackCalls : List Call :=
  samplePublish 1 false :: startupCalls ++ connectCalls 26000 ++
    [pollAt 37000 [], pollAt 38000 [.receive 1 connack], pollAt 40000 []] ++
    connectCalls 41000 ++ [pollAt 42000 []]

/-- The late CONNACK is processed on the second connection. -/
theorem lateConnack_not_isolated : ¬∀ (paho : Paho) (m : GB4MQTT),
    (system paho).Reach m → Always Isolated m.radio.log := by
  intro h
  exact absurd (h .mqtt (afterCalls lateConnackCalls) (reach_afterCalls _)) (by decide +kernel)

/-! ## The payload of an old connection

The condition is where the defect enters.  A poll that creates a socket over a
payload leaves it `Stale`, and it stays so until a payload of the new connection
replaces it or the program processes it. -/

/-- The payload in the mailbox is older than the socket. -/
structure Stale (m : GB4MQTT) : Prop where
  pending : m.radio.gReceive.mPending = true
  old : lastReceived (since Event.isSocketCreate m.radio.log) = none

theorem stale_of_not_createsClean (h : ¬m.radio.CreatesClean env) :
    (m.poll paho env).2.Stale := by
  obtain ⟨hs, hdirty⟩ := Classical.not_imp.1 h
  obtain ⟨hlt, hrec, hold⟩ := GB4XBee.poll_create hs env
  have hpending : (m.radio.poll env).gReceive.mPending = true := by
    rw [hrec]
    cases hlast : lastReceived (tickEvents env.frames) with
    | some payload => exact (m.radio.gReceive.tick_holds hlast).1
    | none =>
      apply XBeeReceive.tick_pending
      exact (Bool.not_eq_false _).mp fun hp => hdirty ⟨hp, hlast⟩
  rcases m.poll_cases paho env with ⟨_, heq⟩ | ⟨hge, _⟩
  · rw [heq]
    exact ⟨hpending, hold⟩
  · exact absurd hlt (GB4XBee.State.not_lt.2 hge)

/-- A poll keeps a stale payload, unless a payload of the connection arrives or
the stale one is processed. -/
theorem Stale.poll (h : m.Stale) (paho : Paho) (env : Env) :
    (m.poll paho env).2.Stale ∨
      lastReceived (since Event.isSocketCreate (m.poll paho env).2.radio.log) ≠ none ∨
      ¬Always Isolated (m.poll paho env).2.radio.log := by
  by_cases hold : lastReceived (since Event.isSocketCreate (m.poll paho env).2.radio.log) = none
  · have hpending : (m.pollRadio env).radio.gReceive.mPending = true :=
      GB4XBee.poll_pending h.pending env
    rcases m.poll_cases paho env with ⟨_, heq⟩ | ⟨_, hstep⟩
    · rw [heq] at hold ⊢
      exact Or.inl ⟨hpending, hold⟩
    generalize (m.poll paho env).2 = m' at hold hstep ⊢
    obtain ⟨new, hnew, ⟨_, hrec⟩ | ⟨_, _, type, message, hlog⟩⟩ := hstep.adds
    · exact Or.inl ⟨by rw [hrec]; exact hpending, hold⟩
    · refine Or.inr (Or.inr fun halways => ?_)
      have hquiet : ∀ e ∈ new, e.payload? = none ∧ e.isSocketCreate = false :=
        fun e he => quiet_of_ofSwitch (hnew e he).1
      rw [hlog] at halways hold
      rw [since_append fun e he => (hquiet e he).2, since_cons rfl,
        lastReceived_of_none fun e he => (hquiet e he).1] at hold
      have hisolated := halways.of_append.1
      unfold Isolated at hisolated
      dsimp only at hisolated
      rw [show lastReceived (since Event.isSocketCreate (m.pollRadio env).radio.log) = none
        from hold] at hisolated
      exact absurd hisolated (by simp)
  · exact Or.inr (Or.inl hold)

end GB4MQTT

end XBeeMqtt
