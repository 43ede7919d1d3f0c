import XBeeMqtt.GB4MQTT.Bounds

/-!
# Sending a request again

A request is sent first without DUP, and every later time with it.  The source
sets the flag in one branch of `handlePublishRequests` only, after the first
send of a request that is not disconnected; a request with `disconnect` or with
QoS 0 is never sent twice.

`Flagged` ties the flag to the history, with `Marked` for the requests that were
not sent yet.

The contents are the same each time if the request fits its arrays
(`redelivers_of_reach`).  A longer message goes on in the members behind the array,
and the DUP flag is one of them (`not_redelivers`).
-/

namespace XBeeMqtt

open History

namespace GB4MQTT

variable {m m' : GB4MQTT} {paho : Paho} {env : Env}

/-- The DUP flags of a number of transmissions, the newest first. -/
def dupFlags : Nat → List UInt8
  | 0 => []
  | n + 1 => List.replicate n 1 ++ [0]

theorem dupFlags_succ {n : Nat} (h : n ≠ 0) : dupFlags (n + 1) = 1 :: dupFlags n := by
  cases n with
  | zero => exact absurd rfl h
  | succ n => rfl

/-- Every PUBLISH that was sent was in the hands of the radio before. -/
def Carried (paho : Paho) (log : List Event) : Prop :=
  Always (fun e past => ∀ req, e = .publishRequest req .publishSent → Carries paho req past) log

theorem Carried.append {new log : List Event} (h : Carried paho log)
    (hnew : ∀ e ∈ new, e.isQuiet = true) : Carried paho (new ++ log) := by
  refine Always.append h fun e he past req heq => ?_
  have hquiet := hnew e he
  rw [heq] at hquiet
  exact absurd hquiet Bool.false_ne_true

/-- What a history says of the transmissions since the last `publish()`. -/
structure Redelivers (paho : Paho) (log : List Event) : Prop where
  same : ∀ req ∈ transmissions log, ∃ stored, lastPublished log = some stored ∧
    SameContents req stored
  flags : (transmissions log).map (·.duplicate) = dupFlags (transmissions log).length
  carried : Carried paho log

/-- The duplicate flag is clear or set, and it is set after a send only. -/
structure Flagged (paho : Paho) (m : GB4MQTT) : Prop where
  duplicate : m.mPublishRequest.duplicate = 0 ∨
    m.mPublishRequest.duplicate = 1 ∧ transmissions m.radio.log ≠ []
  flags : (transmissions m.radio.log).map (·.duplicate) =
    dupFlags (transmissions m.radio.log).length
  carried : Carried paho m.radio.log

theorem sentRequest_duplicate {req : MQTTRequest} (h : req.duplicate = 0 ∨ req.duplicate = 1)
    (env : Env) : (sentRequest req env).duplicate = 0 ∨ (sentRequest req env).duplicate = 1 := by
  unfold sentRequest
  split
  · exact h
  · split
    · dsimp only
      split
      · exact Or.inr rfl
      · exact Or.inl rfl
    · exact h

theorem Flagged.quiet (h : m.Flagged paho) (hquiet : m.Quiet m')
    (hdup : m'.mPublishRequest.duplicate = m.mPublishRequest.duplicate) : m'.Flagged paho := by
  have htrans := hquiet.transmissions_eq
  refine ⟨?_, ?_, ?_⟩
  · rw [hdup, htrans]
    exact h.duplicate
  · rw [htrans]
    exact h.flags
  · obtain ⟨new, hlog, hnew⟩ := hquiet
    rw [hlog]
    exact h.carried.append hnew

theorem Attempt.carried {req : MQTTRequest} {status : Return}
    (h : Attempt paho m req status m') (hcarried : Carried paho m.radio.log) :
    Carried paho m'.radio.log := by
  obtain ⟨new, old, hlog, hnew, hold, hsent⟩ := h
  rw [hlog]
  refine Carried.append ⟨fun req' heq => ?_, hcarried.append hold⟩ hnew
  obtain ⟨rfl, hstatus⟩ := Event.publishRequest.inj heq
  exact hsent hstatus

/-- A send of a request that was not sent before has the flag clear, and every
later one has it set. -/
theorem Flagged.attempted {ack : Bool} {status : Return} (h : m.Flagged paho)
    (hmarked : m.Marked) (hactive : m.mPublishRequest.active = true)
    (hready : m.mPublishRequest.readyToSend = true)
    (hattempt : Attempt paho m { m.acknowledged ack with readyToSend := false } status m')
    (hreq : m'.mPublishRequest =
      answered { m.acknowledged ack with readyToSend := false } status env) :
    m'.Flagged paho := by
  have htrans := hattempt.transmissions_eq
  by_cases hstatus : status = .publishSent
  · subst hstatus
    rw [if_pos rfl] at htrans
    refine ⟨?_, ?_, hattempt.carried h.carried⟩
    · rw [hreq, htrans]
      have hdup : ({ m.acknowledged ack with readyToSend := false } : MQTTRequest).duplicate = 0 ∨
          ({ m.acknowledged ack with readyToSend := false } : MQTTRequest).duplicate = 1 :=
        h.duplicate.imp_right (·.1)
      rcases sentRequest_duplicate hdup env with hzero | hone
      · exact Or.inl hzero
      · exact Or.inr ⟨hone, List.cons_ne_nil _ _⟩
    · rw [htrans, List.map_cons, List.length_cons, h.flags]
      show m.mPublishRequest.duplicate :: _ = _
      rcases h.duplicate with hzero | ⟨hone, hsent⟩
      · have hnone := transmissions_eq_nil (hmarked hactive hzero (Or.inl hready))
        rw [hnone, hzero]
        rfl
      · rw [hone, dupFlags_succ fun hlen => hsent (List.length_eq_zero_iff.1 hlen)]
  · rw [if_neg hstatus] at htrans
    have hdup : m'.mPublishRequest.duplicate = m.mPublishRequest.duplicate := by
      rw [hreq]
      unfold answered
      split
      · exact absurd rfl hstatus
      · rfl
      · rfl
    refine ⟨?_, ?_, hattempt.carried h.carried⟩
    · rw [hdup, htrans]
      exact h.duplicate
    · rw [htrans]
      exact h.flags

theorem Flagged.poll (h : m.Flagged paho) (hmarked : m.Marked) (env : Env) :
    (m.poll paho env).2.Flagged paho := by
  have htries := m.poll_tries paho env
  generalize (m.poll paho env).2 = m' at htries ⊢
  cases htries with
  | left hl => exact h.quiet hl.quiet (by rw [hl.request])
  | ended _ hquiet hreq => exact h.quiet hquiet (by rw [hreq]; rfl)
  | retried _ _ _ _ hquiet hreq => exact h.quiet hquiet (by rw [hreq]; rfl)
  | attempted hactive hready hattempt hreq =>
    exact h.attempted hmarked hactive hready hattempt hreq

theorem Flagged.of_reach (h : (system paho).Reach m) : m.Flagged paho := by
  refine h.invariant (Flagged paho) (fun m hbegun => ?_) fun m c m' hreach hflagged hstep => ?_
  · obtain ⟨mem, args, rfl⟩ := Begun.eq hbegun
    exact ⟨Or.inl rfl, rfl, trivial⟩
  · obtain ⟨_, rfl⟩ := hstep
    cases c with
    | publish topic topicLen message messageLen qos disconnect now =>
      have hnone : transmissions (call paho m (.publish topic topicLen message messageLen qos
          disconnect now)).radio.log = [] := transmissions_published _ _
      refine ⟨Or.inl rfl, ?_, ⟨fun req heq => ?_, hflagged.carried⟩⟩
      · rw [hnone]
        rfl
      · exact absurd heq (by simp)
    | poll env => exact hflagged.poll (Marked.of_reach hreach) env
    | _ => exact ⟨hflagged.duplicate, hflagged.flags, hflagged.carried⟩

/-- In a run whose requests all fit their arrays, all transmissions of a published
request carry what was published, the first one without DUP and all others with it. -/
theorem redelivers_of_reach (h : ((system paho).restrict fun _ c => c.Fits).Reach m) :
    Redelivers paho m.radio.log where
  same := by
    intro req hmem
    have hattempt := mem_attempts_of_mem_transmissions hmem
    have hunpublished : ¬m.Unpublished := by
      intro hnone
      rw [hnone.2.1] at hattempt
      exact absurd hattempt List.not_mem_nil
    have hin : m.mPublishRequest.InBounds :=
      (inBounds_of_reach h).resolve_right hunpublished
    obtain ⟨stored, hstored⟩ := (stored_of_reach h.of_restrict).resolve_right hunpublished
    refine ⟨stored, hstored.published, (hstored.attempts req hattempt).contents ?_⟩
    rw [← hstored.request.message]
    exact hin.message
  flags := (Flagged.of_reach h.of_restrict).flags
  carried := (Flagged.of_reach h.of_restrict).carried

/-- Polls ten seconds apart, which find the last send over. -/
def retryCalls (n : Nat) : List Call :=
  (List.range n).map fun k => pollAt (28000 + 10000 * UInt32.ofNat k) []

/-- A run with a session that sends its request, and may try again. -/
def retryRun (n : Nat) : List Call :=
  samplePublish 1 false :: startupCalls ++ sessionCalls 26000 ++ retryCalls n

/-- A request that is sent three times. -/
theorem redelivers_retryRun :
    (transmissions (afterCalls (retryRun 5)).radio.log).map (·.duplicate) = [1, 1, 0] ∧
      Redelivers .mqtt (afterCalls (retryRun 5)).radio.log :=
  ⟨by decide +kernel, redelivers_of_reach (reach_afterCalls_restrict _ (by decide +kernel))⟩

/-- The same run with a message of 907 bytes: the last one is written to the DUP flag. -/
def longRun (n : Nat) : List Call :=
  .publish [0x74] 1 (List.replicate 907 0x31) 907 1 false 0 :: startupCalls ++
    sessionCalls 26000 ++ retryCalls n

/-- The flag is sent as the last byte of the message, and changes with it. -/
theorem not_redelivers : ¬∀ (paho : Paho) (m : GB4MQTT), (system paho).Reach m →
    Redelivers paho m.radio.log := by
  intro h
  have hsame := (h .mqtt _ (reach_afterCalls (longRun 5))).same
  have hfirst : (transmissions (afterCalls (longRun 5)).radio.log).any
      (fun req => req.sentMessage.getLast? = some 0) = true := by decide +kernel
  have hlater : (transmissions (afterCalls (longRun 5)).radio.log).any
      (fun req => req.sentMessage.getLast? = some 1) = true := by decide +kernel
  obtain ⟨req, hreq, hzero⟩ := List.any_eq_true.1 hfirst
  obtain ⟨req', hreq', hone⟩ := List.any_eq_true.1 hlater
  obtain ⟨stored, hstored, hcontents⟩ := hsame req hreq
  obtain ⟨stored', hstored', hcontents'⟩ := hsame req' hreq'
  have hmessage : req.sentMessage = req'.sentMessage := by
    rw [hcontents.sentMessage, hcontents'.sentMessage,
      Option.some.inj (hstored.symm.trans hstored')]
  have hbytes := (of_decide_eq_true hzero).symm.trans
    ((congrArg List.getLast? hmessage).trans (of_decide_eq_true hone))
  exact absurd hbytes (by decide)

end GB4MQTT

end XBeeMqtt
