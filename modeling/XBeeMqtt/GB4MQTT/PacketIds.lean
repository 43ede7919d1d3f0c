import XBeeMqtt.GB4MQTT.Attempts

/-!
# Packet identifiers

`PacketId` counts in 16 bits, but `get_next` answers in 8: the identifier of the
`n`-th call is `n` modulo 256 (`packetIds_of_reach`).  So the identifiers of a
run are valid exactly up to its 255th `publish()`; the 256th gets zero.
-/

namespace XBeeMqtt

/-- The identifiers that `publish()` assigned, the oldest first. -/
def packetIds (log : List Event) : List UInt16 :=
  ((log.filterMap Event.published?).map (·.packetId)).reverse

theorem packetIds_append {new log : List Event} (hnew : ∀ e ∈ new, e.published? = none) :
    packetIds (new ++ log) = packetIds log := by
  unfold packetIds
  rw [List.filterMap_append, List.filterMap_eq_nil_iff.2 hnew, List.nil_append]

theorem packetIds_published (req : MQTTRequest) (log : List Event) :
    packetIds (.published req :: log) = packetIds log ++ [req.packetId] := by
  exact List.reverse_cons

/-- No identifier is zero, and two that are assigned within 65535 calls differ. -/
structure ValidIds (ids : List UInt16) : Prop where
  nonzero : ∀ id ∈ ids, id ≠ 0
  distinct : ∀ i j a b, ids[i]? = some a → ids[j]? = some b → i < j → j < i + 65535 → a ≠ b

/-- The identifier of the call after `n` others. -/
def packetIdAt (n : Nat) : UInt16 := (UInt16.ofNat (n + 1)).toUInt8.toUInt16

theorem packetIdAt_toNat (n : Nat) : (packetIdAt n).toNat = (n + 1) % 256 := by
  unfold packetIdAt
  rw [UInt8.toNat_toUInt16, UInt16.toNat_toUInt8, UInt16.toNat_ofNat']
  omega

/-- A full round of the low byte uses up the identifiers. -/
theorem validIds_iff (n : Nat) : ValidIds ((List.range n).map packetIdAt) ↔ n ≤ 255 := by
  constructor
  · intro h
    apply Nat.le_of_not_lt
    intro hmany
    have hmem : packetIdAt 255 ∈ (List.range n).map packetIdAt :=
      List.mem_map_of_mem (List.mem_range.2 hmany)
    exact h.nonzero _ hmem rfl
  · intro hle
    refine ⟨fun id hmem => ?_, fun i j a b hi hj hlt hnear => ?_⟩
    · obtain ⟨k, hk, rfl⟩ := List.mem_map.1 hmem
      have hk := List.mem_range.1 hk
      intro hzero
      have hnat := packetIdAt_toNat k
      rw [hzero, UInt16.toNat_zero] at hnat
      omega
    · have ha : (List.range n)[i]?.map packetIdAt = some a := by
        rw [← List.getElem?_map]
        exact hi
      have hb : (List.range n)[j]?.map packetIdAt = some b := by
        rw [← List.getElem?_map]
        exact hj
      obtain ⟨i', hi', rfl⟩ := Option.map_eq_some_iff.1 ha
      obtain ⟨j', hj', rfl⟩ := Option.map_eq_some_iff.1 hb
      obtain ⟨hin, rfl⟩ := List.getElem?_eq_some_iff.1 hi'
      obtain ⟨hjn, rfl⟩ := List.getElem?_eq_some_iff.1 hj'
      rw [List.length_range] at hin hjn
      rw [List.getElem_range, List.getElem_range]
      intro hsame
      have hnat := congrArg UInt16.toNat hsame
      rw [packetIdAt_toNat, packetIdAt_toNat] at hnat
      omega

namespace GB4MQTT

variable {m m' : GB4MQTT} {paho : Paho} {env : Env}

theorem dispatchIncomming_packetId (m : GB4MQTT) (paho : Paho) (env : Env) :
    (m.dispatchIncomming paho env).2.packetId = m.packetId := by
  rcases m.dispatchIncomming_cases paho env with ⟨_, heq⟩ | ⟨_, _, _, heq⟩
  · rw [heq]
  · rw [heq]
    rfl

theorem Handled.packetId {b : Bool} (h : Handled m paho env b m') :
    m'.packetId = m.packetId := by
  cases h <;> rfl

theorem SwitchStep.packetId (h : SwitchStep m paho env m') : m'.packetId = m.packetId := by
  cases h with
  | listening _ _ => exact m.dispatchIncomming_packetId paho env
  | accepted _ _ _ => exact m.dispatchIncomming_packetId paho env
  | rejected _ => exact m.dispatchIncomming_packetId paho env
  | served _ hhandled => exact hhandled.packetId.trans (dispatchIncomming_packetId _ paho env)
  | servedDrop _ hhandled => exact hhandled.packetId.trans (dispatchIncomming_packetId _ paho env)
  | _ => rfl

/-- A poll assigns no identifier. -/
theorem poll_packetIds (m : GB4MQTT) (paho : Paho) (env : Env) :
    (m.poll paho env).2.packetId = m.packetId ∧
      packetIds (m.poll paho env).2.radio.log = packetIds m.radio.log := by
  constructor
  · rcases m.poll_cases paho env with ⟨_, heq⟩ | ⟨_, hstep⟩
    · rw [heq]
      rfl
    · exact hstep.packetId
  · obtain ⟨new, hlog, hnew⟩ := m.poll_log paho env
    rw [hlog]
    apply packetIds_append
    intro e he
    cases e with
    | published _ =>
      rcases hnew _ he with hfalse | hfalse <;> exact absurd hfalse Bool.false_ne_true
    | _ => rfl

/-- The calls of a run got the low bytes of the counter, in order. -/
def Counts (m : GB4MQTT) (n : Nat) : Prop :=
  packetIds m.radio.log = (List.range n).map packetIdAt ∧ m.packetId = UInt16.ofNat (n + 1)

theorem Counts.publish {n : Nat} (h : m.Counts n) (topic : List UInt8) (topicLen : Nat)
    (message : List UInt8) (messageLen : Nat) (qos : UInt8) (disconnect : Bool) (now : UInt32) :
    (m.publish topic topicLen message messageLen qos disconnect now).2.Counts (n + 1) := by
  obtain ⟨hids, hnext⟩ := h
  constructor
  · show packetIds (.published _ :: m.radio.log) = _
    rw [packetIds_published, hids, List.range_succ, List.map_append]
    show _ ++ [m.packetId.toUInt8.toUInt16] = _
    rw [hnext]
    rfl
  · show m.packetId + 1 = _
    rw [hnext, UInt16.ofNat_add (n + 1) 1]
    rfl

theorem Counts.of_reach (h : (system paho).Reach m) : ∃ n, m.Counts n := by
  refine h.invariant (fun m => ∃ n, m.Counts n) (fun m hbegun => ?_)
    fun m c m' _ hcounts hstep => ?_
  · obtain ⟨mem, args, rfl⟩ := Begun.eq hbegun
    exact ⟨0, rfl, rfl⟩
  · obtain ⟨_, rfl⟩ := hstep
    obtain ⟨n, hcounts⟩ := hcounts
    cases c with
    | publish topic topicLen message messageLen qos disconnect now =>
      exact ⟨n + 1, hcounts.publish topic topicLen message messageLen qos disconnect now⟩
    | poll env =>
      obtain ⟨hsame, hids⟩ := m.poll_packetIds paho env
      exact ⟨n, hids.trans hcounts.1, hsame.trans hcounts.2⟩
    | _ => exact ⟨n, hcounts⟩

/-- The identifiers of a run are valid as long as it made at most 255 calls of
`publish()`. -/
theorem validIds_iff_of_reach (h : (system paho).Reach m) :
    ValidIds (packetIds m.radio.log) ↔ (packetIds m.radio.log).length ≤ 255 := by
  obtain ⟨n, hids, _⟩ := Counts.of_reach h
  rw [hids, List.length_map, List.length_range]
  exact validIds_iff n

/-- Two requests in a row. -/
theorem validIds_two :
    ValidIds (packetIds (afterCalls [samplePublish 0 false, samplePublish 0 false]).radio.log) :=
  (validIds_iff_of_reach (reach_afterCalls _)).2 (by decide +kernel)

/-- The 256th request gets the identifier zero. -/
theorem not_validIds : ¬∀ (paho : Paho) (m : GB4MQTT), (system paho).Reach m →
    ValidIds (packetIds m.radio.log) := by
  intro h
  have hvalid := h .mqtt _ (reach_afterCalls (List.replicate 256 (samplePublish 0 false)))
  exact hvalid.nonzero 0 (by decide +kernel) rfl

end GB4MQTT

end XBeeMqtt
