import XBeeMqtt.GB4MQTT.Broker
import XBeeMqtt.Main.Format
import XBeeMqtt.Main.Sending

/-!
# From `main` to its broker

`field` puts the whole program beside a broker and the network of `GB4MQTT.World`.

* `reach_world`: the session in it makes a run of that network, so what holds of a session
  and its broker holds here.
* `delivered_of_acknowledged`: an array that counts as acknowledged is with the broker, and
  reads there as the last six reports.
-/

namespace XBeeMqtt

open GB4MQTT Transition

namespace Main

/-- A round of the loop, up to the poll that ends it. -/
def prepare (s : Main) (i : Input) : Main :=
  let s := if s.IsDue i then s.addReport i else s
  if s.cnt = 6 then s.publishReports i else s

/-- The session is left alone up to the poll, or it is given a request. -/
theorem prepare_mqtt (s : Main) (i : Input) : (s.prepare i).mqtt = s.mqtt ∨
    ∃ message messageLen, (s.prepare i).mqtt =
      (s.mqtt.publish topic topicSize message messageLen 1 true i.publishTime).2 := by
  have hadd : (if s.IsDue i then s.addReport i else s).mqtt = s.mqtt := by
    split <;> rfl
  unfold prepare
  dsimp only
  generalize (if s.IsDue i then s.addReport i else s) = t at hadd ⊢
  split
  · refine Or.inr ⟨t.cntS, t.reportIndex, ?_⟩
    rw [← hadd]
    rfl
  · exact Or.inl hadd

/-- `main`, and what its broker has received and acknowledged. -/
structure Field where
  main : Main
  received : List MQTTRequest
  acknowledged : List UInt16

/-- A round of the loop, or a step of the network or the broker. -/
inductive Field.Action where
  | round (i : Input)
  | deliver (req : MQTTRequest)
  | acknowledge (req : MQTTRequest)

namespace Field

variable {f : Field} {paho : Paho}

/-- The session of `main` beside its network. -/
def world (f : Field) : World where
  device := f.main.mqtt
  received := f.received
  acknowledged := f.acknowledged

/-- The same, up to the poll of a round. -/
def prepared (f : Field) (i : Input) : World where
  device := (f.main.prepare i).mqtt
  received := f.received
  acknowledged := f.acknowledged

/-- The reports fit, and the network and the broker do what they may. -/
def Accepts (paho : Paho) (f : Field) : Action → Prop
  | .round i => f.main.Fits i ∧ (f.prepared i).Genuine paho i.env
  | .deliver req => f.world.Accepts paho (.deliver req)
  | .acknowledge req => f.world.Accepts paho (.acknowledge req)

instance (paho : Paho) (f : Field) : (a : Action) → Decidable (Accepts paho f a)
  | .round i => inferInstanceAs (Decidable (f.main.Fits i ∧ (f.prepared i).Genuine paho i.env))
  | .deliver req => inferInstanceAs (Decidable (f.world.Accepts paho (.deliver req)))
  | .acknowledge req => inferInstanceAs (Decidable (f.world.Accepts paho (.acknowledge req)))

def next (paho : Paho) (f : Field) : Action → Field
  | .round i => { f with main := loop paho f.main i }
  | .deliver req => { f with received := req :: f.received }
  | .acknowledge req => { f with acknowledged := req.packetId :: f.acknowledged }

/-- `main` in front of its loop, after a `begin()` that succeeded. -/
def Begun (f : Field) : Prop :=
  f.main.Started ∧ f.main.mqtt.Begun ∧ f.received = [] ∧ f.acknowledged = []

/-- The program, the network and the broker. -/
def field (paho : Paho) : Transition.System Field Action :=
  .ofFunction Begun (Accepts paho) (next paho)

/-- The network does not reach into the loop. -/
theorem reach_main (h : (field paho).Reach f) : (system paho).Reach f.main := by
  induction h with
  | init hinit => exact .init hinit.1
  | @step f a _ _ hstep ih =>
    obtain ⟨hacc, rfl⟩ := hstep
    cases a with
    | round i => exact .step ih ⟨hacc.1, rfl⟩
    | deliver req => exact ih
    | acknowledge req => exact ih

/-- The session of `main` runs beside the network as any session does. -/
theorem reach_world (h : (field paho).Reach f) : (World.network paho).Reach f.world := by
  induction h with
  | init hinit => exact .init hinit.2
  | @step f a _ _ hstep ih =>
    obtain ⟨hacc, rfl⟩ := hstep
    cases a with
    | round i =>
      -- a round is a poll, with a `publish()` in front of it if six reports are there
      have hprepared : (World.network paho).Reach (f.prepared i) := by
        rcases f.main.prepare_mqtt i with hsame | ⟨message, messageLen, hpublish⟩
        · unfold prepared
          rw [hsame]
          exact ih
        · refine @System.Reach.step _ GB4MQTT.Action _ _ (.call (.publish topic topicSize message messageLen 1
            true i.publishTime)) _ ih ⟨trivial, ?_⟩
          unfold prepared
          rw [hpublish]
          rfl
      exact @System.Reach.step _ GB4MQTT.Action _ _ (.call (.poll i.env)) _ hprepared ⟨hacc.2, rfl⟩
    | deliver req => exact @System.Reach.step _ GB4MQTT.Action _ _ (.deliver req) _ ih ⟨hacc, rfl⟩
    | acknowledge req => exact @System.Reach.step _ GB4MQTT.Action _ _ (.acknowledge req) _ ih ⟨hacc, rfl⟩

/-! ## What the broker has -/

theorem length_flatten_of_full {α : Type} {n : Nat} {batches : List (List α)}
    (h : ∀ batch ∈ batches, batch.length = n) : batches.flatten.length = n * batches.length := by
  induction batches with
  | nil => rfl
  | cons batch batches ih =>
    obtain ⟨hbatch, hrest⟩ := List.forall_mem_cons.1 h
    rw [List.flatten_cons, List.length_append, hbatch, ih hrest, List.length_cons, Nat.mul_succ,
      Nat.add_comm]

/-- Every message has its identifier. -/
theorem length_packetIds (log : List Event) : (packetIds log).length = (messages log).length := by
  unfold packetIds messages
  rw [List.length_reverse, List.length_map, List.length_map]

/-- The newest message is that of the last `publish()`. -/
theorem messages_of_lastPublished {log : List Event} {stored : MQTTRequest}
    (h : lastPublished log = some stored) : ∃ rest, messages log = payload stored :: rest := by
  unfold lastPublished at h
  rw [← List.head?_filterMap] at h
  obtain ⟨rest, hrest⟩ := List.head?_eq_some_iff.1 h
  unfold messages
  rw [hrest]
  exact ⟨_, rfl⟩

/-- In the first 256 arrays, one that counts as acknowledged is with the broker.  A reader of
JSON finds in it the last six reports that were published: those of the last rounds that were
due, numbered on from a multiple of six, but for fewer than six that are collected. -/
theorem delivered_of_acknowledged (h : (field paho).Reach f)
    (hprinted : ∀ i ∈ f.main.inputs, i.Printed)
    (hfew : f.main.inputs.length < 257 * numberOfReports)
    (hgot : f.main.mqtt.mPublishRequest.gotPuback = true) :
    ∃ (inputs : List {i : Input // i.Printed}) (older vs pending : List Json.Value),
      inputs.map Subtype.val = f.main.inputs.reverse ∧
      valuesOf inputs = older ++ vs ++ pending ∧
      numberOfReports ∣ older.length ∧ vs.length = numberOfReports ∧
      pending.length < numberOfReports ∧
      ∃ req ∈ f.received, SameMessage req f.main.mqtt.mPublishRequest ∧
        Json.parse (payload req) = some (.array vs) := by
  obtain ⟨batches, pending, hbatches, hcollected⟩ := Inv.of_reach (reach_main h)
  obtain ⟨inputs, batches', pending', hinputs, hsplit, rfl, rfl⟩ := hbatches.values hprinted
  have hfull : ∀ batch ∈ batches', batch.length = numberOfReports := fun batch hbatch => by
    have hlength := hbatches.full _ (List.mem_map_of_mem hbatch)
    rwa [List.length_map] at hlength
  have hcount : f.main.inputs.length = numberOfReports * batches'.length + pending'.length := by
    have hlength := congrArg List.length hsplit
    unfold valuesOf at hlength
    rw [List.length_mapIdx, List.length_append, length_flatten_of_full hfull,
      ← @List.length_map _ _ inputs Subtype.val, hinputs, List.length_reverse] at hlength
    exact hlength
  have hids : (packetIds f.main.mqtt.radio.log).length ≤ 256 := by
    have hpublished := congrArg List.length hbatches.published
    rw [List.length_reverse, List.length_map, List.length_map] at hpublished
    rw [length_packetIds, hpublished]
    have hnumber : numberOfReports = 6 := rfl
    rw [hnumber] at hcount hfew
    omega
  obtain ⟨req, hreq, stored, hstored, hsame⟩ :=
    World.received_stored (reach_world h) hids hgot
  obtain ⟨rest, hrest⟩ : ∃ rest, messages f.main.mqtt.radio.log = payload stored :: rest :=
    messages_of_lastPublished hstored.published
  have hlast := hbatches.published
  rw [hrest, List.reverse_cons, List.map_map] at hlast
  obtain ⟨init, last, rfl, _, hlast⟩ := List.map_eq_append_iff.1 hlast.symm
  obtain ⟨vs, rfl, hvs⟩ := List.map_eq_singleton_iff.1 hlast
  refine ⟨inputs, init.flatten, vs, pending', hinputs, ?_, ?_, ?_, ?_, req, hreq, ?_, ?_⟩
  · rw [hsplit, List.flatten_append, List.flatten_singleton]
  · rw [length_flatten_of_full fun batch hbatch => hfull batch (List.mem_append_left _ hbatch)]
    exact Nat.dvd_mul_right _ _
  · exact hfull vs (List.mem_append_right _ List.mem_cons_self)
  · have hfew := hcollected.few
    rwa [List.length_map] at hfew
  · exact hsame.trans hstored.request.symm
  · rw [payload_of_sameMessage hsame, ← hvs]
    exact parse_jsonArray vs

/-- `main` in front of its loop, and a broker that has heard nothing. -/
def sampleField : Field := ⟨sampleStarted, [], []⟩

/-- Six reports, a session, the PUBLISH of their array at the broker, and its PUBACK. -/
def ackedRounds : List Action :=
  let sent := (transmissions afterSession.mqtt.radio.log).headD default
  (List.range 6).map (fun n => .round (sampleInput n)) ++
    (startupCalls ++ sessionCalls 26000 ++ [pollAt 28000 []]).map (fun c => .round (idleInput c)) ++
    [.deliver sent, .acknowledge sent,
      .round (idleInput (pollAt 28100 [.receive 1 [0x40, 0x02, 0x00, 0x01]]))]

theorem delivered_rounds :
    let f := Transition.replay (next .mqtt) sampleField ackedRounds
    f.main.mqtt.mPublishRequest.gotPuback = true ∧
      ∃ (inputs : List {i : Input // i.Printed}) (older vs pending : List Json.Value),
        inputs.map Subtype.val = f.main.inputs.reverse ∧
        valuesOf inputs = older ++ vs ++ pending ∧
        numberOfReports ∣ older.length ∧ vs.length = numberOfReports ∧
        pending.length < numberOfReports ∧
        ∃ req ∈ f.received, SameMessage req f.main.mqtt.mPublishRequest ∧
          Json.parse (payload req) = some (.array vs) := by
  intro f
  have hgot : f.main.mqtt.mPublishRequest.gotPuback = true := by decide +kernel
  have hreach : (field .mqtt).Reach f :=
    Transition.reach_replay ackedRounds
      (.init ⟨⟨default, 0, 0, rfl⟩, ⟨default, args, 0, rfl⟩, rfl, rfl⟩) (by decide +kernel)
  have hall : f.main.inputs.all (fun i => decide i.Printed) = true := by decide +kernel
  exact ⟨hgot, delivered_of_acknowledged hreach
    (fun i hi => of_decide_eq_true (List.all_eq_true.1 hall i hi)) (by decide +kernel) hgot⟩

end Field

end Main

end XBeeMqtt
