import XBeeMqtt.Main.Basic

/-!
# The reports in their arrays

* `Collected`: the buffer has the reports of the array so far, each with the comma behind
  it, and no byte is written behind its end.  The sixth report closes the array.
* `batches_of_reach`: what is published are the reports, all of them and in their order, in
  arrays of six.
-/

namespace XBeeMqtt

namespace Main

/-- An array of JSON with these elements. -/
def jsonArray (reports : List (List UInt8)) : List UInt8 :=
  ascii "[" ++ (ascii ",").intercalate reports ++ ascii "]"

/-- An array that is open, with a comma behind every element. -/
def openArray (reports : List (List UInt8)) : List UInt8 :=
  ascii "[" ++ reports.flatMap (· ++ ascii ",")

theorem openArray_append (reports : List (List UInt8)) (r : List UInt8) :
    openArray (reports ++ [r]) = openArray reports ++ (r ++ ascii ",") := by
  unfold openArray
  rw [List.flatMap_append, List.flatMap_singleton, List.append_assoc]

/-- The last element closes the array. -/
theorem jsonArray_append (reports : List (List UInt8)) (r : List UInt8) :
    jsonArray (reports ++ [r]) = openArray reports ++ (r ++ ascii "]") := by
  have hjoin : (ascii ",").intercalate (reports ++ [r]) =
      reports.flatMap (· ++ ascii ",") ++ r := by
    induction reports with
    | nil => exact List.intercalate_singleton
    | cons first reports ih =>
      rw [List.cons_append, List.intercalate_cons_of_ne_nil (List.append_ne_nil_of_right_ne_nil _
        (List.cons_ne_nil _ _)), ih, List.flatMap_cons, List.append_assoc, List.append_assoc,
        List.append_assoc]
  unfold jsonArray openArray
  rw [hjoin, List.append_assoc, List.append_assoc, List.append_assoc]

/-- Elements of less than `n` bytes. -/
theorem length_openArray_le {n : Nat} {reports : List (List UInt8)}
    (h : ∀ r ∈ reports, r.length < n) :
    (openArray reports).length ≤ 1 + n * reports.length := by
  induction reports with
  | nil => exact Nat.le_refl _
  | cons first reports ih =>
    obtain ⟨hfirst, hrest⟩ := List.forall_mem_cons.1 h
    have hle := ih hrest
    have hlen : (openArray (first :: reports)).length =
        first.length + 1 + (openArray reports).length := by
      unfold openArray
      rw [List.flatMap_cons, List.length_append, List.length_append, List.length_append,
        List.length_append]
      show 1 + (first.length + 1 + _) = first.length + 1 + (1 + _)
      omega
    rw [hlen, List.length_cons, Nat.mul_succ]
    omega

/-- A text that fits is written with its zero, and nothing behind that changes. -/
theorem snprintf_of_lt {dst text : List UInt8} {size : Nat} (h : text.length < size)
    (hroom : size ≤ dst.length) :
    snprintf dst size text = (text.length, text ++ 0 :: dst.drop (text.length + 1)) ∧
      (snprintf dst size text).2.length = dst.length := by
  have hall : text.take (size - 1) = text := List.take_of_length_le (by omega)
  have heq : snprintf dst size text =
      (text.length, text ++ 0 :: dst.drop (text.length + 1)) := by
    unfold snprintf
    dsimp only
    rw [hall]
  refine ⟨heq, ?_⟩
  rw [heq]
  show (text ++ 0 :: dst.drop (text.length + 1)).length = dst.length
  rw [List.length_append, List.length_cons, List.length_drop]
  omega

/-- The buffer has the reports of the array that is being collected. -/
structure Collected (s : Main) (pending : List (List UInt8)) : Prop where
  buffer : s.cntS.take s.reportIndex = openArray pending
  index : s.reportIndex = (openArray pending).length
  size : s.cntS.length = reportBufferSize
  fits : ∀ r ∈ pending, r.length + 1 < reportSize
  cnt : s.cnt = UInt32.ofNat pending.length
  few : pending.length < numberOfReports

/-- A report that fits is written within the buffer, right behind the others. -/
theorem Collected.write {s : Main} {pending : List (List UInt8)} (h : s.Collected pending)
    {i : Input} (hfits : s.Fits i) :
    (s.addReport i).cntS.length = reportBufferSize ∧
      (s.addReport i).reportIndex = (openArray pending ++ s.text i).length ∧
      (s.addReport i).cntS.take (s.addReport i).reportIndex = openArray pending ++ s.text i := by
  have htext : (s.text i).length < reportSize := by
    unfold text
    rw [List.length_append]
    split <;> exact hfits
  have hsize : reportSize = 150 := rfl
  have hbuffer : reportBufferSize = 900 := rfl
  have hnumber : numberOfReports = 6 := rfl
  have hfew := h.few
  have hindex := h.index
  have hle : (openArray pending).length ≤ 1 + 149 * pending.length :=
    length_openArray_le fun r hr => by
      have := h.fits r hr
      omega
  have hlen := h.size
  have hroom : reportSize ≤ (s.cntS.drop s.reportIndex).length := by
    rw [List.length_drop]
    omega
  obtain ⟨heq, hlength⟩ := snprintf_of_lt htext hroom
  have hnext : (s.addReport i).reportIndex = (openArray pending ++ s.text i).length := by
    rw [addReport_reportIndex, heq, hindex, List.length_append]
  refine ⟨?_, hnext, ?_⟩
  · rw [addReport_cntS, List.length_append, hlength, ← List.length_append,
      List.take_append_drop, hlen]
  · rw [hnext, addReport_cntS, heq, h.buffer]
    dsimp only
    rw [← List.append_assoc]
    exact List.take_left' rfl

/-- The index stays within the buffer. -/
theorem Collected.reportIndex_le {s : Main} {pending : List (List UInt8)} (h : s.Collected pending)
    {i : Input} (hfits : s.Fits i) :
    (s.addReport i).reportIndex ≤ (s.addReport i).cntS.length := by
  obtain ⟨_, hindex, htake⟩ := h.write hfits
  have hlength := congrArg List.length htake
  rw [List.length_take, ← hindex] at hlength
  omega

/-! ## Batches -/

/-- The bytes of its message. -/
def payload (req : MQTTRequest) : List UInt8 := req.message.take req.messageLen

/-- The messages that `publish()` was given, the newest first. -/
def messages (log : List Event) : List (List UInt8) :=
  (log.filterMap Event.published?).map payload

/-- The reports of these rounds, numbered from zero. -/
def reportsOf (inputs : List Input) : List (List UInt8) :=
  inputs.mapIdx fun n i => report i (UInt32.ofNat n)

/-- What was published and what is collected are the reports, in their order. -/
structure Batches (s : Main) (batches : List (List (List UInt8))) (pending : List (List UInt8)) :
    Prop where
  published : (messages s.mqtt.radio.log).reverse = batches.map jsonArray
  full : ∀ batch ∈ batches, batch.length = numberOfReports
  reports : reportsOf s.inputs.reverse = batches.flatten ++ pending
  objnum : s.objnum = UInt32.ofNat s.inputs.length

theorem messages_poll (m : GB4MQTT) (paho : Paho) (env : Env) :
    messages (m.poll paho env).2.radio.log = messages m.radio.log := by
  obtain ⟨new, hlog, hnew⟩ := m.poll_log paho env
  have hnone : new.filterMap Event.published? = [] := by
    refine List.filterMap_eq_nil_iff.2 fun e he => ?_
    cases e with
    | published req =>
      rcases hnew _ he with hswitch | hradio
      · exact absurd hswitch Bool.false_ne_true
      · exact absurd hradio Bool.false_ne_true
    | _ => rfl
  unfold messages
  rw [hlog, List.filterMap_append, hnone, List.nil_append]

variable {s : Main} {pending : List (List UInt8)} {batches : List (List (List UInt8))}

/-- The count of the reports that are collected. -/
theorem Collected.text (h : s.Collected pending) (i : Input) :
    s.text i = report i s.objnum ++
      if pending.length + 1 < numberOfReports then ascii "," else ascii "]" := by
  have hnumber : numberOfReports = 6 := rfl
  have hfew := h.few
  have hfive : s.cnt < 5 ↔ pending.length + 1 < numberOfReports := by
    rw [h.cnt, UInt32.lt_iff_toNat_lt, UInt32.toNat_ofNat']
    show pending.length % 2 ^ 32 < 5 ↔ _
    omega
  unfold Main.text
  congr 1
  exact if_congr hfive rfl rfl

/-- The next report is numbered on. -/
theorem Batches.reports_addReport (h : s.Batches batches pending) (i : Input) :
    reportsOf (s.addReport i).inputs.reverse = batches.flatten ++ (pending ++ [report i s.objnum]) ∧
      (s.addReport i).objnum = UInt32.ofNat (s.addReport i).inputs.length := by
  constructor
  · rw [addReport_inputs, List.reverse_cons, ← List.append_assoc, ← h.reports, h.objnum]
    unfold reportsOf
    rw [List.mapIdx_concat, List.length_reverse]
  · show s.objnum + 1 = UInt32.ofNat (s.inputs.length + 1)
    rw [h.objnum, UInt32.ofNat_add]
    rfl

theorem Collected.cnt_add (h : s.Collected pending) :
    s.cnt + 1 = UInt32.ofNat (pending.length + 1) := by
  rw [h.cnt, UInt32.ofNat_add]
  rfl

/-- A report that is not the sixth waits in the buffer. -/
theorem addReport_collected (h : s.Collected pending) {i : Input} (hfits : s.Fits i)
    (hfew : pending.length + 1 < numberOfReports) :
    (s.addReport i).Collected (pending ++ [report i s.objnum]) := by
  obtain ⟨hsize, hindex, htake⟩ := h.write hfits
  have hopen : openArray pending ++ s.text i = openArray (pending ++ [report i s.objnum]) := by
    rw [openArray_append, h.text i, if_pos hfew]
  have hlength : (pending ++ [report i s.objnum]).length = pending.length + 1 :=
    List.length_append
  exact {
    buffer := htake.trans hopen
    index := hindex.trans (congrArg List.length hopen)
    size := hsize
    fits := List.forall_mem_append.2 ⟨h.fits, List.forall_mem_singleton.2 hfits⟩
    cnt := by rw [addReport_cnt, h.cnt_add, hlength]
    few := by rw [hlength]; exact hfew }

/-- The sixth one closes the array. -/
theorem addReport_full (h : s.Collected pending) {i : Input} (hfits : s.Fits i)
    (hfull : pending.length + 1 = numberOfReports) :
    (s.addReport i).cntS.length = reportBufferSize ∧
      (s.addReport i).cntS.take (s.addReport i).reportIndex =
        jsonArray (pending ++ [report i s.objnum]) := by
  obtain ⟨hsize, _, htake⟩ := h.write hfits
  have hclosed : openArray pending ++ s.text i = jsonArray (pending ++ [report i s.objnum]) := by
    rw [jsonArray_append, h.text i, if_neg (Nat.not_lt.2 (Nat.le_of_eq hfull.symm))]
  exact ⟨hsize, htake.trans hclosed⟩

/-! ## Publishing -/

/-- `publish()` takes the bytes up to the index, and nothing of the session's own buffer. -/
theorem messages_publishReports (hle : s.reportIndex ≤ s.cntS.length) (i : Input) :
    messages (s.publishReports i).mqtt.radio.log =
      s.cntS.take s.reportIndex :: messages s.mqtt.radio.log := by
  have hpayload : ∀ array, (GB4MQTT.memcpy array s.cntS s.reportIndex).take s.reportIndex =
      s.cntS.take s.reportIndex :=
    fun _ => List.take_left' (List.length_take_of_le hle)
  unfold publishReports
  exact congrArg (· :: messages s.mqtt.radio.log) (hpayload _)

/-- The next array starts with the bracket of the one that was published. -/
theorem publishReports_collected {reports : List (List UInt8)}
    (hsize : s.cntS.length = reportBufferSize)
    (htake : s.cntS.take s.reportIndex = jsonArray reports) (i : Input) :
    (s.publishReports i).Collected [] := by
  have hfirst : s.cntS.take 1 = ascii "[" := by
    rw [← List.take_append_drop s.reportIndex s.cntS, htake]
    unfold jsonArray
    rw [List.append_assoc, List.append_assoc]
    exact List.take_left' rfl
  exact ⟨hfirst, rfl, hsize, List.forall_mem_nil _, rfl, by decide⟩

/-! ## Runs -/

/-- What was published are arrays of six reports, and the rest is collected. -/
def Inv (s : Main) : Prop := ∃ batches pending, s.Batches batches pending ∧ s.Collected pending

theorem Inv.cnt_ne (h : s.Inv) : s.cnt ≠ 6 := by
  obtain ⟨_, pending, _, hcollected⟩ := h
  have hnumber : numberOfReports = 6 := rfl
  have hfew := hcollected.few
  rw [hcollected.cnt]
  intro hsix
  have hmod := congrArg UInt32.toNat hsix
  rw [UInt32.toNat_ofNat'] at hmod
  have : (6 : UInt32).toNat = 6 := rfl
  omega

theorem Inv.started (h : s.Started) : s.Inv := by
  obtain ⟨mem, status, now, rfl⟩ := h
  refine ⟨[], [], ⟨?_, List.forall_mem_nil _, rfl, rfl⟩, ⟨rfl, rfl, ?_, List.forall_mem_nil _, rfl, ?_⟩⟩
  · show (messages ((GB4MQTT.construct mem args).begin status).2.radio.log).reverse = _
    rw [(begin_eq _ status).1]
    rfl
  · show (ascii "[" ++ List.replicate (reportBufferSize - 1) 0).length = _
    rw [List.length_append, List.length_replicate]
    rfl
  · decide

theorem Inv.poll (h : s.Inv) (paho : Paho) (i : Input) : (s.poll paho i).Inv := by
  obtain ⟨batches, pending, hbatches, hcollected⟩ := h
  refine ⟨batches, pending, ⟨?_, hbatches.full, hbatches.reports, hbatches.objnum⟩, ?_⟩
  · show (messages (s.mqtt.poll paho i.env).2.radio.log).reverse = _
    rw [messages_poll]
    exact hbatches.published
  · exact ⟨hcollected.buffer, hcollected.index, hcollected.size, hcollected.fits, hcollected.cnt,
      hcollected.few⟩

theorem Inv.addReport (h : s.Inv) {i : Input} (hfits : s.Fits i) (hsix : s.cnt + 1 ≠ 6) :
    (s.addReport i).Inv := by
  obtain ⟨batches, pending, hbatches, hcollected⟩ := h
  have hfew : pending.length + 1 < numberOfReports := by
    refine Nat.lt_of_le_of_ne hcollected.few fun hfull => hsix ?_
    rw [hcollected.cnt_add, hfull]
    rfl
  obtain ⟨hreports, hobjnum⟩ := hbatches.reports_addReport i
  exact ⟨batches, pending ++ [report i s.objnum],
    ⟨hbatches.published, hbatches.full, hreports, hobjnum⟩,
    addReport_collected hcollected hfits hfew⟩

theorem Inv.publishReports (h : s.Inv) {i : Input} (hfits : s.Fits i) (hsix : s.cnt + 1 = 6) :
    ((s.addReport i).publishReports i).Inv := by
  obtain ⟨batches, pending, hbatches, hcollected⟩ := h
  have hfull : pending.length + 1 = numberOfReports := by
    have hfew := hcollected.few
    have hnumber : numberOfReports = 6 := rfl
    have hmod := congrArg UInt32.toNat (hcollected.cnt_add.symm.trans hsix)
    rw [UInt32.toNat_ofNat'] at hmod
    have : (6 : UInt32).toNat = 6 := rfl
    omega
  obtain ⟨hsize, htake⟩ := addReport_full hcollected hfits hfull
  have hle := hcollected.reportIndex_le hfits
  obtain ⟨hreports, hobjnum⟩ := hbatches.reports_addReport i
  refine ⟨batches ++ [pending ++ [report i s.objnum]], [], ⟨?_, ?_, ?_, hobjnum⟩,
    publishReports_collected hsize htake i⟩
  · rw [messages_publishReports hle, htake, addReport_mqtt, List.reverse_cons,
      hbatches.published, List.map_append, List.map_singleton]
  · refine List.forall_mem_append.2 ⟨hbatches.full, List.forall_mem_singleton.2 ?_⟩
    rw [List.length_append, List.length_singleton, hfull]
  · rw [List.flatten_append, List.flatten_singleton, List.append_nil]
    exact hreports

/-- What is published fits the array of the request. -/
theorem Inv.reportIndex_le (h : s.Inv) {i : Input} (hfits : s.Fits i) :
    (s.addReport i).reportIndex ≤ MQTTRequest.messageMaxSize := by
  obtain ⟨_, pending, _, hcollected⟩ := h
  have hle := hcollected.reportIndex_le hfits
  rw [(hcollected.write hfits).1] at hle
  exact hle

theorem Inv.of_reach {paho : Paho} (h : (system paho).Reach s) : s.Inv := by
  refine h.invariant Inv (fun _ hstarted => .started hstarted) fun s i s' _ hinv hstep => ?_
  obtain ⟨hfits, rfl⟩ := hstep
  have hloop := loop_step hinv.cnt_ne paho i
  generalize loop paho s i = s' at hloop ⊢
  cases hloop with
  | idle _ => exact hinv.poll paho i
  | added _ hsix => exact (hinv.addReport hfits hsix).poll paho i
  | published _ hsix => exact (hinv.publishReports hfits hsix).poll paho i

/-- The messages that `main` has published are arrays of six reports.  Together with those
that are still collected they are the reports of all the rounds that were due, in their
order and numbered from zero, and no report was written behind the end of the buffer. -/
theorem batches_of_reach {paho : Paho} (h : (system paho).Reach s) :
    s.cntS.length = reportBufferSize ∧
      ∃ (batches : List (List (List UInt8))) (pending : List (List UInt8)),
      (messages s.mqtt.radio.log).reverse = batches.map jsonArray ∧
      (∀ batch ∈ batches, batch.length = numberOfReports) ∧
      pending.length < numberOfReports ∧
      s.cntS.take s.reportIndex = openArray pending ∧
      reportsOf s.inputs.reverse = batches.flatten ++ pending := by
  obtain ⟨batches, pending, hbatches, hcollected⟩ := Inv.of_reach h
  exact ⟨hcollected.size, batches, pending, hbatches.published, hbatches.full, hcollected.few,
    hcollected.buffer, hbatches.reports⟩

/-- A round that is due, the `n`-th. -/
def sampleInput (n : Nat) : Input where
  now := UInt32.ofNat (10001 * (n + 1))
  delayStart := UInt32.ofNat (10001 * (n + 1))
  timestamp := ascii "2020-01-01T00:00:00Z"
  latitude := ascii "15.000000"
  longitude := ascii "30.000000"
  publishTime := UInt32.ofNat (10001 * (n + 1))

/-- `main` in front of its loop. -/
def sampleStarted : Main where
  mqtt := ((GB4MQTT.construct default args).begin 0).2
  delayStart := 0
  cntS := ascii "[" ++ List.replicate (reportBufferSize - 1) 0
  reportIndex := 1
  cnt := 0
  objnum := 0
  inputs := []

/-- The state after a number of rounds that are due. -/
def afterRounds : Nat → Main
  | 0 => sampleStarted
  | n + 1 => loop .mqtt (afterRounds n) (sampleInput n)

theorem reach_afterRounds (n : Nat) : (system .mqtt).Reach (afterRounds n) := by
  induction n with
  | zero => exact .init ⟨default, 0, 0, rfl⟩
  | succ n ih =>
    exact .step ih ⟨@fits_of_length _ (sampleInput n) (show 9 + 9 ≤ 25 by decide)
      (show 20 ≤ 20 by decide), rfl⟩

/-- Seven rounds, of which the sixth publishes. -/
theorem batches_published :
    let s := afterRounds 7
    messages s.mqtt.radio.log ≠ [] ∧ s.reportIndex ≠ 1 ∧
      s.cntS.length = reportBufferSize ∧
      ∃ (batches : List (List (List UInt8))) (pending : List (List UInt8)),
        (messages s.mqtt.radio.log).reverse = batches.map jsonArray ∧
        (∀ batch ∈ batches, batch.length = numberOfReports) ∧
        pending.length < numberOfReports ∧
        s.cntS.take s.reportIndex = openArray pending ∧
        reportsOf s.inputs.reverse = batches.flatten ++ pending :=
  ⟨by decide +kernel, by decide +kernel,
    batches_of_reach (reach_afterRounds 7)⟩

end Main

end XBeeMqtt
