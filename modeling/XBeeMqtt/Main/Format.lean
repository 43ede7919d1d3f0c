import XBeeMqtt.Lib.Json
import XBeeMqtt.Main.Reports

/-!
# What the published arrays say

The texts of `snprintf` are JSON as long as `%f` prints numbers and `strftime` prints nothing
that had to be escaped (`Input.Printed`).

* `print_reportValue`: a report is its object, printed.
* `parse_of_reach`: a reader of JSON finds six objects in every published message, and in all
  of them the reports in their order.
-/

namespace XBeeMqtt

namespace Main

/-! ## Numbers -/

/-- The digits of a number, as bytes. -/
def digits (n : Nat) : List UInt8 := (Nat.toDigits 10 n).map fun c => UInt8.ofNat c.toNat

/-- A digit other than zero stands in front, unless the number is zero. -/
theorem exists_digits (n : Nat) : ∃ b bs, digits n = b :: bs ∧ Json.isDigit b = true ∧
    bs.all Json.isDigit = true ∧ (b = 0x30 → bs = []) := by
  have hdigit : ∀ d < 10, Json.isDigit (UInt8.ofNat (48 + d)) = true ∧
      (UInt8.ofNat (48 + d) = 0x30 → d = 0) := by decide
  suffices h : ∃ b bs, digits n = b :: bs ∧ Json.isDigit b = true ∧
      bs.all Json.isDigit = true ∧ (b = 0x30 → n = 0) by
    obtain ⟨b, bs, heq, hb, hbs, hzero⟩ := h
    refine ⟨b, bs, heq, hb, hbs, fun hb => ?_⟩
    rw [hzero hb] at heq
    exact (List.cons.inj heq).2.symm
  induction n using Nat.strongRecOn with
  | ind n ih =>
    unfold digits
    by_cases hn : n < 10
    · rw [Nat.toDigits_of_lt_base hn, List.map_singleton, Nat.toNat_digitChar_of_lt_ten hn]
      exact ⟨_, [], rfl, (hdigit n hn).1, rfl, (hdigit n hn).2⟩
    · obtain ⟨b, bs, heq, hb, hbs, hzero⟩ := ih (n / 10) (by omega)
      have hmod : n % 10 < 10 := by omega
      rw [Nat.toDigits_of_base_le (by decide) (by omega), List.map_append]
      refine ⟨b, bs ++ [UInt8.ofNat (n % 10).digitChar.toNat], ?_, hb, ?_, fun h => ?_⟩
      · rw [← List.cons_append, ← heq]
        rfl
      · rw [List.all_append, hbs, List.all_cons, List.all_nil, Nat.toNat_digitChar_of_lt_ten hmod,
          (hdigit _ hmod).1]
        rfl
      · have := hzero h
        omega

/-- What `%d` prints is a number. -/
theorem isNumber_decimal (n : Int) : Json.isNumber (decimal n) = true := by
  obtain ⟨b, bs, heq, hb, hbs, hzero⟩ := exists_digits n.natAbs
  have hall : (b :: bs).all Json.isDigit = true := by
    rw [List.all_cons, hb, hbs]
    rfl
  have hdrop : Json.dropMinus (decimal n) = b :: bs := by
    show Json.dropMinus ((if n < 0 then ascii "-" else []) ++ digits n.natAbs) = _
    rw [heq]
    split
    · show (if (0x2D : UInt8) = 0x2D then b :: bs else 0x2D :: b :: bs) = _
      exact if_pos rfl
    · refine if_neg fun hminus => ?_
      rw [hminus] at hb
      exact absurd hb (by decide)
  obtain ⟨htake, hrest⟩ := @Json.takeWhile_append Json.isDigit (b :: bs) [] hall nofun
  rw [List.append_nil] at htake hrest
  unfold Json.isNumber
  rw [hdrop, htake, hrest]
  show (Json.isDigit b && bs.all Json.isDigit && (b ≠ 0x30 || bs.isEmpty) && true) = true
  rw [hb, hbs]
  by_cases hb : b = 0x30
  · rw [hzero hb]
    simp
  · simp [hb]

/-! ## Reports -/

/-- What the libraries print can stand in a JSON text. -/
structure Input.Printed (i : Input) : Prop where
  latitude : Json.isNumber i.latitude = true
  longitude : Json.isNumber i.longitude = true
  timestamp : (i.timestamp.take 32).all Json.isPlain = true

instance (i : Input) : Decidable i.Printed :=
  decidable_of_iff (Json.isNumber i.latitude = true ∧ Json.isNumber i.longitude = true ∧
    (i.timestamp.take 32).all Json.isPlain = true)
    ⟨fun h => ⟨h.1, h.2.1, h.2.2⟩, fun h => ⟨h.latitude, h.longitude, h.timestamp⟩⟩

/-- The object of a report. -/
def reportValue (i : Input) (h : i.Printed) (objnum : UInt32) : Json.Value :=
  .object [
    (⟨ascii "device_id", by decide⟩, .string ⟨clientId, by decide⟩),
    (⟨ascii "latitude", by decide⟩, .number ⟨i.latitude, h.latitude⟩),
    (⟨ascii "longitude", by decide⟩, .number ⟨i.longitude, h.longitude⟩),
    (⟨ascii "robotState", by decide⟩, .string ⟨ascii "Error", by decide⟩),
    (⟨ascii "timestamp", by decide⟩, .string ⟨i.timestamp.take 32, h.timestamp⟩),
    (⟨ascii "cnt", by decide⟩, .number ⟨decimal objnum.toInt32.toInt, isNumber_decimal _⟩)]

theorem print_reportValue (i : Input) (h : i.Printed) (objnum : UInt32) :
    Json.print (reportValue i h objnum) = report i objnum := by
  have hid : ascii "\x7b\"device_id\":\"" = Json.openBrace :: Json.quote ::
    (ascii "device_id" ++ [Json.quote, Json.colon, Json.quote]) := by decide
  have hlatitude : ascii "\",\"latitude\":" = Json.quote :: Json.comma :: Json.quote ::
    (ascii "latitude" ++ [Json.quote, Json.colon]) := by decide
  have hlongitude : ascii ",\"longitude\":" = Json.comma :: Json.quote ::
    (ascii "longitude" ++ [Json.quote, Json.colon]) := by decide
  have hstate : ascii ",\"robotState\":\"Error\",\"timestamp\":\"" =
    Json.comma :: Json.quote :: (ascii "robotState" ++ Json.quote :: Json.colon :: Json.quote ::
      (ascii "Error" ++ Json.quote :: Json.comma :: Json.quote ::
        (ascii "timestamp" ++ [Json.quote, Json.colon, Json.quote]))) := by decide
  have hcnt : ascii "\",\"cnt\":" = Json.quote :: Json.comma :: Json.quote ::
    (ascii "cnt" ++ [Json.quote, Json.colon]) := by decide
  have hend : ascii "\x7d" = [Json.closeBrace] := by decide
  unfold report reportValue Json.print
  rw [Json.printMembers_eq, hid, hlatitude, hlongitude, hstate, hcnt, hend]
  simp only [List.map_cons, List.map_nil, List.intercalate_cons_cons, List.intercalate_singleton,
    Json.printMember, Json.print, Json.Text.print, List.append_assoc, List.cons_append,
    List.nil_append]

theorem print_array (vs : List Json.Value) :
    Json.print (.array vs) = jsonArray (vs.map Json.print) := by
  unfold Json.print jsonArray
  rw [Json.printElements_eq]
  rfl

/-! ## Messages -/

/-- The objects of these rounds, numbered from zero. -/
def valuesOf (inputs : List {i : Input // i.Printed}) : List Json.Value :=
  inputs.mapIdx fun n i => reportValue i.val i.property (UInt32.ofNat n)

theorem print_valuesOf (inputs : List {i : Input // i.Printed}) :
    (valuesOf inputs).map Json.print = reportsOf (inputs.map Subtype.val) := by
  unfold valuesOf reportsOf
  refine List.ext_getElem (by simp) fun n _ _ => ?_
  rw [List.getElem_map, List.getElem_mapIdx, List.getElem_mapIdx, List.getElem_map]
  exact print_reportValue _ _ _

/-- Batches of what was mapped are batches that were mapped. -/
theorem exists_batches {α β : Type} {f : α → β} {batches : List (List β)} {pending : List β}
    {xs : List α} (h : xs.map f = batches.flatten ++ pending) :
    ∃ (batches' : List (List α)) (pending' : List α), xs = batches'.flatten ++ pending' ∧
      batches = batches'.map (List.map f) ∧ pending = pending'.map f := by
  induction batches generalizing xs with
  | nil => exact ⟨[], xs, rfl, rfl, h.symm⟩
  | cons batch batches ih =>
    rw [List.flatten_cons, List.append_assoc] at h
    obtain ⟨first, rest, rfl, rfl, hrest⟩ := List.map_eq_append_iff.1 h
    obtain ⟨batches', pending', rfl, rfl, rfl⟩ := ih hrest
    exact ⟨first :: batches', pending', by rw [List.flatten_cons, List.append_assoc], rfl, rfl⟩

theorem parse_jsonArray (vs : List Json.Value) :
    Json.parse (jsonArray (vs.map Json.print)) = some (.array vs) := by
  rw [← print_array, Json.parse_print]

variable {s : Main} {paho : Paho}

/-- What was published and what is collected are objects, printed. -/
theorem Batches.values {batches : List (List (List UInt8))} {pending : List (List UInt8)}
    (h : s.Batches batches pending) (hprinted : ∀ i ∈ s.inputs, i.Printed) :
    ∃ (inputs : List {i : Input // i.Printed}) (batches' : List (List Json.Value))
      (pending' : List Json.Value), inputs.map Subtype.val = s.inputs.reverse ∧
      valuesOf inputs = batches'.flatten ++ pending' ∧
      batches = batches'.map (List.map Json.print) ∧ pending = pending'.map Json.print := by
  let inputs := s.inputs.reverse.attachWith _ fun i hi => hprinted i (List.mem_reverse.1 hi)
  have hinputs : inputs.map Subtype.val = s.inputs.reverse := List.attachWith_map_subtype_val _
  have hvalues : (valuesOf inputs).map Json.print = batches.flatten ++ pending := by
    rw [print_valuesOf, hinputs, h.reports]
  obtain ⟨batches', pending', hsplit, hbatches, hpending⟩ := exists_batches hvalues
  exact ⟨inputs, batches', pending', hinputs, hsplit, hbatches, hpending⟩

/-- As long as the libraries print what can stand in a JSON text, a reader of JSON finds an
array of six objects in every message that was published.  In all these arrays together it
finds the reports of the rounds that were due, in their order and numbered from zero, but
for fewer than six that are not published yet. -/
theorem parse_of_reach (h : (system paho).Reach s) (hprinted : ∀ i ∈ s.inputs, i.Printed) :
    ∃ (inputs : List {i : Input // i.Printed}) (batches : List (List Json.Value))
      (pending : List Json.Value), inputs.map Subtype.val = s.inputs.reverse ∧
      (messages s.mqtt.radio.log).reverse.map Json.parse =
        batches.map (fun vs => some (.array vs)) ∧
      (∀ batch ∈ batches, batch.length = numberOfReports) ∧
      pending.length < numberOfReports ∧
      valuesOf inputs = batches.flatten ++ pending := by
  obtain ⟨batches, pending, hbatches, hcollected⟩ := Inv.of_reach h
  obtain ⟨inputs, batches', pending', hinputs, hsplit, rfl, rfl⟩ := hbatches.values hprinted
  refine ⟨inputs, batches', pending', hinputs, ?_, fun batch hbatch => ?_, ?_, hsplit⟩
  · rw [hbatches.published, List.map_map, List.map_map]
    exact List.map_congr_left fun batch _ => parse_jsonArray batch
  · have hlength := hbatches.full _ (List.mem_map_of_mem hbatch)
    rwa [List.length_map] at hlength
  · have hfew := hcollected.few
    rwa [List.length_map] at hfew

theorem printed_sampleInput (n : Nat) : (sampleInput n).Printed :=
  ⟨show Json.isNumber (ascii "15.000000") = true by decide,
    show Json.isNumber (ascii "30.000000") = true by decide,
    show ((ascii "2020-01-01T00:00:00Z").take 32).all Json.isPlain = true by decide⟩

theorem printed_afterRounds (n : Nat) : ∀ i ∈ (afterRounds n).inputs, i.Printed := by
  induction n with
  | zero => exact List.forall_mem_nil _
  | succ n ih =>
    have hprinted := List.forall_mem_cons.2 ⟨printed_sampleInput n, ih⟩
    have hloop := loop_step (Inv.of_reach (reach_afterRounds n)).cnt_ne .mqtt (sampleInput n)
    show ∀ i ∈ (loop .mqtt (afterRounds n) (sampleInput n)).inputs, i.Printed
    generalize loop .mqtt (afterRounds n) (sampleInput n) = s at hloop ⊢
    cases hloop with
    | idle _ => exact ih
    | added _ _ => exact hprinted
    | published _ _ => exact hprinted

/-- Seven rounds, of which the sixth publishes. -/
theorem parse_rounds :
    let s := afterRounds 7
    messages s.mqtt.radio.log ≠ [] ∧
      ∃ (inputs : List {i : Input // i.Printed}) (batches : List (List Json.Value))
        (pending : List Json.Value), inputs.map Subtype.val = s.inputs.reverse ∧
        (messages s.mqtt.radio.log).reverse.map Json.parse =
          batches.map (fun vs => some (.array vs)) ∧
        (∀ batch ∈ batches, batch.length = numberOfReports) ∧
        pending.length < numberOfReports ∧
        valuesOf inputs = batches.flatten ++ pending :=
  ⟨by decide +kernel, parse_of_reach (reach_afterRounds 7) (printed_afterRounds 7)⟩

end Main

end XBeeMqtt
