import XBeeMqtt.GB4MQTT.Bounds
import XBeeMqtt.GB4MQTT.Storable

/-!
# The application

The loop of `main.cpp`, as it is built with `SENTINEL_DESTINATION`.  It formats a report
every ten seconds, collects six of them in an array of JSON, publishes that, and polls the
session once in every round.  `LoopStep` is what one round can do.

The floats of `main` are not modelled; what `%f` prints of them is an input.
-/

namespace XBeeMqtt

namespace Main

def ascii (s : String) : List UInt8 := s.toList.map fun c => UInt8.ofNat c.toNat

def clientId : List UInt8 := ascii "tonitrus"
def host : List UInt8 := ascii "40.78.22.17"
def username : List UInt8 := ascii "nsps-sentinel-iot-hub.azure-devices.net/tonitrus"
def password : List UInt8 := ascii ""
def topic : List UInt8 := ascii "devices/tonitrus/messages/events/"

/-- `sizeof topic`, with the zero. -/
def topicSize : Nat := topic.length + 1

def reportSize : Nat := 150
def numberOfReports : Nat := 6
def reportBufferSize : Nat := reportSize * numberOfReports
def reportInterval : UInt32 := 10000

/-- What `main` passes to the constructor. -/
def args : GB4MQTT.Args where
  radioApn := ascii "em"
  useTls := true
  networkPort := 8883
  networkAddress := some host
  id := clientId
  name := username
  pwd := password

/-! ## Formatting -/

/-- `%d`. -/
def decimal (n : Int) : List UInt8 :=
  (if n < 0 then ascii "-" else []) ++
    (Nat.toDigits 10 n.natAbs).map fun c => UInt8.ofNat c.toNat

/-- What one round of the loop reads from outside. -/
structure Input where
  /-- The reading that is compared with `delay_start`. -/
  now : UInt32 := 0
  /-- The reading that is stored there. -/
  delayStart : UInt32 := 0
  /-- What `strftime` writes. -/
  timestamp : List UInt8 := []
  /-- What `%f` prints of `lat`. -/
  latitude : List UInt8 := []
  /-- What `%f` prints of `lon`. -/
  longitude : List UInt8 := []
  /-- The reading of `publish`. -/
  publishTime : UInt32 := 0
  env : Env := {}

/-- A report, without the byte behind it. -/
def report (i : Input) (objnum : UInt32) : List UInt8 :=
  ascii "\x7b\"device_id\":\"" ++ clientId ++
    ascii "\",\"latitude\":" ++ i.latitude ++
    ascii ",\"longitude\":" ++ i.longitude ++
    ascii ",\"robotState\":\"Error\",\"timestamp\":\"" ++ i.timestamp.take 32 ++
    ascii "\",\"cnt\":" ++ decimal objnum.toInt32.toInt ++ ascii "\x7d"

/-- `snprintf(dst, size, ...)` of a text: what it answers, and `dst` after it. -/
def snprintf (dst : List UInt8) (size : Nat) (text : List UInt8) : Nat × List UInt8 :=
  let written := text.take (size - 1)
  (text.length, written ++ 0 :: dst.drop (written.length + 1))

end Main

/-! ## The loop -/

/-- The variables of `main`. -/
structure Main where
  mqtt : GB4MQTT
  delayStart : Int32
  cntS : List UInt8
  reportIndex : Nat
  cnt : UInt32
  objnum : UInt32
  /-- The rounds that formatted a report, the newest first.  Not in the source. -/
  inputs : List Main.Input

namespace Main

open Main

/-- A report and the byte behind it. -/
def text (s : Main) (i : Input) : List UInt8 :=
  report i s.objnum ++ if s.cnt < 5 then ascii "," else ascii "]"

/-- A report is formatted behind the others.  Text that does not fit is cut off, but the
index moves as if it did. -/
def addReport (s : Main) (i : Input) : Main :=
  let (len, tail) := snprintf (s.cntS.drop s.reportIndex) reportSize (s.text i)
  { s with
    delayStart := i.delayStart.toInt32
    cntS := s.cntS.take s.reportIndex ++ tail
    reportIndex := s.reportIndex + len
    cnt := s.cnt + 1
    objnum := s.objnum + 1
    inputs := i :: s.inputs }

def publishReports (s : Main) (i : Input) : Main :=
  { s with
    cnt := 0
    reportIndex := 1
    mqtt := (s.mqtt.publish topic topicSize s.cntS s.reportIndex 1 true i.publishTime).2 }

def poll (s : Main) (paho : Paho) (i : Input) : Main :=
  { s with mqtt := (s.mqtt.poll paho i.env).2 }

/-- The time of the next report has come. -/
def IsDue (s : Main) (i : Input) : Prop := elapsed i.now s.delayStart > reportInterval

instance (s : Main) (i : Input) : Decidable (s.IsDue i) := inferInstanceAs (Decidable (_ > _))

/-- One round of the loop. -/
def loop (paho : Paho) (s : Main) (i : Input) : Main :=
  let s := if s.IsDue i then s.addReport i else s
  let s := if s.cnt = 6 then s.publishReports i else s
  s.poll paho i

/-- `main` in front of its loop.  The result of `begin()` is not looked at. -/
def Started (s : Main) : Prop :=
  ∃ mem status now, s = {
    mqtt := ((GB4MQTT.construct mem args).begin status).2
    delayStart := now
    cntS := ascii "[" ++ List.replicate (reportBufferSize - 1) 0
    reportIndex := 1
    cnt := 0
    objnum := 0
    inputs := [] }

/-- The report that this round may format fits its part of the buffer. -/
def Fits (s : Main) (i : Input) : Prop := (report i s.objnum).length + 1 < reportSize

instance (s : Main) (i : Input) : Decidable (s.Fits i) := inferInstanceAs (Decidable (_ < _))

/-- Any rounds of the loop with reports that fit. -/
def system (paho : Paho) : Transition.System Main Input := .ofFunction Started Fits (loop paho)

/-! ## The length of a report -/

theorem length_decimal_le (n : Int32) : (decimal n.toInt).length ≤ 11 := by
  have hlow : -2 ^ 31 ≤ n.toInt := Int32.le_toInt n
  have hhigh : n.toInt < 2 ^ 31 := Int32.toInt_lt n
  have hdigits : (Nat.toDigits 10 n.toInt.natAbs).length ≤ 10 :=
    (Nat.length_toDigits_le_iff (by decide) (by decide)).2 (by omega)
  have hsign : (if n.toInt < 0 then ascii "-" else []).length ≤ 1 := by
    split <;> decide
  unfold decimal
  rw [List.length_append, List.length_map]
  omega

theorem length_report (i : Input) (objnum : UInt32) : (report i objnum).length =
    92 + i.latitude.length + i.longitude.length + (i.timestamp.take 32).length +
      (decimal objnum.toInt32.toInt).length := by
  have hid : (ascii "\x7b\"device_id\":\"").length = 14 := by decide
  have hclient : clientId.length = 8 := by decide
  have hlatitude : (ascii "\",\"latitude\":").length = 13 := by decide
  have hlongitude : (ascii ",\"longitude\":").length = 13 := by decide
  have hstate : (ascii ",\"robotState\":\"Error\",\"timestamp\":\"").length = 35 := by decide
  have hcnt : (ascii "\",\"cnt\":").length = 8 := by decide
  have hend : (ascii "\x7d").length = 1 := by decide
  unfold report
  simp only [List.length_append]
  omega

/-- A report fits with two coordinates of 25 characters together and a time of 20, whatever
its number is. -/
theorem fits_of_length (s : Main) {i : Input}
    (hcoords : i.latitude.length + i.longitude.length ≤ 25) (htime : i.timestamp.length ≤ 20) :
    s.Fits i := by
  have hcount := length_decimal_le s.objnum.toInt32
  have htimestamp : (i.timestamp.take 32).length ≤ 20 :=
    Nat.le_trans (List.length_take_le' ..) htime
  have hsize : reportSize = 150 := rfl
  unfold Fits
  rw [length_report]
  omega

/-! ## One round -/

@[simp] theorem addReport_cntS (s : Main) (i : Input) : (s.addReport i).cntS =
    s.cntS.take s.reportIndex ++
      (snprintf (s.cntS.drop s.reportIndex) reportSize (s.text i)).2 := rfl

@[simp] theorem addReport_reportIndex (s : Main) (i : Input) : (s.addReport i).reportIndex =
    s.reportIndex + (snprintf (s.cntS.drop s.reportIndex) reportSize (s.text i)).1 := rfl

@[simp] theorem addReport_cnt (s : Main) (i : Input) : (s.addReport i).cnt = s.cnt + 1 := rfl

@[simp] theorem addReport_mqtt (s : Main) (i : Input) : (s.addReport i).mqtt = s.mqtt := rfl

@[simp] theorem addReport_inputs (s : Main) (i : Input) :
    (s.addReport i).inputs = i :: s.inputs := rfl

/-- Whatever `begin()` answers, it leaves the history and the request alone. -/
theorem begin_eq (m : GB4MQTT) (status : Int) : (m.begin status).2.radio.log = m.radio.log ∧
    (m.begin status).2.mPublishRequest = m.mPublishRequest := by
  by_cases hstatus : status = 0
  · rw [hstatus]
    exact ⟨rfl, rfl⟩
  · have hradio : m.radio.begin status = (false, { m.radio with err := status }) := if_pos hstatus
    unfold GB4MQTT.begin
    rw [hradio]
    exact ⟨rfl, rfl⟩

/-- What one round does while fewer than six reports are collected. -/
inductive LoopStep (s : Main) (paho : Paho) (i : Input) : Main → Prop where
  | idle : ¬s.IsDue i → LoopStep s paho i (s.poll paho i)
  | added : s.IsDue i → s.cnt + 1 ≠ 6 → LoopStep s paho i ((s.addReport i).poll paho i)
  | published : s.IsDue i → s.cnt + 1 = 6 →
      LoopStep s paho i (((s.addReport i).publishReports i).poll paho i)

theorem loop_step {s : Main} (h : s.cnt ≠ 6) (paho : Paho) (i : Input) :
    LoopStep s paho i (loop paho s i) := by
  unfold loop
  dsimp only
  by_cases hdue : s.IsDue i
  · rw [if_pos hdue]
    by_cases hsix : s.cnt + 1 = 6
    · rw [if_pos (show (s.addReport i).cnt = 6 from hsix)]
      exact .published hdue hsix
    · rw [if_neg (show ¬(s.addReport i).cnt = 6 from hsix)]
      exact .added hdue hsix
  · rw [if_neg hdue, if_neg h]
    exact .idle hdue

end Main

end XBeeMqtt
