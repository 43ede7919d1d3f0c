import XBeeMqtt.Lib.Timers
import XBeeMqtt.Main.Reports

/-!
# The pace of the reports

`main` compares a reading of the clock with `delay_start`, an `int`, and the clock wraps
after 2 ^ 32 milliseconds.

`Clocked` is `main` with the true times of its readings beside it.  However long a round
takes, two reports are more than ten seconds apart, and two arrays more than fifty
(`spaced_of_reach`).
-/

namespace XBeeMqtt

namespace Main

/-- The true times of the readings that one round makes. -/
structure Times where
  now : Nat
  delayStart : Nat
  publish : Nat

/-- The readings of these times. -/
def Input.timed (i : Input) (times : Times) : Input :=
  { i with
    now := UInt32.ofNat times.now
    delayStart := UInt32.ofNat times.delayStart
    publishTime := UInt32.ofNat times.publish }

/-- `main` and the true times that it does not know. -/
structure Clocked where
  main : Main
  /-- No reading was made after this. -/
  clock : Nat
  /-- The time that was stored in `delay_start`. -/
  written : Nat
  /-- The times of the reports, the newest first. -/
  formatted : List Nat
  /-- The times of `publish`, the newest first. -/
  published : List Nat

namespace Clocked

/-- One round.  The histories say whether a report was formatted and whether an array was
published. -/
def next (paho : Paho) (s : Clocked) (round : Input × Times) : Clocked :=
  let main := loop paho s.main (round.1.timed round.2)
  let formats := main.inputs.length ≠ s.main.inputs.length
  { main := main
    clock := round.2.publish
    written := if formats then round.2.delayStart else s.written
    formatted := if formats then round.2.delayStart :: s.formatted else s.formatted
    published :=
      if (messages main.mqtt.radio.log).length ≠ (messages s.main.mqtt.radio.log).length then
        round.2.publish :: s.published
      else s.published }

/-- The readings are made one after the other. -/
def Accepts (s : Clocked) (round : Input × Times) : Prop :=
  s.clock ≤ round.2.now ∧ round.2.now ≤ round.2.delayStart ∧ round.2.delayStart ≤ round.2.publish

instance (s : Clocked) (round : Input × Times) : Decidable (s.Accepts round) :=
  inferInstanceAs (Decidable (_ ∧ _ ∧ _))

def Begun (s : Clocked) : Prop :=
  s.main.Started ∧ s.main.delayStart = (UInt32.ofNat s.written).toInt32 ∧
    s.written ≤ s.clock ∧ s.formatted = [] ∧ s.published = []

def system (paho : Paho) : Transition.System Clocked (Input × Times) :=
  .ofFunction Begun Accepts (next paho)

/-- Times that are more than `interval` apart, the newest first. -/
def Spaced (interval : Nat) (times : List Nat) : Prop :=
  times.Pairwise fun later earlier => earlier + interval < later

/-- The reports that are collected have kept the next array away from the last one. -/
structure Paced (s : Clocked) : Prop where
  delayStart : s.main.delayStart = (UInt32.ofNat s.written).toInt32
  le : s.written ≤ s.clock
  cnt : s.main.cnt.toNat < numberOfReports
  reports : Spaced 10000 s.formatted
  written : ∀ t ∈ s.formatted, t ≤ s.written
  arrays : Spaced 50000 s.published
  last : ∀ t ∈ s.published, t ≤ s.clock ∧
    (s.main.cnt.toNat ≠ 0 → t + 10000 * (s.main.cnt.toNat - 1) ≤ s.written)

variable {s : Clocked} {paho : Paho} {i : Input} {times : Times}

theorem Paced.cnt_ne (h : s.Paced) : s.main.cnt ≠ 6 := by
  intro hsix
  have hcnt := h.cnt
  rw [hsix] at hcnt
  exact absurd hcnt (by decide)

/-- A report is due more than ten seconds after the last one, on the true clock too. -/
theorem Paced.lt_of_isDue (h : s.Paced) (haccepts : s.Accepts (i, times))
    (hdue : s.main.IsDue (i.timed times)) : s.written + 10000 < times.now := by
  have hlt : reportInterval < UInt32.ofNat times.now -
      (UInt32.ofNat s.written).toInt32.toUInt32 := by
    rw [← h.delayStart]
    exact hdue
  exact Clock.apart_of_lt hlt s.written times.now (Nat.le_trans h.le haccepts.1) rfl rfl

theorem Paced.cnt_add (h : s.Paced) : (s.main.cnt + 1).toNat = s.main.cnt.toNat + 1 := by
  have hcnt := h.cnt
  have hnumber : numberOfReports = 6 := rfl
  rw [UInt32.toNat_add]
  show (s.main.cnt.toNat + 1) % 2 ^ 32 = _
  omega

/-- A new report is more than ten seconds later than the others. -/
theorem Paced.spaced_cons (h : s.Paced) (hlt : s.written + 10000 < times.delayStart) :
    Spaced 10000 (times.delayStart :: s.formatted) :=
  List.pairwise_cons.2 ⟨fun t ht => by
    have := h.written t ht
    omega, h.reports⟩

theorem Paced.written_cons (h : s.Paced) (hlt : s.written + 10000 < times.delayStart) :
    ∀ t ∈ times.delayStart :: s.formatted, t ≤ times.delayStart :=
  List.forall_mem_cons.2 ⟨Nat.le_refl _, fun t ht => by
    have := h.written t ht
    omega⟩

/-- An array that is complete is more than fifty seconds later than the others: five of its
reports came after its first one. -/
theorem Paced.spaced_published (h : s.Paced) (hfive : s.main.cnt.toNat = 5)
    (hlt : s.written + 10000 < times.publish) : Spaced 50000 (times.publish :: s.published) :=
  List.pairwise_cons.2 ⟨fun t ht => by
    have := (h.last t ht).2
    omega, h.arrays⟩

theorem length_messages_publishReports (s : Main) (i : Input) :
    (messages (s.publishReports i).mqtt.radio.log).length =
      (messages s.mqtt.radio.log).length + 1 := rfl

theorem length_messages_poll (s : Main) (paho : Paho) (i : Input) :
    (messages (s.poll paho i).mqtt.radio.log).length = (messages s.mqtt.radio.log).length :=
  congrArg List.length (messages_poll s.mqtt paho i.env)

/-- What one round does to the times. -/
theorem next_cases (h : s.main.cnt ≠ 6) (paho : Paho) (i : Input) (times : Times) :
    ¬s.main.IsDue (i.timed times) ∧ next paho s (i, times) =
        { s with main := s.main.poll paho (i.timed times), clock := times.publish } ∨
    s.main.IsDue (i.timed times) ∧ s.main.cnt + 1 ≠ 6 ∧ next paho s (i, times) =
        { s with
          main := (s.main.addReport (i.timed times)).poll paho (i.timed times)
          clock := times.publish
          written := times.delayStart
          formatted := times.delayStart :: s.formatted } ∨
    s.main.IsDue (i.timed times) ∧ s.main.cnt + 1 = 6 ∧ next paho s (i, times) =
        { main := ((s.main.addReport (i.timed times)).publishReports (i.timed times)).poll paho
            (i.timed times)
          clock := times.publish
          written := times.delayStart
          formatted := times.delayStart :: s.formatted
          published := times.publish :: s.published } := by
  have hloop := loop_step h paho (i.timed times)
  unfold next
  dsimp only
  generalize loop paho s.main (i.timed times) = main at hloop ⊢
  cases hloop with
  | idle hdue =>
    have hformats : ¬(s.main.poll paho (i.timed times)).inputs.length ≠ s.main.inputs.length :=
      not_not_intro rfl
    refine Or.inl ⟨hdue, ?_⟩
    rw [if_neg hformats, if_neg hformats,
      if_neg (not_not_intro (length_messages_poll s.main paho _))]
  | added hdue hsix =>
    have hformats : ((s.main.addReport (i.timed times)).poll paho (i.timed times)).inputs.length ≠
      s.main.inputs.length := Nat.succ_ne_self _
    have hpublishes : ¬(messages ((s.main.addReport (i.timed times)).poll paho
      (i.timed times)).mqtt.radio.log).length ≠ (messages s.main.mqtt.radio.log).length :=
      not_not_intro (length_messages_poll _ paho _)
    refine Or.inr (Or.inl ⟨hdue, hsix, ?_⟩)
    rw [if_pos hformats, if_pos hformats, if_neg hpublishes]
  | published hdue hsix =>
    have hformats : (((s.main.addReport (i.timed times)).publishReports (i.timed times)).poll paho
      (i.timed times)).inputs.length ≠ s.main.inputs.length := Nat.succ_ne_self _
    refine Or.inr (Or.inr ⟨hdue, hsix, ?_⟩)
    rw [if_pos hformats, if_pos hformats, length_messages_poll, length_messages_publishReports,
      addReport_mqtt, if_pos (Nat.succ_ne_self _)]

theorem Paced.next (h : s.Paced) (haccepts : s.Accepts (i, times)) :
    (next paho s (i, times)).Paced := by
  have hnumber : numberOfReports = 6 := rfl
  have hle := h.le
  have hadd := h.cnt_add
  have hcnt := h.cnt
  have ⟨hnow, hdelay, hpublish⟩ := haccepts
  dsimp only at hnow hdelay hpublish
  have hclock : s.clock ≤ times.publish := by omega
  rcases next_cases h.cnt_ne paho i times with ⟨_, heq⟩ | ⟨hdue, hsix, heq⟩ | ⟨hdue, hsix, heq⟩
  · rw [heq]
    exact {
      delayStart := h.delayStart
      le := show s.written ≤ times.publish by omega
      cnt := hcnt
      reports := h.reports
      written := h.written
      arrays := h.arrays
      last := fun t ht =>
        ⟨Nat.le_trans (h.last t ht).1 hclock, (h.last t ht).2⟩ }
  · have hlt := h.lt_of_isDue haccepts hdue
    have hlater : s.written + 10000 < times.delayStart := by omega
    have hfew : s.main.cnt.toNat ≠ 5 := fun hfive =>
      hsix (UInt32.toNat.inj (by rw [hadd, hfive]; rfl))
    rw [heq]
    refine ⟨rfl, hpublish, ?_, h.spaced_cons hlater, h.written_cons hlater, h.arrays,
      fun t ht => ⟨Nat.le_trans (h.last t ht).1 hclock, fun _ => ?_⟩⟩
    · show (s.main.cnt + 1).toNat < numberOfReports
      omega
    · have hlast := h.last t ht
      show t + 10000 * ((s.main.cnt + 1).toNat - 1) ≤ times.delayStart
      by_cases hzero : s.main.cnt.toNat = 0
      · rw [hadd, hzero]
        omega
      · have hkept := hlast.2 hzero
        omega
  · have hlt := h.lt_of_isDue haccepts hdue
    have hlater : s.written + 10000 < times.delayStart := by omega
    have hfive : s.main.cnt.toNat = 5 := by
      have hnat := congrArg UInt32.toNat hsix
      rw [hadd] at hnat
      exact Nat.succ.inj hnat
    rw [heq]
    refine ⟨rfl, hpublish, show 0 < numberOfReports by decide, h.spaced_cons hlater,
      h.written_cons hlater, h.spaced_published hfive (by omega), ?_⟩
    refine List.forall_mem_cons.2 ⟨⟨Nat.le_refl _, fun hzero => absurd rfl hzero⟩, fun t ht => ?_⟩
    exact ⟨Nat.le_trans (h.last t ht).1 hclock, fun hzero => absurd rfl hzero⟩

theorem Paced.of_reach (h : (system paho).Reach s) : s.Paced := by
  refine h.invariant Paced (fun s hbegun => ?_) fun s round s' _ hpaced hstep => ?_
  · obtain ⟨⟨mem, status, now, hmain⟩, hdelay, hle, hformatted, hpublished⟩ := hbegun
    refine ⟨hdelay, hle, ?_, ?_, ?_, ?_, ?_⟩
    · rw [hmain]
      exact show 0 < numberOfReports by decide
    · rw [hformatted]
      exact .nil
    · rw [hformatted]
      exact List.forall_mem_nil _
    · rw [hpublished]
      exact .nil
    · rw [hpublished]
      exact List.forall_mem_nil _
  · obtain ⟨haccepts, rfl⟩ := hstep
    exact hpaced.next haccepts

/-- On the true clock, two reports are more than ten seconds apart and two arrays more than
fifty, over every run, also where the clock wraps. -/
theorem spaced_of_reach (h : (system paho).Reach s) :
    Spaced 10000 s.formatted ∧ Spaced 50000 s.published :=
  ⟨(Paced.of_reach h).reports, (Paced.of_reach h).arrays⟩

/-- Rounds that are due, from five seconds before the clock wraps. -/
def wrapRounds : List (Input × Times) := (List.range 12).map fun k =>
  let time := 2 ^ 32 - 5000 + 10001 * (k + 1)
  ({}, ⟨time, time, time⟩)

def wrapStart : Clocked where
  main := { sampleStarted with delayStart := (UInt32.ofNat (2 ^ 32 - 5000)).toInt32 }
  clock := 2 ^ 32 - 5000
  written := 2 ^ 32 - 5000
  formatted := []
  published := []

/-- Twelve reports and two arrays. -/
theorem spaced_wrap :
    let s := Transition.replay (next .mqtt) wrapStart wrapRounds
    s.formatted.length = 12 ∧ s.published.length = 2 ∧
      Spaced 10000 s.formatted ∧ Spaced 50000 s.published :=
  ⟨by decide +kernel, by decide +kernel, spaced_of_reach <|
    Transition.reach_replay wrapRounds (.init ⟨⟨default, 0, _, rfl⟩, rfl, Nat.le_refl _, rfl, rfl⟩)
      (by decide +kernel)⟩

end Clocked

end Main

end XBeeMqtt
