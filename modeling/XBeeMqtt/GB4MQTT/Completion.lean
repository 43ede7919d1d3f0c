import XBeeMqtt.GB4MQTT.StartOrder
import XBeeMqtt.Lib.Progress

/-!
# When the startup completes

The startup has no timeout that leads anywhere: a state that waits for an answer waits
until it comes.  `Answered` is what the states wait for.

* `GB4XBee.startupStep_answered`, `startupStep_unanswered`: a poll goes on to the next
  state when it is answered, and only then.
* `completes_iff`: the infinite runs that get out of the startup are those that are
  answered sooner or later in every state.
-/

namespace XBeeMqtt

open Transition

namespace GB4XBee

variable {r : GB4XBee} {env : Env}

/-- What the state of the startup waits for is there.  The other states wait for nothing. -/
structure Answered (r : GB4XBee) (env : Env) : Prop where
  guard : r.mState = .awaitCommandModeGuard0 ∨ r.mState = .awaitCommandModeGuard1 →
    r.GuardOver env
  response : r.AwaitsResponse → 3 ≤ env.serial.length ∧ env.serial.take 2 = okBytes
  query : r.mState = .awaitInitXBeeApiDone → env.queryStatus = 0
  apn : r.mState = .awaitReadApnResponse → (r.devTick env.frames).gotAccessPointName = true

instance (r : GB4XBee) (env : Env) : Decidable (r.Answered env) :=
  decidable_of_iff (((r.mState = .awaitCommandModeGuard0 ∨ r.mState = .awaitCommandModeGuard1) →
      r.GuardOver env) ∧
    (r.AwaitsResponse → 3 ≤ env.serial.length ∧ env.serial.take 2 = okBytes) ∧
    (r.mState = .awaitInitXBeeApiDone → env.queryStatus = 0) ∧
    (r.mState = .awaitReadApnResponse → (r.devTick env.frames).gotAccessPointName = true))
    ⟨fun h => ⟨h.1, h.2.1, h.2.2.1, h.2.2.2⟩,
      fun h => ⟨h.guard, h.response, h.query, h.apn⟩⟩

theorem answered_guard_iff
    (hs : r.mState = .awaitCommandModeGuard0 ∨ r.mState = .awaitCommandModeGuard1) :
    r.Answered env ↔ r.GuardOver env := by
  refine ⟨fun h => h.guard hs, fun hover => ⟨fun _ => hover, ?_, ?_, ?_⟩⟩ <;>
    rcases hs with hs | hs <;> simp [AwaitsResponse, hs]

theorem answered_response_iff (h : r.AwaitsResponse) :
    r.Answered env ↔ 3 ≤ env.serial.length ∧ env.serial.take 2 = okBytes := by
  refine ⟨fun hans => hans.response h, fun hok => ⟨?_, fun _ => hok, ?_, ?_⟩⟩ <;>
    rcases h with hs | hs | hs <;> simp [hs]

theorem answered_query_iff (hs : r.mState = .awaitInitXBeeApiDone) :
    r.Answered env ↔ env.queryStatus = 0 := by
  refine ⟨fun h => h.query hs, fun hzero => ⟨?_, ?_, fun _ => hzero, ?_⟩⟩ <;>
    simp [AwaitsResponse, hs]

theorem answered_apn_iff (hs : r.mState = .awaitReadApnResponse) :
    r.Answered env ↔ (r.devTick env.frames).gotAccessPointName = true := by
  refine ⟨fun h => h.apn hs, fun hgot => ⟨?_, ?_, ?_, fun _ => hgot⟩⟩ <;>
    simp [AwaitsResponse, hs]

/-! ## One poll -/

theorem lt_of_mem_startupNext {s s' : State} (h : s' ∈ startupNext s) : s < s' := by
  cases s <;> simp only [startupNext, List.mem_cons, List.not_mem_nil, or_false] at h
  case awaitReadApnResponse => rcases h with rfl | rfl <;> decide
  all_goals
    rw [h]
    decide

theorem awaitResponseOK_answered {s : State} (hlen : 3 ≤ env.serial.length)
    (hok : env.serial.take 2 = okBytes) : (r.awaitResponseOK env s).mState = s := by
  rcases r.awaitResponseOK_cases env s with ⟨hfew, _⟩ | ⟨_, hnot, _⟩ | ⟨_, _, _, heq⟩
  · omega
  · exact absurd hok hnot
  · rw [heq]

theorem awaitResponseOK_unanswered {s : State}
    (h : ¬(3 ≤ env.serial.length ∧ env.serial.take 2 = okBytes)) :
    (r.awaitResponseOK env s).mState = r.mState := by
  rcases r.awaitResponseOK_cases env s with ⟨_, _, heq⟩ | ⟨_, _, _, heq⟩ | ⟨hlen, hok, _⟩
  · rw [heq]
  · rw [heq]
    rfl
  · exact absurd ⟨hlen, hok⟩ h

/-- An answered poll goes on. -/
theorem startupStep_answered (hlow : r.mState < .socketCooldownPeriod) (h : r.Answered env) :
    (r.startupStep env).mState ∈ startupNext r.mState := by
  have hguard : r.GuardOver env → r.pollCommandModeGuard env ≠ false := fun hover heq =>
    absurd ((decide_eq_true hover).symm.trans heq) (by decide)
  cases hs : r.mState <;> rw [hs] at hlow
  case awaitCommandModeGuard0 =>
    simp only [startupStep, hs, if_neg (hguard (h.guard (Or.inl hs)))]
    exact List.mem_singleton.2 rfl
  case awaitCommandModeGuard1 =>
    simp only [startupStep, hs, if_neg (hguard (h.guard (Or.inr hs)))]
    exact List.mem_singleton.2 rfl
  case awaitCommandModeResponse =>
    obtain ⟨hlen, hok⟩ := h.response (Or.inl hs)
    simp only [startupStep, hs, awaitResponseOK_answered hlen hok]
    exact List.mem_singleton.2 rfl
  case awaitApiModeResponse =>
    obtain ⟨hlen, hok⟩ := h.response (Or.inr (Or.inl hs))
    simp only [startupStep, hs, awaitResponseOK_answered hlen hok]
    exact List.mem_singleton.2 rfl
  case awaitCommandModeExitResponse =>
    obtain ⟨hlen, hok⟩ := h.response (Or.inr (Or.inr hs))
    simp only [startupStep, hs, awaitResponseOK_answered hlen hok]
    exact List.mem_singleton.2 rfl
  case awaitInitXBeeApiDone =>
    rcases r.pollInitStatus_cases env with ⟨_, heq⟩ | ⟨hnot, _⟩
    · simp only [startupStep, hs, heq]
      exact List.mem_singleton.2 rfl
    · exact absurd (h.query hs) hnot
  case awaitReadApnResponse =>
    rcases r.pollAPNStatus_cases env with ⟨hgot, _⟩ | ⟨_, status, hstatus, heq⟩
    · exact absurd (hgot.symm.trans (h.apn hs)) Bool.false_ne_true
    · simp only [startupStep, hs, heq]
      rcases hstatus with rfl | rfl <;> simp [startupNext]
  all_goals first
    | exact absurd hlow (by decide)
    | (simp only [startupStep, hs]
       exact List.mem_singleton.2 rfl)

/-- A poll without the answer stays. -/
theorem startupStep_unanswered (h : ¬r.Answered env) :
    (r.startupStep env).mState = r.mState := by
  have hguard : ¬r.GuardOver env → r.pollCommandModeGuard env = false := decide_eq_false
  cases hs : r.mState
  case awaitCommandModeGuard0 =>
    rw [answered_guard_iff (Or.inl hs)] at h
    simp only [startupStep, hs, if_pos (hguard h)]
  case awaitCommandModeGuard1 =>
    rw [answered_guard_iff (Or.inr hs)] at h
    simp only [startupStep, hs, if_pos (hguard h)]
  case awaitInitXBeeApiDone =>
    rw [answered_query_iff hs] at h
    rcases r.pollInitStatus_cases env with ⟨hzero, _⟩ | ⟨_, status, hstatus, heq⟩
    · exact absurd hzero h
    · simp only [startupStep, hs, heq]
      rcases hstatus with rfl | rfl <;> simp [record, hs]
  case awaitReadApnResponse =>
    rw [answered_apn_iff hs] at h
    rcases r.pollAPNStatus_cases env with ⟨_, heq⟩ | ⟨hgot, _⟩
    · simp only [startupStep, hs, heq, devTick_mState]
    · exact absurd hgot h
  case awaitCommandModeResponse =>
    rw [answered_response_iff (Or.inl hs)] at h
    simp only [startupStep, hs, awaitResponseOK_unanswered h]
  case awaitApiModeResponse =>
    rw [answered_response_iff (Or.inr (Or.inl hs))] at h
    simp only [startupStep, hs, awaitResponseOK_unanswered h]
  case awaitCommandModeExitResponse =>
    rw [answered_response_iff (Or.inr (Or.inr hs))] at h
    simp only [startupStep, hs, awaitResponseOK_unanswered h]
  all_goals
    exact absurd ⟨by simp [hs], by simp [AwaitsResponse, hs], by simp [hs], by simp [hs]⟩ h

end GB4XBee

namespace GB4MQTT

variable {m : GB4MQTT} {paho : Paho} {env : Env}

/-- The call is a poll that is answered. -/
def Answered (m : GB4MQTT) : Call → Prop
  | .poll env => m.radio.Answered env
  | _ => False

/-- How far the end of the startup is. -/
def startupRank (m : GB4MQTT) : Nat :=
  GB4XBee.State.beginCreateSocket.ctorIdx - m.radio.mState.ctorIdx

theorem call_answered (hlow : m.radio.mState < .socketCooldownPeriod) {c : Call}
    (h : m.Answered c) : m.radio.mState < (call paho m c).radio.mState := by
  cases c with
  | poll env =>
    show _ < (m.poll paho env).2.radio.mState
    rw [poll_startup hlow, GB4XBee.poll_startup hlow]
    exact GB4XBee.lt_of_mem_startupNext (GB4XBee.startupStep_answered hlow h)
  | _ => exact absurd h not_false

theorem call_unanswered (hlow : m.radio.mState < .socketCooldownPeriod) {c : Call}
    (h : ¬m.Answered c) : (call paho m c).radio.mState = m.radio.mState := by
  cases c with
  | poll env =>
    show (m.poll paho env).2.radio.mState = _
    rw [poll_startup hlow, GB4XBee.poll_startup hlow]
    exact GB4XBee.startupStep_unanswered h
  | _ => rfl

theorem startupRank_lt (hlow : m.radio.mState < .socketCooldownPeriod) {m' : GB4MQTT}
    (h : m.radio.mState < m'.radio.mState) : m'.startupRank < m.startupRank := by
  have hlow : m.radio.mState.ctorIdx < 14 := hlow
  have hlt : m.radio.mState.ctorIdx < m'.radio.mState.ctorIdx := h
  have htop : GB4XBee.State.beginCreateSocket.ctorIdx = 15 := rfl
  unfold startupRank
  omega

/-- The startup completes if and only if every state of it is answered sooner or later,
and a call leads on exactly if it brings the answer: no call leads back, and no other
one on.  This is about all infinite runs, from any state. -/
theorem completes_iff (paho : Paho) (m : GB4MQTT) (calls : Nat → Call) :
    ((∃ n, .socketCooldownPeriod ≤ (states (call paho) m calls n).radio.mState) ↔
      ∀ n, (states (call paho) m calls n).radio.mState < .socketCooldownPeriod →
        ∃ k, n ≤ k ∧ (states (call paho) m calls k).Answered (calls k)) ∧
    ∀ n, (states (call paho) m calls n).radio.mState < .socketCooldownPeriod →
      ((states (call paho) m calls n).Answered (calls n) →
        (states (call paho) m calls n).radio.mState <
          (states (call paho) m calls (n + 1)).radio.mState) ∧
      (¬(states (call paho) m calls n).Answered (calls n) →
        (states (call paho) m calls (n + 1)).radio.mState =
          (states (call paho) m calls n).radio.mState) := by
  refine ⟨?_, fun n hlow => ⟨call_answered hlow, call_unanswered hlow⟩⟩
  have hiff := @eventually_iff_of_rank _ _ (call paho) calls m
    (fun m => .socketCooldownPeriod ≤ m.radio.mState) startupRank Answered
    (fun n hover => call_started hover (calls n)) (fun n hn hnot => ?_)
    fun n hn hans => Or.inr (startupRank_lt (Nat.lt_of_not_le hn)
      (call_answered (Nat.lt_of_not_le hn) hans))
  · rw [hiff]
    exact forall_congr' fun n => imp_congr Nat.not_le Iff.rfl
  · have hsame : (states (call paho) m calls (n + 1)).radio.mState =
        (states (call paho) m calls n).radio.mState := call_unanswered (Nat.lt_of_not_le hn) hnot
    refine ⟨?_, Nat.le_of_eq ?_⟩
    · rw [hsame]
      exact hn
    · unfold startupRank
      rw [hsame]

end GB4MQTT

end XBeeMqtt
